import CommonSerialization.Csp.Processing.Rw

namespace CommonSerialization.Csp

open StateExcept

/-! What a computation appends to the output and what it consumes of the
input, and how both compose. -/

/-- Every successful run appends `octets` and returns a value in `post`. -/
def Appends (proc : SProc α) (octets : List UInt8) (post : α → Prop) : Prop :=
  ∀ before value after, proc before = .ok value after →
    after.binaryData = before.binaryData ++ octets ∧ post value

namespace Appends

theorem pure {value : α} {post : α → Prop} (holds : post value) :
    Appends (Pure.pure value) [] post := by
  intro before result after ran
  cases ran
  exact ⟨(List.append_nil _).symm, holds⟩

theorem bind {first : SProc α} {next : α → SProc β}
    (firstAppends : Appends first octets middle)
    (nextAppends : ∀ value, middle value →
      Appends (next value) moreOctets post) :
    Appends (first >>= next) (octets ++ moreOctets) post := by
  intro before result after ran
  obtain ⟨value, state, firstRan, nextRan⟩ := bind_eq_ok ran
  obtain ⟨appended, holds⟩ := firstAppends _ _ _ firstRan
  obtain ⟨moreAppended, result⟩ := nextAppends value holds _ _ _ nextRan
  exact ⟨by rw [moreAppended, appended, List.append_assoc], result⟩

theorem fail (status : Status) : Appends (fail status : SProc α) octets post := by
  intro before result after ran
  cases ran

theorem throw (fault : Fault) :
    Appends (throw fault : SProc α) octets post := by
  intro before result after ran
  cases ran

theorem modify (change : SState → SState)
    (keeps : ∀ state, (change state).binaryData = state.binaryData) :
    Appends (modify change : SProc Unit) [] (fun _ => True) := by
  intro before result after ran
  cases ran
  exact ⟨by simp [keeps], trivial⟩

theorem weaken {proc : SProc α} (appends : Appends proc octets post)
    (implies : ∀ value, post value → weaker value) :
    Appends proc octets weaker := by
  intro before result after ran
  obtain ⟨appended, holds⟩ := appends _ _ _ ran
  exact ⟨appended, implies _ holds⟩

end Appends

/-- Every successful run appends octets in `post`. -/
def Sends (proc : SProc α) (post : List UInt8 → Prop) : Prop :=
  ∀ before value after, proc before = .ok value after →
    ∃ octets, after.binaryData = before.binaryData ++ octets ∧ post octets

theorem Appends.sends {proc : SProc α} {meant : List UInt8 → Prop}
    (appends : Appends proc octets post) (implies : ∀ value, post value → meant octets) :
    Sends proc meant := by
  intro before value after ran
  obtain ⟨appended, holds⟩ := appends _ _ _ ran
  exact ⟨octets, appended, implies value holds⟩

namespace Sends

theorem pure {value : α} {post : List UInt8 → Prop} (holds : post []) :
    Sends (Pure.pure value) post := by
  intro before result after ran
  cases ran
  exact ⟨[], (List.append_nil _).symm, holds⟩

theorem bind {first : SProc α} {next : α → SProc β} {middle post : List UInt8 → Prop}
    (firstSends : Sends first middle)
    (nextSends : ∀ value octets, middle octets →
      Sends (next value) fun more => post (octets ++ more)) :
    Sends (first >>= next) post := by
  intro before result after ran
  obtain ⟨value, state, firstRan, nextRan⟩ := bind_eq_ok ran
  obtain ⟨octets, appended, holds⟩ := firstSends _ _ _ firstRan
  obtain ⟨more, moreAppended, result⟩ := nextSends value octets holds _ _ _ nextRan
  exact ⟨octets ++ more, by rw [moreAppended, appended, List.append_assoc], result⟩

theorem weaken {proc : SProc α} {post weaker : List UInt8 → Prop} (sends : Sends proc post)
    (implies : ∀ octets, post octets → weaker octets) : Sends proc weaker := by
  intro before value after ran
  obtain ⟨octets, appended, holds⟩ := sends _ _ _ ran
  exact ⟨octets, appended, implies octets holds⟩

end Sends

/-- On an input that goes on with `octets` the computation succeeds, consumes
exactly these and returns a value in `post`. -/
def Reads (platform : Platform) (proc : DProc P α) (octets : List UInt8)
    (post : α → Prop) : Prop :=
  ∀ before rest,
    before.binaryData.vector.drop before.binaryData.offset = octets ++ rest →
    before.binaryData.offset ≤ before.binaryData.vector.length →
    before.binaryData.vector.length < 2 ^ platform.addressBits →
    ∃ value after, proc before = .ok value after ∧ post value ∧
      after.binaryData =
        { before.binaryData with
          offset := before.binaryData.offset + octets.length }

namespace Reads

theorem pure {value : α} {post : α → Prop} (holds : post value) :
    Reads platform (Pure.pure value : DProc P α) [] post := by
  intro before rest _ _ _
  exact ⟨value, before, rfl, holds, rfl⟩

theorem advance {before after : Walker} {octets rest : List UInt8} {bound : Nat}
    (input : before.vector.drop before.offset = octets ++ rest)
    (bounded : before.vector.length < bound)
    (walker : after = { before with offset := before.offset + octets.length })
    (inside : before.offset ≤ before.vector.length) :
    after.vector.drop after.offset = rest ∧
      after.offset ≤ after.vector.length ∧ after.vector.length < bound := by
  subst walker
  have length := congrArg List.length input
  simp only [List.length_drop, List.length_append] at length
  refine ⟨?_, ?_, bounded⟩
  · simp only [← List.drop_drop, input, List.drop_left']
  · simp only
    omega

theorem bind {first : DProc P α} {next : α → DProc P β}
    (firstReads : Reads platform first octets middle)
    (nextReads : ∀ value, middle value →
      Reads platform (next value) moreOctets post) :
    Reads platform (first >>= next) (octets ++ moreOctets) post := by
  intro before rest input inside bounded
  rw [List.append_assoc] at input
  obtain ⟨value, state, firstRan, holds, walker⟩ :=
    firstReads before (moreOctets ++ rest) input inside bounded
  obtain ⟨moreInput, moreInside, moreBounded⟩ :=
    advance input bounded walker inside
  obtain ⟨result, after, nextRan, resultHolds, finalWalker⟩ :=
    nextReads value holds state rest moreInput moreInside moreBounded
  refine ⟨result, after, ?_, resultHolds, ?_⟩
  · rw [bind_of_ok firstRan, nextRan]
  · rw [finalWalker, walker, List.length_append, Nat.add_assoc]

theorem weaken {proc : DProc P α} (reads : Reads platform proc octets post)
    (implies : ∀ value, post value → weaker value) :
    Reads platform proc octets weaker := by
  intro before rest input inside bounded
  obtain ⟨value, after, ran, holds, walker⟩ :=
    reads before rest input inside bounded
  exact ⟨value, after, ran, implies _ holds, walker⟩

theorem map {proc : DProc P α} (reads : Reads platform proc octets middle)
    (next : α → β) (implies : ∀ value, middle value → post (next value)) :
    Reads platform (do let value ← proc; return next value) octets post := by
  rw [← List.append_nil octets]
  exact reads.bind fun value holds => .pure (implies value holds)

theorem modify (change : DState P → DState P)
    (keeps : ∀ state, (change state).binaryData = state.binaryData) :
    Reads platform (modify change : DProc P Unit) [] (fun _ => True) := by
  intro before rest _ _ _
  exact ⟨(), change before, rfl, trivial, by simp [keeps]⟩

theorem get_bind {next : DState P → DProc P β}
    (nextReads : ∀ state, Reads platform (next state) octets post) :
    Reads platform (get >>= next) octets post := by
  intro before rest input inside bounded
  exact nextReads before before rest input inside bounded

theorem bind_eq_ok {first : DProc P α} {next : α → DProc P β} {value : α}
    (reads : Reads platform first octets (fun result => result = value))
    {before final : DState P} {rest : List UInt8} {result : β}
    (input : before.binaryData.vector.drop before.binaryData.offset =
      octets ++ rest)
    (inside : before.binaryData.offset ≤ before.binaryData.vector.length)
    (bounded : before.binaryData.vector.length < 2 ^ platform.addressBits)
    (ran : (first >>= next) before = .ok result final) :
    ∃ middle, next value middle = .ok result final ∧
      middle.binaryData.vector.drop middle.binaryData.offset = rest ∧
      middle.binaryData.offset ≤ middle.binaryData.vector.length ∧
      middle.binaryData.vector.length < 2 ^ platform.addressBits := by
  obtain ⟨_, middle, firstRan, rfl, walker⟩ :=
    reads before rest input inside bounded
  rw [bind_of_ok firstRan] at ran
  exact ⟨middle, ran, advance input bounded walker inside⟩

end Reads

/-- On an input that goes on with `octets` the computation fails. -/
def Refuses (platform : Platform) (proc : DProc P α) (octets : List UInt8)
    (fault : Fault) : Prop :=
  ∀ before rest,
    before.binaryData.vector.drop before.binaryData.offset = octets ++ rest →
    before.binaryData.offset ≤ before.binaryData.vector.length →
    before.binaryData.vector.length < 2 ^ platform.addressBits →
    ∃ after, proc before = .error fault after

namespace Refuses

theorem fail (status : Status) :
    Refuses platform (fail status : DProc P α) octets
      (.status status) := by
  intro before rest _ _ _
  exact ⟨before, rfl⟩

theorem extend {proc : DProc P α} (refuses : Refuses platform proc octets fault)
    (moreOctets : List UInt8) :
    Refuses platform proc (octets ++ moreOctets) fault := by
  intro before rest input inside bounded
  rw [List.append_assoc] at input
  exact refuses before (moreOctets ++ rest) input inside bounded

theorem bind_first {first : DProc P α}
    (refuses : Refuses platform first octets fault) (next : α → DProc P β) :
    Refuses platform (first >>= next) octets fault := by
  intro before rest input inside bounded
  obtain ⟨after, ran⟩ := refuses before rest input inside bounded
  exact ⟨after, bind_of_error ran⟩

theorem bind_next {first : DProc P α} {next : α → DProc P β}
    (reads : Reads platform first octets middle)
    (refuses : ∀ value, middle value →
      Refuses platform (next value) moreOctets fault) :
    Refuses platform (first >>= next) (octets ++ moreOctets) fault := by
  intro before rest input inside bounded
  rw [List.append_assoc] at input
  obtain ⟨value, state, ran, holds, walker⟩ :=
    reads before (moreOctets ++ rest) input inside bounded
  obtain ⟨moreInput, moreInside, moreBounded⟩ :=
    Reads.advance input bounded walker inside
  obtain ⟨after, nextRan⟩ :=
    refuses value holds state rest moreInput moreInside moreBounded
  exact ⟨after, by rw [bind_of_ok ran, nextRan]⟩

end Refuses

/-- On an input that ends with `octets` the computation fails. -/
def Starves (platform : Platform) (proc : DProc P α) (octets : List UInt8) : Prop :=
  ∀ before,
    before.binaryData.vector.drop before.binaryData.offset = octets →
    before.binaryData.offset ≤ before.binaryData.vector.length →
    before.binaryData.vector.length < 2 ^ platform.addressBits →
    ∃ fault after, proc before = .error fault after

namespace Starves

theorem bind_first {first : DProc P α} (starves : Starves platform first octets)
    (next : α → DProc P β) : Starves platform (first >>= next) octets := by
  intro before input inside bounded
  obtain ⟨fault, after, ran⟩ := starves before input inside bounded
  exact ⟨fault, after, bind_of_error ran⟩

theorem bind_next {first : DProc P α} {next : α → DProc P β}
    (reads : Reads platform first octets middle)
    (starves : ∀ value, middle value → Starves platform (next value) moreOctets) :
    Starves platform (first >>= next) (octets ++ moreOctets) := by
  intro before input inside bounded
  obtain ⟨value, state, ran, holds, walker⟩ := reads before moreOctets input inside bounded
  obtain ⟨moreInput, moreInside, moreBounded⟩ :=
    Reads.advance input bounded walker inside
  obtain ⟨fault, after, nextRan⟩ :=
    starves value holds state moreInput moreInside moreBounded
  exact ⟨fault, after, by rw [bind_of_ok ran, nextRan]⟩

end Starves

/-- Every successful run moves the cursor forward by `count` octets or more. -/
def Advances (proc : DProc P α) (count : Nat) : Prop :=
  ∀ before value after, proc before = .ok value after →
    before.binaryData.offset + count ≤ after.binaryData.offset

namespace Advances

theorem pure (value : α) : Advances (Pure.pure value : DProc P α) 0 := by
  intro before result after ran
  cases ran
  exact Nat.le_refl _

theorem fail (status : Status) (count : Nat) :
    Advances (fail status : DProc P α) count := by
  intro before result after ran
  cases ran

theorem throw (fault : Fault) (count : Nat) :
    Advances (throw fault : DProc P α) count := by
  intro before result after ran
  cases ran

theorem bind {first : DProc P α} {next : α → DProc P β}
    (firstAdvances : Advances first count)
    (nextAdvances : ∀ value, Advances (next value) moreCount) :
    Advances (first >>= next) (count + moreCount) := by
  intro before result after ran
  obtain ⟨value, middle, firstRan, nextRan⟩ := bind_eq_ok ran
  have := firstAdvances _ _ _ firstRan
  have := nextAdvances value _ _ _ nextRan
  omega

theorem weaken {proc : DProc P α} (advances : Advances proc count)
    (fewer : lower ≤ count) : Advances proc lower := by
  intro before value after ran
  have := advances before value after ran
  omega

theorem modify (change : DState P → DState P)
    (keeps : ∀ state, (change state).binaryData = state.binaryData) :
    Advances (modify change : DProc P Unit) 0 := by
  intro before result after ran
  cases ran
  simp [keeps]

end Advances

/-- Every successful run consumes exactly `count` octets of the input. -/
def Consumes (proc : DProc P α) (count : Nat) : Prop :=
  ∀ before value after, proc before = .ok value after →
    before.binaryData.offset ≤ before.binaryData.vector.length →
      after.binaryData =
          { before.binaryData with offset := before.binaryData.offset + count } ∧
        before.binaryData.offset + count ≤ before.binaryData.vector.length

namespace Consumes

theorem pure (value : α) : Consumes (Pure.pure value : DProc P α) 0 := by
  intro before result after ran inside
  cases ran
  exact ⟨rfl, inside⟩

theorem fail (status : Status) (count : Nat) :
    Consumes (fail status : DProc P α) count := by
  intro before result after ran
  cases ran

theorem bind {first : DProc P α} {next : α → DProc P β}
    (firstConsumes : Consumes first count)
    (nextConsumes : ∀ value, Consumes (next value) moreCount) :
    Consumes (first >>= next) (count + moreCount) := by
  intro before result after ran inside
  obtain ⟨value, middle, firstRan, nextRan⟩ := StateExcept.bind_eq_ok ran
  obtain ⟨walker, within⟩ := firstConsumes _ _ _ firstRan inside
  have nextWalker := nextConsumes value _ _ _ nextRan
  rw [walker] at nextWalker
  obtain ⟨finalWalker, finalWithin⟩ := nextWalker within
  exact ⟨by rw [finalWalker, Nat.add_assoc], by rwa [Nat.add_assoc] at finalWithin⟩

end Consumes

/-- A successful run changes nothing but the place in the input. -/
def OnlyReads (proc : DProc P α) : Prop :=
  ∀ before value after, proc before = .ok value after →
    after = { before with binaryData := after.binaryData }

namespace OnlyReads

theorem pure (value : α) : OnlyReads (Pure.pure value : DProc P α) := by
  intro before result after ran
  cases ran
  rfl

theorem fail (status : Status) : OnlyReads (fail status : DProc P α) := by
  intro before result after ran
  cases ran

theorem bind {first : DProc P α} {next : α → DProc P β} (firstReads : OnlyReads first)
    (nextReads : ∀ value, OnlyReads (next value)) : OnlyReads (first >>= next) := by
  intro before result after ran
  obtain ⟨value, middle, firstRan, nextRan⟩ := StateExcept.bind_eq_ok ran
  rw [nextReads value _ _ _ nextRan, firstReads _ _ _ firstRan]

end OnlyReads

/-- A run takes exactly `count` octets of the input and changes nothing else, or
ends with an error status. -/
def Takes (proc : DProc P α) (count : Nat) : Prop :=
  ∀ before, before.binaryData.offset ≤ before.binaryData.vector.length →
    (∃ value, proc before = .ok value
        { before with
          binaryData :=
            { before.binaryData with
              offset := before.binaryData.offset + count } } ∧
      before.binaryData.offset + count ≤ before.binaryData.vector.length) ∨
    ∃ status after, proc before = .error (.status status) after

namespace Takes

theorem pure (value : α) : Takes (Pure.pure value : DProc P α) 0 := by
  intro before inside
  exact .inl ⟨value, rfl, inside⟩

theorem fail (status : Status) (count : Nat) :
    Takes (fail status : DProc P α) count := by
  intro before _
  exact .inr ⟨status, before, rfl⟩

theorem bind {first : DProc P α} {next : α → DProc P β}
    (firstTakes : Takes first count)
    (nextTakes : ∀ value, Takes (next value) moreCount) :
    Takes (first >>= next) (count + moreCount) := by
  intro before inside
  rcases firstTakes before inside with ⟨value, ran, within⟩ | ⟨status, after, ran⟩
  · rw [bind_of_ok ran, ← Nat.add_assoc]
    exact nextTakes value _ within
  · exact .inr ⟨status, after, bind_of_error ran⟩

theorem consumes {proc : DProc P α} (takes : Takes proc count) :
    Consumes proc count := by
  intro before value after ran inside
  rcases takes before inside with ⟨taken, takenRan, within⟩ | ⟨_, _, failed⟩
  · rw [takenRan] at ran
    cases ran
    exact ⟨rfl, within⟩
  · rw [failed] at ran
    cases ran

end Takes

/-- With room for the octets the computation succeeds, appends them and returns
a value in `post`. -/
def Writes (platform : Platform) (proc : SProc α) (octets : List UInt8)
    (post : α → Prop) : Prop :=
  ∀ before, before.binaryData.length + octets.length < 2 ^ platform.addressBits →
    ∃ value after, proc before = .ok value after ∧ post value ∧
      after.binaryData = before.binaryData ++ octets

namespace Writes

theorem pure {value : α} {post : α → Prop} (holds : post value) :
    Writes platform (Pure.pure value) [] post := by
  intro before _
  exact ⟨value, before, rfl, holds, (List.append_nil _).symm⟩

theorem bind {first : SProc α} {next : α → SProc β}
    (firstWrites : Writes platform first octets middle)
    (nextWrites : ∀ value, middle value →
      Writes platform (next value) moreOctets post) :
    Writes platform (first >>= next) (octets ++ moreOctets) post := by
  intro before room
  rw [List.length_append] at room
  obtain ⟨value, state, firstRan, holds, appended⟩ :=
    firstWrites before (by omega)
  obtain ⟨result, after, nextRan, resultHolds, moreAppended⟩ :=
    nextWrites value holds state (by rw [appended, List.length_append]; omega)
  refine ⟨result, after, ?_, resultHolds, ?_⟩
  · rw [bind_of_ok firstRan, nextRan]
  · rw [moreAppended, appended, List.append_assoc]

theorem weaken {proc : SProc α} (writes : Writes platform proc octets post)
    (implies : ∀ value, post value → weaker value) :
    Writes platform proc octets weaker := by
  intro before room
  obtain ⟨value, after, ran, holds, appended⟩ := writes before room
  exact ⟨value, after, ran, implies _ holds, appended⟩

end Writes

/-- With room for the octets the computation appends them and then fails. -/
def Breaks (platform : Platform) (proc : SProc α) (octets : List UInt8) : Prop :=
  ∀ before, before.binaryData.length + octets.length < 2 ^ platform.addressBits →
    ∃ status after, proc before = .error (.status status) after ∧
      after.binaryData = before.binaryData ++ octets

namespace Breaks

theorem fail (status : Status) : Breaks platform (fail status : SProc α) [] := by
  intro before _
  exact ⟨status, before, rfl, (List.append_nil _).symm⟩

theorem bind_first {first : SProc α} (breaks : Breaks platform first octets)
    (next : α → SProc β) : Breaks platform (first >>= next) octets := by
  intro before room
  obtain ⟨status, after, ran, appended⟩ := breaks before room
  exact ⟨status, after, bind_of_error ran, appended⟩

theorem bind_next {first : SProc α} {next : α → SProc β}
    (writes : Writes platform first octets middle)
    (breaks : ∀ value, middle value → Breaks platform (next value) moreOctets) :
    Breaks platform (first >>= next) (octets ++ moreOctets) := by
  intro before room
  rw [List.length_append] at room
  obtain ⟨value, state, ran, holds, appended⟩ := writes before (by omega)
  obtain ⟨status, after, nextRan, moreAppended⟩ :=
    breaks value holds state (by rw [appended, List.length_append]; omega)
  refine ⟨status, after, ?_, ?_⟩
  · rw [bind_of_ok ran, nextRan]
  · rw [moreAppended, appended, List.append_assoc]

end Breaks

end CommonSerialization.Csp
