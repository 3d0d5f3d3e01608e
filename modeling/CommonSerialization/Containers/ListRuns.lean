import CommonSerialization.Containers.Assignments
import CommonSerialization.Containers.PositionCalls
import CommonSerialization.Library.Sequences

namespace CommonSerialization.Containers

open StateExcept Storage Transitions

/-! A vector is a sequence: what its functions do to it, and what whole runs of them do. -/

structure Follows (elements : Elements) (store : Store α) (tidy : Prop)
    (action : Sequences.Action (Slot α)) (after : Store α) : Prop where
  whole : Whole elements after
  step : Sequences.Step store.contents action after.contents
  events : tidy → Grown (fun event => event.proper) store.memory.log after.memory.log

section Following

variable {environment : Environment α} {store after : Store α} {rhs : Vector}
  {written used : Nat → Prop} {tidy : Prop} {contents : List (Slot α)}
  {action failure : Sequences.Action (Slot α)}

theorem Edited.follows
    (edited : Edited environment.elements store written used tidy contents after)
    (step : Sequences.Step store.contents action contents) :
    Follows environment.elements store tidy action after where
  whole := edited.whole
  step := by
    rw [edited.contents]
    exact step
  events := fun clean => edited.events.weaken fun _ allowed => allowed.2 clean

theorem Unchanged.follows (whole : Whole environment.elements store)
    (unchanged : Unchanged store after) :
    Follows environment.elements store tidy .keep after := by
  obtain ⟨memory, vector⟩ := after
  obtain ⟨same, untouched⟩ := unchanged
  cases same
  have standing := (Vector.noSpace_of_untouched whole.standing untouched).kept.standing
  obtain ⟨kept, contents⟩ : Whole environment.elements ⟨memory, store.vector⟩ ∧
      Store.contents ⟨memory, store.vector⟩ = store.contents := by
    apply Whole.stays whole standing
    · intro _
      exact congrFun untouched.blocks _
    · intro address _ _
      exact congrFun untouched.slots address
  refine ⟨kept, ?_, fun _ => ?_⟩
  · rw [contents]
    exact .keep
  · rw [untouched.log]
    exact Grown.refl _

/-- What `init(Vector&&)` is given: a whole vector of the same type that has storage of
its own. -/
structure TakeGiven (environment : Environment α) (store : Store α) (rhs : Vector) :
    Prop where
  sameType : store.vector.m_AllocationManager.fresh = rhs.m_AllocationManager.fresh
  whole : Whole environment.elements ⟨store.memory, rhs⟩
  other : ¬store.vector.Owns rhs.m_p
  apart : ∀ {address}, store.own environment.elements address →
    ¬Store.own environment.elements ⟨store.memory, rhs⟩ address

theorem takeFrom_run {memory : Memory α}
    (ran : store.vector.m_AllocationManager.destroyAndDeallocate environment
      store.vector.m_p store.vector.m_dataSize store.memory = .ok () memory) :
    takeFrom environment rhs store = .ok () ⟨memory, rhs⟩ := by
  let pair : Pair α := ⟨store.memory, store.vector, rhs⟩
  have ranFirst : Pair.onMemory (store.vector.m_AllocationManager.destroyAndDeallocate
      environment store.vector.m_p store.vector.m_dataSize) pair =
        .ok () ⟨memory, store.vector, rhs⟩ := onPart_of_ok ran
  have moved : Vector.initMove environment pair =
      .ok () ⟨memory, rhs, Vector.empty rhs.m_AllocationManager.abandoned⟩ := by
    unfold Vector.initMove
    rw [bind_of_ok (get_apply pair), bind_of_ok ranFirst]
    rfl
  unfold takeFrom
  rw [moved]

theorem takeFrom_follows (whole : Whole environment.elements store)
    (given : TakeGiven environment store rhs) :
    ∃ memory, takeFrom environment rhs store = .ok () ⟨memory, rhs⟩ ∧
      Follows environment.elements store True
        (.assign (Store.contents ⟨store.memory, rhs⟩)) ⟨memory, rhs⟩ := by
  obtain ⟨memory, ran, edited⟩ := Vector.destroyAndDeallocate_edited environment whole
  have standing : Standing environment.elements ⟨memory, rhs⟩ := by
    apply given.whole.standing.beside edited.kept given.other
    intro other heap
    have sameType := congrArg AllocationManager.allocator given.sameType
    have freshHeap := (fresh_heap store.vector.m_AllocationManager).mpr heap
    rw [sameType] at freshHeap
    exact other ((fresh_heap rhs.m_AllocationManager).mp freshHeap)
  obtain ⟨kept, contents⟩ : Whole environment.elements ⟨memory, rhs⟩ ∧
      Store.contents ⟨memory, rhs⟩ = Store.contents ⟨store.memory, rhs⟩ := by
    apply Whole.stays given.whole standing
    · intro nonnull
      obtain ⟨bytes, held⟩ := given.whole.standing.ownBlock nonnull
      exact (edited.kept.others held given.other).trans held.symm
    · intro address mapped own
      exact edited.outside mapped (fun same => given.apart same own) fun none => none
  refine ⟨memory, takeFrom_run ran, kept, ?_,
    fun _ => edited.events.weaken fun _ allowed => allowed.2 trivial⟩
  rw [contents]
  exact .assign

def EndsFollowing (elements : Elements) (store : Store α) (tidy : Prop)
    (action failure : Sequences.Action (Slot α))
    (result : EStateM.Result Fault (Store α) Unit) : Prop :=
  Ended (fun _ after => Follows elements store tidy action after)
    (fun fault after => (∃ status, fault = .status status) ∧
      Follows elements store tidy failure after) result

theorem endsFollowing_ignore {proc : VProc α β} {good : β → Store α → Prop}
    {bad : Fault → Store α → Prop} (ended : Ended good bad (proc store))
    (kept : ∀ value after, good value after →
      Follows environment.elements store tidy action after)
    (keptBad : ∀ fault after, bad fault after → (∃ status, fault = .status status) ∧
      Follows environment.elements store tidy failure after) :
    EndsFollowing environment.elements store tidy action failure (ignore proc store) := by
  apply Ended.bind (ended.weaken kept keptBad)
  intro _ after follows
  exact follows

theorem Vector.Rejected.follows {reason : Status → Prop} {fault : Fault}
    (whole : Whole environment.elements store)
    (rejected : Vector.Rejected store reason fault after) :
    (∃ status, fault = .status status) ∧
      Follows environment.elements store tidy .keep after := by
  obtain ⟨⟨status, same, _⟩, unchanged⟩ := rejected
  exact ⟨⟨status, same⟩, unchanged.follows whole⟩

end Following

namespace VectorCall

section Meaning

variable (environment : Environment α) (store : Store α)

/-- What a call does if it returns a value. -/
def done : VectorCall α → Sequences.Action (Slot α)
  | init rhs | initMove rhs => .assign (Store.contents ⟨store.memory, rhs⟩)
  | setSize n => .resize n
  | reserve _ => .keep
  | pushBack value | pushBackMove value => .append (stretch store.memory.slots value 1)
  | pushBackN p n => .append (stretch store.memory.slots p n)
  | pushBackArithmeticValue value => .append (value.map Slot.object)
  | emplaceBack value => .append [Slot.ofValue value]
  | replace p n offset => .splice offset n (stretch store.memory.slots p n)
  | insert p n offset => .splice offset 0 (stretch store.memory.slots p n)
  | insertRange sources destBegin =>
      .splice (destBegin - store.vector.m_p) 0 (sources.map store.memory.slots)
  | erase offset n => .splice offset n []
  | eraseRange destBegin destEnd =>
      .splice (destBegin - store.vector.m_p) (destEnd - destBegin) []
  | copyN _ _ _ => .keep
  | clear | invalidate | release => .clear

def failed : VectorCall α → Sequences.Action (Slot α)
  | init _ => .clear
  | insertRange _ destBegin => .cut (destBegin - store.vector.m_p)
  | _ => .keep

def Requests (n : Nat) : Prop :=
  store.vector.m_dataSize + n < environment.elements.sizeRange →
    store.vector.m_allocatedSize < store.vector.m_dataSize + n →
    store.vector.m_AllocationManager.RequestFits environment.elements
      (store.vector.m_dataSize + n)

/-- What a range insertion is given.  Elements with constructors that follow the inserted
ones are on their way when there is no memory, and are lost. -/
structure RangeGiven (sources : List Nat) (k : Nat) : Prop where
  foreign : ∀ src ∈ sources, Foreign environment store src 1
  fit : Vector.TotalsFit environment store sources k
  past : environment.elements.constructorAllocator = true →
    store.vector.m_dataSize ≤ k + sources.length ∨ sources = []

/-- When a call does what it does to sequences.  Elements that are given are not in the
storage of the vector, no number wraps, and what comes after erased elements goes where
they have been.  Elements with constructors are not made by counting them. -/
def Orderly : VectorCall α → Prop
  | init rhs =>
      store.vector.m_AllocationManager.fresh = rhs.m_AllocationManager.fresh ∧
        Foreign environment store rhs.m_p rhs.m_dataSize ∧
        (store.vector.m_allocatedSize < rhs.m_dataSize →
          (store.vector.m_AllocationManager.assign rhs.m_AllocationManager).RequestFits
            environment.elements rhs.m_dataSize)
  | initMove rhs => TakeGiven environment store rhs
  | setSize n =>
      (environment.elements.constructorAllocator = true → n = store.vector.m_dataSize) ∧
        (store.vector.m_allocatedSize < n →
          store.vector.m_AllocationManager.RequestFits environment.elements n)
  | reserve n =>
      store.vector.m_allocatedSize < n →
        n * environment.elements.size < environment.elements.sizeRange
  | pushBack value => Requests environment store 1 ∧ Vector.TailGiven environment store value 1
  | pushBackMove value => Requests environment store 1 ∧ Foreign environment store value 1
  | pushBackN p n =>
      n < environment.elements.sizeRange ∧ Requests environment store n ∧
        (p ≠ 0 ∨ n = 0 → Vector.TailGiven environment store p n)
  | pushBackArithmeticValue value =>
      value.length < environment.elements.sizeRange ∧
        Requests environment store value.length
  | emplaceBack value =>
      Requests environment store 1 ∧
        (environment.elements.constructorAllocator = true → value.isSome)
  | replace p n offset =>
      Vector.Given environment store p n (max store.vector.m_dataSize (offset + n)) ∧
        (offset ≤ store.vector.m_dataSize → p ≠ 0 ∨ n = 0 →
          offset + n < environment.elements.sizeRange)
  | insert p n offset =>
      n < environment.elements.sizeRange ∧
        Vector.Given environment store p n (store.vector.m_dataSize + n) ∧
        (PositionCall.insert p n offset).Regular store environment.elements
  | insertRange sources destBegin =>
      store.vector.m_p ≤ destBegin →
        destBegin ≤ store.vector.m_p + store.vector.m_dataSize →
        RangeGiven environment store sources (destBegin - store.vector.m_p)
  | erase offset n =>
      n < environment.elements.sizeRange ∧
        (offset < store.vector.m_dataSize → n ≠ 0 →
          store.vector.m_dataSize - (offset + Vector.erasedN store offset n) ≤
            Vector.erasedN store offset n)
  | eraseRange destBegin destEnd =>
      store.vector.m_p ≤ destBegin → destBegin < destEnd →
        store.vector.m_p + store.vector.m_dataSize - destEnd ≤ destEnd - destBegin
  | copyN offset n p =>
      (p ≠ 0 ∨ n = 0 → Foreign environment store p (Vector.copiedN store offset n)) ∧
        (p ≠ 0 ∨ n = 0 → offset < store.vector.m_dataSize ∨ n = 0 →
          offset + n < environment.elements.sizeRange)
  | clear | invalidate | release => True

/-- When a call makes objects only where none are. -/
def Tidy : VectorCall α → Prop
  | insert _ n offset => Vector.Clean environment store n offset
  | _ => True

end Meaning

section Calls

variable {environment : Environment α} {store after : Store α} {call : VectorCall α}
  {p n offset : Nat} {fault : Fault} {tidy : Prop}

theorem Requests.extensible (requests : Requests environment store n)
    (inRange : n < environment.elements.sizeRange)
    (unrefused : Unrefused environment store.memory) :
    Vector.Extensible environment store n :=
  ⟨inRange, unrefused, requests⟩

theorem turnedAway_follows (whole : Whole environment.elements store)
    (away : Vector.TurnedAway environment store n fault after) :
    (∃ status, fault = .status status) ∧
      Follows environment.elements store tidy .keep after :=
  away.rejected.follows whole

theorem starved_follows (whole : Whole environment.elements store)
    (failed : fault = .status .errorNoMemory ∧ Unchanged store after ∧
      store.memory.denied < after.memory.denied) :
    (∃ status, fault = .status status) ∧
      Follows environment.elements store tidy .keep after :=
  ⟨⟨_, failed.1⟩, failed.2.1.follows whole⟩

theorem setSize_follows (whole : Whole environment.elements store)
    (unrefused : Unrefused environment store.memory)
    (orderly : (setSize n).Orderly environment store) :
    EndsFollowing environment.elements store True (.resize n) .keep
      (Vector.setSize environment n store) := by
  obtain ⟨counted, fits⟩ := orderly
  cases constructors : environment.elements.constructorAllocator with
  | false =>
      apply (Vector.setSize_edited whole constructors fits).weaken
      · intro _ after ended
        obtain ⟨more, length, edited⟩ := ended
        apply edited.follows
        exact .resize (by rw [length, length_contents])
      · exact fun _ _ => starved_follows whole
  | true =>
      have same := counted constructors
      unfold Vector.setSize
      apply Ended.bind
      · have allowed : Vector.GrowthAllowed environment store false n :=
          fun grows => ⟨fits grows, unrefused.accepted _⟩
        apply (Vector.reserveInternal_edited whole false allowed).weaken
        · exact fun _ _ edited => edited
        · exact fun _ _ => starved_follows whole
      · intro _ middle edited
        have size : n = middle.vector.m_dataSize := by
          have length := congrArg List.length edited.contents
          rw [length_contents, length_contents] at length
          rw [length, same]
        have unchanged : Vector.setDataSize n middle = .ok () middle := by
          rw [size]
          rfl
        rw [unchanged]
        apply edited.follows
        have step : Sequences.Step store.contents (.resize n) (store.contents.take n ++ []) :=
          .resize (by rw [length_contents, same, Nat.sub_self]; rfl)
        rwa [List.append_nil, List.take_of_length_le (by rw [length_contents, same])] at step

theorem replace_follows (whole : Whole environment.elements store)
    (unrefused : Unrefused environment store.memory)
    (orderly : (replace p n offset).Orderly environment store) :
    EndsFollowing environment.elements store True
      (.splice offset n (stretch store.memory.slots p n)) .keep
      (ignore (Vector.replace environment p n offset) store) := by
  obtain ⟨given, noWrap⟩ := orderly
  apply endsFollowing_ignore (Vector.replace_edited whole given noWrap
    fun _ _ => unrefused.accepted _)
  · intro _ after ended
    exact ended.2.follows .splice
  · exact fun _ _ rejected => rejected.follows whole

theorem insert_follows (whole : Whole environment.elements store)
    (unrefused : Unrefused environment store.memory)
    (orderly : (insert p n offset).Orderly environment store) :
    EndsFollowing environment.elements store (Vector.Clean environment store n offset)
      (.splice offset 0 (stretch store.memory.slots p n)) .keep
      (ignore (Vector.insert environment p n offset) store) := by
  obtain ⟨inRange, given, regular⟩ := orderly
  have ended := (Vector.insert_edited whole inRange given
    (fun argument grows => PositionCall.Regular.short whole regular argument grows)
    (fun _ _ => unrefused.accepted _))
  by_cases argument : p ≠ 0 ∨ n = 0
  · apply endsFollowing_ignore ended
    · intro _ after inserted
      obtain ⟨_, available, edited⟩ := inserted
      apply edited.follows
      rw [PositionCall.inserted_of_regular whole argument regular available]
      exact .splice
    · exact fun _ _ rejected => rejected.follows whole
  · obtain ⟨status, refused⟩ := Vector.insert_of_invalid environment
      fun valid => argument valid.1
    unfold ignore
    rw [bind_of_error refused]
    exact ⟨⟨status, rfl⟩, whole, .keep, fun _ => Grown.refl _⟩

theorem insertRange_follows (whole : Whole environment.elements store)
    (unrefused : Unrefused environment store.memory) {sources : List Nat} {destBegin : Nat}
    (orderly : (insertRange sources destBegin).Orderly environment store) :
    EndsFollowing environment.elements store True
      (.splice (destBegin - store.vector.m_p) 0 (sources.map store.memory.slots))
      (.cut (destBegin - store.vector.m_p))
      (ignore (Vector.insertRange environment (2 * sources.length) sources destBegin)
        store) := by
  by_cases valid : store.vector.m_p ≤ destBegin ∧
      destBegin ≤ store.vector.m_p + store.vector.m_dataSize
  · obtain ⟨lower, upper⟩ := valid
    obtain ⟨foreign, fit, past⟩ := orderly lower upper
    apply endsFollowing_ignore (Vector.insertRange_edited whole foreign lower upper
      (fit.allowed whole foreign unrefused) (Nat.le_refl _))
    · intro _ after ended
      exact ended.1.follows .splice
    · intro fault after broken
      have reached : environment.elements.constructorAllocator = false ∨
          (store.vector.m_dataSize ≤ destBegin - store.vector.m_p + sources.length ∨
            sources = []) := by
        cases constructors : environment.elements.constructorAllocator with
        | false => exact .inl rfl
        | true => exact .inr (past constructors)
      obtain ⟨rest, edited⟩ := broken.edited reached
      exact ⟨⟨_, broken.fault⟩, edited.follows .cut⟩
  · have refused : Vector.insertRange environment (2 * sources.length) sources destBegin store =
        .error (.status .errorOverflow) store := by
      unfold Vector.insertRange
      rw [bind_of_ok (get_apply store), if_pos]
      · rfl
      · simp only [Vector.isIteratorNotDereferenceable, Bool.or_eq_true, decide_eq_true_eq]
        omega
    unfold ignore
    rw [bind_of_error refused]
    exact ⟨⟨_, rfl⟩, whole, .cut_keep, fun _ => Grown.refl _⟩

theorem append_follows (whole : Whole environment.elements store) {values : List (Slot α)}
    {written used : Nat → Prop} {result : EStateM.Result Fault (Store α) Unit}
    (ended : Ended (fun _ after => Edited environment.elements store written used True
        (store.contents ++ values) after)
      (fun fault after => Vector.TurnedAway environment store n fault after) result) :
    EndsFollowing environment.elements store True (.append values) .keep result := by
  apply ended.weaken
  · intro _ after edited
    exact edited.follows .append
  · exact fun _ _ => turnedAway_follows whole

theorem clear_follows {written used : Nat → Prop} {failure : Sequences.Action (Slot α)}
    {result : EStateM.Result Fault (Store α) Unit} (ran : result = .ok () after)
    (edited : Edited environment.elements store written used True [] after) :
    EndsFollowing environment.elements store True .clear failure result := by
  rw [ran]
  exact edited.follows .clear

theorem init_follows (whole : Whole environment.elements store)
    (unrefused : Unrefused environment store.memory) {rhs : Vector}
    (orderly : (init rhs).Orderly environment store) :
    EndsFollowing environment.elements store True
      (.assign (Store.contents ⟨store.memory, rhs⟩)) .clear
      (Vector.init environment rhs store) := by
  obtain ⟨sameType, foreign, request⟩ := orderly
  apply (Vector.init_edited whole sameType foreign request unrefused).weaken
  · intro _ after edited
    exact edited.follows .assign
  · intro fault after failed
    exact ⟨⟨_, failed.1⟩, failed.2.follows .clear⟩

theorem reserve_follows (whole : Whole environment.elements store)
    (unrefused : Unrefused environment store.memory)
    (orderly : (reserve n).Orderly environment store) :
    EndsFollowing environment.elements store True .keep .keep
      (Vector.reserve environment n store) := by
  have allowed : Vector.GrowthAllowed environment store true n :=
    fun grows => ⟨orderly grows, unrefused.accepted _⟩
  apply (Vector.reserveInternal_edited whole true allowed).weaken
  · intro _ after edited
    exact edited.follows .keep
  · exact fun _ _ => starved_follows whole

theorem pushBackN_follows (whole : Whole environment.elements store)
    (unrefused : Unrefused environment store.memory)
    (orderly : (pushBackN p n).Orderly environment store) :
    EndsFollowing environment.elements store True (.append (stretch store.memory.slots p n))
      .keep (Vector.pushBackN environment p n store) := by
  obtain ⟨inRange, requests, given⟩ := orderly
  apply (Vector.pushBackN_edited whole (requests.extensible inRange unrefused) given).weaken
  · intro _ after edited
    exact edited.follows .append
  · intro fault after failed
    cases failed with
    | inl rejected => exact rejected.follows whole
    | inr away => exact turnedAway_follows whole away

theorem erased_follows (whole : Whole environment.elements store)
    {written used : Nat → Prop} {reason : Status → Prop}
    {result : EStateM.Result Fault (Store α) Unit}
    (ended : Ended (fun _ after => Edited environment.elements store written used True
        (store.contents.take offset ++ store.contents.drop (offset + n)) after)
      (fun fault after => Vector.Rejected store reason fault after) result) :
    EndsFollowing environment.elements store True (.splice offset n []) .keep result := by
  apply ended.weaken
  · intro _ after edited
    apply edited.follows
    have step : Sequences.Step store.contents (.splice offset n []) _ := .splice
    rwa [List.append_nil] at step
  · exact fun _ _ rejected => rejected.follows whole

theorem copyN_follows (whole : Whole environment.elements store)
    (unrefused : Unrefused environment store.memory)
    (orderly : (copyN offset n p).Orderly environment store) :
    EndsFollowing environment.elements store True .keep .keep
      (ignore (Vector.copyN environment offset n p) store) := by
  apply endsFollowing_ignore (Vector.copyN_edited whole orderly.1 orderly.2
    fun _ => unrefused.accepted _)
  · intro _ after ended
    exact ended.2.1.follows .keep
  · exact fun _ _ rejected => rejected.follows whole

theorem run_follows (whole : Whole environment.elements store)
    (unrefused : Unrefused environment store.memory)
    (orderly : call.Orderly environment store) :
    EndsFollowing environment.elements store (call.Tidy environment store)
      (call.done store) (call.failed store) (call.run environment store) := by
  have one := environment.elements.one_lt_sizeRange
  cases call with
  | init rhs => exact init_follows whole unrefused orderly
  | initMove rhs =>
      obtain ⟨memory, ran, follows⟩ := takeFrom_follows whole orderly
      show EndsFollowing _ _ _ _ _ (takeFrom environment rhs store)
      rw [ran]
      exact follows
  | setSize n => exact setSize_follows whole unrefused orderly
  | reserve n => exact reserve_follows whole unrefused orderly
  | pushBack value =>
      exact append_follows whole
        (Vector.pushBack_edited whole (orderly.1.extensible one unrefused) orderly.2)
  | pushBackMove value =>
      apply append_follows whole
      apply (Vector.pushBackMove_edited whole (orderly.1.extensible one unrefused)
        orderly.2).weaken
      · exact fun _ after edited => edited.1
      · exact fun _ _ away => away
  | pushBackN p n => exact pushBackN_follows whole unrefused orderly
  | pushBackArithmeticValue value =>
      exact append_follows whole (Vector.pushBackArithmeticValue_edited whole
        (orderly.2.extensible orderly.1 unrefused))
  | emplaceBack value =>
      exact append_follows whole
        (Vector.emplaceBack_edited whole (orderly.1.extensible one unrefused) orderly.2)
  | replace p n offset => exact replace_follows whole unrefused orderly
  | insert p n offset => exact insert_follows whole unrefused orderly
  | insertRange sources destBegin => exact insertRange_follows whole unrefused orderly
  | erase offset n =>
      exact erased_follows whole
        (Vector.erase_edited whole orderly.1 orderly.2 (unrefused.accepted _))
  | eraseRange destBegin destEnd =>
      exact erased_follows whole
        (Vector.eraseRange_edited whole orderly (unrefused.accepted _))
  | copyN offset n p => exact copyN_follows whole unrefused orderly
  | clear =>
      obtain ⟨after, ran, _, edited⟩ := Vector.clear_edited environment whole
      exact clear_follows ran edited
  | invalidate =>
      obtain ⟨after, ran, edited⟩ := Vector.invalidate_edited environment whole
      exact clear_follows ran edited
  | release =>
      obtain ⟨ran, edited⟩ := Vector.release_edited whole
      exact clear_follows (bind_of_ok ran) edited

end Calls

end VectorCall

/-- What others do meanwhile.  The elements are the vector's alone. -/
structure Meanwhile (elements : Elements) (store : Store α) (memory : Memory α) : Prop where
  outside : Outside elements store memory
  slots : ∀ {address}, store.own elements address →
    memory.slots address = store.memory.slots address

inductive ListStep (environment : Environment α) :
    Store α → Sequences.Action (Slot α) → Store α → Prop
  | done {store after : Store α} (call : VectorCall α)
      (unrefused : Unrefused environment store.memory)
      (orderly : call.Orderly environment store)
      (ran : call.run environment store = .ok () after) :
      ListStep environment store (call.done store) after
  | failed {store after : Store α} {fault : Fault} (call : VectorCall α)
      (unrefused : Unrefused environment store.memory)
      (orderly : call.Orderly environment store)
      (ran : call.run environment store = .error fault after) :
      ListStep environment store (call.failed store) after
  | outside {store : Store α} {memory : Memory α}
      (changed : Meanwhile environment.elements store memory) :
      ListStep environment store .keep ⟨memory, store.vector⟩

section Runs

variable {environment : Environment α} {store next : Store α} {memory : Memory α}
  {manager : AllocationManager} {action : Sequences.Action (Slot α)}

theorem whole_empty (sound : Sound environment.elements memory)
    (provided : Provided environment.elements memory manager) :
    Whole environment.elements ⟨memory, Vector.empty manager⟩ :=
  ⟨standing_empty sound provided, fun _ _ _ => .inl rfl, Vector.filled_empty sound⟩

theorem Meanwhile.follows (changed : Meanwhile environment.elements store memory)
    (whole : Whole environment.elements store) :
    Whole environment.elements ⟨memory, store.vector⟩ ∧
      Store.contents ⟨memory, store.vector⟩ = store.contents := by
  have stepped : VectorStep environment store .outside ⟨memory, store.vector⟩ :=
    .outside changed.outside
  have allowed : VectorAction.outside.Allowed environment store := trivial
  apply Whole.stays whole (stepped.standing whole.standing allowed)
  · intro _
    exact changed.outside.block
  · intro address _ own
    exact changed.slots own

theorem ListStep.follows (whole : Whole environment.elements store)
    (stepped : ListStep environment store action next) :
    Whole environment.elements next ∧
      Sequences.Step store.contents action next.contents := by
  cases stepped with
  | done call unrefused orderly ran =>
      have ended := call.run_follows whole unrefused orderly
      rw [ran] at ended
      exact ⟨ended.whole, ended.step⟩
  | failed call unrefused orderly ran =>
      have ended := call.run_follows whole unrefused orderly
      rw [ran] at ended
      exact ⟨ended.2.whole, ended.2.step⟩
  | outside changed =>
      obtain ⟨kept, contents⟩ := changed.follows whole
      rw [contents]
      exact ⟨kept, .keep⟩

/-- Every run of orderly calls, with others at work between them, is a run on sequences;
in no state is there an orderly call without defined behaviour. -/
theorem vector_is_sequence {actions : List (Sequences.Action (Slot α))}
    (sound : Sound environment.elements memory)
    (provided : Provided environment.elements memory manager)
    (ran : Runs (ListStep environment) ⟨memory, Vector.empty manager⟩ actions store) :
    Runs Sequences.Step [] actions store.contents ∧
      ∀ call : VectorCall α, Unrefused environment store.memory →
        call.Orderly environment store →
        EndsFollowing environment.elements store (call.Tidy environment store)
          (call.done store) (call.failed store) (call.run environment store) := by
  obtain ⟨whole, abstract⟩ :=
    ran.simulated Store.contents (whole_empty sound provided) ListStep.follows
  exact ⟨abstract, fun _ unrefused orderly =>
    VectorCall.run_follows whole unrefused orderly⟩

end Runs

section Items

private theorem item_size : 0 < 4 := Nat.succ_pos 3

private def items : Elements := ⟨⟨false, false⟩, 4, item_size, true⟩

private def itemHeap : Environment Nat :=
  Environment.exact items (fun memory => 1000 * (memory.requests + 1)) id fun _ => none

private def noItems : Store Nat := ⟨.empty, Vector.empty (.strategic .heap .doubleOfDataSize)⟩

/-- Two elements come, and the second of them goes. -/
example :
    ∃ store : Store Nat, store.contents = [.object 7] ∧
      Runs Sequences.Step [] [.append [.object 7], .append [.object 8], .splice 1 1 []]
        store.contents := by
  have accepted (store : Store Nat) : Unrefused itemHeap store.memory :=
    fun _ _ _ => rfl
  have requests (store : Store Nat) (few : store.vector.m_dataSize < 2)
      (manager : store.vector.m_AllocationManager = .strategic .heap .doubleOfDataSize) :
      VectorCall.Requests itemHeap store 1 := by
    intro _ _
    rw [manager]
    show (store.vector.m_dataSize + 1) * 2 * 4 < 2 ^ 64
    omega
  have first : Runs (ListStep itemHeap) noItems [.append [.object 7]] _ :=
    Runs.start.next (.done (.emplaceBack (some 7)) (accepted noItems)
      ⟨requests noItems (by decide) rfl, fun _ => rfl⟩ rfl)
  have second : Runs (ListStep itemHeap) noItems [.append [.object 7], .append [.object 8]] _ :=
    first.next (.done (.emplaceBack (some 8)) (accepted _)
      ⟨requests _ (by decide) rfl, fun _ => rfl⟩ rfl)
  have third : Runs (ListStep itemHeap) noItems
      [.append [.object 7], .append [.object 8], .splice 1 1 []] _ :=
    second.next (.done (.erase 1 1) (accepted _) ⟨by decide, fun _ _ => by decide⟩ rfl)
  have provided : Provided items (.empty : Memory Nat)
      (.strategic .heap .doubleOfDataSize) := trivial
  exact ⟨_, by decide, (vector_is_sequence Sound.empty provided third).1⟩

end Items

end CommonSerialization.Containers
