import CommonSerialization.Containers.Edits

namespace CommonSerialization.Containers

open StateExcept Storage

/-! The functions that work at a position, as functions of lists. -/

namespace Vector

variable {environment : Environment α} {store : Store α} {p n offset : Nat}
  {written used : Nat → Prop} {tidy : Prop} {contents : List (Slot α)}

theorem Edited.same (whole : Whole environment.elements store) :
    Edited environment.elements store written used tidy store.contents store :=
  ⟨Kept.refl whole.standing, whole, rfl, fun _ _ _ => rfl, Grown.refl _⟩

def Rejected (store : Store α) (reason : Status → Prop) (fault : Fault) (after : Store α) :
    Prop :=
  (∃ status, fault = .status status ∧ reason status) ∧ Unchanged store after

theorem rejected_fail {reason : Status → Prop} {status : Status} (holds : reason status) :
    Rejected store reason (.status status) store :=
  ⟨⟨status, rfl, holds⟩, rfl, rfl, rfl, rfl, rfl⟩

theorem ended_of_rebuilt {proc : VProc α Unit} {next : Unit → VProc α β} {needed : Nat}
    {good : β → Store α → Prop} {reason : Status → Prop}
    (rebuilt : EndsRebuilt environment store needed used contents (proc store))
    (denied : Deniable store.vector.m_AllocationManager needed → reason .errorNoMemory)
    (later : ∀ middle, Rebuilt environment store used contents middle →
      Available store needed → Ended good (Rejected store reason) (next () middle)) :
    Ended good (Rejected store reason) ((proc >>= next) store) := by
  apply Ended.bind (Ended.weaken rebuilt (fun _ _ holds => holds) ?_)
  · intro _ middle holds
    exact later middle holds.1 holds.2
  · intro fault after failed
    exact ⟨⟨_, failed.1, denied failed.2.1⟩, failed.2.2⟩

/-- Why a call that puts elements somewhere returns a status: it is given null, or a place
past the end, or too many elements, or it gets no space for them. -/
inductive Refuses (store : Store α) (p n needed : Nat) (overflows : Prop) : Status → Prop
  | invalid (null : p = 0) (some : n ≠ 0) :
      Refuses store p n needed overflows .errorInvalidArgument
  | overflow (holds : overflows) : Refuses store p n needed overflows .errorOverflow
  | noMemory (grows : store.vector.m_allocatedSize < needed)
      (deniable : Deniable store.vector.m_AllocationManager needed) :
      Refuses store p n needed overflows .errorNoMemory

theorem Refuses.within {needed : Nat} {status : Status}
    (refuses : Refuses store p n needed (store.vector.m_dataSize < offset) status)
    (inside : offset ≤ store.vector.m_dataSize) : Refuses store p n needed False status := by
  cases refuses with
  | invalid null some => exact .invalid null some
  | overflow past => exact absurd inside (Nat.not_le.mpr past)
  | noMemory grows deniable => exact .noMemory grows deniable

structure Given (environment : Environment α) (store : Store α) (p n needed : Nat) :
    Prop where
  source : p ≠ 0 ∨ n = 0 → Foreign environment store p n
  fits : store.vector.m_allocatedSize < needed →
    store.vector.m_AllocationManager.RequestFits environment.elements needed

def replacedMade (store : Store α) (n offset : Nat) : Nat :=
  if store.vector.m_allocatedSize < max store.vector.m_dataSize (offset + n) then offset + n
  else n

theorem replace_of_valid (valid : p ≠ 0 ∨ n = 0) (within : offset ≤ store.vector.m_dataSize)
    (noWrap : offset + n < environment.elements.sizeRange) :
    replace environment p n offset store =
      (replaceElements environment p n offset (max store.vector.m_dataSize (offset + n)) >>=
        fun _ => setDataSize (max store.vector.m_dataSize (offset + n)) >>= fun _ =>
          pure (offset + n)) store := by
  have newSize : (if store.vector.m_dataSize < offset + n then offset + n
      else store.vector.m_dataSize) = max store.vector.m_dataSize (offset + n) := by
    split <;> omega
  unfold replace
  rw [bind_of_ok (get_apply store), if_neg (by omega), if_neg (by omega),
    Nat.mod_eq_of_lt noWrap, newSize]

theorem replace_edited (whole : Whole environment.elements store)
    (given : Given environment store p n (max store.vector.m_dataSize (offset + n)))
    (noWrap : offset ≤ store.vector.m_dataSize → p ≠ 0 ∨ n = 0 →
      offset + n < environment.elements.sizeRange)
    (accepted : p ≠ 0 ∨ n = 0 → offset ≤ store.vector.m_dataSize →
      Accepted environment store.memory (replacedMade store n offset)) :
    Ended (fun pNewOffset after => pNewOffset = offset + n ∧
        Edited environment.elements store (fun _ => False) (Within p n) True
          (spliced store p n offset (offset + n)) after)
      (Rejected store (Refuses store p n (max store.vector.m_dataSize (offset + n))
        (store.vector.m_dataSize < offset)))
      (replace environment p n offset store) := by
  by_cases null : p = 0 ∧ n ≠ 0
  · unfold replace
    rw [bind_of_ok (get_apply store), if_pos null]
    exact rejected_fail (.invalid null.1 null.2)
  have argument : p ≠ 0 ∨ n = 0 := by omega
  obtain past | within := Nat.lt_or_ge store.vector.m_dataSize offset
  · unfold replace
    rw [bind_of_ok (get_apply store), if_neg (by omega), if_pos past]
    exact rejected_fail (.overflow past)
  rw [replace_of_valid argument within (noWrap within argument)]
  have source := given.source argument
  have accepted := accepted argument within
  unfold replacedMade at accepted
  have total := length_spliced within (p := p) (n := n) (k := offset + n)
  unfold replaceElements
  rw [bind_assoc, bind_of_ok (get_apply store)]
  split
  · rename_i grows
    rw [if_pos grows] at accepted
    have larger : max store.vector.m_dataSize (offset + n) = offset + n := by
      have size := whole.standing.fits.size
      omega
    have fits := given.fits grows
    rw [larger] at grows fits ⊢
    have none : store.contents.drop (offset + n) = [] := by
      apply List.drop_eq_nil_of_le
      rw [length_contents]
      omega
    have same : spliced store p n offset (offset + n) =
        store.contents.take offset ++ stretch store.memory.slots p n := by
      unfold spliced
      rw [none, List.append_nil]
    rw [same]
    apply ended_of_rebuilt (replaceElsewhere_rebuilt whole grows within source fits
      accepted) (.noMemory grows)
    intro middle rebuilt _
    rw [bind_of_ok (setDataSize_apply _)]
    refine ⟨rfl, ?_⟩
    have resized : Edited environment.elements store (fun _ => False) (Within p n) True _ _ :=
      Rebuilt.resized rebuilt (same ▸ holds_spliced whole source)
    rw [List.length_append, length_stretch, length_first within] at resized
    exact resized
  · rename_i stays
    rw [if_neg stays] at accepted
    obtain ⟨after, ran, edited⟩ : ∃ after,
        replaceInPlace environment p n offset store = .ok () ⟨after, store.vector⟩ ∧
        Edited environment.elements store (fun _ => False) (Within p n) True
          (spliced store p n offset (offset + n))
          ⟨after, ⟨store.vector.m_p, (spliced store p n offset (offset + n)).length,
            store.vector.m_allocatedSize, store.vector.m_AllocationManager⟩⟩ :=
      replaceInPlace_edited whole within (by omega) source accepted
    rw [bind_of_ok ran, bind_of_ok (setDataSize_apply _)]
    refine ⟨rfl, ?_⟩
    rw [total] at edited
    rw [show max store.vector.m_dataSize (offset + n) =
      offset + n + (store.vector.m_dataSize - (offset + n)) by omega]
    exact edited

def inserted (store : Store α) (p n offset : Nat) : List (Slot α) :=
  if store.vector.m_allocatedSize < store.vector.m_dataSize + n then
    store.contents.take offset ++ stretch store.memory.slots p n ++
      tailElsewhere store p n offset
  else
    spliced store p n offset offset

/-- No element is constructed over another one: new ones come last, or go to another
block. -/
def Clean (environment : Environment α) (store : Store α) (n offset : Nat) : Prop :=
  environment.elements.constructorAllocator = true → n ≠ 0 →
    store.vector.m_dataSize + n ≤ store.vector.m_allocatedSize →
    offset = store.vector.m_dataSize

def insertedMade (store : Store α) (n offset : Nat) : Nat :=
  if store.vector.m_allocatedSize < store.vector.m_dataSize + n then store.vector.m_dataSize + n
  else if n = 0 then 0
  else store.vector.m_dataSize - offset + n

variable (environment) in
theorem insert_of_invalid
    (invalid : ¬((p ≠ 0 ∨ n = 0) ∧ offset ≤ store.vector.m_dataSize)) :
    ∃ status, insert environment p n offset store = .error (.status status) store := by
  unfold insert
  rw [bind_of_ok (get_apply store)]
  split
  · exact ⟨_, rfl⟩
  · rw [if_pos (by omega)]
    exact ⟨_, rfl⟩

theorem insert_of_valid (valid : p ≠ 0 ∨ n = 0) (within : offset ≤ store.vector.m_dataSize)
    (noWrap : store.vector.m_dataSize + n < environment.elements.sizeRange) :
    insert environment p n offset store =
      (insertNewElements environment p n offset (offset + n) (store.vector.m_dataSize + n) >>=
        fun _ => setDataSize (store.vector.m_dataSize + n) >>= fun _ =>
          pure (offset + n)) store := by
  unfold insert
  rw [bind_of_ok (get_apply store), if_neg (by omega), if_neg (by omega),
    Nat.mod_eq_of_lt noWrap,
    Nat.mod_eq_of_lt (Nat.lt_of_le_of_lt (Nat.add_le_add_right within n) noWrap)]

/-- A size that is no number of the type `size_t` has wrapped. -/
theorem insert_of_wrap (standing : Standing environment.elements store)
    (valid : p ≠ 0 ∨ n = 0) (within : offset ≤ store.vector.m_dataSize)
    (inRange : n < environment.elements.sizeRange)
    (wraps : environment.elements.sizeRange ≤ store.vector.m_dataSize + n) :
    insert environment p n offset store = .error (.status .errorOverflow) store := by
  have size := standing.fits.size
  have range := standing.sizeInRange
  have less : (store.vector.m_dataSize + n) % environment.elements.sizeRange <
      store.vector.m_dataSize := by
    rw [Nat.mod_eq_sub_mod wraps, Nat.mod_eq_of_lt (by omega)]
    omega
  unfold insert
  rw [bind_of_ok (get_apply store), if_neg (by omega), if_neg (by omega)]
  apply bind_of_error
  unfold insertNewElements
  rw [bind_of_ok (get_apply store), if_neg (by omega), if_neg (by omega), if_pos less]
  rfl

theorem length_insertedElsewhere (within : offset ≤ store.vector.m_dataSize)
    (short : store.vector.m_AllocationManager.allocator ≠ .heap →
      store.vector.m_dataSize - offset ≤ n) :
    (store.contents.take offset ++ stretch store.memory.slots p n ++
      tailElsewhere store p n offset).length = store.vector.m_dataSize + n := by
  have tail : (tailElsewhere store p n offset).length = store.vector.m_dataSize - offset := by
    unfold tailElsewhere
    split
    · rw [List.length_drop, length_contents]
    · rename_i keeper
      rw [List.length_take_of_le]
      rw [length_stretch]
      apply short
      rw [keeper]
      exact fun heap => by cases heap
  rw [List.length_append, List.length_append, length_stretch, length_first within, tail]
  omega

theorem holds_insertedElsewhere (whole : Whole environment.elements store)
    (source : Foreign environment store p n)
    (constructors : environment.elements.constructorAllocator = true) :
    ∀ slot ∈ store.contents.take offset ++ stretch store.memory.slots p n ++
      tailElsewhere store p n offset, slot.holds := by
  intro slot member
  have isDrop : tailElsewhere store p n offset = store.contents.drop offset := by
    unfold tailElsewhere
    rw [whole.standing.heap constructors]
  rw [isDrop] at member
  exact holds_spliced whole source constructors slot member

theorem insert_edited (whole : Whole environment.elements store)
    (inRange : n < environment.elements.sizeRange)
    (given : Given environment store p n (store.vector.m_dataSize + n))
    (short : p ≠ 0 ∨ n = 0 → store.vector.m_allocatedSize < store.vector.m_dataSize + n →
      store.vector.m_AllocationManager.allocator ≠ .heap →
      Available store (store.vector.m_dataSize + n) → store.vector.m_dataSize - offset ≤ n)
    (accepted : p ≠ 0 ∨ n = 0 → offset ≤ store.vector.m_dataSize →
      Accepted environment store.memory (insertedMade store n offset)) :
    Ended (fun pNewOffset after => pNewOffset = offset + n ∧
        (store.vector.m_allocatedSize < store.vector.m_dataSize + n →
          Available store (store.vector.m_dataSize + n)) ∧
        Edited environment.elements store (fun _ => False) (Within p n)
          (Clean environment store n offset)
          (inserted store p n offset) after)
      (Rejected store (Refuses store p n (store.vector.m_dataSize + n)
        (store.vector.m_dataSize < offset ∨
          environment.elements.sizeRange ≤ store.vector.m_dataSize + n)))
      (insert environment p n offset store) := by
  have size := whole.standing.fits.size
  by_cases null : p = 0 ∧ n ≠ 0
  · unfold insert
    rw [bind_of_ok (get_apply store), if_pos null]
    exact rejected_fail (.invalid null.1 null.2)
  have argument : p ≠ 0 ∨ n = 0 := by omega
  obtain past | within := Nat.lt_or_ge store.vector.m_dataSize offset
  · unfold insert
    rw [bind_of_ok (get_apply store), if_neg (by omega), if_pos past]
    exact rejected_fail (.overflow (.inl past))
  by_cases wraps : environment.elements.sizeRange ≤ store.vector.m_dataSize + n
  · rw [insert_of_wrap whole.standing argument within inRange wraps]
    exact rejected_fail (.overflow (.inr wraps))
  rw [insert_of_valid argument within (Nat.not_le.mp wraps)]
  have source := given.source argument
  have accepted := accepted argument within
  unfold insertedMade at accepted
  unfold insertNewElements inserted
  rw [bind_assoc, bind_of_ok (get_apply store)]
  by_cases grows : store.vector.m_allocatedSize < store.vector.m_dataSize + n
  · rw [if_pos grows] at accepted ⊢
    rw [if_pos grows]
    apply ended_of_rebuilt (insertElsewhere_rebuilt whole within source (short argument grows)
      (given.fits grows) accepted) (.noMemory grows)
    intro middle rebuilt available
    rw [bind_of_ok (setDataSize_apply _)]
    refine ⟨rfl, fun _ => available, ?_⟩
    have resized : Edited environment.elements store (fun _ => False) (Within p n)
        (Clean environment store n offset) _ _ :=
      Rebuilt.resized rebuilt (holds_insertedElsewhere whole source)
    rw [length_insertedElsewhere within fun keeper => short argument grows keeper available]
      at resized
    exact resized
  · rw [if_neg grows] at accepted ⊢
    rw [if_neg grows]
    obtain none | some := Nat.eq_zero_or_pos n
    · rw [none, if_neg (by omega), if_neg (by omega)]
      refine ⟨rfl, fun grows => absurd grows (by omega), ?_⟩
      have unchanged : spliced store p 0 offset offset = store.contents := by
        unfold spliced
        show store.contents.take offset ++ [] ++ store.contents.drop offset = _
        rw [List.append_nil, List.take_append_drop]
      rw [unchanged]
      exact Edited.same whole
    · rw [if_neg (by omega)] at accepted
      rw [if_pos (by omega)]
      have total := length_spliced within (p := p) (n := n) (k := offset)
      obtain ⟨after, ran, edited⟩ : ∃ after,
          insertInPlace environment p n offset (offset + n)
            (store.vector.m_dataSize - offset) store = .ok () ⟨after, store.vector⟩ ∧
          Edited environment.elements store (fun _ => False) (Within p n)
            (Clean environment store n offset) (spliced store p n offset offset)
            ⟨after, ⟨store.vector.m_p, (spliced store p n offset offset).length,
              store.vector.m_allocatedSize, store.vector.m_AllocationManager⟩⟩ :=
        insertInPlace_edited whole (by omega) within (by omega) source accepted
          fun clean constructors => clean constructors (by omega) (by omega)
      rw [bind_of_ok ran, bind_of_ok (setDataSize_apply _)]
      refine ⟨rfl, fun more => absurd more grows, ?_⟩
      rw [total] at edited
      rw [show store.vector.m_dataSize + n =
        offset + n + (store.vector.m_dataSize - offset) by omega]
      exact edited

theorem erase_of_inside (standing : Standing environment.elements store)
    (inRange : n < environment.elements.sizeRange)
    (inside : offset < store.vector.m_dataSize) (some : n ≠ 0) :
    erase environment offset n store =
      eraseElements environment offset (erasedN store offset n) store := by
  have range := standing.sizeInRange
  unfold erase
  rw [bind_of_ok (get_apply store), if_neg (by omega), if_neg some]
  split
  · rename_i past
    have all : erasedN store offset n = store.vector.m_dataSize - offset := by
      unfold erasedN
      by_cases wraps : offset + n < environment.elements.sizeRange
      · rw [Nat.mod_eq_of_lt wraps] at past
        omega
      · omega
    rw [all]
  · rename_i inner
    have noWrap : offset + n < environment.elements.sizeRange := by
      by_contra wraps
      rw [Nat.mod_eq_sub_mod (Nat.not_lt.mp wraps), Nat.mod_eq_of_lt (by omega)] at inner
      omega
    rw [Nat.mod_eq_of_lt noWrap] at inner
    have one : erasedN store offset n = n := by
      unfold erasedN
      omega
    rw [one]

def erasedMade (store : Store α) (offset n : Nat) : Nat :=
  if n = 0 then 0 else store.vector.m_dataSize - (offset + erasedN store offset n)

theorem erase_edited (whole : Whole environment.elements store)
    (inRange : n < environment.elements.sizeRange)
    (short : offset < store.vector.m_dataSize → n ≠ 0 →
      store.vector.m_dataSize - (offset + erasedN store offset n) ≤ erasedN store offset n)
    (accepted : Accepted environment store.memory (erasedMade store offset n)) :
    Ended (fun _ => Edited environment.elements store (fun _ => False) (fun _ => False) True
        (store.contents.take offset ++ store.contents.drop (offset + n)))
      (Rejected store fun status => status = .errorOverflow ∧
        (store.vector.m_dataSize < offset ∨ offset = store.vector.m_dataSize ∧ n ≠ 0))
      (erase environment offset n store) := by
  by_cases inside : offset < store.vector.m_dataSize ∧ n ≠ 0
  · rw [erase_of_inside whole.standing inRange inside.1 inside.2]
    have same : store.contents.drop (offset + n) =
        store.contents.drop (offset + erasedN store offset n) := by
      unfold erasedN
      obtain less | more := Nat.le_total n (store.vector.m_dataSize - offset)
      · rw [Nat.min_eq_left less]
      · rw [Nat.min_eq_right more, List.drop_eq_nil_of_le, List.drop_eq_nil_of_le]
        · rw [length_contents]
          omega
        · rw [length_contents]
          omega
    rw [same]
    unfold erasedMade at accepted
    rw [if_neg inside.2] at accepted
    apply (eraseElements_edited whole _ _ (short inside.1 inside.2) accepted).weaken
    · intro _ _ edited
      exact edited
    · intro _ _ impossible
      exact impossible.elim
    · unfold erasedN
      omega
    · unfold erasedN
      omega
  · unfold erase
    rw [bind_of_ok (get_apply store)]
    split
    · rename_i past
      exact rejected_fail ⟨rfl, past⟩
    · rename_i valid
      have nothing : n = 0 := by omega
      rw [if_pos nothing, nothing, Nat.add_zero, List.take_append_drop]
      exact Edited.same whole

theorem eraseRange_edited (whole : Whole environment.elements store) {destBegin destEnd : Nat}
    (short : store.vector.m_p ≤ destBegin → destBegin < destEnd →
      store.vector.m_p + store.vector.m_dataSize - destEnd ≤ destEnd - destBegin)
    (accepted : Accepted environment store.memory store.vector.m_dataSize) :
    Ended (fun _ => Edited environment.elements store (fun _ => False) (fun _ => False) True
        (store.contents.take (destBegin - store.vector.m_p) ++
          store.contents.drop (destBegin - store.vector.m_p + (destEnd - destBegin))))
      (Rejected store fun status => status = .errorOverflow ∧ destEnd < destBegin ∨
        status = .errorInvalidArgument ∧ store.vector.isIteratorNotDereferenceable destBegin)
      (eraseRange environment destBegin destEnd store) := by
  have fewer (k : Nat) : Accepted environment store.memory (store.vector.m_dataSize - k) :=
    accepted.later (show 0 + (store.vector.m_dataSize - k) ≤ _ by omega) fun _ => rfl
  unfold eraseRange
  rw [bind_of_ok (get_apply store)]
  split
  · rename_i reversed
    exact rejected_fail (.inl ⟨rfl, reversed⟩)
  · rename_i ordered
    split
    · rename_i outside
      exact rejected_fail (.inr ⟨rfl, outside⟩)
    · rename_i inside
      unfold isIteratorNotDereferenceable at inside
      simp only [Bool.or_eq_true, decide_eq_true_eq, not_or, Nat.not_lt, Nat.not_le] at inside
      split
      · rename_i nothing
        rw [nothing, Nat.sub_self, Nat.add_zero, List.take_append_drop]
        exact Edited.same whole
      · rename_i differ
        have shortened := short (by omega) (by omega)
        split
        · rename_i past
          have all : store.contents.drop (destBegin - store.vector.m_p + (destEnd - destBegin)) =
              store.contents.drop (destBegin - store.vector.m_p +
                (store.vector.m_p + store.vector.m_dataSize - destBegin)) := by
            rw [List.drop_eq_nil_of_le (by rw [length_contents]; omega),
              List.drop_eq_nil_of_le (by rw [length_contents]; omega)]
          rw [all]
          apply (eraseElements_edited whole (by omega) (by omega) (by omega)
            (fewer _)).weaken
          · intro _ _ edited
            exact edited
          · intro _ _ impossible
            exact impossible.elim
        · apply (eraseElements_edited whole (by omega) (by omega) (by omega)
            (fewer _)).weaken
          · intro _ _ edited
            exact edited
          · intro _ _ impossible
            exact impossible.elim

def copiedN (store : Store α) (offset n : Nat) : Nat :=
  min n (store.vector.m_dataSize - offset)

section Copies

variable {k : Nat} {after : Memory α} (whole : Whole environment.elements store)
  (target : Foreign environment store p k) (bound : offset + k ≤ store.vector.m_dataSize)

include whole target bound

theorem copiedOut_placed (nonnull : p ≠ 0 ∨ k = 0)
    (accepted : Accepted environment store.memory k) :
    ∃ after,
      copyToDirty environment p (p + k) (store.vector.m_p + offset) k store.memory =
        .ok () after ∧
      Placed environment .copy True store.memory p (store.vector.m_p + offset) k after := by
  have size := whole.standing.fits.size
  apply transferToDirty_placed .copy
  · obtain none | some := Nat.eq_zero_or_pos k
    · exact .inr none
    · left
      intro same
      have free := target.outside 0 some
      rw [Nat.add_zero, same] at free
      exact free (whole.own (show offset + k ≤ _ by omega) ⟨Nat.le_refl _, by omega⟩)
  · exact fun _ => target.fits
  · exact target.mapped
  · exact Standing.part whole.standing (by omega)
  · intro constructors some
    refine ⟨by omega, ?_, ?_⟩
    · intro index less
      rw [Nat.add_assoc]
      exact whole.filled.objects constructors (offset + index) (by omega)
    · intro index less
      exact iff_of_true (target.objects constructors index less) (by omega)
  · exact accepted

variable (placed : Placed environment .copy True store.memory p (store.vector.m_p + offset) k
  after)

include placed

theorem copiedOut_edited :
    Edited environment.elements store (Within p k) (Within p k) True store.contents
      ⟨after, store.vector⟩ := by
  have size := whole.standing.fits.size
  have kept {address : Nat} (mine : store.own environment.elements address) :
      after.slots address = store.memory.slots address :=
    placed.copied fun here => target.free here mine
  have edited : Edited environment.elements store (Within p k) (Within p k) True store.contents
      ⟨after, ⟨store.vector.m_p, store.contents.length, store.vector.m_allocatedSize,
        store.vector.m_AllocationManager⟩⟩ := by
    apply Edited.inPlace whole placed.storage
    · rw [length_contents]
      exact size
    · rw [length_contents]
      apply stretch_eq_iff.mpr
      intro index less
      apply kept
      apply whole.own (show 0 + store.vector.m_dataSize ≤ _ by omega)
      unfold Within
      omega
    · exact fun constructors => holds_of_mem_stretch (whole.filled.objects constructors)
    · intro constructors bytes held index less past
      have nonnull : store.vector.m_p ≠ 0 := by
        intro null
        rw [null, whole.standing.sound.null] at held
        cases held
      rw [kept (.inl ⟨⟨whole.standing.heap constructors, rfl, nonnull⟩, bytes, held,
        Nat.le_add_right _ _, Nat.add_lt_add_left less _⟩)]
      rw [length_contents] at past
      exact whole.filled.spare constructors held index less past
    · exact fun _ _ away => placed.copied away
    · apply placed.events.weaken
      intro event allowed
      exact ⟨fun _ => allowed.1.symm.imp_left (whole.own (show offset + k ≤ _ by omega)),
        fun _ => allowed.2 trivial⟩
  rw [length_contents] at edited
  exact edited

end Copies

theorem stretch_copiedN (within : offset ≤ store.vector.m_dataSize) :
    stretch store.memory.slots (store.vector.m_p + offset) (copiedN store offset n) =
      (store.contents.drop offset).take n := by
  unfold Store.contents
  rw [drop_stretch within]
  obtain less | more := Nat.le_total n (store.vector.m_dataSize - offset)
  · rw [take_stretch less, show copiedN store offset n = n from Nat.min_eq_left less]
  · rw [show copiedN store offset n = _ from Nat.min_eq_right more,
      List.take_of_length_le (by rwa [length_stretch])]

theorem copyN_edited (whole : Whole environment.elements store)
    (target : p ≠ 0 ∨ n = 0 → Foreign environment store p (copiedN store offset n))
    (noWrap : p ≠ 0 ∨ n = 0 → offset < store.vector.m_dataSize ∨ n = 0 →
      offset + n < environment.elements.sizeRange)
    (accepted : p ≠ 0 → Accepted environment store.memory (copiedN store offset n)) :
    Ended (fun ppNew after => ppNew = p + copiedN store offset n ∧
        Edited environment.elements store (Within p (copiedN store offset n))
          (Within p (copiedN store offset n)) True store.contents after ∧
        stretch after.memory.slots p (copiedN store offset n) =
          (store.contents.drop offset).take n)
      (Rejected store (Refuses store p n 0 (store.vector.m_dataSize < offset ∨
        offset = store.vector.m_dataSize ∧ n ≠ 0)))
      (copyN environment offset n p store) := by
  unfold copyN
  rw [bind_of_ok (get_apply store)]
  split
  · rename_i null
    exact rejected_fail (.invalid null.1 null.2)
  · rename_i valid
    split
    · rename_i past
      exact rejected_fail (.overflow past)
    · rename_i inside
      have argument : p ≠ 0 ∨ n = 0 := by omega
      have within : offset ≤ store.vector.m_dataSize := by omega
      have nReal : (if store.vector.m_dataSize < offset + n then
          store.vector.m_dataSize - offset else n) = copiedN store offset n := by
        unfold copiedN
        split <;> omega
      have bound : offset + copiedN store offset n ≤ store.vector.m_dataSize := by
        unfold copiedN
        omega
      have nonnull : p ≠ 0 ∨ copiedN store offset n = 0 := by
        unfold copiedN
        omega
      have unrefused : Accepted environment store.memory (copiedN store offset n) := by
        obtain some | none := nonnull
        · exact accepted some
        · rw [none]
          exact fun _ index less => absurd less (Nat.not_lt_zero index)
      obtain ⟨after, ran, placed⟩ :=
        copiedOut_placed whole (target argument) bound nonnull unrefused
      rw [Nat.mod_eq_of_lt (noWrap argument (by omega)), nReal,
        bind_of_ok (onMemory_of_ok ran)]
      refine ⟨rfl, copiedOut_edited whole (target argument) bound placed, ?_⟩
      rw [← stretch_copiedN within]
      exact stretch_eq_iff.mpr placed.values

end Vector

end CommonSerialization.Containers
