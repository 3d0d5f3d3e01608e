import CommonSerialization.Containers.Contents

namespace CommonSerialization.Containers

open StateExcept Storage

/-! Elements that are replaced, inserted, erased and copied without another block. -/

section Lists

variable {environment : Environment α} {store : Store α} {p n offset k : Nat}

/-- The contents of a vector in which elements from outside have taken the place of those
from one offset to another. -/
def spliced (store : Store α) (p n offset k : Nat) : List (Slot α) :=
  store.contents.take offset ++ stretch store.memory.slots p n ++ store.contents.drop k

theorem length_spliced (within : offset ≤ store.vector.m_dataSize) :
    (spliced store p n offset k).length = offset + n + (store.vector.m_dataSize - k) := by
  unfold spliced
  rw [List.length_append, List.length_append, length_stretch, List.length_take,
    List.length_drop, length_contents, Nat.min_eq_left within]

theorem holds_spliced (whole : Whole environment.elements store)
    (source : Foreign environment store p n)
    (constructors : environment.elements.constructorAllocator = true) :
    ∀ slot ∈ spliced store p n offset k, slot.holds := by
  intro slot member
  have old := holds_of_mem_stretch (whole.filled.objects constructors)
  unfold spliced at member
  rw [List.mem_append, List.mem_append] at member
  obtain (first | inserted) | last := member
  · exact old slot (List.mem_of_mem_take first)
  · exact holds_of_mem_stretch (source.objects constructors) slot inserted
  · exact old slot (List.mem_of_mem_drop last)

theorem Whole.vacant (whole : Whole environment.elements store)
    (constructors : environment.elements.constructorAllocator = true) {index : Nat}
    (past : store.vector.m_dataSize ≤ index)
    (inside : index < store.vector.m_allocatedSize) :
    store.memory.slots (store.vector.m_p + index) = .vacant := by
  have standing := whole.standing
  have mapped := standing.fits.mapped standing.sound index inside
  obtain ⟨_, none⟩ | ⟨_, bytes, held, room⟩ := standing.fits.block
  · omega
  · have fits : store.vector.m_allocatedSize ≤ environment.elements.room bytes :=
      (Nat.le_div_iff_mul_le environment.elements.size_pos).mpr room
    have free := whole.filled.spare constructors held index (by omega) past
    cases slot : store.memory.slots (store.vector.m_p + index) with
    | unmapped =>
        rw [slot] at mapped
        cases mapped
    | vacant => rfl
    | object value =>
        rw [slot] at free
        cases free

theorem Whole.nonnull (whole : Whole environment.elements store)
    (some : 0 < store.vector.m_allocatedSize) : store.vector.m_p ≠ 0 := by
  obtain ⟨_, none⟩ | ⟨nonnull, _⟩ := whole.standing.fits.block
  · omega
  · exact nonnull

end Lists

namespace Vector

variable {environment : Environment α} {store : Store α} {middle : Memory α}
  {p n offset : Nat} {written used : Nat → Prop} {tidy : Prop} {contents : List (Slot α)}

theorem Edited.inPlace (whole : Whole environment.elements store)
    (storage : SameStorage store.memory middle)
    (room : contents.length ≤ store.vector.m_allocatedSize)
    (values : stretch middle.slots store.vector.m_p contents.length = contents)
    (objects : environment.elements.constructorAllocator = true →
      ∀ slot ∈ contents, slot.holds)
    (spare : environment.elements.constructorAllocator = true → ∀ {bytes},
      store.memory.blocks store.vector.m_p = some bytes →
      ∀ index < environment.elements.room bytes, contents.length ≤ index →
      (middle.slots (store.vector.m_p + index)).holds = false)
    (outside : ∀ {address}, (store.memory.slots address).mapped →
      ¬store.own environment.elements address → ¬written address →
      middle.slots address = store.memory.slots address)
    (events : Grown (fun event => Nearby environment.elements store used event ∧
      (tidy → event.proper)) store.memory.log middle.log) :
    Edited environment.elements store written used tidy contents
      ⟨middle, ⟨store.vector.m_p, contents.length, store.vector.m_allocatedSize,
        store.vector.m_AllocationManager⟩⟩ := by
  have kept := Kept.sameStorage whole.standing storage room
  refine ⟨kept, ⟨kept.standing, whole.home, ?_, ?_⟩, values, outside, events⟩
  · intro constructors index inside
    dsimp only
    rw [getElem_of_stretch values inside]
    exact objects constructors _ (List.getElem_mem inside)
  · intro constructors bytes held index inside past
    have block : store.memory.blocks store.vector.m_p = some bytes := by
      rw [← storage.blocks]
      exact held
    exact spare constructors block index inside past

section InPlace

section Replacement

variable {k : Nat} {destroyed after : Memory α} (whole : Whole environment.elements store)
  (room : offset + n ≤ store.vector.m_allocatedSize)
  (source : Foreign environment store p n) (fewer : k ≤ n)
  (vacated : Vacated environment True store.memory (store.vector.m_p + offset) k destroyed)

include whole room source fewer vacated

theorem replaced_source {address : Nat} (there : Within p n address) :
    destroyed.slots address = store.memory.slots address := by
  apply vacated.outside
  intro other
  exact source.apart whole room address (by unfold Within at other ⊢; omega) there

/-- New elements are constructed where old ones have been destroyed, and behind the last. -/
theorem replaced_placed (short : k < n → offset + k = store.vector.m_dataSize)
    (accepted : Accepted environment store.memory n) :
    ∃ after,
      copyToRawNoOverlap environment (store.vector.m_p + offset) p n destroyed =
        .ok () after ∧
      Placed environment .copy True destroyed (store.vector.m_p + offset) p n after := by
  have apart := source.apart whole room
  have nonnull (some : 0 < offset + n) : store.vector.m_p + offset ≠ 0 := by
    have base := whole.nonnull (Nat.lt_of_lt_of_le some room)
    omega
  apply transferToRawNoOverlap_placed environment .copy
  · exact fun _ => ⟨source.fits, .inr (overlap_of_apart apart)⟩
  · exact fun _ => apart.sides
  · exact vacated.storage.mappedRange (Standing.part whole.standing room)
  · exact vacated.storage.mappedRange source.mapped
  · exact accepted.later (Nat.le_of_eq (Nat.zero_add n)) fun _ => vacated.counted
  · intro constructors _
    refine ⟨?_, ?_, apart⟩
    · intro index less
      rw [replaced_source whole room source fewer vacated
        ⟨Nat.le_add_right p index, Nat.add_lt_add_left less p⟩]
      exact source.objects constructors index less
    · intro index less
      rw [vacated.slots]
      by_cases cleared : index < k
      · rw [if_pos ⟨constructors, nonnull (by omega), by unfold Within; omega⟩]
      · rw [if_neg (by unfold Within; omega), Nat.add_assoc]
        exact whole.vacant constructors (by omega) (by omega)

variable (placed : Placed environment .copy True destroyed (store.vector.m_p + offset) p n after)

include placed

omit whole room source in
theorem replaced_elsewhere {address : Nat}
    (away : ¬Within (store.vector.m_p + offset) n address) :
    after.slots address = store.memory.slots address := by
  rw [placed.copied away]
  apply vacated.outside
  unfold Within at away ⊢
  omega

theorem replaced_contents (within : offset ≤ store.vector.m_dataSize) :
    stretch after.slots store.vector.m_p
        (offset + n + (store.vector.m_dataSize - (offset + n))) =
      spliced store p n offset (offset + n) := by
  apply stretch_splice within
  · intro index less
    exact replaced_elsewhere fewer vacated placed (by unfold Within; omega)
  · apply stretch_eq_iff.mpr
    intro index less
    rw [placed.values index less]
    exact replaced_source whole room source fewer vacated
      ⟨Nat.le_add_right p index, Nat.add_lt_add_left less p⟩
  · intro index less
    exact replaced_elsewhere fewer vacated placed (by unfold Within; omega)

omit source in
theorem replaced_events :
    Grown (fun event => Nearby environment.elements store (Within p n) event ∧
      (tidy → event.proper)) store.memory.log after.log := by
  apply Grown.trans
  · apply vacated.events.weaken
    intro event allowed
    refine ⟨fun _ => .inl (whole.own room ?_), fun _ => allowed.2 trivial⟩
    have here := allowed.1
    unfold Within at here ⊢
    omega
  · apply placed.events.weaken
    intro event allowed
    exact ⟨fun _ => allowed.1.imp_left (whole.own room), fun _ => allowed.2 trivial⟩

end Replacement

theorem replaceInPlace_edited (whole : Whole environment.elements store)
    (within : offset ≤ store.vector.m_dataSize)
    (room : offset + n ≤ store.vector.m_allocatedSize)
    (source : Foreign environment store p n)
    (accepted : Accepted environment store.memory n) :
    ∃ after, replaceInPlace environment p n offset store = .ok () ⟨after, store.vector⟩ ∧
      Edited environment.elements store written (Within p n) tidy
        (spliced store p n offset (offset + n))
        ⟨after, ⟨store.vector.m_p, (spliced store p n offset (offset + n)).length,
          store.vector.m_allocatedSize, store.vector.m_AllocationManager⟩⟩ := by
  have size := whole.standing.fits.size
  let k := if store.vector.m_dataSize - offset ≤ n then store.vector.m_dataSize - offset
    else n
  have bounds : k ≤ n ∧ offset + k ≤ store.vector.m_dataSize ∧
      (k < n → offset + k = store.vector.m_dataSize) := by
    dsimp only [k]
    split <;> omega
  obtain ⟨fewer, inside, short⟩ := bounds
  obtain ⟨destroyed, ranDestroy, vacated⟩ : ∃ destroyed,
      destroyN environment (store.vector.m_p + offset) k store.memory = .ok () destroyed ∧
      Vacated environment True store.memory (store.vector.m_p + offset) k destroyed := by
    apply destroyN_vacated environment
    · exact Standing.part whole.standing (by omega)
    · intro constructors _ _ index less
      rw [Nat.add_assoc]
      exact whole.filled.objects constructors (offset + index) (by omega)
  obtain ⟨after, ran, placed⟩ := replaced_placed whole room source fewer vacated short accepted
  refine ⟨after, ?_, ?_⟩
  · unfold replaceInPlace
    rw [bind_of_ok (get_apply store), bind_of_ok (onMemory_of_ok ranDestroy)]
    exact onMemory_of_ok ran
  · have total := length_spliced within (p := p) (n := n) (k := offset + n)
    apply Edited.inPlace whole (vacated.storage.trans placed.storage)
    · omega
    · rw [total]
      exact replaced_contents whole room source fewer vacated placed within
    · exact holds_spliced whole source
    · intro constructors bytes held index less past
      rw [replaced_elsewhere fewer vacated placed (by unfold Within; omega)]
      exact whole.filled.spare constructors held index less (by omega)
    · intro address mapped free _
      exact replaced_elsewhere fewer vacated placed fun here => free (whole.own room here)
    · exact replaced_events whole room fewer vacated placed

theorem tail_live (whole : Whole environment.elements store)
    (within : offset ≤ store.vector.m_dataSize)
    (room : store.vector.m_dataSize + n ≤ store.vector.m_allocatedSize)
    (constructors : environment.elements.constructorAllocator = true) :
    Objects store.memory.slots (store.vector.m_p + offset) (store.vector.m_dataSize - offset) ∧
      ∀ index < store.vector.m_dataSize - offset,
        (store.memory.slots (store.vector.m_p + (offset + n) + index)).holds ↔
          store.vector.m_p + (offset + n) + index <
            store.vector.m_p + store.vector.m_dataSize := by
  constructor
  · intro index less
    rw [Nat.add_assoc]
    exact whole.filled.objects constructors (offset + index) (by omega)
  · intro index less
    rw [Nat.add_assoc]
    by_cases old : offset + n + index < store.vector.m_dataSize
    · exact iff_of_true (whole.filled.objects constructors _ old) (by omega)
    · rw [whole.vacant constructors (Nat.not_lt.mp old) (by omega)]
      exact iff_of_false Bool.false_ne_true (by omega)

/-- The elements behind a position go to the right. -/
theorem moveTail_placed (whole : Whole environment.elements store) (some : n ≠ 0)
    (within : offset ≤ store.vector.m_dataSize)
    (room : store.vector.m_dataSize + n ≤ store.vector.m_allocatedSize)
    (accepted : Accepted environment store.memory (store.vector.m_dataSize - offset)) :
    ∃ middle,
      onlyIf (offset ≠ store.vector.m_dataSize) (onMemory (moveToDirty environment
        (store.vector.m_p + (offset + n)) (store.vector.m_p + store.vector.m_dataSize)
        (store.vector.m_p + offset) (store.vector.m_dataSize - offset)) : VProc α Unit)
        store = .ok () ⟨middle, store.vector⟩ ∧
      Placed environment .move True store.memory (store.vector.m_p + (offset + n))
        (store.vector.m_p + offset) (store.vector.m_dataSize - offset) middle := by
  have standing := whole.standing
  have nonnull := whole.nonnull (show 0 < store.vector.m_allocatedSize by omega)
  by_cases atEnd : offset = store.vector.m_dataSize
  · rw [onlyIf_neg (not_not.mpr atEnd), Nat.sub_eq_zero_of_le (Nat.le_of_eq atEnd.symm)]
    exact ⟨store.memory, rfl, Placed.nothing⟩
  · rw [onlyIf_pos atEnd]
    obtain ⟨middle, ran, placed⟩ : ∃ middle,
        moveToDirty environment (store.vector.m_p + (offset + n))
          (store.vector.m_p + store.vector.m_dataSize) (store.vector.m_p + offset)
          (store.vector.m_dataSize - offset) store.memory = .ok () middle ∧
        Placed environment .move True store.memory (store.vector.m_p + (offset + n))
          (store.vector.m_p + offset) (store.vector.m_dataSize - offset) middle := by
      apply transferToDirty_placed .move (.inl (by omega))
      · intro _
        exact Nat.lt_of_le_of_lt (Nat.mul_le_mul_right _ (by omega)) standing.small
      · exact Standing.part standing (by omega)
      · exact Standing.part standing (by omega)
      · exact fun constructors _ => ⟨by omega, tail_live whole within room constructors⟩
      · exact accepted
    exact ⟨middle, onMemory_of_ok ran, placed⟩

section Gap

variable {middle after : Memory α} (whole : Whole environment.elements store)
  (within : offset ≤ store.vector.m_dataSize)
  (room : store.vector.m_dataSize + n ≤ store.vector.m_allocatedSize)
  (source : Foreign environment store p n)
  (moved : Placed environment .move True store.memory (store.vector.m_p + (offset + n))
    (store.vector.m_p + offset) (store.vector.m_dataSize - offset) middle)

include whole within room source moved

theorem gap_source {address : Nat} (there : Within p n address) :
    middle.slots address = store.memory.slots address := by
  have apart : ¬Within (store.vector.m_p + 0) (store.vector.m_dataSize + n) address :=
    fun own =>
      source.free there (whole.own (show 0 + (store.vector.m_dataSize + n) ≤ _ by omega) own)
  unfold Within at apart
  exact moved.outside (by unfold Within; omega) (by unfold Within; omega)

/-- New elements are constructed where the tail was: over moved ones, unless there was no
tail. -/
theorem gap_placed
    (accepted : Accepted environment store.memory (store.vector.m_dataSize - offset + n))
    (clean : tidy → environment.elements.constructorAllocator = true →
      offset = store.vector.m_dataSize) :
    ∃ after,
      copyToRawNoOverlap environment (store.vector.m_p + offset) p n middle = .ok () after ∧
      Placed environment .copy tidy middle (store.vector.m_p + offset) p n after := by
  have apart := source.apart whole (show offset + n ≤ _ by omega)
  apply transferToRawNoOverlap_placed environment .copy
  · exact fun _ => ⟨source.fits, .inr (overlap_of_apart apart)⟩
  · exact fun _ => apart.sides
  · exact moved.storage.mappedRange (Standing.part whole.standing (by omega))
  · exact moved.storage.mappedRange source.mapped
  · exact accepted.later (Nat.le_refl (store.vector.m_dataSize - offset + n)) moved.counted
  · intro constructors is
    refine ⟨?_, ?_, apart⟩
    · intro index less
      rw [gap_source whole within room source moved
        ⟨Nat.le_add_right p index, Nat.add_lt_add_left less p⟩]
      exact source.objects constructors index less
    · intro index less
      have atEnd := clean is constructors
      rw [moved.outside (by unfold Within; omega) (by unfold Within; omega), Nat.add_assoc]
      exact whole.vacant constructors (by omega) (by omega)

variable (placed : Placed environment .copy tidy middle (store.vector.m_p + offset) p n after)

include placed

theorem gap_contents :
    stretch after.slots store.vector.m_p (offset + n + (store.vector.m_dataSize - offset)) =
      spliced store p n offset offset := by
  apply stretch_splice within
  · intro index less
    rw [placed.copied (by unfold Within; omega)]
    exact moved.outside (by unfold Within; omega) (by unfold Within; omega)
  · apply stretch_eq_iff.mpr
    intro index less
    rw [placed.values index less]
    exact gap_source whole within room source moved
      ⟨Nat.le_add_right p index, Nat.add_lt_add_left less p⟩
  · intro index less
    rw [placed.copied (by unfold Within; omega)]
    exact moved.values index less

omit source in
theorem gap_events :
    Grown (fun event => Nearby environment.elements store (Within p n) event ∧
      (tidy → event.proper)) store.memory.log after.log := by
  apply Grown.trans
  · apply moved.events.weaken
    intro event allowed
    refine ⟨fun _ => .inl (whole.own
      (show 0 + (store.vector.m_dataSize + n) ≤ _ by omega) ?_), fun _ => allowed.2 trivial⟩
    have here := allowed.1
    unfold Within at here ⊢
    omega
  · apply placed.events.weaken
    intro event allowed
    exact ⟨fun _ => allowed.1.imp_left (whole.own (show offset + n ≤ _ by omega)), allowed.2⟩

end Gap

/-- Elements are moved to the right, and new ones are constructed where they were. -/
theorem insertInPlace_edited (whole : Whole environment.elements store) (some : n ≠ 0)
    (within : offset ≤ store.vector.m_dataSize)
    (room : store.vector.m_dataSize + n ≤ store.vector.m_allocatedSize)
    (source : Foreign environment store p n)
    (accepted : Accepted environment store.memory (store.vector.m_dataSize - offset + n))
    (clean : tidy → environment.elements.constructorAllocator = true →
      offset = store.vector.m_dataSize) :
    ∃ after,
      insertInPlace environment p n offset (offset + n) (store.vector.m_dataSize - offset)
        store = .ok () ⟨after, store.vector⟩ ∧
      Edited environment.elements store written (Within p n) tidy
        (spliced store p n offset offset)
        ⟨after, ⟨store.vector.m_p, (spliced store p n offset offset).length,
          store.vector.m_allocatedSize, store.vector.m_AllocationManager⟩⟩ := by
  obtain ⟨middle, ranMove, moved⟩ := moveTail_placed whole some within room
    (accepted.later (show 0 + (store.vector.m_dataSize - offset) ≤ _ by omega) fun _ => rfl)
  obtain ⟨after, ran, placed⟩ := gap_placed whole within room source moved accepted clean
  refine ⟨after, ?_, ?_⟩
  · unfold insertInPlace
    rw [bind_of_ok (get_apply store), bind_of_ok ranMove]
    exact onMemory_of_ok ran
  · have total := length_spliced within (p := p) (n := n) (k := offset)
    apply Edited.inPlace whole (moved.storage.trans placed.storage)
    · omega
    · rw [total]
      exact gap_contents whole within room source moved placed
    · exact holds_spliced whole source
    · intro constructors bytes held index less past
      rw [placed.copied (by unfold Within; omega),
        moved.outside (by unfold Within; omega) (by unfold Within; omega)]
      exact whole.filled.spare constructors held index less (by omega)
    · intro address mapped free _
      have away : ¬Within (store.vector.m_p + 0) (store.vector.m_dataSize + n) address :=
        fun inside =>
          free (whole.own (show 0 + (store.vector.m_dataSize + n) ≤ _ by omega) inside)
      unfold Within at away
      rw [placed.copied (by unfold Within; omega)]
      exact moved.outside (by unfold Within; omega) (by unfold Within; omega)
    · exact gap_events whole within room moved placed

end InPlace

section Erasures

/-- What an erasure does, element by element: the tail goes to the left, and its old
places are cleared, those too that it has taken meanwhile. -/
theorem eraseElements_run (whole : Whole environment.elements store) (some : n ≠ 0)
    (within : offset + n ≤ store.vector.m_dataSize)
    (short : environment.elements.constructorAllocator = false →
      store.vector.m_dataSize - (offset + n) ≤ n)
    (accepted : Accepted environment store.memory
      (store.vector.m_dataSize - (offset + n))) :
    ∃ destroyed moved after,
      eraseElements environment offset n store = .ok () ⟨after, ⟨store.vector.m_p,
        offset + (store.vector.m_dataSize - (offset + n)), store.vector.m_allocatedSize,
        store.vector.m_AllocationManager⟩⟩ ∧
      Vacated environment True store.memory (store.vector.m_p + offset) n destroyed ∧
      Placed environment .move (store.vector.m_dataSize - (offset + n) ≤ n) destroyed
        (store.vector.m_p + offset) (store.vector.m_p + (offset + n))
        (store.vector.m_dataSize - (offset + n)) moved ∧
      Vacated environment (store.vector.m_dataSize - (offset + n) ≤ n) moved
        (store.vector.m_p + (offset + n)) (store.vector.m_dataSize - (offset + n)) after := by
  have standing := whole.standing
  have size := standing.fits.size
  have nonnull := whole.nonnull (show 0 < store.vector.m_allocatedSize by omega)
  have part {first length : Nat} (bound : first + length ≤ store.vector.m_dataSize) :
      Mapped store.memory.slots (store.vector.m_p + first) length :=
    Standing.part standing (by omega)
  have objects {first length : Nat} (bound : first + length ≤ store.vector.m_dataSize)
      (constructors : environment.elements.constructorAllocator = true) :
      Objects store.memory.slots (store.vector.m_p + first) length := by
    intro index less
    rw [Nat.add_assoc]
    exact whole.filled.objects constructors (first + index) (by omega)
  obtain ⟨destroyed, ranDestroy, vacated⟩ : ∃ destroyed,
      destroyN environment (store.vector.m_p + offset) n store.memory = .ok () destroyed ∧
      Vacated environment True store.memory (store.vector.m_p + offset) n destroyed :=
    destroyN_vacated environment (part within)
      fun constructors _ _ => objects within constructors
  have tailKept : ∀ index < store.vector.m_dataSize - (offset + n),
      destroyed.slots (store.vector.m_p + (offset + n) + index) =
        store.memory.slots (store.vector.m_p + (offset + n) + index) := by
    intro index less
    apply vacated.outside
    unfold Within
    omega
  obtain ⟨moved, ranMove, placed⟩ : ∃ moved,
      moveToRawNoOverlap environment (store.vector.m_p + offset)
        (store.vector.m_p + (offset + n)) (store.vector.m_dataSize - (offset + n))
        destroyed = .ok () moved ∧
      Placed environment .move (store.vector.m_dataSize - (offset + n) ≤ n) destroyed
        (store.vector.m_p + offset) (store.vector.m_p + (offset + n))
        (store.vector.m_dataSize - (offset + n)) moved := by
    apply transferToRawNoOverlap_placed environment .move
    · intro raw
      have tail := short raw
      refine ⟨Nat.lt_of_le_of_lt (Nat.mul_le_mul_right _ (by omega)) standing.small,
        .inr (overlap_of_apart ?_)⟩
      unfold Apart Within
      omega
    · exact fun _ => .inl (by omega)
    · exact vacated.storage.mappedRange (part (by omega))
    · exact vacated.storage.mappedRange (part (by omega))
    · exact accepted.later (show 0 + (store.vector.m_dataSize - (offset + n)) ≤ _ by omega)
        fun _ => vacated.counted
    · intro constructors tail
      refine ⟨?_, ?_, ?_⟩
      · intro index less
        rw [tailKept index less]
        exact objects (show offset + n + (store.vector.m_dataSize - (offset + n)) ≤ _ by omega)
          constructors index less
      · intro index less
        rw [vacated.slots, if_pos ⟨constructors, by omega, by unfold Within; omega⟩]
      · unfold Apart Within
        omega
  obtain ⟨after, ranLast, cleared⟩ : ∃ after,
      destroyN environment (store.vector.m_p + (offset + n))
        (store.vector.m_dataSize - (offset + n)) moved = .ok () after ∧
      Vacated environment (store.vector.m_dataSize - (offset + n) ≤ n) moved
        (store.vector.m_p + (offset + n)) (store.vector.m_dataSize - (offset + n)) after := by
    apply destroyN_vacated environment
    · exact (vacated.storage.trans placed.storage).mappedRange (part (by omega))
    · intro constructors _ tail index less
      rw [placed.holdsElsewhere (by unfold Within; omega), tailKept index less]
      exact objects (show offset + n + (store.vector.m_dataSize - (offset + n)) ≤ _ by omega)
        constructors index less
  refine ⟨destroyed, moved, after, ?_, vacated, placed, cleared⟩
  unfold eraseElements
  rw [bind_of_ok (get_apply store), bind_of_ok (onMemory_of_ok ranDestroy),
    bind_of_ok (onMemory_of_ok ranMove), bind_of_ok (onMemory_of_ok ranLast)]
  rfl

theorem eraseElements_edited (whole : Whole environment.elements store) (some : n ≠ 0)
    (within : offset + n ≤ store.vector.m_dataSize)
    (short : store.vector.m_dataSize - (offset + n) ≤ n)
    (accepted : Accepted environment store.memory
      (store.vector.m_dataSize - (offset + n))) :
    Ended (fun _ => Edited environment.elements store written used tidy
        (store.contents.take offset ++ store.contents.drop (offset + n)))
      (fun _ _ => False) (eraseElements environment offset n store) := by
  have standing := whole.standing
  have size := standing.fits.size
  obtain ⟨destroyed, moved, after, ran, vacated, placed, cleared⟩ :=
    eraseElements_run whole some within (fun _ => short) accepted
  have total : (store.contents.take offset ++ store.contents.drop (offset + n)).length =
      offset + (store.vector.m_dataSize - (offset + n)) := by
    rw [List.length_append, List.length_take, List.length_drop, length_contents,
      Nat.min_eq_left (by omega)]
  have inBlock {address : Nat} (away : ¬Within (store.vector.m_p + offset)
      (store.vector.m_dataSize - offset) address) :
      after.slots address = store.memory.slots address := by
    unfold Within at away
    rw [cleared.outside (by unfold Within; omega),
      placed.outside (by unfold Within; omega) (by unfold Within; omega)]
    exact vacated.outside (by unfold Within; omega)
  have own {first length : Nat} (inside : offset ≤ first)
      (bound : first + length ≤ store.vector.m_dataSize) {address : Nat}
      (here : Within (store.vector.m_p + first) length address) :
      store.own environment.elements address :=
    whole.own (show first + length ≤ _ by omega) here
  rw [ran]
  show Edited _ _ _ _ _ _ _
  rw [← total]
  apply Edited.inPlace whole ((vacated.storage.trans placed.storage).trans cleared.storage)
  · omega
  · rw [total, ← List.append_nil (store.contents.take offset)]
    apply stretch_splice (n := 0) (by omega)
    · intro index less
      exact inBlock (by unfold Within; omega)
    · rfl
    · intro index less
      rw [Nat.add_zero, cleared.outside (by unfold Within; omega), placed.values index less]
      exact vacated.outside (by unfold Within; omega)
  · intro constructors slot member
    have old := holds_of_mem_stretch (whole.filled.objects constructors)
    obtain first | last := List.mem_append.mp member
    · exact old slot (List.mem_of_mem_take first)
    · exact old slot (List.mem_of_mem_drop last)
  · intro constructors bytes held index less past
    rw [total] at past
    have nonnull := whole.nonnull (show 0 < store.vector.m_allocatedSize by omega)
    by_cases old : store.vector.m_dataSize ≤ index
    · rw [inBlock (by unfold Within; omega)]
      exact whole.filled.spare constructors held index less old
    · rw [cleared.slots]
      split
      · rfl
      · rename_i kept
        have away : ¬Within (store.vector.m_p + (offset + n))
            (store.vector.m_dataSize - (offset + n)) (store.vector.m_p + index) :=
          fun inside => kept ⟨constructors, by omega, inside⟩
        unfold Within at away
        rw [placed.outside (by unfold Within; omega) (by unfold Within; omega),
          vacated.slots, if_pos ⟨constructors, by omega, by unfold Within; omega⟩]
        rfl
  · intro address _ free _
    exact inBlock fun inside => free (own (Nat.le_refl offset) (by omega) inside)
  · apply Grown.trans
    · apply vacated.events.weaken
      intro event allowed
      exact ⟨fun _ => .inl (own (Nat.le_refl offset) within allowed.1),
        fun _ => allowed.2 trivial⟩
    · apply Grown.trans
      · apply placed.events.weaken
        intro event allowed
        refine ⟨fun _ => .inl ?_, fun _ => allowed.2 short⟩
        obtain dest | source := allowed.1
        · exact own (Nat.le_refl offset) (by omega) dest
        · exact own (Nat.le_add_right offset n) (by omega) source
      · apply cleared.events.weaken
        intro event allowed
        exact ⟨fun _ => .inl (own (Nat.le_add_right offset n) (by omega) allowed.1),
          fun _ => allowed.2 short⟩

end Erasures

end Vector

end CommonSerialization.Containers
