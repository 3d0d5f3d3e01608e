import CommonSerialization.Containers.Rebuilt

namespace CommonSerialization.Containers

open StateExcept Storage

/-! What the elements of a vector are after the functions that work at a position. -/

/-- Elements that are not in the storage of the vector. -/
structure Foreign (environment : Environment α) (store : Store α) (p n : Nat) : Prop where
  mapped : Mapped store.memory.slots p n
  outside : ∀ index < n, ¬store.own environment.elements (p + index)
  objects : environment.elements.constructorAllocator = true →
    Objects store.memory.slots p n
  fits : n * environment.elements.size < environment.elements.sizeRange

/-- Nothing has happened but requests for memory. -/
structure Unchanged (store after : Store α) : Prop where
  vector : after.vector = store.vector
  memory : Untouched store.memory after.memory

/-- The elements of the vector are others now.  Besides its own storage only what is at
addresses that are written has changed, and only what is at addresses that are used has
been looked at. -/
structure Edited (elements : Elements) (store : Store α) (written used : Nat → Prop)
    (tidy : Prop) (contents : List (Slot α)) (after : Store α) : Prop where
  kept : Kept elements store after
  whole : Whole elements after
  contents : after.contents = contents
  outside : ∀ {address}, (store.memory.slots address).mapped →
    ¬store.own elements address → ¬written address →
    after.memory.slots address = store.memory.slots address
  events : Grown (fun event => Nearby elements store used event ∧ (tidy → event.proper))
    store.memory.log after.memory.log

section Sources

variable {environment : Environment α} {store : Store α} {p n offset k : Nat}

theorem Whole.own (whole : Whole environment.elements store)
    (bound : offset + k ≤ store.vector.m_allocatedSize) {address : Nat}
    (inside : Within (store.vector.m_p + offset) k address) :
    store.own environment.elements address := by
  apply whole.standing.own whole.home
  unfold Within at inside ⊢
  omega

theorem Foreign.free (source : Foreign environment store p n) {address : Nat}
    (inside : Within p n address) : ¬store.own environment.elements address := by
  have outside := source.outside (address - p) (by unfold Within at inside; omega)
  rwa [Nat.add_sub_cancel' inside.1] at outside

theorem Foreign.apart (source : Foreign environment store p n)
    (whole : Whole environment.elements store)
    (bound : offset + k ≤ store.vector.m_allocatedSize) :
    Apart (store.vector.m_p + offset) k p n :=
  fun _ inside other => source.free other (whole.own bound inside)

theorem Unchanged.contents {after : Store α} (unchanged : Unchanged store after) :
    after.contents = store.contents := by
  unfold Store.contents
  rw [unchanged.vector, unchanged.memory.slots]

theorem Unchanged.events {after : Store α} {allowed : Event → Prop}
    (unchanged : Unchanged store after) :
    Grown allowed store.memory.log after.memory.log := by
  rw [unchanged.memory.log]
  exact Grown.refl _

end Sources

namespace Vector

variable {environment : Environment α} {store : Store α} {before current : Memory α}
  {space m k n p offset count : Nat} {used : Nat → Prop} {built : List (Slot α)}

theorem Rebuilt.resized {after : Store α} {written : Nat → Prop} {tidy : Prop}
    (rebuilt : Rebuilt environment store used built after)
    (objects : environment.elements.constructorAllocator = true →
      ∀ slot ∈ built, slot.holds) :
    Edited environment.elements store written used tidy built
      ⟨after.memory, ⟨after.vector.m_p, built.length, after.vector.m_allocatedSize,
        after.vector.m_AllocationManager⟩⟩ := by
  have kept := rebuilt.kept.trans (Kept.sameStorage rebuilt.kept.standing
    (SameStorage.refl after.memory) rebuilt.room)
  refine ⟨kept, ⟨kept.standing, rebuilt.home, ?_, ?_⟩, rebuilt.values,
    fun mapped free _ => rebuilt.outside mapped free, ?_⟩
  · intro constructors index inside
    dsimp only
    rw [getElem_of_stretch rebuilt.values inside]
    exact objects constructors _ (List.getElem_mem inside)
  · intro constructors bytes held index inside past
    dsimp only
    rw [rebuilt.spare constructors held index inside past]
    rfl
  · apply rebuilt.events.weaken
    intro event allowed
    exact ⟨allowed.1, fun _ => allowed.2⟩

section Requests

variable {storage memorySize needed : Nat} {manager : AllocationManager}

/-- A request that may be denied: a keeper denies only what is more than it keeps. -/
def Deniable (manager : AllocationManager) (needed : Nat) : Prop :=
  match manager.allocator with
  | .heap => True
  | .keeper storage memorySize => storage = 0 ∨ needed = 0 ∨ memorySize < needed

theorem allocateImpl_available (current : Memory α)
    (keeper : manager.allocator = .keeper storage memorySize) (nonnull : storage ≠ 0)
    (some : needed ≠ 0) (available : needed ≤ memorySize)
    (fits : manager.RequestFits environment.elements needed) :
    ∃ allocatedN, manager.allocateImpl environment needed current =
      .ok (storage, allocatedN) current := by
  have strictly (allocator : Allocator) (same : allocator = .keeper storage memorySize) :
      (do
        let p ← allocator.allocate environment needed
        return (p, if p ≠ 0 then needed else 0) : MProc α (Nat × Nat)) current =
          .ok (storage, needed) current := by
    have answered : allocator.allocate environment needed current = .ok storage current := by
      rw [same]
      simp only [Allocator.allocate]
      rw [if_pos ⟨available, some⟩]
      rfl
    rw [bind_of_ok answered, if_pos nonnull]
    rfl
  cases manager with
  | generic allocator => exact ⟨needed, strictly allocator keeper⟩
  | strategic allocator strategy =>
      cases strategy with
      | strictByDataSize => exact ⟨needed, strictly allocator keeper⟩
      | doubleOfDataSize =>
          have doubledFits : needed * 2 < environment.elements.sizeRange :=
            Nat.lt_of_le_of_lt
              (Nat.le_mul_of_pos_right _ environment.elements.size_pos) fits
          have attempt : (AllocationManager.strategic allocator .doubleOfDataSize).allocateMore
              environment .doubleOfDataSize
              (needed * 2 % environment.elements.sizeRange) current =
                .ok (if needed * 2 ≤ memorySize ∧ needed * 2 ≠ 0 then storage else 0)
                  current := by
            rw [Nat.mod_eq_of_lt doubledFits]
            simp only [AllocationManager.allocateMore, AllocationManager.allocateStrictImpl,
              keeper]
            rfl
          unfold AllocationManager.allocateImpl
          dsimp only
          rw [bind_of_ok attempt, Nat.mod_eq_of_lt doubledFits]
          by_cases more : needed * 2 ≤ memorySize ∧ needed * 2 ≠ 0
          · rw [if_pos more, if_pos nonnull]
            exact ⟨needed * 2, rfl⟩
          · rw [if_neg more, if_neg (not_not.mpr rfl)]
            exact ⟨needed, strictly allocator keeper⟩

/-- A request for another block, which fails only if it may be denied. -/
theorem allocate_answers (standing : Standing environment.elements store)
    (fits : store.vector.m_AllocationManager.RequestFits environment.elements needed)
    {next : Nat × Nat → VProc α β} {good : β → Store α → Prop}
    {bad : Fault → Store α → Prop}
    (denied : Deniable store.vector.m_AllocationManager needed →
      ∀ n memory, Untouched store.memory memory →
      Ended good bad (next (0, n) ⟨memory, store.vector⟩))
    (granted : ∀ space n memory, needed ≤ n →
      NewSpace environment.elements store.vector.m_AllocationManager store.memory memory
        space n →
      Ended good bad (next (space, n) ⟨memory, store.vector⟩)) :
    Ended good bad ((onMemory (store.vector.m_AllocationManager.allocate environment
      needed) >>= next) store) := by
  by_cases deniable : Deniable store.vector.m_AllocationManager needed
  · exact allocate_ended standing fits (denied deniable) granted
  · cases allocator : store.vector.m_AllocationManager.allocator with
    | heap =>
        unfold Deniable at deniable
        rw [allocator] at deniable
        exact absurd trivial deniable
    | keeper storage memorySize =>
        unfold Deniable at deniable
        rw [allocator] at deniable
        simp only [not_or, Nat.not_lt] at deniable
        obtain ⟨nonnull, some, available⟩ := deniable
        obtain ⟨n, ran⟩ := allocateImpl_available store.memory allocator nonnull some
          available fits
        have whole : store.vector.m_AllocationManager.allocate environment needed
            store.memory = .ok (storage, n) store.memory := by
          unfold AllocationManager.allocate
          rw [bind_of_ok ran]
          dsimp only
          rw [bind_of_ok (AllocationManager.answer_block store.memory nonnull)]
          rfl
        have supplied := AllocationManager.allocate_supplied standing.sound
          standing.provided fits
        rw [whole] at supplied
        rw [bind_of_ok (onMemory_of_ok whole)]
        obtain ⟨⟨null, _⟩ | ⟨_, enough, answered⟩, _⟩ := supplied
        · exact absurd null nonnull
        · exact granted storage n store.memory enough answered

end Requests

section Elsewhere

theorem Building.first (whole : Whole environment.elements store)
    (answered : NewSpace environment.elements store.vector.m_AllocationManager store.memory
      before space m)
    (bound : k ≤ store.vector.m_dataSize) (enough : k ≤ m)
    (accepted : Accepted environment store.memory count) (fewer : k ≤ count) :
    ∃ first,
      moveToRawNoOverlap environment space store.vector.m_p k before = .ok () first ∧
      Building environment store before space used
        (stretch store.memory.slots store.vector.m_p k) first ∧
      ∀ index < store.vector.m_dataSize, k ≤ index →
        first.slots (store.vector.m_p + index) =
          store.memory.slots (store.vector.m_p + index) := by
  have standing := whole.standing
  have size := standing.fits.size
  have own : ∀ index < k,
      store.own environment.elements (store.vector.m_p + index) := by
    intro index inside
    apply standing.own whole.home
    unfold Within
    omega
  have started : Building environment store before space used [] before :=
    Building.start standing answered
  obtain ⟨first, ran, placed, building⟩ :=
    started.add standing answered (show 0 + k ≤ m by omega)
      (fun index inside => standing.elementsMapped index (by omega)) .move (fun _ => own)
      (fun index inside => .inl (own index inside))
      (fun _ => newSpace_movable standing answered enough (by omega))
      (fun constructors index inside =>
        whole.filled.objects constructors index (by omega))
      accepted (show 0 + k ≤ count by omega)
  have same : stretch before.slots store.vector.m_p k =
      stretch store.memory.slots store.vector.m_p k := by
    apply stretch_eq_iff.mpr
    intro index inside
    exact answered.outside (standing.elementsMapped index (by omega))
  rw [List.nil_append, same] at building
  refine ⟨first, ran, building, ?_⟩
  intro index inside past
  have mapped := standing.elementsMapped index inside
  rw [← answered.outside mapped]
  apply placed.outside
  · intro within
    have other := (own_of_newSpace answered
      (show Within space m (store.vector.m_p + index) from
        within_offset (show 0 + k ≤ m by omega) within) mapped).2
    cases allocator : store.vector.m_AllocationManager.allocator with
    | heap => exact other allocator
    | keeper storage memorySize =>
        obtain ⟨_, _, keeper, _⟩ := answered.kept other
        rw [allocator] at keeper
        cases keeper
        obtain none | ⟨isStorage, _⟩ := whole.home _ _ allocator
        · omega
        · unfold Within at within
          rw [isStorage] at within
          simp only [List.length_nil] at within
          omega
  · unfold Within
    omega

theorem Building.copied (whole : Whole environment.elements store)
    (answered : NewSpace environment.elements store.vector.m_AllocationManager store.memory
      before space m)
    (building : Building environment store before space (Within p n) built current)
    (source : Foreign environment store p n) (bound : built.length + n ≤ m)
    (accepted : Accepted environment store.memory count)
    (fewer : built.length + n ≤ count) :
    ∃ after,
      copyToRawNoOverlap environment (space + built.length) p n current = .ok () after ∧
      Placed environment .copy True current (space + built.length) p n after ∧
      Building environment store before space (Within p n)
        (built ++ stretch store.memory.slots p n) after := by
  obtain ⟨after, ran, placed, next⟩ := building.add whole.standing answered bound
    source.mapped .copy (fun impossible => by cases impossible)
    (fun index inside => .inr ⟨Nat.le_add_right p index, Nat.add_lt_add_left inside p⟩)
    (by
      intro _
      refine ⟨source.fits, .inr (overlap_of_apart ?_)⟩
      intro address inside other
      have mapped := source.mapped (address - p) (by unfold Within at other; omega)
      rw [Nat.add_sub_cancel' other.1] at mapped
      exact source.free other (own_of_newSpace answered (within_offset bound inside) mapped).1)
    source.objects accepted fewer
  have same : stretch current.slots p n = stretch store.memory.slots p n := by
    apply stretch_eq_iff.mpr
    intro index inside
    exact building.outside (source.mapped index inside) (source.outside index inside)
  rw [same] at next
  exact ⟨after, ran, placed, next⟩

/-- A keeper has given only what it keeps. -/
def Available (store : Store α) (needed : Nat) : Prop :=
  ∀ storage memorySize,
    store.vector.m_AllocationManager.allocator = .keeper storage memorySize →
    needed ≤ memorySize

theorem NewSpace.available
    (answered : NewSpace environment.elements store.vector.m_AllocationManager store.memory
      before space m) {needed : Nat} (enough : needed ≤ m) : Available store needed := by
  intro storage memorySize keeper
  have other : store.vector.m_AllocationManager.allocator ≠ .heap := by
    rw [keeper]
    exact fun same => by cases same
  obtain ⟨_, _, isKeeper, room⟩ := answered.kept other
  rw [keeper] at isKeeper
  cases isKeeper
  exact Nat.le_trans enough room

/-- Without space nothing has happened; else the elements are in another block. -/
def EndsRebuilt (environment : Environment α) (store : Store α) (needed : Nat)
    (used : Nat → Prop) (built : List (Slot α))
    (result : EStateM.Result Fault (Store α) β) : Prop :=
  Ended (fun _ after => Rebuilt environment store used built after ∧ Available store needed)
    (fun fault after => fault = .status .errorNoMemory ∧
      Deniable store.vector.m_AllocationManager needed ∧ Unchanged store after) result

theorem length_first (bound : k ≤ store.vector.m_dataSize) :
    (store.contents.take k).length = k := by
  rw [List.length_take, length_contents, Nat.min_eq_left bound]

theorem replaceElsewhere_rebuilt (whole : Whole environment.elements store)
    (grows : store.vector.m_allocatedSize < offset + n)
    (within : offset ≤ store.vector.m_dataSize)
    (source : Foreign environment store p n)
    (fits : store.vector.m_AllocationManager.RequestFits environment.elements (offset + n))
    (accepted : Accepted environment store.memory (offset + n)) :
    EndsRebuilt environment store (offset + n) (Within p n)
      (store.contents.take offset ++ stretch store.memory.slots p n)
      (replaceElsewhere environment p n offset (offset + n) store) := by
  have standing := whole.standing
  have size := standing.fits.size
  have length := length_first within
  unfold replaceElsewhere
  rw [bind_of_ok (get_apply store)]
  apply allocate_answers standing fits
  · intro deniable _ memory untouched
    exact ⟨rfl, deniable, rfl, untouched⟩
  · intro space m before enough answered
    dsimp only
    rw [if_pos answered.nonnull, bind_of_ok (setAllocatedSize_apply m)]
    obtain ⟨first, ranFirst, building, _⟩ :=
      Building.first whole answered within (show offset ≤ m by omega) accepted
        (Nat.le_add_right offset n)
    rw [← take_stretch within] at building
    rw [bind_of_ok (onMemory_of_ok ranFirst)]
    obtain ⟨second, ranSecond, _, copied⟩ :=
      Building.copied whole answered building source
        (show (store.contents.take offset).length + n ≤ m by omega) accepted
        (show (store.contents.take offset).length + n ≤ offset + n by omega)
    change copyToRawNoOverlap environment (space + (store.contents.take offset).length) _ _ _ =
      _ at ranSecond
    rw [length] at ranSecond
    rw [bind_of_ok (onMemory_of_ok ranSecond)]
    have total : (store.contents.take offset ++ stretch store.memory.slots p n).length =
        offset + n := by
      rw [List.length_append, length_stretch, length]
    obtain ⟨after, ran, rebuilt⟩ :=
      copied.finish standing answered (le_of_eq_of_le total enough)
        (show store.vector.m_dataSize ≤ m by omega) whole.filled
    rw [ran]
    exact ⟨rebuilt, NewSpace.available answered enough⟩

/-- What follows inserted elements in new space.  A keeper's space is the old one, and
the elements have been written over by then. -/
def tailElsewhere (store : Store α) (p n offset : Nat) : List (Slot α) :=
  match store.vector.m_AllocationManager.allocator with
  | .heap => store.contents.drop offset
  | .keeper _ _ =>
      (stretch store.memory.slots p n).take (store.vector.m_dataSize - offset)

theorem newSpace_keeper (whole : Whole environment.elements store)
    (answered : NewSpace environment.elements store.vector.m_AllocationManager store.memory
      before space m) {storage memorySize : Nat}
    (keeper : store.vector.m_AllocationManager.allocator = .keeper storage memorySize)
    (some : 0 < store.vector.m_dataSize) : space = store.vector.m_p := by
  have size := whole.standing.fits.size
  have other : store.vector.m_AllocationManager.allocator ≠ .heap := by
    rw [keeper]
    exact fun same => by cases same
  obtain ⟨_, _, isKeeper, _⟩ := answered.kept other
  rw [keeper] at isKeeper
  cases isKeeper
  obtain none | ⟨isStorage, _⟩ := whole.home _ _ keeper
  · omega
  · exact isStorage.symm

theorem Building.tail (whole : Whole environment.elements store)
    (answered : NewSpace environment.elements store.vector.m_AllocationManager store.memory
      before space m) {first : Memory α}
    (building : Building environment store before space (Within p n)
      (store.contents.take offset) first)
    (kept : ∀ index < store.vector.m_dataSize, offset ≤ index →
      first.slots (store.vector.m_p + index) = store.memory.slots (store.vector.m_p + index))
    (placed : Placed environment .copy True first (space + offset) p n current)
    (copied : Building environment store before space (Within p n)
      (store.contents.take offset ++ stretch store.memory.slots p n) current)
    (source : Foreign environment store p n) (within : offset < store.vector.m_dataSize)
    (enough : store.vector.m_dataSize + n ≤ m)
    (short : store.vector.m_AllocationManager.allocator ≠ .heap →
      Available store (store.vector.m_dataSize + n) → store.vector.m_dataSize - offset ≤ n)
    (accepted : Accepted environment store.memory (store.vector.m_dataSize + n)) :
    ∃ after,
      moveToRawNoOverlap environment (space + (offset + n)) (store.vector.m_p + offset)
        (store.vector.m_dataSize - offset) current = .ok () after ∧
      Building environment store before space (Within p n)
        (store.contents.take offset ++ stretch store.memory.slots p n ++
          tailElsewhere store p n offset) after := by
  have standing := whole.standing
  have size := standing.fits.size
  have total : (store.contents.take offset ++ stretch store.memory.slots p n).length =
      offset + n := by
    rw [List.length_append, length_stretch, length_first (Nat.le_of_lt within)]
  have right : Mapped store.memory.slots (store.vector.m_p + offset)
      (store.vector.m_dataSize - offset) := Standing.part standing (by omega)
  have own : ∀ index < store.vector.m_dataSize - offset,
      store.own environment.elements (store.vector.m_p + offset + index) := by
    intro index inside
    apply whole.own (show offset + (store.vector.m_dataSize - offset) ≤ _ by omega)
    unfold Within
    omega
  obtain ⟨after, ran, _, moved⟩ := copied.add standing answered
    (show (store.contents.take offset ++ stretch store.memory.slots p n).length +
      (store.vector.m_dataSize - offset) ≤ m by omega)
    right .move (fun _ => own) (fun index inside => .inl (own index inside))
    (by
      intro _
      refine ⟨Nat.lt_of_le_of_lt (Nat.mul_le_mul_right _ (by omega)) standing.small, .inr ?_⟩
      apply overlap_of_apart
      rw [total]
      cases allocator : store.vector.m_AllocationManager.allocator with
      | heap => exact newSpace_apart answered allocator (by omega) right
      | keeper storage memorySize =>
          have long := short (by rw [allocator]; exact fun same => by cases same)
            (NewSpace.available answered enough)
          rw [newSpace_keeper whole answered allocator (by omega)]
          unfold Apart Within
          omega)
    (by
      intro constructors index inside
      rw [Nat.add_assoc]
      exact whole.filled.objects constructors (offset + index) (by omega))
    accepted (show (store.contents.take offset ++ stretch store.memory.slots p n).length +
      (store.vector.m_dataSize - offset) ≤ _ by omega)
  rw [total] at ran
  have tail : stretch current.slots (store.vector.m_p + offset)
      (store.vector.m_dataSize - offset) = tailElsewhere store p n offset := by
    unfold tailElsewhere
    cases allocator : store.vector.m_AllocationManager.allocator with
    | heap =>
        dsimp only
        unfold Store.contents
        rw [drop_stretch (Nat.le_of_lt within)]
        apply stretch_eq_iff.mpr
        intro index inside
        rw [placed.copied, Nat.add_assoc, kept (offset + index) (by omega) (by omega)]
        intro inNew
        exact (own_of_newSpace answered
          (within_offset (show offset + n ≤ m by omega) inNew) (right index inside)).2 allocator
    | keeper storage memorySize =>
        have long := short (by rw [allocator]; exact fun same => by cases same)
            (NewSpace.available answered enough)
        dsimp only
        rw [take_stretch long, ← newSpace_keeper whole answered allocator (by omega)]
        apply stretch_eq_iff.mpr
        intro index inside
        rw [placed.values index (by omega)]
        exact building.outside (source.mapped index (by omega))
          (source.outside index (by omega))
  rw [tail] at moved
  exact ⟨after, ran, moved⟩

theorem insertElsewhere_rebuilt (whole : Whole environment.elements store)
    (within : offset ≤ store.vector.m_dataSize)
    (source : Foreign environment store p n)
    (short : store.vector.m_AllocationManager.allocator ≠ .heap →
      Available store (store.vector.m_dataSize + n) → store.vector.m_dataSize - offset ≤ n)
    (fits : store.vector.m_AllocationManager.RequestFits environment.elements
      (store.vector.m_dataSize + n))
    (accepted : Accepted environment store.memory (store.vector.m_dataSize + n)) :
    EndsRebuilt environment store (store.vector.m_dataSize + n) (Within p n)
      (store.contents.take offset ++ stretch store.memory.slots p n ++
        tailElsewhere store p n offset)
      (insertElsewhere environment p n offset (offset + n) (store.vector.m_dataSize + n)
        (store.vector.m_dataSize - offset) store) := by
  have standing := whole.standing
  have length := length_first within
  unfold insertElsewhere
  rw [bind_of_ok (get_apply store)]
  apply allocate_answers standing fits
  · intro deniable _ memory untouched
    exact ⟨rfl, deniable, rfl, untouched⟩
  · intro space m before enough answered
    dsimp only
    rw [if_pos answered.nonnull, bind_of_ok (setAllocatedSize_apply m)]
    obtain ⟨first, ranFirst, building, kept⟩ :=
      Building.first whole answered within (show offset ≤ m by omega) accepted
        (show offset ≤ store.vector.m_dataSize + n by omega)
    rw [← take_stretch within] at building
    rw [bind_of_ok (onMemory_of_ok ranFirst)]
    obtain ⟨second, ranSecond, placed, copied⟩ :=
      Building.copied whole answered building source
        (show (store.contents.take offset).length + n ≤ m by omega) accepted
        (show (store.contents.take offset).length + n ≤ _ by omega)
    change copyToRawNoOverlap environment (space + (store.contents.take offset).length) _ _ _ =
      _ at ranSecond
    change Placed environment .copy True first (space + (store.contents.take offset).length)
      _ _ _ at placed
    rw [length] at ranSecond placed
    rw [bind_of_ok (onMemory_of_ok ranSecond)]
    have moved : ∃ last, onlyIf (offset ≠ store.vector.m_dataSize)
        (onMemory (moveToRawNoOverlap environment (space + (offset + n))
          (store.vector.m_p + offset) (store.vector.m_dataSize - offset)) : VProc α Unit)
        ⟨second, ⟨store.vector.m_p, store.vector.m_dataSize, m,
          store.vector.m_AllocationManager⟩⟩ =
          .ok () ⟨last, ⟨store.vector.m_p, store.vector.m_dataSize, m,
            store.vector.m_AllocationManager⟩⟩ ∧
        Building environment store before space (Within p n)
          (store.contents.take offset ++ stretch store.memory.slots p n ++
            tailElsewhere store p n offset) last := by
      by_cases atEnd : offset = store.vector.m_dataSize
      · have none : tailElsewhere store p n offset = [] := by
          unfold tailElsewhere
          split
          · exact drop_stretch_of_le (Nat.le_of_eq atEnd.symm)
          · rw [atEnd, Nat.sub_self]
            rfl
        rw [onlyIf_neg (not_not.mpr atEnd), none, List.append_nil]
        exact ⟨second, rfl, copied⟩
      · rw [onlyIf_pos atEnd]
        obtain ⟨third, ranThird, last⟩ := Building.tail whole answered building kept placed
          copied source (by omega) enough short accepted
        exact ⟨third, onMemory_of_ok ranThird, last⟩
    obtain ⟨last, ranLast, built⟩ := moved
    rw [bind_of_ok ranLast]
    have total : (store.contents.take offset ++ stretch store.memory.slots p n ++
        tailElsewhere store p n offset).length ≤ m := by
      have tail : (tailElsewhere store p n offset).length ≤
          store.vector.m_dataSize - offset := by
        unfold tailElsewhere
        split
        · rw [List.length_drop, length_contents]
        · exact List.length_take_le _ _
      rw [List.length_append, List.length_append, length_stretch, length]
      omega
    obtain ⟨after, ran, rebuilt⟩ :=
      built.finish standing answered total (show store.vector.m_dataSize ≤ m by omega)
        whole.filled
    rw [ran]
    exact ⟨rebuilt, NewSpace.available answered enough⟩

end Elsewhere

end Vector

end CommonSerialization.Containers
