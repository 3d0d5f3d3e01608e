import CommonSerialization.Containers.VectorKept

namespace CommonSerialization.Containers

open StateExcept Storage

/-! The same for the functions that work at a position, and for `init`. -/

namespace Vector

variable {environment : Environment α} {store : Store α} {p n offset needed : Nat}

structure Enlarged (elements : Elements) (store : Store α) (needed : Nat)
    (after : Store α) : Prop where
  kept : Kept elements store after
  size : after.vector.m_dataSize = store.vector.m_dataSize
  enough : needed ≤ after.vector.m_allocatedSize

section Elsewhere

variable {before : Memory α} {space q k : Nat}

/-- Elements from outside, or from the old block, can be put into new space. -/
theorem newSpace_unobstructed
    (answered : NewSpace environment.elements store.vector.m_AllocationManager store.memory
      before space n)
    (bound : offset + k ≤ n) (mapped : Mapped store.memory.slots q k)
    (fits : k * environment.elements.size < environment.elements.sizeRange)
    (there : ∀ storage memorySize,
      store.vector.m_AllocationManager.allocator = .keeper storage memorySize →
      storage + offset = q ∨ areRegionsOverlap (storage + offset) q k = false) :
    OctetsMovable environment.elements (space + offset) q k where
  fits := fits
  apart := by
    cases allocator : store.vector.m_AllocationManager.allocator with
    | heap => exact .inr (overlap_of_apart (newSpace_apart answered allocator bound mapped))
    | keeper storage memorySize =>
        have other : store.vector.m_AllocationManager.allocator ≠ .heap := by
          rw [allocator]
          exact fun same => by cases same
        obtain ⟨_, size, keeper, _⟩ := answered.kept other
        rw [allocator] at keeper
        cases keeper
        exact there _ _ allocator

theorem newSpace_destination
    (answered : NewSpace environment.elements store.vector.m_AllocationManager store.memory
      before space n)
    (bound : offset + k ≤ n) : Mapped before.slots (space + offset) k := by
  intro index inside
  rw [Nat.add_assoc]
  exact answered.roomy.mapped answered.sound (offset + index) (by omega)

end Elsewhere

structure PlaceSource (environment : Environment α) (store : Store α)
    (needed offset p n : Nat) : Prop where
  mapped : Mapped store.memory.slots p n
  unobstructed : environment.elements.constructorAllocator = false →
    Unobstructed environment store needed offset p n

/-- What taking another block needs to succeed, if there is one: a request that does not
wrap, and constructions that are accepted. -/
def BlockAllowed (environment : Environment α) (store : Store α) (needed count : Nat) :
    Prop :=
  store.vector.m_allocatedSize < needed →
    store.vector.m_AllocationManager.RequestFits environment.elements needed ∧
    Accepted environment store.memory count

section Blocks

theorem allocate_ended (standing : Standing environment.elements store)
    (fits : store.vector.m_AllocationManager.RequestFits environment.elements needed)
    {next : Nat × Nat → VProc α β} {good : β → Store α → Prop}
    {bad : Fault → Store α → Prop}
    (denied : ∀ n memory, Untouched store.memory memory →
      Ended good bad (next (0, n) ⟨memory, store.vector⟩))
    (granted : ∀ space n memory, needed ≤ n →
      NewSpace environment.elements store.vector.m_AllocationManager store.memory memory
        space n →
      Ended good bad (next (space, n) ⟨memory, store.vector⟩)) :
    Ended good bad ((onMemory (store.vector.m_AllocationManager.allocate environment
      needed) >>= next) store) := by
  apply Ended.bind
  · apply (onMemory_ended (AllocationManager.allocate_supplied standing.sound
      standing.provided fits)).weaken
    · intro answer after supplied
      exact supplied
    · intro _ _ impossible
      exact impossible.1.elim
  · intro answer middle supplied
    obtain ⟨space, n⟩ := answer
    obtain ⟨memory, vector⟩ := middle
    obtain ⟨⟨⟨null, untouched⟩ | ⟨_, enough, answered⟩, _⟩, same⟩ := supplied
    · cases same
      cases null
      exact denied n memory untouched
    · cases same
      exact granted space n memory enough answered

theorem replaceElsewhere_enlarged (standing : Standing environment.elements store)
    (grows : store.vector.m_allocatedSize < needed)
    (within : offset ≤ store.vector.m_dataSize)
    (room : store.vector.m_dataSize ≤ needed ∧ offset + n ≤ needed)
    (source : PlaceSource environment store needed offset p n)
    (allowed : BlockAllowed environment store needed (offset + n)) :
    Ended (fun _ => Enlarged environment.elements store needed)
      (fun fault after => fault = .status .errorNoMemory ∧
        NoSpace environment.elements store after)
      (replaceElsewhere environment p n offset needed store) := by
  obtain ⟨fits, accepted⟩ := allowed grows
  have size := standing.fits.size
  unfold replaceElsewhere
  rw [bind_of_ok (get_apply store)]
  apply allocate_ended standing fits
  · intro _ memory untouched
    exact ⟨rfl, noSpace_of_untouched standing untouched⟩
  · intro space m before enough answered
    dsimp only
    rw [if_pos answered.nonnull, bind_of_ok (setAllocatedSize_apply m)]
    dsimp only
    have destination : Mapped before.slots space offset := by
      have whole := newSpace_destination answered (show 0 + offset ≤ m by omega)
      rwa [Nat.add_zero] at whole
    obtain ⟨first, ranFirst, sameFirst, countedFirst⟩ :=
      transferToRawNoOverlap_accepted environment .move
        (fun _ => newSpace_movable standing answered (show offset ≤ m by omega) (by omega))
        destination
        (fun index bound => answered.mapped (standing.elementsMapped index (by omega)))
        (accepted.later (show 0 + offset ≤ _ by omega) (fun _ => answered.constructions))
    rw [bind_of_ok (onMemory_of_ok ranFirst)]
    dsimp only
    have fitsInto : offset + n ≤ m := by omega
    obtain ⟨second, ranSecond, sameSecond, _⟩ :=
      transferToRawNoOverlap_accepted environment .copy
        (fun raw => newSpace_unobstructed answered fitsInto source.mapped
          (source.unobstructed raw).fits ((source.unobstructed raw).there grows))
        (sameFirst.mappedRange (newSpace_destination answered fitsInto))
        (sameFirst.mappedRange fun index bound => answered.mapped (source.mapped index bound))
        (accepted.later (Nat.le_refl (offset + n))
          (fun constructors => by rw [countedFirst constructors, answered.constructions]))
    rw [bind_of_ok (onMemory_of_ok ranSecond)]
    obtain ⟨after, settled, kept, _⟩ :=
      settle standing answered (sameFirst.trans sameSecond) (by omega)
    rw [settled]
    exact ⟨kept, rfl, enough⟩

theorem insertElsewhere_enlarged (standing : Standing environment.elements store)
    (grows : store.vector.m_allocatedSize < store.vector.m_dataSize + n)
    (within : offset ≤ store.vector.m_dataSize)
    (source : PlaceSource environment store (store.vector.m_dataSize + n) offset p n)
    (allowed : BlockAllowed environment store (store.vector.m_dataSize + n)
      (store.vector.m_dataSize + n))
    (tail : environment.elements.constructorAllocator = false →
      ∀ storage memorySize,
        store.vector.m_AllocationManager.allocator = .keeper storage memorySize →
        storage + (offset + n) = store.vector.m_p + offset ∨
          areRegionsOverlap (storage + (offset + n)) (store.vector.m_p + offset)
            (store.vector.m_dataSize - offset) = false) :
    Ended (fun _ =>
        Enlarged environment.elements store (store.vector.m_dataSize + n))
      (fun fault after => fault = .status .errorNoMemory ∧
        NoSpace environment.elements store after)
      (insertElsewhere environment p n offset (offset + n) (store.vector.m_dataSize + n)
        (store.vector.m_dataSize - offset) store) := by
  obtain ⟨fits, accepted⟩ := allowed grows
  have size := standing.fits.size
  unfold insertElsewhere
  rw [bind_of_ok (get_apply store)]
  apply allocate_ended standing fits
  · intro _ memory untouched
    exact ⟨rfl, noSpace_of_untouched standing untouched⟩
  · intro space m before enough answered
    dsimp only
    rw [if_pos answered.nonnull, bind_of_ok (setAllocatedSize_apply m)]
    dsimp only
    have destination : Mapped before.slots space offset := by
      have whole := newSpace_destination answered (show 0 + offset ≤ m by omega)
      rwa [Nat.add_zero] at whole
    obtain ⟨first, ranFirst, sameFirst, countedFirst⟩ :=
      transferToRawNoOverlap_accepted environment .move
        (fun _ => newSpace_movable standing answered (show offset ≤ m by omega) (by omega))
        destination
        (fun index bound => answered.mapped (standing.elementsMapped index (by omega)))
        (accepted.later (show 0 + offset ≤ _ by omega) (fun _ => answered.constructions))
    rw [bind_of_ok (onMemory_of_ok ranFirst)]
    dsimp only
    have fitsInto : offset + n ≤ m := by omega
    obtain ⟨second, ranSecond, sameSecond, countedSecond⟩ :=
      transferToRawNoOverlap_accepted environment .copy
        (fun raw => newSpace_unobstructed answered fitsInto source.mapped
          (source.unobstructed raw).fits ((source.unobstructed raw).there grows))
        (sameFirst.mappedRange (newSpace_destination answered fitsInto))
        (sameFirst.mappedRange fun index bound => answered.mapped (source.mapped index bound))
        (accepted.later (show offset + n ≤ _ by omega)
          (fun constructors => by rw [countedFirst constructors, answered.constructions]))
    rw [bind_of_ok (onMemory_of_ok ranSecond)]
    dsimp only
    have same := sameFirst.trans sameSecond
    have right : Mapped store.memory.slots (store.vector.m_p + offset)
        (store.vector.m_dataSize - offset) := by
      intro index bound
      rw [Nat.add_assoc]
      exact standing.elementsMapped (offset + index) (by omega)
    have room : offset + n + (store.vector.m_dataSize - offset) ≤ m := by omega
    obtain ⟨third, ranThird, sameThird, _⟩ :=
      transferToRawNoOverlap_accepted environment .move
        (fun raw => newSpace_unobstructed answered room right
          (Nat.lt_of_le_of_lt (Nat.mul_le_mul_right _ (by omega)) standing.small) (tail raw))
        (same.mappedRange (newSpace_destination answered room))
        (same.mappedRange fun index bound => answered.mapped (right index bound))
        (accepted.later (show offset + n + (store.vector.m_dataSize - offset) ≤ _ by omega)
          (fun constructors => by
            rw [countedSecond constructors, countedFirst constructors,
              answered.constructions, Nat.add_assoc]))
    have moved : ∃ last, onlyIf (offset ≠ store.vector.m_dataSize)
        (onMemory (moveToRawNoOverlap environment (space + (offset + n))
          (store.vector.m_p + offset) (store.vector.m_dataSize - offset)) : VProc α Unit)
        ⟨second, ⟨store.vector.m_p, store.vector.m_dataSize, m,
          store.vector.m_AllocationManager⟩⟩ =
          .ok () ⟨last, ⟨store.vector.m_p, store.vector.m_dataSize, m,
            store.vector.m_AllocationManager⟩⟩ ∧
        SameStorage second last := by
      by_cases atEnd : offset = store.vector.m_dataSize
      · rw [onlyIf_neg (not_not.mpr atEnd)]
        exact ⟨second, rfl, SameStorage.refl second⟩
      · rw [onlyIf_pos atEnd]
        exact ⟨third, onMemory_of_ok ranThird, sameThird⟩
    obtain ⟨last, ranLast, sameLast⟩ := moved
    rw [bind_of_ok ranLast]
    obtain ⟨after, settled, kept, _⟩ :=
      settle standing answered (same.trans sameLast) (by omega)
    rw [settled]
    exact ⟨kept, rfl, enough⟩

end Blocks

section InPlace

structure Still (store after : Store α) : Prop where
  vector : after.vector = store.vector
  storage : SameStorage store.memory after.memory

theorem Still.trans {middle after : Store α} (first : Still store middle)
    (second : Still middle after) : Still store after :=
  ⟨second.vector.trans first.vector, first.storage.trans second.storage⟩

def EndsStill (store : Store α) (result : EStateM.Result Fault (Store α) β) : Prop :=
  Ended (fun _ => Still store)
    (fun fault after => (∃ status, fault = .status status) ∧ Still store after) result

theorem onMemory_still {proc : MProc α β} (kept : KeptBy store.memory (proc store.memory)) :
    EndsStill store (onMemory proc store) := by
  cases ran : proc store.memory with
  | ok value memory =>
      rw [onMemory_of_ok ran]
      rw [ran] at kept
      exact ⟨rfl, kept⟩
  | error fault memory =>
      rw [onMemory_of_error ran]
      rw [ran] at kept
      cases fault with
      | status status => exact ⟨⟨status, rfl⟩, rfl, kept⟩
      | exception => exact kept.elim
      | undefinedBehaviour => exact kept.elim
      | outOfFuel => exact kept.elim

theorem EndsStill.bind {first : VProc α β} {next : β → VProc α γ}
    (still : EndsStill store (first store))
    (later : ∀ value middle, Still store middle → EndsStill middle (next value middle)) :
    EndsStill store ((first >>= next) store) := by
  apply Ended.bind still
  intro value middle kept
  apply (later value middle kept).weaken
  · intro _ after last
    exact kept.trans last
  · intro fault after last
    exact ⟨last.1, kept.trans last.2⟩

theorem EndsStill.onlyIf {condition : Prop} [Decidable condition] {proc : VProc α Unit}
    (still : condition → EndsStill store (proc store)) :
    EndsStill store (onlyIf condition proc store) := by
  apply Ended.onlyIf still
  intro _
  exact ⟨rfl, SameStorage.refl store.memory⟩

theorem Still.kept {after : Store α} (still : Still store after)
    (standing : Standing environment.elements store) :
    Kept environment.elements store after := by
  have kept := Kept.sameStorage standing still.storage standing.fits.size
  obtain ⟨memory, vector⟩ := after
  cases still.vector
  exact kept

variable {k : Nat}

theorem Standing.part (standing : Standing environment.elements store)
    (bound : offset + k ≤ store.vector.m_allocatedSize) :
    Mapped store.memory.slots (store.vector.m_p + offset) k := by
  intro index inside
  rw [Nat.add_assoc]
  exact standing.fits.mapped standing.sound (offset + index) (by omega)

theorem replaceInPlace_still (standing : Standing environment.elements store)
    (room : offset + n ≤ store.vector.m_allocatedSize)
    (enough : needed ≤ store.vector.m_allocatedSize)
    (source : PlaceSource environment store needed offset p n) :
    EndsStill store (replaceInPlace environment p n offset store) := by
  have size := standing.fits.size
  unfold replaceInPlace
  rw [bind_of_ok (get_apply store)]
  apply EndsStill.bind
  · apply onMemory_still
    apply destroyN_kept
    apply Standing.part standing
    split <;> omega
  · intro _ middle still
    apply onMemory_still
    apply transferToRawNoOverlap_kept
    · intro raw
      exact ⟨(source.unobstructed raw).fits, (source.unobstructed raw).here enough⟩
    · exact still.storage.mappedRange (Standing.part standing room)
    · exact still.storage.mappedRange source.mapped

theorem insertInPlace_still (standing : Standing environment.elements store)
    (within : offset ≤ store.vector.m_dataSize)
    (room : store.vector.m_dataSize + n ≤ store.vector.m_allocatedSize)
    (source : PlaceSource environment store (store.vector.m_dataSize + n) offset p n) :
    EndsStill store (insertInPlace environment p n offset (offset + n)
      (store.vector.m_dataSize - offset) store) := by
  have size := standing.fits.size
  unfold insertInPlace
  rw [bind_of_ok (get_apply store)]
  apply EndsStill.bind
  · apply EndsStill.onlyIf
    intro _
    apply onMemory_still
    apply transferToDirty_kept
    · intro _
      exact Nat.lt_of_le_of_lt (Nat.mul_le_mul_right _ (by omega)) standing.small
    · exact Standing.part standing (by omega)
    · exact Standing.part standing (by omega)
  · intro _ middle still
    apply onMemory_still
    apply transferToRawNoOverlap_kept
    · intro raw
      exact ⟨(source.unobstructed raw).fits, (source.unobstructed raw).here room⟩
    · exact still.storage.mappedRange (Standing.part standing (by omega))
    · exact still.storage.mappedRange source.mapped

end InPlace

section Members

theorem endsKept_resize {proc : VProc α Unit} {bad : Nat → Prop}
    (ended : Ended (fun _ => Enlarged environment.elements store needed)
      (fun fault after => (∃ status, fault = .status status) ∧
        Kept environment.elements store after ∧ bad after.vector.m_dataSize) (proc store))
    (value : β) :
    EndsKept environment.elements store (· = needed) bad
      ((proc >>= fun _ => setDataSize needed >>= fun _ => pure value : VProc α β) store) := by
  apply Ended.bind ended
  intro _ middle enlarged
  rw [bind_of_ok (setDataSize_apply needed)]
  exact ⟨enlarged.kept.trans (Kept.sameStorage enlarged.kept.standing
    (SameStorage.refl middle.memory) enlarged.enough), rfl⟩

theorem enlarged_of_still {proc : VProc α Unit}
    (standing : Standing environment.elements store)
    (enough : needed ≤ store.vector.m_allocatedSize) (still : EndsStill store (proc store)) :
    Ended (fun _ => Enlarged environment.elements store needed)
      (fun fault after => (∃ status, fault = .status status) ∧
        Kept environment.elements store after ∧
        after.vector.m_dataSize = store.vector.m_dataSize) (proc store) := by
  apply still.weaken
  · intro _ after kept
    exact ⟨kept.kept standing, by rw [kept.vector], by rw [kept.vector]; exact enough⟩
  · intro fault after kept
    exact ⟨kept.1, kept.2.kept standing, by rw [kept.2.vector]⟩

theorem enlarged_or_noSpace {proc : VProc α Unit}
    (ended : Ended (fun _ => Enlarged environment.elements store needed)
      (fun fault after => fault = .status .errorNoMemory ∧
        NoSpace environment.elements store after) (proc store)) :
    Ended (fun _ => Enlarged environment.elements store needed)
      (fun fault after => (∃ status, fault = .status status) ∧
        Kept environment.elements store after ∧
        after.vector.m_dataSize = store.vector.m_dataSize) (proc store) := by
  apply ended.weaken
  · intro _ _ enlarged
    exact enlarged
  · intro fault after failed
    exact ⟨⟨_, failed.1⟩, failed.2.kept, by rw [failed.2.vector]⟩

structure ReplaceAllowed (environment : Environment α) (store : Store α)
    (p n offset : Nat) : Prop where
  noWrap : offset + n < environment.elements.sizeRange
  source : PlaceSource environment store (max store.vector.m_dataSize (offset + n)) offset p n
  block : BlockAllowed environment store (max store.vector.m_dataSize (offset + n))
    (offset + n)

theorem replace_kept (standing : Standing environment.elements store)
    (allowed : ¬(p = 0 ∧ n ≠ 0) → offset ≤ store.vector.m_dataSize →
      ReplaceAllowed environment store p n offset) :
    EndsKept environment.elements store
      (· = max store.vector.m_dataSize (offset + n)) (· = store.vector.m_dataSize)
      (replace environment p n offset store) := by
  unfold replace
  rw [bind_of_ok (get_apply store)]
  split
  · apply endsKept_fail standing
    rfl
  · rename_i valid
    split
    · apply endsKept_fail standing
      rfl
    · rename_i inside
      have within := Nat.not_lt.mp inside
      obtain ⟨noWrap, source, block⟩ := allowed valid within
      have newSize : (if store.vector.m_dataSize < offset + n then offset + n
          else store.vector.m_dataSize) = max store.vector.m_dataSize (offset + n) := by
        split <;> omega
      rw [Nat.mod_eq_of_lt noWrap]
      dsimp only
      rw [newSize]
      apply endsKept_resize
      unfold replaceElements
      rw [bind_of_ok (get_apply store)]
      split
      · rename_i grows
        apply enlarged_or_noSpace
        exact replaceElsewhere_enlarged standing grows within ⟨by omega, by omega⟩ source block
      · rename_i stays
        have enough := Nat.not_lt.mp stays
        apply enlarged_of_still standing enough
        exact replaceInPlace_still standing (by omega) enough source

/-- What `insert` needs besides arguments that it accepts: the tail must not be written
over on the way to new space either. -/
structure InsertAllowed (environment : Environment α) (store : Store α)
    (p n offset : Nat) : Prop where
  source : PlaceSource environment store (store.vector.m_dataSize + n) offset p n
  block : BlockAllowed environment store (store.vector.m_dataSize + n)
    (store.vector.m_dataSize + n)
  tail : store.vector.m_allocatedSize < store.vector.m_dataSize + n →
    environment.elements.constructorAllocator = false → ∀ storage memorySize,
      store.vector.m_AllocationManager.allocator = .keeper storage memorySize →
      storage + (offset + n) = store.vector.m_p + offset ∨
        areRegionsOverlap (storage + (offset + n)) (store.vector.m_p + offset)
          (store.vector.m_dataSize - offset) = false

theorem insert_kept (standing : Standing environment.elements store)
    (inRange : n < environment.elements.sizeRange)
    (allowed : ¬(p = 0 ∧ n ≠ 0) → offset ≤ store.vector.m_dataSize →
      store.vector.m_dataSize + n < environment.elements.sizeRange →
      InsertAllowed environment store p n offset) :
    EndsKept environment.elements store (· = store.vector.m_dataSize + n)
      (· = store.vector.m_dataSize) (insert environment p n offset store) := by
  have size := standing.fits.size
  unfold insert
  rw [bind_of_ok (get_apply store)]
  split
  · apply endsKept_fail standing
    rfl
  · rename_i valid
    split
    · apply endsKept_fail standing
      rfl
    · rename_i inside
      have within := Nat.not_lt.mp inside
      dsimp only
      by_cases noWrap : store.vector.m_dataSize + n < environment.elements.sizeRange
      · obtain ⟨source, block, tail⟩ := allowed valid within noWrap
        rw [Nat.mod_eq_of_lt noWrap,
          Nat.mod_eq_of_lt (Nat.lt_of_le_of_lt (Nat.add_le_add_right within n) noWrap)]
        apply endsKept_resize
        unfold insertNewElements
        rw [bind_of_ok (get_apply store)]
        split
        · rename_i grows
          apply enlarged_or_noSpace
          exact insertElsewhere_enlarged standing grows within source block (tail grows)
        · rename_i stays
          have enough := Nat.not_lt.mp stays
          apply enlarged_of_still standing enough
          split
          · exact insertInPlace_still standing within enough source
          · rw [if_neg (by omega)]
            exact ⟨rfl, SameStorage.refl store.memory⟩
      · have wrapped : (store.vector.m_dataSize + n) % environment.elements.sizeRange <
            store.vector.m_dataSize ∨ environment.elements.sizeRange ≤
              store.vector.m_dataSize := by
          by_cases small : store.vector.m_dataSize < environment.elements.sizeRange
          · left
            rw [Nat.mod_eq_sub_mod (Nat.not_lt.mp noWrap), Nat.mod_eq_of_lt (by omega)]
            omega
          · exact .inr (Nat.not_lt.mp small)
        obtain less | impossible := wrapped
        · have refused : insertNewElements environment p n offset
              ((offset + n) % environment.elements.sizeRange)
              ((store.vector.m_dataSize + n) % environment.elements.sizeRange) store =
                .error (.status .errorOverflow) store := by
            unfold insertNewElements
            rw [bind_of_ok (get_apply store)]
            rw [if_neg (by omega), if_neg (by omega), if_pos less]
            rfl
          rw [bind_of_error refused]
          exact ⟨⟨_, rfl⟩, Kept.refl standing, rfl⟩
        · have small := standing.small
          have some := Nat.le_mul_of_pos_right store.vector.m_allocatedSize
            environment.elements.size_pos
          omega

/-- Elements that are moved to the left over erased ones must not overlap with their
places, where octets are moved. -/
theorem eraseElements_kept (standing : Standing environment.elements store)
    (within : offset + n ≤ store.vector.m_dataSize)
    (short : environment.elements.constructorAllocator = false →
      store.vector.m_dataSize - (offset + n) ≤ n) :
    EndsKept environment.elements store (· = store.vector.m_dataSize - n)
      (· = store.vector.m_dataSize) (eraseElements environment offset n store) := by
  have size := standing.fits.size
  have moved : EndsStill store ((onMemory (destroyN environment
      (store.vector.m_p + offset) n) >>= fun _ =>
    onMemory (moveToRawNoOverlap environment (store.vector.m_p + offset)
      (store.vector.m_p + (offset + n)) (store.vector.m_dataSize - (offset + n))) >>= fun _ =>
    onMemory (destroyN environment (store.vector.m_p + (offset + n))
      (store.vector.m_dataSize - (offset + n))) : VProc α Unit) store) := by
    apply EndsStill.bind
    · apply onMemory_still
      apply destroyN_kept
      exact Standing.part standing (by omega)
    · intro _ destroyed sameDestroyed
      apply EndsStill.bind
      · apply onMemory_still
        apply transferToRawNoOverlap_kept
        · intro raw
          have tail := short raw
          refine ⟨Nat.lt_of_le_of_lt (Nat.mul_le_mul_right _ (by omega)) standing.small,
            .inr (overlap_of_apart ?_)⟩
          unfold Apart Within
          omega
        · exact sameDestroyed.storage.mappedRange (Standing.part standing (by omega))
        · exact sameDestroyed.storage.mappedRange (Standing.part standing (by omega))
      · intro _ transferred sameTransferred
        apply onMemory_still
        apply destroyN_kept
        exact (sameDestroyed.trans sameTransferred).storage.mappedRange
          (Standing.part standing (by omega))
  have newSize : offset + (store.vector.m_dataSize - (offset + n)) =
      store.vector.m_dataSize - n := by omega
  unfold eraseElements
  rw [bind_of_ok (get_apply store)]
  dsimp only
  rw [newSize]
  simp only [← bind_assoc] at moved ⊢
  apply Ended.bind (enlarged_of_still standing
    (show store.vector.m_dataSize - n ≤ store.vector.m_allocatedSize by omega) moved)
  intro _ middle enlarged
  exact ⟨enlarged.kept.trans (Kept.sameStorage enlarged.kept.standing
    (SameStorage.refl middle.memory) enlarged.enough), rfl⟩

def erasedN (store : Store α) (offset n : Nat) : Nat :=
  min n (store.vector.m_dataSize - offset)

theorem erase_kept (standing : Standing environment.elements store)
    (inRange : n < environment.elements.sizeRange)
    (short : environment.elements.constructorAllocator = false →
      offset < store.vector.m_dataSize → n ≠ 0 →
      store.vector.m_dataSize - (offset + erasedN store offset n) ≤ erasedN store offset n) :
    EndsKept environment.elements store
      (· = store.vector.m_dataSize - erasedN store offset n)
      (· = store.vector.m_dataSize) (erase environment offset n store) := by
  unfold erase
  rw [bind_of_ok (get_apply store)]
  split
  · apply endsKept_fail standing
    rfl
  · rename_i inside
    split
    · rename_i nothing
      refine ⟨Kept.refl standing, ?_⟩
      unfold erasedN
      omega
    · rename_i nonzero
      have within : offset < store.vector.m_dataSize := by omega
      have range := standing.sizeInRange
      split
      · rename_i past
        have all : erasedN store offset n = store.vector.m_dataSize - offset := by
          unfold erasedN
          by_cases wraps : offset + n < environment.elements.sizeRange
          · rw [Nat.mod_eq_of_lt wraps] at past
            omega
          · omega
        rw [all] at short ⊢
        apply eraseElements_kept standing (by omega)
        intro raw
        exact short raw within nonzero
      · rename_i inner
        have some : erasedN store offset n = n := by
          unfold erasedN
          by_cases wraps : offset + n < environment.elements.sizeRange
          · rw [Nat.mod_eq_of_lt wraps] at inner
            omega
          · rw [Nat.mod_eq_sub_mod (Nat.not_lt.mp wraps), Nat.mod_eq_of_lt (by omega)] at inner
            omega
        have bound : n ≤ store.vector.m_dataSize - offset := by
          rw [← some]
          exact Nat.min_le_right _ _
        rw [some] at short ⊢
        apply eraseElements_kept standing (by omega)
        intro raw
        exact short raw within nonzero

theorem eraseRange_kept (standing : Standing environment.elements store)
    {destBegin destEnd : Nat}
    (short : environment.elements.constructorAllocator = false →
      store.vector.m_p ≤ destBegin → destBegin < destEnd →
      store.vector.m_p + store.vector.m_dataSize - destEnd ≤ destEnd - destBegin) :
    EndsKept environment.elements store
      (fun size => destBegin - store.vector.m_p ≤ size ∧ size ≤ store.vector.m_dataSize)
      (· = store.vector.m_dataSize) (eraseRange environment destBegin destEnd store) := by
  unfold eraseRange
  rw [bind_of_ok (get_apply store)]
  split
  · apply endsKept_fail standing
    rfl
  · rename_i ordered
    split
    · apply endsKept_fail standing
      rfl
    · rename_i inside
      unfold isIteratorNotDereferenceable at inside
      simp only [Bool.or_eq_true, decide_eq_true_eq, not_or, Nat.not_lt, Nat.not_le] at inside
      split
      · refine ⟨Kept.refl standing, ?_, Nat.le_refl _⟩
        omega
      · split
        · rename_i past
          apply Ended.weaken (eraseElements_kept standing (by omega) ?_)
          · intro _ after ended
            refine ⟨ended.1, ?_, ?_⟩
            · rw [ended.2]
              omega
            · rw [ended.2]
              omega
          · intro fault after ended
            exact ended
          · intro raw
            omega
        · rename_i inner
          apply Ended.weaken (eraseElements_kept standing (by omega) ?_)
          · intro _ after ended
            refine ⟨ended.1, ?_, ?_⟩
            · rw [ended.2]
              omega
            · rw [ended.2]
              omega
          · intro fault after ended
            exact ended
          · intro raw
            have tail := short raw inside.1 (by omega)
            omega

structure CopyAllowed (environment : Environment α) (store : Store α)
    (offset n p : Nat) : Prop where
  noWrap : offset + n < environment.elements.sizeRange
  mapped : Mapped store.memory.slots p (min n (store.vector.m_dataSize - offset))

theorem copyN_kept (standing : Standing environment.elements store)
    (allowed : ¬(p = 0 ∧ n ≠ 0) → offset < store.vector.m_dataSize →
      CopyAllowed environment store offset n p) :
    Ended (fun pNew after => Still store after ∧ offset ≤ store.vector.m_dataSize ∧
        pNew = p + min n (store.vector.m_dataSize - offset))
      (fun fault after => (∃ status, fault = .status status) ∧ Still store after)
      (copyN environment offset n p store) := by
  have size := standing.fits.size
  unfold copyN
  rw [bind_of_ok (get_apply store)]
  split
  · exact ⟨⟨_, rfl⟩, rfl, SameStorage.refl store.memory⟩
  · rename_i valid
    split
    · exact ⟨⟨_, rfl⟩, rfl, SameStorage.refl store.memory⟩
    · rename_i inside
      obtain ⟨noWrap, mapped⟩ : CopyAllowed environment store offset n p := by
        by_cases some : offset < store.vector.m_dataSize
        · exact allowed valid some
        · have range := standing.sizeInRange
          exact ⟨by omega, fun _ less => by omega⟩
      have nReal : (if store.vector.m_dataSize < offset + n then
          store.vector.m_dataSize - offset else n) =
            min n (store.vector.m_dataSize - offset) := by
        split <;> omega
      rw [Nat.mod_eq_of_lt noWrap]
      dsimp only
      rw [nReal]
      have still : EndsStill store (onMemory (copyToDirty environment p
          (p + min n (store.vector.m_dataSize - offset)) (store.vector.m_p + offset)
          (min n (store.vector.m_dataSize - offset))) store) := by
        apply onMemory_still
        apply transferToDirty_kept
        · intro _
          exact Nat.lt_of_le_of_lt (Nat.mul_le_mul_right _ (by omega)) standing.small
        · exact mapped
        · exact Standing.part standing (by omega)
      apply Ended.bind still
      intro _ middle kept
      exact ⟨kept, by omega, rfl⟩

end Members

section Init

theorem assign_allocator {manager rhs : AllocationManager} (sameType : manager.fresh = rhs.fresh) :
    (manager.assign rhs).allocator = manager.allocator := by
  cases manager with
  | generic allocator =>
      cases rhs with
      | generic other => cases allocator <;> cases other <;> first | rfl | cases sameType
      | strategic other _ => cases allocator <;> cases other <;> cases sameType
  | strategic allocator strategy =>
      cases rhs with
      | generic other => cases allocator <;> cases other <;> cases sameType
      | strategic other _ => cases allocator <;> cases other <;> first | rfl | cases sameType

/-- What `init` needs of another vector of the same type: its elements are not in the
block that has to go. -/
structure InitAllowed (environment : Environment α) (store : Store α) (rhs : Vector) :
    Prop where
  sameType : store.vector.m_AllocationManager.fresh = rhs.m_AllocationManager.fresh
  fits : Fits environment.elements store.memory rhs
  apart : ¬store.vector.Owns rhs.m_p
  small : rhs.m_dataSize * environment.elements.size < environment.elements.sizeRange
  request : store.vector.m_allocatedSize < rhs.m_dataSize →
    (store.vector.m_AllocationManager.assign rhs.m_AllocationManager).RequestFits
      environment.elements rhs.m_dataSize

/-- The old block is freed before the new one is asked for. -/
theorem replaceBlock_kept (standing : Standing environment.elements store)
    (fits : store.vector.m_AllocationManager.RequestFits environment.elements n) :
    Ended (fun _ after => Kept environment.elements store after ∧
        after.vector.m_dataSize = 0 ∧ n ≤ after.vector.m_allocatedSize)
      (fun fault after => fault = .status .errorNoMemory ∧
        Kept environment.elements store after ∧ after.vector.m_dataSize = 0)
      (replaceBlock environment n store) := by
  have own := standing.ownBlock
  obtain ⟨memory, ranFree, freed⟩ := deallocate_freed store.vector.m_AllocationManager
    store.vector.m_p standing.sound fun _ => own
  have provided : Provided environment.elements memory store.vector.m_AllocationManager :=
    standing.provided.stays rfl fun other _ _ block =>
      freed.others block fun frees => other frees.1
  unfold replaceBlock
  rw [bind_of_ok (get_apply store), bind_of_ok (onMemory_of_ok ranFree),
    bind_of_ok (setDataSize_apply 0)]
  dsimp only
  apply Ended.bind
  · apply (onMemory_ended (AllocationManager.allocate_supplied freed.sound provided
      fits)).weaken
    · intro answer after supplied
      exact supplied
    · intro _ _ impossible
      exact impossible.1.elim
  · intro answer middle supplied
    obtain ⟨p, m⟩ := answer
    obtain ⟨after, vector⟩ := middle
    obtain ⟨⟨answered, reported⟩, same⟩ := supplied
    cases same
    dsimp only
    rw [bind_of_ok (setPointer_apply p), bind_of_ok (setAllocatedSize_apply m)]
    dsimp only
    have keeps (sound : Sound environment.elements after)
        (blocks : ∀ {q bytes}, memory.blocks q = some bytes → after.blocks q = some bytes)
        (block : p = 0 ∧ m = 0 ∨ p ≠ 0 ∧ Roomy environment.elements after p m)
        (small : m * environment.elements.size < environment.elements.sizeRange)
        (mapped : ∀ {address}, (memory.slots address).mapped → (after.slots address).mapped)
        (fresh : store.vector.m_AllocationManager.allocator = .heap → p ≠ 0 →
          memory.blocks p = none ∧ ∀ {bytes}, after.blocks p = some bytes →
            ∀ {address}, Within p (environment.elements.room bytes) address →
              memory.slots address = .unmapped)
        (constructions : after.constructions = memory.constructions) :
        Kept environment.elements store
          ⟨after, ⟨p, 0, m, store.vector.m_AllocationManager⟩⟩ := by
      refine ⟨⟨sound, ⟨Nat.zero_le m, block⟩, provided.stays rfl fun _ => blocks, small⟩,
        rfl, ?_, ?_, ?_, Nat.le_of_eq (freed.constructions.symm.trans constructions.symm)⟩
      · intro q bytes held free
        exact blocks (freed.others held free)
      · intro q owns
        obtain ⟨heap, same, nonnull⟩ := owns
        cases same
        have none := (fresh heap nonnull).1
        cases held : store.memory.blocks p with
        | none => exact .inr rfl
        | some bytes =>
            left
            by_contra free
            have stays := freed.others held free
            rw [none] at stays
            cases stays
      · intro address stored outside
        have left := freed.mapped stored fun frees =>
          outside ⟨⟨frees.1, rfl, frees.2.1⟩, frees.2.2⟩
        refine ⟨mapped left, ?_⟩
        intro inside
        obtain ⟨owns, bytes, held, within⟩ := inside
        rw [(fresh owns.1 owns.2.2).2 held within] at left
        cases left
    obtain ⟨null, untouched⟩ | ⟨nonnull, enough, space⟩ := answered
    · cases null
      have nothing : m = 0 := reported rfl
      rw [onlyIf_pos rfl]
      refine ⟨rfl, keeps (untouched.sound freed.sound) ?_ (.inl ⟨rfl, nothing⟩) ?_
        (fun stored => by rwa [untouched.slots]) (fun _ nonnull => absurd rfl nonnull)
        untouched.constructions, rfl⟩
      · intro q bytes held
        rw [untouched.blocks, held]
      · rw [nothing, Nat.zero_mul]
        exact environment.elements.sizeRange_pos
    · rw [onlyIf_neg nonnull]
      exact ⟨keeps space.sound space.blocks (.inr ⟨nonnull, space.roomy⟩) space.small
        space.mapped (fun heap _ => space.fresh heap) space.constructions, rfl, enough⟩

section Source

variable {rhs : Vector} {store middle : Store α} (allowed : InitAllowed environment store rhs)
  (kept : Kept environment.elements store middle)

include allowed kept

/-- The other vector still has its block. -/
theorem InitAllowed.roomy :
    rhs.m_dataSize = 0 ∨ Roomy environment.elements middle.memory rhs.m_p rhs.m_dataSize := by
  obtain ⟨_, none⟩ | ⟨_, bytes, held, room⟩ := allowed.fits.block
  · left
    have size := allowed.fits.size
    omega
  · right
    have whole : Roomy environment.elements middle.memory rhs.m_p rhs.m_allocatedSize :=
      ⟨bytes, kept.others held allowed.apart, room⟩
    exact whole.less allowed.fits.size

theorem InitAllowed.source : Mapped middle.memory.slots rhs.m_p rhs.m_dataSize := by
  intro index bound
  obtain none | roomy := allowed.roomy kept
  · omega
  · exact roomy.mapped kept.standing.sound index bound

theorem InitAllowed.movable (enough : rhs.m_dataSize ≤ middle.vector.m_allocatedSize) :
    OctetsMovable environment.elements middle.vector.m_p rhs.m_p rhs.m_dataSize := by
  refine ⟨allowed.small, ?_⟩
  by_cases same : middle.vector.m_p = rhs.m_p
  · exact .inl same
  · right
    by_cases none : rhs.m_dataSize = 0
    · rw [none]
      simp [areRegionsOverlap]
    · obtain ⟨_, nothing⟩ | ⟨_, roomy⟩ := kept.standing.fits.block
      · omega
      · exact overlap_of_apart ((roomy.less enough).apart
          ((allowed.roomy kept).resolve_left none) kept.standing.sound same)

end Source

/-- Another manager of the same type. -/
theorem assigned_kept {store cleared : Store α} {manager : AllocationManager}
    (kept : Kept environment.elements store cleared)
    (sameAllocator : manager.allocator = store.vector.m_AllocationManager.allocator) :
    Kept environment.elements store ⟨cleared.memory, ⟨cleared.vector.m_p,
      cleared.vector.m_dataSize, cleared.vector.m_allocatedSize, manager⟩⟩ := by
  have fits := kept.standing.fits
  refine ⟨⟨kept.standing.sound, ⟨fits.size, fits.block⟩,
    kept.standing.provided.stays (sameAllocator.trans kept.allocator.symm) fun _ _ _ held => held,
    kept.standing.small⟩, sameAllocator, kept.others, ?_, ?_, kept.constructions⟩
  · intro q owns
    apply kept.place
    exact ⟨by rw [kept.allocator, ← sameAllocator]; exact owns.1, owns.2⟩
  · intro address mapped outside
    obtain ⟨stored, free⟩ := kept.elsewhere mapped outside
    refine ⟨stored, ?_⟩
    intro inside
    obtain ⟨owns, block⟩ := inside
    refine free ⟨⟨?_, owns.2⟩, block⟩
    rw [kept.allocator, ← sameAllocator]
    exact owns.1

theorem init_kept (standing : Standing environment.elements store) {rhs : Vector}
    (allowed : InitAllowed environment store rhs) :
    EndsKept environment.elements store (· = rhs.m_dataSize) (· = 0)
      (init environment rhs store) := by
  obtain ⟨cleared, ranClear, sameCleared⟩ := clear_kept environment standing
  have keptCleared := Kept.sameStorage standing sameCleared
    (Nat.zero_le store.vector.m_allocatedSize)
  let assigned := store.vector.m_AllocationManager.assign rhs.m_AllocationManager
  let between : Store α :=
    ⟨cleared, ⟨store.vector.m_p, 0, store.vector.m_allocatedSize, assigned⟩⟩
  have keptBetween : Kept environment.elements store between :=
    assigned_kept keptCleared (assign_allocator allowed.sameType)
  have made : Ended (fun _ after => Kept environment.elements between after ∧
        rhs.m_dataSize ≤ after.vector.m_allocatedSize ∧ after.vector.m_dataSize = 0)
      (fun fault after => (∃ status, fault = .status status) ∧
        Kept environment.elements between after ∧ after.vector.m_dataSize = 0)
      (onlyIf (between.vector.m_allocatedSize < rhs.m_dataSize)
        (replaceBlock environment rhs.m_dataSize) between) := by
    apply Ended.onlyIf
    · intro grows
      apply (replaceBlock_kept keptBetween.standing (allowed.request grows)).weaken
      · intro _ after kept
        exact ⟨kept.1, kept.2.2, kept.2.1⟩
      · intro fault after failed
        exact ⟨⟨_, failed.1⟩, failed.2⟩
    · intro enough
      exact ⟨Kept.refl keptBetween.standing, Nat.not_lt.mp enough, rfl⟩
  unfold init
  rw [bind_of_ok ranClear, bind_of_ok (modify_apply _ _), bind_of_ok (get_apply _)]
  apply Ended.bind (made.weaken (fun _ _ holds => holds) ?_)
  · intro _ middle holds
    obtain ⟨keptMade, enough, empty⟩ := holds
    have kept := keptBetween.trans keptMade
    have whole : EndsKept environment.elements middle (· = rhs.m_dataSize) (· = 0)
        ((onMemory (copyToRawNoOverlap environment middle.vector.m_p rhs.m_p
          rhs.m_dataSize) >>= fun _ => setDataSize rhs.m_dataSize : VProc α Unit) middle) := by
      apply endsKept_onMemory kept.standing
      · apply transferToRawNoOverlap_kept .copy (fun _ => allowed.movable kept enough)
        · intro index bound
          exact kept.standing.fits.mapped kept.standing.sound index
            (Nat.lt_of_lt_of_le bound enough)
        · exact allowed.source kept
      · exact empty
      · intro _ memory same
        exact ⟨Kept.sameStorage kept.standing same enough, rfl⟩
    apply whole.weaken
    · intro _ after last
      exact ⟨kept.trans last.1, last.2⟩
    · intro fault after last
      exact ⟨last.1, kept.trans last.2.1, last.2.2⟩
  · intro fault after failed
    exact ⟨failed.1, keptBetween.trans failed.2.1, failed.2.2⟩

end Init

end Vector

end CommonSerialization.Containers
