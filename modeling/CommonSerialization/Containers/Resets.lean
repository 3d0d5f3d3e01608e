import CommonSerialization.Containers.Appends

namespace CommonSerialization.Containers

open StateExcept Storage

/-! What the elements of a vector are after the functions that empty it, set its size or
give it others. -/

namespace Vector

variable {environment : Environment α} {store : Store α} {memory : Memory α} {n : Nat}

section Emptying

theorem filled_empty {manager : AllocationManager} (sound : Sound environment.elements memory) :
    Filled environment.elements ⟨memory, empty manager⟩ memory where
  objects := fun _ index inside => absurd inside (Nat.not_lt_zero index)
  spare := by
    intro _ bytes held
    cases sound.null.symm.trans held

variable (environment) in
theorem clear_edited (whole : Whole environment.elements store) :
    ∃ after, clear environment store =
        .ok () ⟨after, ⟨store.vector.m_p, 0, store.vector.m_allocatedSize,
          store.vector.m_AllocationManager⟩⟩ ∧
      Vacated environment True store.memory store.vector.m_p store.vector.m_dataSize after ∧
      Edited.Alone environment.elements store []
        ⟨after, ⟨store.vector.m_p, 0, store.vector.m_allocatedSize,
          store.vector.m_AllocationManager⟩⟩ := by
  have size := whole.standing.fits.size
  have own {address : Nat}
      (inside : Within store.vector.m_p store.vector.m_dataSize address) :
      store.own environment.elements address :=
    whole.own (show 0 + store.vector.m_dataSize ≤ _ by omega) inside
  obtain ⟨after, ran, vacated⟩ := destroyN_vacated environment whole.standing.elementsMapped
    fun constructors _ (_ : True) => whole.filled.objects constructors
  refine ⟨after, clear_of_destroyN ran, vacated, ?_⟩
  have nothing : stretch after.slots store.vector.m_p ([] : List (Slot α)).length = [] := rfl
  apply Edited.inPlace whole vacated.storage (Nat.zero_le _) nothing
  · intro _ slot member
    exact absurd member List.not_mem_nil
  · intro constructors bytes held index inside _
    have nonnull : store.vector.m_p ≠ 0 := by
      intro null
      rw [null, whole.standing.sound.null] at held
      cases held
    rw [vacated.slots]
    by_cases element : index < store.vector.m_dataSize
    · rw [if_pos ⟨constructors, nonnull, by unfold Within; omega⟩]
      rfl
    · rw [if_neg (by unfold Within; omega)]
      exact whole.filled.spare constructors held index inside (Nat.not_lt.mp element)
  · intro address _ free _
    exact vacated.outside fun inside => free (own inside)
  · apply vacated.events.weaken
    intro event allowed
    exact ⟨fun _ => .inl (own allowed.1), fun _ => allowed.2 trivial⟩

variable (environment) in
theorem destroyAndDeallocate_edited (whole : Whole environment.elements store) :
    ∃ after, store.vector.m_AllocationManager.destroyAndDeallocate environment
        store.vector.m_p store.vector.m_dataSize store.memory = .ok () after ∧
      Edited.Alone environment.elements store []
        ⟨after, empty store.vector.m_AllocationManager⟩ := by
  have standing := whole.standing
  obtain ⟨after, ran, kept⟩ := destroyAndDeallocate_kept environment standing
  obtain ⟨_, cleared, ranClear, ranFree⟩ := bind_eq_ok ran
  obtain ⟨middle, ranMiddle, vacated, edited⟩ := clear_edited environment whole
  have sameClear := (clear_of_destroyN ranClear).symm.trans ranMiddle
  injection sameClear with _ same
  injection same with same
  rw [← same] at vacated edited
  have own := standing.ownBlock
  obtain ⟨last, ranLast, freed⟩ : ∃ last, store.vector.m_AllocationManager.deallocate environment
      store.vector.m_p cleared = .ok () last ∧ _ := deallocate_freed
    store.vector.m_AllocationManager store.vector.m_p
    (vacated.storage.sound standing.sound) fun _ nonnull => by
      rw [vacated.storage.blocks]
      exact own nonnull
  have sameFree := ranFree.symm.trans ranLast
  injection sameFree with _ sameLast
  rw [← sameLast] at freed
  have frees {address : Nat} (inside : store.vector.m_AllocationManager.allocator = .heap ∧
      store.vector.m_p ≠ 0 ∧ ∃ bytes, cleared.blocks store.vector.m_p = some bytes ∧
        Within store.vector.m_p (environment.elements.room bytes) address) :
      store.inOwn environment.elements address := by
    obtain ⟨heap, nonnull, bytes, block, within⟩ := inside
    rw [vacated.storage.blocks] at block
    exact ⟨⟨heap, rfl, nonnull⟩, bytes, block, within⟩
  refine ⟨after, ran, kept, ⟨kept.standing, fun _ _ _ => .inl rfl,
    filled_empty kept.standing.sound⟩, rfl, ?_, ?_⟩
  · intro address mapped free away
    rw [← edited.outside mapped free away]
    exact freed.slots fun inside => free (.inl (frees inside))
  · apply edited.events.trans
    apply freed.log.weaken
    intro event allowed
    refine ⟨fun _ => .inl (.inl (frees allowed.1)), fun _ => allowed.2 ?_⟩
    intro constructors bytes block index inside
    exact edited.whole.filled.spare constructors block index inside (Nat.zero_le _)

variable (environment) in
theorem invalidate_edited (whole : Whole environment.elements store) :
    ∃ after, invalidate environment store =
        .ok () ⟨after, empty store.vector.m_AllocationManager⟩ ∧
      Edited.Alone environment.elements store []
        ⟨after, empty store.vector.m_AllocationManager⟩ := by
  obtain ⟨after, ran, edited⟩ := destroyAndDeallocate_edited environment whole
  obtain ⟨_, cleared, ranClear, ranFree⟩ := bind_eq_ok ran
  refine ⟨after, ?_, edited⟩
  unfold invalidate
  rw [bind_of_ok (clear_of_destroyN ranClear), bind_of_ok (get_apply _),
    bind_of_ok (onMemory_of_ok ranFree)]
  rfl

theorem release_edited (whole : Whole environment.elements store) :
    release store = .ok store.vector.m_p
        ⟨store.memory, empty store.vector.m_AllocationManager⟩ ∧
      Edited.Alone environment.elements store []
        ⟨store.memory, empty store.vector.m_AllocationManager⟩ := by
  obtain ⟨after, ran, kept, _⟩ := release_kept environment whole.standing
  injection ran with _ same
  rw [← same] at kept
  exact ⟨rfl, kept, ⟨kept.standing, fun _ _ _ => .inl rfl,
    filled_empty kept.standing.sound⟩, rfl, fun _ _ _ => rfl, Grown.refl _⟩

end Emptying

section Sizes

/-- Elements without constructors are there as soon as they are counted. -/
theorem setSize_edited (whole : Whole environment.elements store)
    (raw : environment.elements.constructorAllocator = false)
    (fits : store.vector.m_allocatedSize < n →
      store.vector.m_AllocationManager.RequestFits environment.elements n) :
    Ended (fun _ after => ∃ more, more.length = n - store.vector.m_dataSize ∧
        Edited.Alone environment.elements store (store.contents.take n ++ more) after)
      (fun fault after => fault = .status .errorNoMemory ∧ Unchanged store after ∧
        store.memory.denied < after.memory.denied)
      (setSize environment n store) := by
  have never : environment.elements.constructorAllocator ≠ true := by
    rw [raw]
    exact Bool.false_ne_true
  have allowed : GrowthAllowed environment store false n :=
    fun grows => ⟨fits grows, fun constructors => absurd constructors never⟩
  unfold setSize
  apply Ended.bind ((reserveInternal_edited whole false allowed).both
    (reserveInternal_spacious whole.standing false allowed) |>.weaken
      (fun _ _ both => both) fun _ _ both => both.1)
  intro _ middle both
  obtain ⟨edited, spacious⟩ := both
  have standing := spacious.kept.standing
  have cut := Kept.sameStorage standing (SameStorage.refl middle.memory) spacious.enough
  have contents : stretch middle.memory.slots middle.vector.m_p n =
      store.contents.take n ++ stretch middle.memory.slots
        (middle.vector.m_p + min n store.vector.m_dataSize)
        (n - store.vector.m_dataSize) := by
    rw [← edited.contents, Store.contents, spacious.size]
    obtain less | more := Nat.le_total n store.vector.m_dataSize
    · rw [take_stretch less, Nat.sub_eq_zero_of_le less]
      exact (List.append_nil _).symm
    · rw [List.take_of_length_le (by rwa [length_stretch]), Nat.min_eq_right more,
        ← stretch_add, Nat.add_sub_cancel' more]
  refine ⟨_, length_stretch, spacious.kept.trans cut, ⟨cut.standing, edited.whole.home,
    fun constructors => absurd constructors never,
    fun constructors => absurd constructors never⟩, contents, edited.outside, edited.events⟩

end Sizes

end Vector

end CommonSerialization.Containers
