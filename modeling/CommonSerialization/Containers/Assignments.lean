import CommonSerialization.Containers.RangeContents

namespace CommonSerialization.Containers

open StateExcept Storage

/-! What the elements of a vector are after it has been given those of another one. -/

namespace Vector

variable {environment : Environment α} {store : Store α} {memory after : Memory α}
  {manager : AllocationManager} {n p m : Nat}

section Blocks

variable (environment manager memory) in
theorem destroyAndDeallocate_null :
    manager.destroyAndDeallocate environment 0 0 memory = .ok () memory := by
  have nothing : destroyN environment 0 0 memory = .ok () memory := by
    unfold destroyN
    rw [if_neg (by simp)]
    rfl
  have kept : manager.deallocate environment 0 memory = .ok () memory := by
    unfold AllocationManager.deallocate Allocator.deallocate
    cases manager.allocator <;> rfl
  unfold AllocationManager.destroyAndDeallocate
  rw [bind_of_ok nothing]
  exact kept

theorem firstBlock_edited (whole : Whole environment.elements ⟨memory, empty manager⟩)
    (answered : NewSpace environment.elements manager memory after p m) :
    Edited.Alone environment.elements ⟨memory, empty manager⟩ []
      ⟨after, ⟨p, 0, m, manager⟩⟩ := by
  have started : Building environment ⟨memory, empty manager⟩ after p (fun _ => False) []
      after := Building.start whole.standing answered
  obtain ⟨last, ran, rebuilt⟩ := started.finish whole.standing answered (Nat.zero_le m)
    (Nat.zero_le m) whole.filled
  have null := destroyAndDeallocate_null environment after manager
  have same : last = after := by
    rw [bind_of_ok (onMemory_of_ok null)] at ran
    injection ran with _ same
    injection same with same
    exact same.symm
  rw [same] at rebuilt
  exact Rebuilt.resized rebuilt fun _ slot member => absurd member List.not_mem_nil

variable (environment) in
theorem deallocate_edited (whole : Whole environment.elements store)
    (none : store.vector.m_dataSize = 0) :
    ∃ after, store.vector.m_AllocationManager.deallocate environment store.vector.m_p
        store.memory = .ok () after ∧
      Edited.Alone environment.elements store []
        ⟨after, empty store.vector.m_AllocationManager⟩ := by
  obtain ⟨after, ran, edited⟩ := destroyAndDeallocate_edited environment whole
  obtain ⟨_, cleared, ranClear, ranFree⟩ := bind_eq_ok ran
  have same : cleared = store.memory := by
    obtain ⟨memory, ranNone, vacated⟩ : ∃ memory,
        destroyN environment store.vector.m_p 0 store.memory = .ok () memory ∧
          memory = store.memory := by
      unfold destroyN
      split
      · exact ⟨_, rfl, rfl⟩
      · exact ⟨_, rfl, rfl⟩
    rw [none] at ranClear
    have both := ranClear.symm.trans ranNone
    injection both with _ same
    exact same.trans vacated
  rw [same] at ranFree
  exact ⟨after, ranFree, edited⟩

theorem replaceBlock_edited (whole : Whole environment.elements store)
    (none : store.vector.m_dataSize = 0)
    (fits : store.vector.m_AllocationManager.RequestFits environment.elements n) :
    Ended (fun _ after => Edited.Alone environment.elements store [] after ∧
        n ≤ after.vector.m_allocatedSize)
      (fun fault after => fault = .status .errorNoMemory ∧
        Edited.Alone environment.elements store [] after)
      (replaceBlock environment n store) := by
  obtain ⟨memory, ranFree, freed⟩ := deallocate_edited environment whole none
  have standing := freed.whole.standing
  have sound : Sound environment.elements memory := standing.sound
  have provided : Provided environment.elements memory store.vector.m_AllocationManager :=
    standing.provided
  unfold replaceBlock
  rw [bind_of_ok (get_apply store), bind_of_ok (onMemory_of_ok ranFree),
    bind_of_ok (setDataSize_apply 0)]
  dsimp only
  apply Ended.bind
  · apply (onMemory_ended (AllocationManager.allocate_supplied sound provided fits)).weaken
    · intro answer after supplied
      exact supplied
    · intro _ _ impossible
      exact impossible.1.elim
  · intro answer middle supplied
    obtain ⟨p, m⟩ := answer
    obtain ⟨after, vector⟩ := middle
    obtain ⟨⟨answered, reported⟩, same⟩ := supplied
    cases same
    dsimp only
    rw [bind_of_ok (setPointer_apply p), bind_of_ok (setAllocatedSize_apply m)]
    dsimp only
    obtain ⟨null, untouched⟩ | ⟨nonnull, enough, space⟩ := answered
    · cases null
      have nothing : m = 0 := reported rfl
      rw [onlyIf_pos rfl, nothing]
      have kept := (noSpace_of_untouched standing untouched).kept
      have still : Edited.Alone environment.elements
          ⟨memory, empty store.vector.m_AllocationManager⟩ []
          ⟨after, empty store.vector.m_AllocationManager⟩ := by
        refine ⟨kept, ⟨kept.standing, fun _ _ _ => .inl rfl,
          filled_empty kept.standing.sound⟩, rfl, ?_, ?_⟩
        · intro address _ _ _
          exact congrFun untouched.slots address
        · show Grown _ memory.log after.log
          rw [untouched.log]
          exact Grown.refl _
      exact ⟨rfl, freed.trans still⟩
    · rw [onlyIf_neg nonnull]
      exact ⟨freed.trans (firstBlock_edited freed.whole space), enough⟩

end Blocks

section Sources

theorem Foreign.later {middle : Store α} {contents : List (Slot α)} {used : Nat → Prop}
    {tidy : Prop} (foreign : Foreign environment store p n)
    (edited : Edited environment.elements store (fun _ => False) used tidy contents
      middle) :
    Foreign environment middle p n ∧
      stretch middle.memory.slots p n = stretch store.memory.slots p n := by
  have same : ∀ index < n, middle.memory.slots (p + index) = store.memory.slots (p + index) :=
    fun index inside => edited.outside (foreign.mapped index inside)
      (foreign.outside index inside) fun none => none
  refine ⟨⟨?_, ?_, ?_, foreign.fits⟩, stretch_eq_iff.mpr same⟩
  · intro index inside
    rw [same index inside]
    exact foreign.mapped index inside
  · intro index inside
    exact (edited.kept.notOwn (foreign.mapped index inside)
      (foreign.outside index inside)).2
  · intro constructors index inside
    rw [same index inside]
    exact foreign.objects constructors index inside

theorem assigned_edited {other : AllocationManager} (whole : Whole environment.elements store)
    (same : other.allocator = store.vector.m_AllocationManager.allocator) :
    Edited.Alone environment.elements store store.contents
      ⟨store.memory, ⟨store.vector.m_p, store.vector.m_dataSize,
        store.vector.m_allocatedSize, other⟩⟩ := by
  have kept : Kept environment.elements store ⟨store.memory, ⟨store.vector.m_p,
      store.vector.m_dataSize, store.vector.m_allocatedSize, other⟩⟩ :=
    assigned_kept (Kept.refl whole.standing) same
  refine ⟨kept, ⟨kept.standing, ?_, whole.filled.objects, whole.filled.spare⟩, rfl,
    fun _ _ _ => rfl, Grown.refl _⟩
  intro storage memorySize keeper
  exact whole.home storage memorySize (same.symm.trans keeper)

theorem init_edited (whole : Whole environment.elements store) {rhs : Vector}
    (sameType : store.vector.m_AllocationManager.fresh = rhs.m_AllocationManager.fresh)
    (foreign : Foreign environment store rhs.m_p rhs.m_dataSize)
    (request : store.vector.m_allocatedSize < rhs.m_dataSize →
      (store.vector.m_AllocationManager.assign rhs.m_AllocationManager).RequestFits
        environment.elements rhs.m_dataSize)
    (unrefused : Unrefused environment store.memory) :
    Ended (fun _ => Edited environment.elements store (fun _ => False)
        (Within rhs.m_p rhs.m_dataSize) True
        (stretch store.memory.slots rhs.m_p rhs.m_dataSize))
      (fun fault after => fault = .status .errorNoMemory ∧
        Edited.Alone environment.elements store [] after)
      (init environment rhs store) := by
  obtain ⟨cleared, ranClear, _, edited⟩ := clear_edited environment whole
  let assigned := store.vector.m_AllocationManager.assign rhs.m_AllocationManager
  have sameAllocator : assigned.allocator = store.vector.m_AllocationManager.allocator :=
    assign_allocator sameType
  let between : Store α :=
    ⟨cleared, ⟨store.vector.m_p, 0, store.vector.m_allocatedSize, assigned⟩⟩
  have ready : Edited.Alone environment.elements store [] between :=
    edited.trans (assigned_edited edited.whole sameAllocator)
  have spaced : Ended (fun _ after => Edited.Alone environment.elements store [] after ∧
        rhs.m_dataSize ≤ after.vector.m_allocatedSize)
      (fun fault after => fault = .status .errorNoMemory ∧
        Edited.Alone environment.elements store [] after)
      (onlyIf (between.vector.m_allocatedSize < rhs.m_dataSize)
        (replaceBlock environment rhs.m_dataSize) between) := by
    apply Ended.onlyIf
    · intro grows
      apply (replaceBlock_edited ready.whole rfl (request grows)).weaken
      · intro _ after ended
        exact ⟨ready.trans ended.1, ended.2⟩
      · intro fault after failed
        exact ⟨failed.1, ready.trans failed.2⟩
    · intro enough
      exact ⟨ready, Nat.not_lt.mp enough⟩
  unfold init
  rw [bind_of_ok ranClear, bind_of_ok (modify_apply _ _), bind_of_ok (get_apply _)]
  apply Ended.bind spaced
  intro _ middle reached
  obtain ⟨made, enough⟩ := reached
  have none : middle.vector.m_dataSize = 0 := by
    have length := congrArg List.length made.contents
    rwa [length_contents] at length
  obtain ⟨source, values⟩ := Foreign.later foreign made
  have room : middle.vector.m_dataSize + rhs.m_dataSize ≤ middle.vector.m_allocatedSize := by
    rw [none, Nat.zero_add]
    exact enough
  have same : Edited.Alone environment.elements middle middle.contents middle :=
    Edited.same made.whole
  obtain ⟨memory, ran, tailed, _⟩ := transfer_tailed .copy
    (TailGiven.of_foreign made.whole source) (fun impossible => by cases impossible)
    ((unrefused.later made.kept.constructions).accepted _) same
    (Spacious.refl made.whole.standing room)
  simp only [reduceCtorEq, false_and] at tailed
  have last := tailed.edited made.whole (by
    rw [length_stretch]
    exact room)
  rw [none, Nat.add_zero] at ran
  have ranCopy : copyToRawNoOverlap environment middle.vector.m_p rhs.m_p rhs.m_dataSize
      middle.memory = .ok () memory := ran
  rw [none, made.contents, values, List.nil_append, length_stretch, Nat.zero_add] at last
  rw [bind_of_ok (get_apply middle), bind_of_ok (onMemory_of_ok ranCopy)]
  exact (made.weaken (fun _ none => none.elim) (fun _ none => none.elim) id).trans last

end Sources

end Vector

end CommonSerialization.Containers
