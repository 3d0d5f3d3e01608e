import CommonSerialization.Containers.AllocationContract
import CommonSerialization.Containers.Frames
import CommonSerialization.Library.Growth

namespace CommonSerialization.Containers

open StateExcept Storage Growth

/-! Which requests a growing vector makes, as long as they are granted. -/

namespace AllocationManager

/-- The number of elements that is reported when no allocator refuses what it has. -/
def granted (elements : Elements) (manager : AllocationManager) (requestedN : Nat) : Nat :=
  match manager.allocator with
  | .heap => manager.firstRequest elements requestedN
  | .keeper _ memorySize =>
      if manager.firstRequest elements requestedN ≤ memorySize ∧
          manager.firstRequest elements requestedN ≠ 0 then
        manager.firstRequest elements requestedN
      else
        requestedN

section Requests

variable {environment : Environment α} {manager : AllocationManager}
  {related : Memory α → Memory α → Prop} {n : Nat}

theorem allocateImpl_moves (refl : ∀ memory, related memory memory)
    (trans : ∀ before middle after, related before middle → related middle after →
      related before after)
    (asked : ∀ k, Moves related (manager.allocator.allocate environment k)) :
    Moves related (manager.allocateImpl environment n) := by
  cases manager with
  | generic allocator => exact Moves.bind trans (asked n) fun p => Moves.pure refl _
  | strategic allocator strategy =>
      apply Moves.bind trans
      · cases strategy with
        | strictByDataSize => exact Moves.pure refl 0
        | doubleOfDataSize => exact asked _
      · intro p
        apply Moves.ite
        · exact fun _ => Moves.pure refl _
        · exact fun _ => Moves.bind trans (asked n) fun q => Moves.pure refl _

theorem allocate_moves (refl : ∀ memory, related memory memory)
    (trans : ∀ before middle after, related before middle → related middle after →
      related before after)
    (asked : ∀ k, Moves related (manager.allocator.allocate environment k))
    (noted : ∀ memory, related memory { memory with denied := memory.denied + 1 }) :
    Moves related (manager.allocate environment n) := by
  apply Moves.bind trans (allocateImpl_moves refl trans asked)
  intro block
  apply Moves.bind trans
  · apply Moves.modify
    intro memory
    split
    · exact noted memory
    · exact refl memory
  · exact fun _ => Moves.pure refl block

end Requests

end AllocationManager

section Counts

variable {environment : Environment α} {manager : AllocationManager} {memory after : Memory α}
  {n p k : Nat}

theorem ungranted_refl (memory : Memory α) : memory.ungranted ≤ memory.ungranted :=
  Nat.le_refl _

theorem ungranted_trans (before middle after : Memory α)
    (early : before.ungranted ≤ middle.ungranted) (late : middle.ungranted ≤ after.ungranted) :
    before.ungranted ≤ after.ungranted := Nat.le_trans early late

variable (environment) in
theorem Allocator.allocate_ungranted (allocator : Allocator) (n : Nat) :
    Moves (fun before after => before.ungranted ≤ after.ungranted)
      (allocator.allocate environment n) := by
  intro memory
  cases allocator with
  | keeper storage memorySize => exact Nat.le_refl _
  | heap =>
      cases answer : environment.heap memory
          (n * environment.elements.size % environment.elements.sizeRange) with
      | none =>
          rw [Allocator.allocate_refused answer]
          exact Nat.le_succ _
      | some grant =>
          rw [Allocator.allocate_granted answer]
          exact Nat.le_refl _

theorem AllocationManager.deallocate_ungranted (manager : AllocationManager) (p : Nat) :
    Preserves Memory.ungranted (manager.deallocate environment p) := by
  intro memory
  unfold AllocationManager.deallocate Allocator.deallocate
  cases manager.allocator with
  | keeper storage memorySize => rfl
  | heap =>
      dsimp only
      split
      · rfl
      · rw [bind_of_ok (get_apply memory)]
        cases memory.blocks p with
        | none => rfl
        | some bytes => rfl

variable (environment) in
theorem ungranted_framed :
    Framed environment (fun _ => True) fun before after => before.ungranted ≤ after.ungranted where
  storage := fun same => Nat.le_of_eq same.ungranted.symm
  trans := ungranted_trans
  allocate := fun _ _ => AllocationManager.allocate_moves ungranted_refl
    ungranted_trans (Allocator.allocate_ungranted environment _) fun _ => Nat.le_refl _
  deallocate := fun manager p memory => Nat.le_of_eq (manager.deallocate_ungranted p memory).symm
  fresh := fun _ => trivial

theorem Allocator.allocate_null (ran : Allocator.heap.allocate environment n memory = .ok 0 after) :
    memory.ungranted < after.ungranted := by
  cases answer : environment.heap memory
      (n * environment.elements.size % environment.elements.sizeRange) with
  | none =>
      rw [Allocator.allocate_refused answer] at ran
      cases ran
      exact Nat.lt_succ_self _
  | some grant =>
      rw [Allocator.allocate_granted answer] at ran
      obtain null : grant.base = 0 := by
        injection ran
      exact absurd null (environment.heap_base answer)

variable (environment) in
theorem Allocator.keeper_answer {storage memorySize : Nat}
    (ran : (Allocator.keeper storage memorySize).allocate environment n memory = .ok p after) :
    p = if n ≤ memorySize ∧ n ≠ 0 then storage else 0 := by
  cases ran
  rfl

namespace AllocationManager

theorem granted_single {elements : Elements}
    (single : manager.firstRequest elements n = n) : manager.granted elements n = n := by
  unfold granted
  rw [single]
  split
  · rfl
  · exact ite_self n

theorem allocateImpl_reported
    (ran : manager.allocateImpl environment n memory = .ok (p, k) after) (nonnull : p ≠ 0) :
    memory.ungranted < after.ungranted ∨ k = manager.granted environment.elements n := by
  cases manager with
  | generic allocator =>
      obtain ⟨q, middle, _, last⟩ := bind_eq_ok ran
      cases last
      right
      rw [if_pos nonnull, granted_single rfl]
  | strategic allocator strategy =>
      obtain ⟨q, middle, more, last⟩ := bind_eq_ok ran
      cases strategy with
      | strictByDataSize =>
          cases more
          rw [if_neg (not_not.mpr rfl)] at last
          obtain ⟨r, later, _, last⟩ := bind_eq_ok last
          cases last
          right
          rw [if_pos nonnull, granted_single rfl]
      | doubleOfDataSize =>
          by_cases null : q = 0
          · rw [if_neg (not_not.mpr null)] at last
            obtain ⟨r, later, strictly, last⟩ := bind_eq_ok last
            cases last
            rw [if_pos nonnull]
            cases allocator with
            | heap =>
                left
                rw [null] at more
                have climbed := Allocator.allocate_ungranted environment .heap n middle
                rw [show Allocator.heap.allocate environment n middle = _ from strictly] at climbed
                exact Nat.lt_of_lt_of_le (Allocator.allocate_null more) climbed
            | keeper storage memorySize =>
                right
                have isStorage : p = storage := by
                  rw [Allocator.keeper_answer environment strictly] at nonnull ⊢
                  exact if_pos (not_not.mp fun refused => nonnull (if_neg refused))
                have refused : ¬(n * 2 % environment.elements.sizeRange ≤ memorySize ∧
                    n * 2 % environment.elements.sizeRange ≠ 0) := by
                  intro given
                  apply nonnull
                  rw [isStorage, ← null, Allocator.keeper_answer environment more, if_pos given]
                exact (if_neg refused).symm
          · rw [if_pos null] at last
            cases last
            cases allocator with
            | heap => exact .inr rfl
            | keeper storage memorySize =>
                right
                have given : n * 2 % environment.elements.sizeRange ≤ memorySize ∧
                    n * 2 % environment.elements.sizeRange ≠ 0 := by
                  by_contra refused
                  rw [Allocator.keeper_answer environment more, if_neg refused] at nonnull
                  exact nonnull rfl
                exact (if_pos given).symm

theorem allocate_reported
    (ran : manager.allocate environment n memory = .ok (p, k) after) (nonnull : p ≠ 0) :
    memory.ungranted < after.ungranted ∨ k = manager.granted environment.elements n := by
  obtain ⟨block, middle, attempted, last⟩ := bind_eq_ok ran
  obtain ⟨_, noted, counted, returned⟩ := bind_eq_ok last
  cases returned
  cases (answer_block middle nonnull).symm.trans counted
  exact allocateImpl_reported attempted nonnull

end AllocationManager

end Counts

/-- What is counted of the requests, and what managers report as long as nothing is. -/
structure Accounting (environment : Environment α) (count : Memory α → Nat)
    (grows : AllocationManager → Nat → Nat → Prop) : Prop where
  framed : Framed environment (fun _ => True) fun before after => count before ≤ count after
  reported : ∀ {manager : AllocationManager} {n p k memory after},
    manager.allocate environment n memory = .ok (p, k) after → p ≠ 0 →
      count memory < count after ∨ grows manager n k

namespace Accounting

variable (environment : Environment α)

theorem nothing : Accounting environment (fun _ => 0) fun _ _ _ => True where
  framed :=
    { storage := fun _ => Nat.le_refl 0
      trans := fun _ _ _ _ _ => Nat.le_refl 0
      allocate := fun _ _ _ => Nat.le_refl 0
      deallocate := fun _ _ _ => Nat.le_refl 0
      fresh := fun _ => trivial }
  reported := fun _ _ => .inr trivial

theorem ungranted : Accounting environment Memory.ungranted
    fun manager n k => k = manager.granted environment.elements n where
  framed := ungranted_framed environment
  reported := AllocationManager.allocate_reported

end Accounting

namespace Vector

variable {environment : Environment α} {store after : Store α} {n : Nat}

theorem relocate_eq_ok {pNewMp : Nat}
    (ran : relocate environment pNewMp n store = .ok () after) :
    after.vector =
      ⟨pNewMp, store.vector.m_dataSize, n, store.vector.m_AllocationManager⟩ := by
  obtain ⟨_, sized, ranSize, ran⟩ := bind_eq_ok ran
  cases ranSize
  obtain ⟨_, read, ranRead, ran⟩ := bind_eq_ok ran
  cases ranRead
  obtain ⟨_, moved, ranMove, ran⟩ := bind_eq_ok ran
  obtain ⟨_, _, isMoved⟩ := onPart_eq_ok (onFailure_eq_ok ranMove)
  obtain ⟨_, freed, ranFree, ran⟩ := bind_eq_ok ran
  obtain ⟨_, _, isFreed⟩ := onPart_eq_ok ranFree
  cases ran
  rw [isFreed, isMoved]

/-- A vector that has more space than before is in a block that its manager has given. -/
theorem reserveInternal_eq_ok (ran : reserveInternal environment n false store = .ok () after) :
    n ≤ store.vector.m_allocatedSize ∧ after = store ∨
      store.vector.m_allocatedSize < n ∧ ∃ p k given,
        store.vector.m_AllocationManager.allocate environment n store.memory =
            .ok (p, k) given ∧
          p ≠ 0 ∧
          relocate environment p k ⟨given, store.vector⟩ = .ok () after ∧
          after.vector =
            ⟨p, store.vector.m_dataSize, k, store.vector.m_AllocationManager⟩ := by
  unfold reserveInternal at ran
  rw [bind_of_ok (get_apply store)] at ran
  dsimp only at ran
  by_cases short : store.vector.m_allocatedSize < n
  · right
    rw [if_pos short] at ran
    obtain ⟨⟨p, k⟩, middle, ranBlock, ran⟩ := bind_eq_ok ran
    obtain ⟨given, allocated, isMiddle⟩ := onPart_eq_ok ranBlock
    cases isMiddle
    dsimp only at ran
    by_cases null : p = 0
    · rw [if_neg (not_not.mpr null)] at ran
      cases ran
    · rw [if_pos null] at ran
      have isVector := relocate_eq_ok ran
      exact ⟨short, p, k, given, allocated, null, ran, isVector⟩
  · left
    rw [if_neg short] at ran
    cases ran
    exact ⟨Nat.not_lt.mp short, rfl⟩

theorem addSpaceIfNeed_eq_ok (ran : addSpaceIfNeed environment n store = .ok () after) :
    store.vector.m_dataSize ≤
        (store.vector.m_dataSize + n) % environment.elements.sizeRange ∧
      reserveInternal environment
        ((store.vector.m_dataSize + n) % environment.elements.sizeRange) false store =
          .ok () after := by
  unfold addSpaceIfNeed at ran
  rw [bind_of_ok (get_apply store)] at ran
  by_cases more : store.vector.m_dataSize ≤
      (store.vector.m_dataSize + n) % environment.elements.sizeRange
  · refine ⟨more, ?_⟩
    rw [if_pos more] at ran
    by_cases short : store.vector.m_allocatedSize <
        (store.vector.m_dataSize + n) % environment.elements.sizeRange
    · rw [if_pos short] at ran
      exact ran
    · rw [if_neg short] at ran
      unfold reserveInternal
      rw [bind_of_ok (get_apply store), if_neg short]
      exact ran
  · rw [if_neg more] at ran
    cases ran

theorem append_eq_ok {fill : Vector → MProc α Unit}
    (ran : append environment n fill store = .ok () after) :
    ∃ middle, addSpaceIfNeed environment n store = .ok () middle ∧
      fill middle.vector middle.memory = .ok () after.memory ∧
      after.vector = ⟨middle.vector.m_p, middle.vector.m_dataSize + n,
        middle.vector.m_allocatedSize, middle.vector.m_AllocationManager⟩ := by
  obtain ⟨_, middle, ranSpace, ran⟩ := bind_eq_ok ran
  obtain ⟨_, read, ranRead, ran⟩ := bind_eq_ok ran
  cases ranRead
  obtain ⟨_, filled, ranFill, ran⟩ := bind_eq_ok ran
  obtain ⟨memory, ranMemory, isFilled⟩ := onPart_eq_ok ranFill
  cases ran
  cases isFilled
  exact ⟨middle, ranSpace, ranMemory, rfl⟩

section Turns

variable {pair last : Pair α} {p : Nat}

theorem displaceOne_eq_ok (ran : (Pair.onOther (pushBackMove environment p) >>= fun _ =>
      Pair.onMemory (destroy environment p)) pair = .ok () last) :
    ∃ memory, pushBackMove environment p ⟨pair.memory, pair.other⟩ =
        .ok () ⟨memory, last.other⟩ ∧
      last.vector = pair.vector ∧ SameStorage memory last.memory := by
  obtain ⟨_, middle, ranPush, ran⟩ := bind_eq_ok ran
  obtain ⟨after, ranPush, isMiddle⟩ := onPart_eq_ok ranPush
  obtain ⟨memory, ranDestroy, isLast⟩ := onPart_eq_ok ran
  have storage := (destroy_storage environment p).ran ranDestroy
  rw [isLast]
  rw [isMiddle] at storage ⊢
  exact ⟨after.memory, ranPush, rfl, storage⟩

theorem displace_eq_ok {current : Nat} (ran : displace environment p current pair = .ok () last) :
    (current < pair.vector.m_dataSize →
        (Pair.onOther (pushBackMove environment p) >>= fun _ =>
          Pair.onMemory (destroy environment p)) pair = .ok () last) ∧
      (pair.vector.m_dataSize ≤ current →
        last = ⟨pair.memory, ⟨pair.vector.m_p, current + 1, pair.vector.m_allocatedSize,
          pair.vector.m_AllocationManager⟩, pair.other⟩) := by
  unfold displace at ran
  rw [bind_of_ok (get_apply pair)] at ran
  constructor
  · intro before
    rw [if_pos before] at ran
    exact ran
  · intro past
    rw [if_neg (Nat.not_lt.mpr past)] at ran
    cases ran
    rfl

theorem consume_eq_ok {src current : Nat} (ran : (displace environment p current >>= fun _ =>
      Pair.onMemory (copyToRawNoOverlap environment p src 1)) pair = .ok () last) :
    ∃ middle, displace environment p current pair = .ok () middle ∧
      last.other = middle.other ∧ SameStorage middle.memory last.memory ∧
      last.vector = middle.vector ∧ Mapped middle.memory.slots p 1 := by
  obtain ⟨_, middle, ranDisplace, ranCopy⟩ := bind_eq_ok ran
  obtain ⟨memory, ranMemory, isLast⟩ := onPart_eq_ok ranCopy
  have storage :=
    (transferToRawNoOverlap_storage environment .copy p src 1).ran ranMemory
  rw [isLast]
  exact ⟨middle, ranDisplace, rfl, storage, rfl, transferToRawNoOverlap_mapped ranMemory⟩

end Turns

section Grown

variable {count : Memory α → Nat} {grows : AllocationManager → Nat → Nat → Prop}

theorem reserveInternal_grown (accounting : Accounting environment count grows)
    (ran : reserveInternal environment n false store = .ok () after) :
    after.vector.m_dataSize = store.vector.m_dataSize ∧
      after.vector.m_AllocationManager = store.vector.m_AllocationManager ∧
      (count store.memory < count after.memory ∨
        Regrown (grows store.vector.m_AllocationManager n) n store.vector.m_allocatedSize
          after.vector.m_allocatedSize) := by
  obtain ⟨enough, same⟩ | ⟨short, p, k, given, allocated, nonnull, ran, isVector⟩ :=
    reserveInternal_eq_ok ran
  · rw [same]
    exact ⟨rfl, rfl, .inr ⟨fun short => absurd enough (Nat.not_le.mpr short), fun _ => rfl⟩⟩
  · rw [isVector]
    refine ⟨rfl, rfl, ?_⟩
    have later := accounting.framed.relocate p k ⟨given, store.vector⟩
    rw [ran] at later
    obtain counted | grown := accounting.reported allocated nonnull
    · exact .inl (Nat.lt_of_lt_of_le counted later.memory)
    · exact .inr ⟨fun _ => grown, fun enough => absurd enough (Nat.not_le.mpr short)⟩

structure Extended (grows : Nat → Nat → Prop) (n : Nat) (before after : Vector) : Prop where
  size : after.m_dataSize = before.m_dataSize + n
  regrown : Regrown (grows (before.m_dataSize + n)) (before.m_dataSize + n)
    before.m_allocatedSize after.m_allocatedSize

/-- The sum of two sizes that are in range is in range or less than either. -/
theorem sum_inRange {size n range : Nat} (small : size < range) (fewer : n < range)
    (more : size ≤ (size + n) % range) : size + n < range := by
  by_contra wraps
  rw [Nat.mod_eq_sub_mod (Nat.not_lt.mp wraps), Nat.mod_eq_of_lt (by omega)] at more
  omega

theorem append_grown (accounting : Accounting environment count grows)
    (small : store.vector.m_dataSize < environment.elements.sizeRange)
    (fewer : n < environment.elements.sizeRange) {fill : Vector → MProc α Unit}
    (keeps : ∀ vector, KeepsStorage (fill vector))
    (ran : append environment n fill store = .ok () after) :
    store.vector.m_dataSize + n < environment.elements.sizeRange ∧
      (count store.memory < count after.memory ∨
        Extended (grows store.vector.m_AllocationManager) n store.vector after.vector) := by
  obtain ⟨middle, ranSpace, ranFill, isVector⟩ := append_eq_ok ran
  obtain ⟨more, reserved⟩ := addSpaceIfNeed_eq_ok ranSpace
  have inRange := sum_inRange small fewer more
  rw [Nat.mod_eq_of_lt inRange] at reserved
  obtain ⟨size, _, grown⟩ := reserveInternal_grown accounting reserved
  have later := accounting.framed.storage ((keeps middle.vector).ran ranFill)
  refine ⟨inRange, ?_⟩
  obtain counted | regrown := grown
  · exact .inl (Nat.lt_of_lt_of_le counted later)
  · right
    rw [isVector]
    exact ⟨by rw [size], regrown⟩

variable {pair last : Pair α}

theorem displaceOne_grown (accounting : Accounting environment count grows)
    (small : pair.other.m_dataSize < environment.elements.sizeRange) {p : Nat}
    (ran : (Pair.onOther (pushBackMove environment p) >>= fun _ =>
      Pair.onMemory (destroy environment p)) pair = .ok () last) :
    pair.other.m_dataSize + 1 < environment.elements.sizeRange ∧
      (count pair.memory < count last.memory ∨
        Extended (grows pair.other.m_AllocationManager) 1 pair.other last.other) := by
  obtain ⟨memory, ranPush, _, storage⟩ := displaceOne_eq_ok ran
  obtain ⟨inRange, grown⟩ := append_grown accounting small
    environment.elements.one_lt_sizeRange
    (fun vector => transferToRawNoOverlap_storage environment .move _ p 1) ranPush
  have later := accounting.framed.storage storage
  exact ⟨inRange, grown.imp_left fun counted => Nat.lt_of_lt_of_le counted later⟩

theorem consume_grown (accounting : Accounting environment count grows)
    (small : pair.other.m_dataSize < environment.elements.sizeRange) {p src current : Nat}
    (before : current < pair.vector.m_dataSize)
    (ran : (displace environment p current >>= fun _ =>
      Pair.onMemory (copyToRawNoOverlap environment p src 1)) pair = .ok () last) :
    count pair.memory < count last.memory ∨
      Extended (grows pair.other.m_AllocationManager) 1 pair.other last.other := by
  obtain ⟨middle, displaced, other, storage, _⟩ := consume_eq_ok ran
  obtain ⟨_, grown⟩ := displaceOne_grown accounting small ((displace_eq_ok displaced).1 before)
  rw [← other] at grown
  exact grown.imp_left fun counted =>
    Nat.lt_of_lt_of_le counted (accounting.framed.storage storage)

end Grown

end Vector

end CommonSerialization.Containers
