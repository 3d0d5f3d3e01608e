import CommonSerialization.Containers.VectorRuns

namespace CommonSerialization.Containers

open StateExcept Storage

/-! Functions that fail because a manager has no block for them. -/

section Counted

variable (environment : Environment α)

/-! Only managers count null pointers. -/

theorem deallocate_counted (manager : AllocationManager) (p : Nat) :
    Preserves Memory.denied (manager.deallocate environment p) := by
  intro memory
  unfold AllocationManager.deallocate Allocator.deallocate
  cases manager.allocator with
  | keeper storage memorySize => rfl
  | heap =>
      dsimp only
      split
      · rfl
      · rw [bind_of_ok (get_apply memory)]
        cases memory.blocks p with
        | none => rfl
        | some bytes => rfl

theorem destroyAndDeallocate_counted (manager : AllocationManager) (p n : Nat) :
    Preserves Memory.denied (manager.destroyAndDeallocate environment p n) :=
  Preserves.bind (destroyN_storage environment p n).counted fun _ =>
    deallocate_counted environment manager p

theorem managerConstruct_counted (manager : AllocationManager) (p : Nat)
    (value : Option α) :
    Preserves Memory.denied (manager.construct environment p value) := by
  unfold AllocationManager.construct Allocator.construct
  cases manager.allocator with
  | heap =>
      apply Preserves.ite
      · exact fun _ => (construct_storage environment p value).counted
      · exact fun _ => (write_storage p value).counted
  | keeper storage memorySize =>
      apply Preserves.ite
      · exact fun _ => Preserves.throw _
      · exact fun _ => (write_storage p value).counted

theorem writeAll_counted (p : Nat) (octets : List α) :
    Preserves Memory.denied (Vector.writeAll p octets) := by
  induction octets generalizing p with
  | nil => exact Preserves.pure ()
  | cons octet octets hypothesis =>
      exact Preserves.bind (write_storage p _).counted fun _ => hypothesis (p + 1)

end Counted

/-- What a caller of a manager sees of the memory: nothing has happened, or a block
has come. -/
def Asked (before : Memory α) (p : Nat) (after : Memory α) : Prop :=
  (p = 0 → Untouched before after) ∧ (p ≠ 0 → after.denied = before.denied)

namespace AllocationManager

variable (environment : Environment α) (manager : AllocationManager) (n : Nat)
  (memory : Memory α)

theorem allocator_asked (allocator : Allocator) :
    ∃ p after, allocator.allocate environment n memory = .ok p after ∧
      after.denied = memory.denied ∧ (p = 0 → Untouched memory after) := by
  cases allocator with
  | keeper storage memorySize =>
      exact ⟨_, memory, rfl, rfl, fun _ => ⟨rfl, rfl, rfl, rfl⟩⟩
  | heap =>
      cases answer : environment.heap memory
          (n * environment.elements.size % environment.elements.sizeRange) with
      | none =>
          exact ⟨0, _, Allocator.allocate_refused answer, rfl,
            fun _ => Untouched.refuse memory⟩
      | some grant =>
          exact ⟨grant.base, _, Allocator.allocate_granted answer, rfl,
            fun null => absurd null (environment.heap_base answer)⟩

theorem allocateImpl_asked :
    ∃ p allocatedN after, manager.allocateImpl environment n memory =
        .ok (p, allocatedN) after ∧
      after.denied = memory.denied ∧ (p = 0 → Untouched memory after) := by
  cases manager with
  | generic allocator =>
      obtain ⟨p, after, ran, same, untouched⟩ :=
        allocator_asked environment n memory allocator
      exact ⟨p, _, after, bind_of_ok ran, same, untouched⟩
  | strategic allocator strategy =>
      have more : ∃ p after, (strategic allocator strategy).allocateMore environment
          strategy (n * 2 % environment.elements.sizeRange) memory = .ok p after ∧
          after.denied = memory.denied ∧ (p = 0 → Untouched memory after) := by
        cases strategy with
        | strictByDataSize => exact ⟨0, memory, rfl, rfl, fun _ => ⟨rfl, rfl, rfl, rfl⟩⟩
        | doubleOfDataSize => exact allocator_asked environment _ memory allocator
      obtain ⟨p, middle, ranMore, same, untouched⟩ := more
      unfold allocateImpl
      dsimp only
      rw [bind_of_ok ranMore]
      by_cases null : p = 0
      · rw [if_neg (not_not.mpr null)]
        have first := untouched null
        obtain ⟨q, after, ran, sameLast, untouchedLast⟩ :=
          allocator_asked environment n middle allocator
        refine ⟨q, _, after, bind_of_ok ran, sameLast.trans same, ?_⟩
        intro nullLast
        have last := untouchedLast nullLast
        exact ⟨last.slots.trans first.slots, last.blocks.trans first.blocks,
          last.constructions.trans first.constructions, last.log.trans first.log⟩
      · rw [if_pos null]
        exact ⟨p, _, middle, rfl, same, untouched⟩

theorem answer_asked {middle : Memory α} {p : Nat} (same : middle.denied = memory.denied)
    (untouched : p = 0 → Untouched memory middle) :
    ∃ after, answer p middle = .ok () after ∧ Asked memory p after := by
  by_cases null : p = 0
  · rw [null]
    have first := untouched null
    exact ⟨_, answer_null middle,
      fun _ => ⟨first.slots, first.blocks, first.constructions, first.log⟩,
      fun nonnull => absurd rfl nonnull⟩
  · exact ⟨middle, answer_block middle null, fun zero => absurd zero null, fun _ => same⟩

theorem allocate_asked :
    ∃ p allocatedN after, manager.allocate environment n memory =
      .ok (p, allocatedN) after ∧ Asked memory p after := by
  obtain ⟨p, allocatedN, middle, ran, same, untouched⟩ :=
    allocateImpl_asked environment manager n memory
  obtain ⟨after, counted, asked⟩ := answer_asked memory same untouched
  refine ⟨p, allocatedN, after, ?_, asked⟩
  unfold allocate
  rw [bind_of_ok ran]
  dsimp only
  rw [bind_of_ok counted]
  rfl

theorem allocateStrict_asked :
    ∃ p after, manager.allocateStrict environment n memory = .ok p after ∧
      Asked memory p after := by
  obtain ⟨p, middle, ran, same, untouched⟩ :=
    allocator_asked environment n memory manager.allocator
  obtain ⟨after, counted, asked⟩ := answer_asked memory same untouched
  refine ⟨p, after, ?_, asked⟩
  unfold allocateStrict
  rw [bind_of_ok (show manager.allocateStrictImpl environment n memory = _ from ran),
    bind_of_ok counted]
  rfl

end AllocationManager

def Spared (store : Store α) (result : EStateM.Result Fault (Store α) β) : Prop :=
  (final result).memory.denied = store.memory.denied ∨
    ∃ memory, result = .error (.status .errorNoMemory) ⟨memory, store.vector⟩ ∧
      Untouched store.memory memory

namespace Vector

def denied (store : Store α) : Nat := store.memory.denied

theorem onMemory_counted {proc : MProc α β} (counted : Preserves Memory.denied proc) :
    Preserves denied (onMemory proc) :=
  Preserves.onPart fun store => counted store.memory

theorem setters_counted (n : Nat) :
    Preserves denied (setPointer n : VProc α Unit) ∧
      Preserves denied (setDataSize n : VProc α Unit) ∧
      Preserves denied (setAllocatedSize n : VProc α Unit) :=
  ⟨Preserves.modify fun _ => rfl, Preserves.modify fun _ => rfl,
    Preserves.modify fun _ => rfl⟩

variable {environment : Environment α} {store : Store α}

theorem spared_of_counted {proc : VProc α β} (counted : Preserves denied proc) :
    Spared store (proc store) :=
  .inl (counted store)

theorem Spared.bind {first : VProc α β} {next : β → VProc α γ}
    (spared : Spared store (first store)) (later : ∀ value, Preserves denied (next value)) :
    Spared store ((first >>= next) store) := by
  cases ran : first store with
  | ok value middle =>
      rw [ran] at spared
      obtain same | ⟨memory, impossible, _⟩ := spared
      · left
        rw [bind_of_ok ran]
        exact (later value middle).trans same
      · cases impossible
  | error fault middle =>
      rw [ran] at spared
      rw [bind_of_error ran]
      obtain same | ⟨memory, failed, untouched⟩ := spared
      · exact .inl same
      · cases failed
        exact .inr ⟨memory, rfl, untouched⟩

theorem spared_of_request {request : MProc α (Nat × Nat)}
    (asked : ∃ p n after, request store.memory = .ok (p, n) after ∧
      Asked store.memory p after)
    {block : Nat × Nat → VProc α Unit} (counted : ∀ answer, Preserves denied (block answer)) :
    Spared store ((onMemory request >>= fun answer =>
      if answer.1 ≠ 0 then block answer else fail .errorNoMemory : VProc α Unit) store) := by
  obtain ⟨p, n, after, ran, untouched, same⟩ := asked
  rw [bind_of_ok (onMemory_of_ok ran)]
  by_cases null : p = 0
  · right
    rw [if_neg (not_not.mpr null)]
    exact ⟨after, rfl, untouched null⟩
  · left
    rw [if_pos null]
    exact (counted (p, n) ⟨after, store.vector⟩).trans (same null)

theorem spared_ite {condition : Prop} [Decidable condition] {first second : VProc α β}
    (yes : condition → Spared store (first store))
    (no : ¬condition → Spared store (second store)) :
    Spared store ((if condition then first else second) store) := by
  by_cases holds : condition
  · rw [if_pos holds]
    exact yes holds
  · rw [if_neg holds]
    exact no holds

variable (environment)

theorem relocate_counted (pNewMp n : Nat) :
    Preserves denied (relocate environment pNewMp n) := by
  apply Preserves.bind (setters_counted n).2.2
  intro _
  apply Preserves.get_bind
  intro before
  apply Preserves.bind
  · apply onFailure_preserves
    · exact onMemory_counted (transferToRawNoOverlap_storage environment .move _ _ _).counted
    · exact Preserves.bind (setters_counted 0).2.1 fun _ =>
        onMemory_counted (deallocate_counted environment _ _)
  · intro _
    exact Preserves.bind (onMemory_counted (destroyAndDeallocate_counted environment _ _ _))
      fun _ => (setters_counted pNewMp).1

theorem newBlock_asked (manager : AllocationManager) (strict : Bool) (n : Nat)
    (memory : Memory α) :
    ∃ p allocatedN after, newBlock environment manager strict n memory =
      .ok (p, allocatedN) after ∧ Asked memory p after := by
  cases strict with
  | false => exact AllocationManager.allocate_asked environment manager n memory
  | true =>
      obtain ⟨p, after, ran, asked⟩ :=
        AllocationManager.allocateStrict_asked environment manager n memory
      exact ⟨p, n, after, bind_of_ok ran, asked⟩

theorem reserveInternal_spared (n : Nat) (strict : Bool) :
    Spared store (reserveInternal environment n strict store) := by
  unfold reserveInternal
  rw [bind_of_ok (get_apply store)]
  apply spared_ite
  · intro _
    exact spared_of_request (newBlock_asked environment _ strict n store.memory)
      fun answer => relocate_counted environment answer.1 answer.2
  · exact fun _ => spared_of_counted (Preserves.pure ())

theorem addSpaceIfNeed_spared (n : Nat) :
    Spared store (addSpaceIfNeed environment n store) := by
  unfold addSpaceIfNeed
  rw [bind_of_ok (get_apply store)]
  apply spared_ite
  · intro _
    apply spared_ite
    · exact fun _ => reserveInternal_spared environment _ false
    · exact fun _ => spared_of_counted (Preserves.pure ())
  · exact fun _ => spared_of_counted (Preserves.throw _)

theorem append_spared (n : Nat) {fill : Vector → MProc α Unit}
    (counted : ∀ vector, Preserves Memory.denied (fill vector)) :
    Spared store (append environment n fill store) := by
  apply Spared.bind (addSpaceIfNeed_spared environment n)
  intro _
  apply Preserves.get_bind
  intro grown
  exact Preserves.bind (onMemory_counted (counted grown.vector)) fun _ =>
    (setters_counted _).2.1

theorem replaceElsewhere_spared (p n offset newDataSize : Nat) :
    Spared store (replaceElsewhere environment p n offset newDataSize store) := by
  unfold replaceElsewhere
  rw [bind_of_ok (get_apply store)]
  apply spared_of_request
    (AllocationManager.allocate_asked environment _ newDataSize store.memory)
  intro answer
  apply Preserves.bind (setters_counted answer.2).2.2
  intro _
  apply Preserves.bind
    (onMemory_counted (transferToRawNoOverlap_storage environment .move _ _ _).counted)
  intro _
  apply Preserves.bind
    (onMemory_counted (transferToRawNoOverlap_storage environment .copy _ _ _).counted)
  intro _
  exact Preserves.bind (onMemory_counted (destroyAndDeallocate_counted environment _ _ _))
    fun _ => (setters_counted answer.1).1

theorem replaceInPlace_counted (p n offset : Nat) :
    Preserves denied (replaceInPlace environment p n offset) := by
  apply Preserves.get_bind
  intro before
  exact Preserves.bind (onMemory_counted (destroyN_storage environment _ _).counted) fun _ =>
    onMemory_counted (transferToRawNoOverlap_storage environment .copy _ _ _).counted

theorem replace_spared (p n offset : Nat) :
    Spared store (replace environment p n offset store) := by
  unfold replace
  rw [bind_of_ok (get_apply store)]
  apply spared_ite
  · exact fun _ => spared_of_counted (Preserves.throw _)
  · intro _
    apply spared_ite
    · exact fun _ => spared_of_counted (Preserves.throw _)
    · intro _
      apply Spared.bind
      · unfold replaceElements
        rw [bind_of_ok (get_apply store)]
        apply spared_ite
        · exact fun _ => replaceElsewhere_spared environment p n offset _
        · exact fun _ => spared_of_counted (replaceInPlace_counted environment p n offset)
      · exact fun _ => Preserves.bind (setters_counted _).2.1 fun _ => Preserves.pure _

theorem insertElsewhere_spared (p n offset offsetPlusN newDataSize rightDataPartSize : Nat) :
    Spared store (insertElsewhere environment p n offset offsetPlusN newDataSize
      rightDataPartSize store) := by
  unfold insertElsewhere
  rw [bind_of_ok (get_apply store)]
  apply spared_of_request
    (AllocationManager.allocate_asked environment _ newDataSize store.memory)
  intro answer
  apply Preserves.bind (setters_counted answer.2).2.2
  intro _
  apply Preserves.bind
    (onMemory_counted (transferToRawNoOverlap_storage environment .move _ _ _).counted)
  intro _
  apply Preserves.bind
    (onMemory_counted (transferToRawNoOverlap_storage environment .copy _ _ _).counted)
  intro _
  apply Preserves.bind
  · exact Preserves.onlyIf fun _ =>
      onMemory_counted (transferToRawNoOverlap_storage environment .move _ _ _).counted
  · intro _
    exact Preserves.bind (onMemory_counted (destroyAndDeallocate_counted environment _ _ _))
      fun _ => (setters_counted answer.1).1

theorem insertInPlace_counted (p n offset offsetPlusN rightDataPartSize : Nat) :
    Preserves denied
      (insertInPlace environment p n offset offsetPlusN rightDataPartSize) := by
  apply Preserves.get_bind
  intro before
  apply Preserves.bind
  · exact Preserves.onlyIf fun _ =>
      onMemory_counted (transferToDirty_storage environment .move _ _ _ _).counted
  · exact fun _ =>
      onMemory_counted (transferToRawNoOverlap_storage environment .copy _ _ _).counted

theorem insert_spared (p n offset : Nat) :
    Spared store (insert environment p n offset store) := by
  unfold insert
  rw [bind_of_ok (get_apply store)]
  apply spared_ite
  · exact fun _ => spared_of_counted (Preserves.throw _)
  · intro _
    apply spared_ite
    · exact fun _ => spared_of_counted (Preserves.throw _)
    · intro _
      apply Spared.bind
      · unfold insertNewElements
        rw [bind_of_ok (get_apply store)]
        apply spared_ite
        · exact fun _ => insertElsewhere_spared environment p n offset _ _ _
        · intro _
          apply spared_ite
          · exact fun _ => spared_of_counted
              (insertInPlace_counted environment p n offset _ _)
          · intro _
            apply spared_ite
            · exact fun _ => spared_of_counted (Preserves.throw _)
            · exact fun _ => spared_of_counted (Preserves.pure ())
      · exact fun _ => Preserves.bind (setters_counted _).2.1 fun _ => Preserves.pure _

def Denies (manager : AllocationManager) (n : Nat) (memory : Memory α) : Prop :=
  ∃ allocatedN after, manager.allocate environment n memory = .ok (0, allocatedN) after

/-- The first thing that the insertion of a range does is a request in vain, of the
local vector for the element at the position, or of the vector itself. -/
def FirstDenied (store : Store α) (k : Nat) : Prop :=
  k < store.vector.m_dataSize ∧ k < store.vector.m_allocatedSize ∧
      Denies environment store.vector.m_AllocationManager.fresh 1 store.memory ∨
    store.vector.m_allocatedSize ≤ k ∧
      store.vector.m_allocatedSize < (k + 1) % environment.elements.sizeRange ∧
      Denies environment store.vector.m_AllocationManager
        ((k + 1) % environment.elements.sizeRange) store.memory

variable {environment}

theorem Denies.untouched {manager : AllocationManager} {n : Nat} {memory : Memory α}
    (denies : Denies environment manager n memory) :
    ∃ allocatedN after, manager.allocate environment n memory = .ok (0, allocatedN) after ∧
      Untouched memory after := by
  obtain ⟨allocatedN, after, denied⟩ := denies
  obtain ⟨p, others, last, ran, untouched, _⟩ :=
    AllocationManager.allocate_asked environment manager n memory
  rw [denied] at ran
  cases ran
  exact ⟨allocatedN, after, denied, untouched rfl⟩

variable (environment) in
theorem invalidate_empty (memory : Memory α) (manager : AllocationManager) :
    invalidate environment ⟨memory, empty manager⟩ = .ok () ⟨memory, empty manager⟩ := by
  have nothing : destroyN environment 0 0 memory = .ok () memory := by
    unfold destroyN
    rw [if_neg (by simp)]
    rfl
  have freed : manager.deallocate environment 0 memory = .ok () memory := by
    unfold AllocationManager.deallocate Allocator.deallocate
    cases manager.allocator with
    | heap => rfl
    | keeper storage memorySize => rfl
  unfold invalidate
  rw [bind_of_ok (clear_of_destroyN nothing), bind_of_ok (get_apply _),
    bind_of_ok (onMemory_of_ok freed)]
  rfl

variable (environment) in
/-- A call that has not needed its local vector. -/
theorem withTemp_idle {body : Proc (Pair α) β} {value : β} {memory : Memory α}
    {vector : Vector}
    (ran : body ⟨store.memory, store.vector,
        empty store.vector.m_AllocationManager.fresh⟩ =
      .ok value ⟨memory, vector, empty store.vector.m_AllocationManager.fresh⟩) :
    withTemp environment body store = .ok value ⟨memory, vector⟩ := by
  have cleaned : Pair.onOther (invalidate environment) ⟨memory, vector,
      empty store.vector.m_AllocationManager.fresh⟩ = .ok () ⟨memory, vector,
        empty store.vector.m_AllocationManager.fresh⟩ :=
    Pair.onOther_of_ok (invalidate_empty environment memory _)
  unfold withTemp
  dsimp only
  rw [bind_of_ok (onFailure_of_ok ran), bind_of_ok cleaned]
  rfl

/-- The local vector of a call that has failed at its first request. -/
theorem withTemp_spared {body : Proc (Pair α) β} {memory : Memory α}
    (untouched : Untouched store.memory memory)
    (failed : body ⟨store.memory, store.vector,
        empty store.vector.m_AllocationManager.fresh⟩ =
      .error (.status .errorNoMemory) ⟨memory, store.vector,
        empty store.vector.m_AllocationManager.fresh⟩) :
    Spared store (withTemp environment body store) := by
  right
  refine ⟨memory, ?_, untouched⟩
  have cleaned : Pair.onOther (invalidate environment) ⟨memory, store.vector,
      empty store.vector.m_AllocationManager.fresh⟩ = .ok () ⟨memory, store.vector,
        empty store.vector.m_AllocationManager.fresh⟩ :=
    Pair.onOther_of_ok (invalidate_empty environment memory _)
  unfold withTemp
  dsimp only
  rw [bind_of_error (onFailure_of_status failed cleaned)]

variable (environment) in
theorem insertElements_nil (fuel currentOffset : Nat) (pair : Pair α) :
    insertElements environment fuel [] currentOffset pair = .ok currentOffset pair := by
  cases fuel with
  | zero => rfl
  | succ fuel => rfl

theorem insertRange_spared {sources : List Nat} {fuel destBegin : Nat}
    (first : FirstDenied environment store (destBegin - store.vector.m_p)) :
    Spared store (insertRange environment fuel sources destBegin store) := by
  let k := destBegin - store.vector.m_p
  unfold insertRange
  rw [bind_of_ok (get_apply store)]
  apply spared_ite
  · exact fun _ => spared_of_counted (Preserves.throw _)
  · intro _
    cases sources with
    | nil =>
        left
        have ran : (do
            let currentOffset ← insertElements environment fuel [] k
            onlyIf ((← get).other.m_dataSize ≠ 0)
              (appendDisplaced environment store.vector.m_dataSize currentOffset)
            return (← get).vector.m_p + currentOffset : Proc (Pair α) Nat)
              ⟨store.memory, store.vector, empty store.vector.m_AllocationManager.fresh⟩ =
                .ok (store.vector.m_p + k) ⟨store.memory, store.vector,
                  empty store.vector.m_AllocationManager.fresh⟩ := by
          rw [bind_of_ok (insertElements_nil environment fuel k _)]
          rfl
        have idle := congrArg final (withTemp_idle environment ran)
        exact congrArg denied idle
    | cons src rest =>
        cases fuel with
        | zero =>
            left
            rfl
        | succ fuel =>
            obtain ⟨before, room, denies⟩ | ⟨full, short, denies⟩ := first
            · obtain ⟨_, memory, denied, untouched⟩ := denies.untouched
              apply withTemp_spared untouched
              apply bind_of_error
              unfold insertElements
              rw [bind_of_ok (get_apply _)]
              dsimp only
              rw [if_pos room]
              apply bind_of_error
              unfold displace
              rw [bind_of_ok (get_apply _)]
              dsimp only
              rw [if_pos before]
              apply bind_of_error
              exact Pair.onOther_of_error (pushBackMove_denied denied _)
            · obtain ⟨_, memory, denied, untouched⟩ := denies.untouched
              apply withTemp_spared untouched
              apply bind_of_error
              unfold insertElements
              rw [bind_of_ok (get_apply _)]
              dsimp only
              rw [if_neg (Nat.not_lt.mpr full)]
              apply bind_of_error
              exact Pair.onThis_of_error (reserveInternal_denied short denied)

end Vector

/-- The functions that ask for memory and promise to do so before anything else. -/
def VectorCall.grows : VectorCall α → Bool
  | setSize _ | reserve _ | pushBack _ | pushBackMove _ | pushBackN _ _ => true
  | pushBackArithmeticValue _ | emplaceBack _ | replace _ _ _ | insert _ _ _ => true
  | insertRange _ _ => true
  | _ => false

section Calls

variable {environment : Environment α} {store : Store α}

theorem spared_ignore {proc : VProc α β} (spared : Spared store (proc store)) :
    Spared store (ignore proc store) :=
  Vector.Spared.bind spared fun _ => Preserves.pure ()

theorem VectorCall.run_spared (call : VectorCall α) (grows : call.grows = true)
    (first : ∀ sources destBegin, call = .insertRange sources destBegin →
      Vector.FirstDenied environment store (destBegin - store.vector.m_p)) :
    Spared store (call.run environment store) := by
  cases call with
  | setSize n =>
      exact Vector.Spared.bind (Vector.reserveInternal_spared environment n false)
        fun _ => (Vector.setters_counted n).2.1
  | reserve n => exact Vector.reserveInternal_spared environment n true
  | pushBack value =>
      show Spared store (Vector.pushBack environment value store)
      apply Vector.append_spared
      intro vector
      exact Preserves.bind (take_storage environment value).counted fun _ =>
        managerConstruct_counted environment _ _ _
  | pushBackMove value =>
      show Spared store (Vector.pushBackMove environment value store)
      apply Vector.append_spared
      exact fun vector => (transferToRawNoOverlap_storage environment .move _ _ _).counted
  | pushBackN p n =>
      show Spared store (Vector.pushBackN environment p n store)
      apply Vector.spared_ite
      · exact fun _ => Vector.spared_of_counted (Preserves.throw _)
      · intro _
        apply Vector.append_spared
        exact fun vector => (transferToRawNoOverlap_storage environment .copy _ _ _).counted
  | pushBackArithmeticValue value =>
      show Spared store (Vector.pushBackArithmeticValue environment value store)
      apply Vector.append_spared
      exact fun vector => writeAll_counted _ value
  | emplaceBack value =>
      show Spared store (Vector.emplaceBack environment value store)
      apply Vector.append_spared
      exact fun vector => managerConstruct_counted environment _ _ value
  | replace p n offset => exact spared_ignore (Vector.replace_spared environment p n offset)
  | insert p n offset => exact spared_ignore (Vector.insert_spared environment p n offset)
  | insertRange sources destBegin =>
      exact spared_ignore (Vector.insertRange_spared (first sources destBegin rfl))
  | init rhs => cases grows
  | initMove rhs => cases grows
  | erase offset n => cases grows
  | eraseRange destBegin destEnd => cases grows
  | copyN offset n p => cases grows
  | clear => cases grows
  | invalidate => cases grows
  | release => cases grows

/-- A call that has failed because a manager answered with a null pointer has changed
neither the vector nor any storage; the insertion of a range only if it was its first
request. -/
theorem outOfMemory_changes_nothing {call : VectorCall α} (grows : call.grows = true)
    (first : ∀ sources destBegin, call = .insertRange sources destBegin →
      Vector.FirstDenied environment store (destBegin - store.vector.m_p))
    {after : Store α}
    (ran : call.run environment store = .error (.status .errorNoMemory) after)
    (null : store.memory.denied < after.memory.denied) :
    after.vector = store.vector ∧ Untouched store.memory after.memory := by
  have spared := call.run_spared grows first
  rw [ran] at spared
  obtain same | ⟨memory, failed, untouched⟩ := spared
  · exact absurd null (Nat.not_lt.mpr (Nat.le_of_eq same))
  · cases failed
    exact ⟨rfl, untouched⟩

end Calls

section Scarce

private def octetPairs : Elements := ⟨⟨false, false⟩, 2, by decide, false⟩

private def scarce (grants : Nat) : Environment Nat :=
  Environment.exact octetPairs
    (fun memory => if memory.requests < grants then 1000 * (memory.requests + 1) else 0)
    id fun _ => none

private def twoElements : Store Nat where
  memory :=
    { slots := fun address =>
        if address = 1000 then .object 1 else if address = 1001 then .object 2
        else if address = 500 then .object 9 else .unmapped
      blocks := Function.update (fun _ => none) 1000 (some 4)
      requests := 1
      denied := 0
      constructions := 0
      log := [] }
  vector := ⟨1000, 2, 2, .generic .heap⟩

private def EndsInVain (call : VectorCall Nat) : Prop :=
  ∃ after, call.run (scarce 1) twoElements = .error (.status .errorNoMemory) after ∧
    after.vector = twoElements.vector ∧ Untouched twoElements.memory after.memory

/-- An append, a range at the beginning and one at the end: the first request of each is
in vain, of the vector, of the local vector and of the vector. -/
theorem outOfMemory_changes_nothing_pushed :
    EndsInVain (.pushBack 500) ∧ EndsInVain (.insertRange [500] 1000) ∧
      EndsInVain (.insertRange [500, 500] 1002) := by
  refine ⟨?_, ?_, ?_⟩
  · have ran : (VectorCall.pushBack 500).run (scarce 1) twoElements =
        .error (.status .errorNoMemory) _ := rfl
    refine ⟨_, ran, outOfMemory_changes_nothing rfl ?_ ran (by decide)⟩
    intro _ _ impossible
    cases impossible
  · have ran : (VectorCall.insertRange [500] 1000).run (scarce 1) twoElements =
        .error (.status .errorNoMemory) _ := rfl
    refine ⟨_, ran, outOfMemory_changes_nothing rfl ?_ ran (by decide)⟩
    rintro _ _ same
    cases same
    exact .inl ⟨by decide, by decide, _, _, rfl⟩
  · have ran : (VectorCall.insertRange [500, 500] 1002).run (scarce 1) twoElements =
        .error (.status .errorNoMemory) _ := rfl
    refine ⟨_, ran, outOfMemory_changes_nothing rfl ?_ ran (by decide)⟩
    rintro _ _ same
    cases same
    exact .inr ⟨by decide, by decide, _, _, rfl⟩

/-- The local vector gets a block for the first element and none for the second. -/
theorem outOfMemory_after_displacement :
    ∃ after, (VectorCall.insertRange [500] 1000).run (scarce 2) twoElements =
        .error (.status .errorNoMemory) after ∧
      twoElements.memory.denied < after.memory.denied ∧
      after.vector = twoElements.vector ∧
      twoElements.memory.slots 1000 = .object 1 ∧ after.memory.slots 1000 = .object 9 :=
  ⟨_, rfl, by decide, by decide, by decide, by decide⟩

end Scarce

end CommonSerialization.Containers
