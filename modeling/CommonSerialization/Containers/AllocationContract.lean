import CommonSerialization.Containers.StorageKept

namespace CommonSerialization.Containers

open StateExcept Storage

/-! What the callers of an allocation manager rely on, and when they get it. -/

def Roomy (elements : Elements) (memory : Memory α) (p n : Nat) : Prop :=
  ∃ bytes, memory.blocks p = some bytes ∧ n * elements.size ≤ bytes

/-- A null pointer and no room, or room for what is reported, which is no less than
what was asked for. -/
def AllocationContract (elements : Elements) (requestedN : Nat) :
    EStateM.Result Fault (Memory α) (Nat × Nat) → Prop
  | .ok (p, allocatedN) after =>
      p = 0 ∧ allocatedN = 0 ∨
        p ≠ 0 ∧ requestedN ≤ allocatedN ∧ Roomy elements after p allocatedN
  | .error _ _ => False

/-- The same for a function that reports nothing. -/
def StrictContract (elements : Elements) (n : Nat) :
    EStateM.Result Fault (Memory α) Nat → Prop
  | .ok p after => p = 0 ∨ p ≠ 0 ∧ Roomy elements after p n
  | .error _ _ => False

section Answers

variable {environment : Environment α} {before after : Memory α} {p n bytes : Nat}

structure Untouched (before after : Memory α) : Prop where
  slots : after.slots = before.slots
  blocks : after.blocks = before.blocks
  constructions : after.constructions = before.constructions
  log : after.log = before.log

theorem Untouched.refuse (memory : Memory α) : Untouched memory memory.refuse :=
  ⟨rfl, rfl, rfl, rfl⟩

structure Granted (elements : Elements) (before after : Memory α) (p bytes : Nat) :
    Prop where
  nonnull : p ≠ 0
  unused : before.blocks p = none
  fresh : ∀ address, Within p (elements.room bytes) address →
    before.slots address = .unmapped
  slots : after.slots = fun address =>
    if Within p (elements.room bytes) address then .vacant else before.slots address
  blocks : after.blocks = Function.update before.blocks p bytes
  denied : after.denied = before.denied
  constructions : after.constructions = before.constructions
  log : after.log = before.log

theorem Granted.held {elements : Elements} (granted : Granted elements before after p bytes) :
    after.blocks p = some bytes := by
  rw [granted.blocks]
  exact Function.update_self ..

theorem Granted.vacant {elements : Elements}
    (granted : Granted elements before after p bytes) :
    Vacant after.slots p (elements.room bytes) := by
  intro index bound
  rw [granted.slots]
  exact if_pos ⟨Nat.le_add_right p index, Nat.add_lt_add_left bound p⟩

/-- What a manager answers to a request that does not wrap: the pointer and the number
of elements it reports. -/
inductive Answered (elements : Elements) (requestedN : Nat) (before : Memory α) :
    Nat → Nat → Memory α → Prop
  | denied {after : Memory α} (untouched : Untouched before after)
      (counted : after.denied = before.denied + 1) :
      Answered elements requestedN before 0 0 after
  | granted {p allocatedN bytes : Nat} {after : Memory α}
      (enough : requestedN ≤ allocatedN) (room : allocatedN * elements.size ≤ bytes)
      (granted : Granted elements before after p bytes) :
      Answered elements requestedN before p allocatedN after

theorem Answered.later {elements : Elements} {requestedN allocatedN : Nat}
    {middle : Memory α} (untouched : Untouched before middle)
    (counted : middle.denied = before.denied)
    (answered : Answered elements requestedN middle p allocatedN after) :
    Answered elements requestedN before p allocatedN after := by
  cases answered with
  | denied same countedLater =>
      exact .denied
        ⟨same.slots.trans untouched.slots, same.blocks.trans untouched.blocks,
          same.constructions.trans untouched.constructions,
          same.log.trans untouched.log⟩ (by rw [countedLater, counted])
  | granted enough room granted =>
      refine .granted enough room ⟨granted.nonnull, ?_, ?_, ?_, ?_,
        granted.denied.trans counted,
        granted.constructions.trans untouched.constructions,
        granted.log.trans untouched.log⟩
      · rw [← untouched.blocks]
        exact granted.unused
      · intro address inside
        rw [← untouched.slots]
        exact granted.fresh address inside
      · rw [← untouched.slots]
        exact granted.slots
      · rw [← untouched.blocks]
        exact granted.blocks

theorem Answered.contract {elements : Elements} {before after : Memory α}
    {p allocatedN : Nat}
    (answered : Answered elements requestedN before p allocatedN after) :
    AllocationContract elements requestedN (.ok (p, allocatedN) after) := by
  cases answered with
  | denied _ _ => exact .inl ⟨rfl, rfl⟩
  | granted enough room granted =>
      exact .inr ⟨granted.nonnull, enough, _, granted.held, room⟩

theorem Allocator.allocate_fits (memory : Memory α)
    (fits : n * environment.elements.size < environment.elements.sizeRange) :
    (Allocator.heap.allocate environment n memory = .ok 0 memory.refuse) ∨
      ∃ p bytes after, Allocator.heap.allocate environment n memory = .ok p after ∧
        n * environment.elements.size ≤ bytes ∧
        Granted environment.elements memory after p bytes := by
  cases answer : environment.heap memory
      (n * environment.elements.size % environment.elements.sizeRange) with
  | none => exact .inl (allocate_refused answer)
  | some grant =>
      refine .inr ⟨grant.base, grant.bytes, _, allocate_granted answer, ?_, ?_⟩
      · have given := environment.heap_bytes answer
        rwa [Nat.mod_eq_of_lt fits] at given
      · exact ⟨environment.heap_base answer, environment.heap_unused answer,
          fun address => environment.heap_fresh answer, rfl, rfl, rfl, rfl, rfl⟩

end Answers

namespace AllocationManager

def RequestFits (elements : Elements) (manager : AllocationManager) (requestedN : Nat) :
    Prop :=
  match manager with
  | strategic _ .doubleOfDataSize => requestedN * 2 * elements.size < elements.sizeRange
  | _ => requestedN * elements.size < elements.sizeRange

section Contract

variable {environment : Environment α} {manager : AllocationManager} {requestedN : Nat}

theorem RequestFits.strict {elements : Elements}
    (fits : manager.RequestFits elements requestedN) :
    requestedN * elements.size < elements.sizeRange := by
  unfold RequestFits at fits
  split at fits
  · rw [Nat.mul_right_comm] at fits
    exact Nat.lt_of_le_of_lt (Nat.le_mul_of_pos_right _ Nat.zero_lt_two) fits
  · exact fits

theorem RequestFits.inRange {elements : Elements}
    (fits : manager.RequestFits elements requestedN) : requestedN < elements.sizeRange :=
  Nat.lt_of_le_of_lt (Nat.le_mul_of_pos_right requestedN elements.size_pos)
    (RequestFits.strict fits)

theorem answer_null (memory : Memory α) :
    answer 0 memory = .ok () { memory with denied := memory.denied + 1 } := rfl

theorem answer_block (memory : Memory α) {p : Nat} (nonnull : p ≠ 0) :
    answer p memory = .ok () memory := by
  unfold answer
  rw [modify_apply, if_neg nonnull]

theorem allocateStrict_answered (heap : manager.allocator = .heap) (memory : Memory α)
    (fits : requestedN * environment.elements.size < environment.elements.sizeRange) :
    ∃ p allocatedN after,
      manager.allocateStrict environment requestedN memory = .ok p after ∧
        (p ≠ 0 → allocatedN = requestedN) ∧
        Answered environment.elements requestedN memory p allocatedN after := by
  unfold allocateStrict allocateStrictImpl
  rw [heap]
  obtain refused | ⟨p, bytes, after, ran, room, granted⟩ :=
    Allocator.allocate_fits memory fits
  · refine ⟨0, 0, { memory.refuse with denied := memory.denied + 1 }, ?_,
      fun nonnull => absurd rfl nonnull, .denied ⟨rfl, rfl, rfl, rfl⟩ rfl⟩
    rw [bind_of_ok refused, bind_of_ok (answer_null _)]
    rfl
  · refine ⟨p, requestedN, after, ?_, fun _ => rfl,
      .granted (Nat.le_refl _) room granted⟩
    rw [bind_of_ok ran, bind_of_ok (answer_block after granted.nonnull)]
    rfl

/-- The attempt for just what is needed, as `allocateImpl` makes it. -/
private theorem exact_answered (allocator : Allocator) (heap : allocator = .heap)
    (memory : Memory α)
    (fits : requestedN * environment.elements.size < environment.elements.sizeRange) :
    ∃ p allocatedN middle after,
      (do
        let p ← allocator.allocate environment requestedN
        return (p, if p ≠ 0 then requestedN else 0) : MProc α (Nat × Nat)) memory =
          .ok (p, allocatedN) middle ∧
        answer p middle = .ok () after ∧
        Answered environment.elements requestedN memory p allocatedN after := by
  rw [heap]
  obtain refused | ⟨p, bytes, after, ran, room, granted⟩ :=
    Allocator.allocate_fits memory fits
  · refine ⟨0, 0, memory.refuse, { memory.refuse with denied := memory.denied + 1 }, ?_,
      answer_null _, .denied ⟨rfl, rfl, rfl, rfl⟩ rfl⟩
    rw [bind_of_ok refused]
    rfl
  · refine ⟨p, requestedN, after, after, ?_, answer_block after granted.nonnull,
      .granted (Nat.le_refl _) room granted⟩
    rw [bind_of_ok ran, if_pos granted.nonnull]
    rfl

private theorem allocateImpl_answered (heap : manager.allocator = .heap)
    (memory : Memory α) (fits : manager.RequestFits environment.elements requestedN) :
    ∃ p allocatedN middle after,
      manager.allocateImpl environment requestedN memory =
          .ok (p, allocatedN) middle ∧
        answer p middle = .ok () after ∧
        Answered environment.elements requestedN memory p allocatedN after := by
  cases manager with
  | generic allocator => exact exact_answered allocator heap memory fits
  | strategic allocator strategy =>
      cases strategy with
      | strictByDataSize => exact exact_answered allocator heap memory fits
      | doubleOfDataSize =>
          have doubledFits : requestedN * 2 < environment.elements.sizeRange :=
            Nat.lt_of_le_of_lt
              (Nat.le_mul_of_pos_right _ environment.elements.size_pos) fits
          have attempt : (strategic allocator .doubleOfDataSize).allocateMore
              environment .doubleOfDataSize
              (requestedN * 2 % environment.elements.sizeRange) memory =
                Allocator.heap.allocate environment (requestedN * 2) memory := by
            rw [Nat.mod_eq_of_lt doubledFits]
            simp only [allocateMore, allocateStrictImpl, heap]
          unfold allocateImpl
          dsimp only
          obtain refused | ⟨p, bytes, after, ran, room, granted⟩ :=
            Allocator.allocate_fits (n := requestedN * 2) memory fits
          · rw [bind_of_ok (attempt.trans refused), if_neg (not_not.mpr rfl)]
            obtain ⟨p, allocatedN, middle, after, ran, counted, answered⟩ :=
              exact_answered allocator heap memory.refuse (RequestFits.strict fits)
            exact ⟨p, allocatedN, middle, after, ran, counted,
              answered.later (Untouched.refuse memory) rfl⟩
          · rw [bind_of_ok (attempt.trans ran), if_pos granted.nonnull,
              Nat.mod_eq_of_lt doubledFits]
            exact ⟨p, requestedN * 2, after, after, rfl,
              answer_block after granted.nonnull, .granted (by omega) room granted⟩

theorem allocate_answered (heap : manager.allocator = .heap) (memory : Memory α)
    (fits : manager.RequestFits environment.elements requestedN) :
    ∃ p allocatedN after,
      manager.allocate environment requestedN memory = .ok (p, allocatedN) after ∧
        Answered environment.elements requestedN memory p allocatedN after := by
  obtain ⟨p, allocatedN, middle, after, ran, counted, answered⟩ :=
    allocateImpl_answered heap memory fits
  refine ⟨p, allocatedN, after, ?_, answered⟩
  unfold allocate
  rw [bind_of_ok ran]
  dsimp only
  rw [bind_of_ok counted]
  rfl

theorem allocate_contract (heap : manager.allocator = .heap) (memory : Memory α)
    (fits : manager.RequestFits environment.elements requestedN) :
    AllocationContract environment.elements requestedN
      (manager.allocate environment requestedN memory) := by
  obtain ⟨p, allocatedN, after, ran, answered⟩ := allocate_answered heap memory fits
  rw [ran]
  exact answered.contract

theorem allocateStrict_contract (heap : manager.allocator = .heap) (memory : Memory α)
    (fits : requestedN * environment.elements.size < environment.elements.sizeRange) :
    StrictContract environment.elements requestedN
      (manager.allocateStrict environment requestedN memory) := by
  obtain ⟨p, allocatedN, after, ran, told, answered⟩ :=
    allocateStrict_answered heap memory fits
  rw [ran]
  cases answered with
  | denied _ _ => exact .inl rfl
  | granted enough room granted =>
      rw [told granted.nonnull] at room
      exact .inr ⟨granted.nonnull, _, granted.held, room⟩

theorem construct_kept (heap : manager.allocator = .heap) {memory : Memory α}
    {address : Nat} (mapped : (memory.slots address).mapped) (value : Option α) :
    KeptBy memory (manager.construct environment address value memory) := by
  unfold construct Allocator.construct
  rw [heap]
  dsimp only
  split
  · exact Containers.construct_kept mapped value
  · exact write_kept mapped value

theorem constructFrom_kept (heap : manager.allocator = .heap) {memory : Memory α}
    {p built n : Nat} (mapped : Mapped memory.slots p (built + n)) (value : Option α) :
    KeptBy memory (constructFrom environment manager p value built n memory) := by
  induction n generalizing built memory with
  | zero => exact SameStorage.refl memory
  | succ n hypothesis =>
      unfold constructFrom
      apply KeptBy.bind
      · apply KeptBy.onFailure
        · exact construct_kept heap (mapped built (by omega)) value
        · intro failed same
          apply destroyN_kept
          intro index bound
          rw [same.mapped]
          exact mapped index (by omega)
      · intro _ middle same
        apply hypothesis
        rw [Nat.add_right_comm]
        exact same.mappedRange mapped

theorem allocateAndConstruct_contract (heap : manager.allocator = .heap)
    (memory : Memory α) (value : Option α)
    (fits : manager.RequestFits environment.elements requestedN) :
    AllocationContract environment.elements requestedN
      (manager.allocateAndConstruct environment requestedN value memory) := by
  obtain ⟨p, allocatedN, after, ran, answered⟩ := allocate_answered heap memory fits
  unfold allocateAndConstruct
  rw [bind_of_ok ran]
  dsimp only
  cases answered with
  | denied _ _ => exact .inl ⟨rfl, rfl⟩
  | granted enough room granted =>
        have nonnull := granted.nonnull
        have mapped : Mapped after.slots p allocatedN := by
          intro index bound
          apply granted.vacant.mapped index
          exact Nat.lt_of_lt_of_le bound
            ((Nat.le_div_iff_mul_le environment.elements.size_pos).mpr room)
        simp only [ne_eq, nonnull, not_false_eq_true, if_true]
        have kept : KeptBy after
            (manager.constructN environment p allocatedN value after) := by
          unfold constructN
          rw [if_pos nonnull]
          exact constructFrom_kept heap (by rwa [Nat.zero_add]) value
        unfold constructOrDeallocate
        cases built : manager.constructN environment p allocatedN value after with
        | ok _ final =>
            rw [built] at kept
            refine .inr ⟨nonnull, enough, _, ?_, room⟩
            rw [kept.blocks, granted.held]
        | error fault final =>
            rw [built] at kept
            cases fault with
            | status status =>
                have stillHeld := granted.held
                rw [← kept.blocks] at stillHeld
                have freed := Allocator.deallocate_block environment nonnull stillHeld
                simp only [deallocate, heap, freed]
                exact .inl ⟨rfl, rfl⟩
            | exception => exact kept.elim
            | undefinedBehaviour => exact kept.elim
            | outOfFuel => exact kept.elim

end Contract

section Wraps

/-- The heap that gives no octet more than it was asked for. -/
private def frugal (α : Type) (elements : Elements) : Environment α :=
  .exact elements (fun _ => 1) id (fun _ => none)

variable {α : Type} {elements : Elements} {manager : AllocationManager}
  {requestedN : Nat}

variable (α elements) in
private theorem frugal_granted (n : Nat) :
    (frugal α elements).heap .empty (n * elements.size % elements.sizeRange) =
      some ⟨1, n * elements.size % elements.sizeRange⟩ :=
  if_pos ⟨Nat.one_ne_zero, rfl, fun _ _ => rfl⟩

variable (α elements) in
private theorem frugal_allocate (n : Nat) :
    ∃ after, Allocator.heap.allocate (frugal α elements) n .empty = .ok 1 after ∧
      after.blocks 1 = some (n * elements.size % elements.sizeRange) := by
  refine ⟨_, Allocator.allocate_granted (frugal_granted α elements n), ?_⟩
  simp [Memory.accept]

/-- What the heap is asked for first, and what is reported when it is granted. -/
def firstRequest (elements : Elements) (manager : AllocationManager) (requestedN : Nat) :
    Nat :=
  match manager with
  | strategic _ .doubleOfDataSize => requestedN * 2 % elements.sizeRange
  | _ => requestedN

theorem allocate_of_granted {environment : Environment α} {memory : Memory α} {grant : Grant}
    (heap : manager.allocator = .heap)
    (granted : environment.heap memory
      (manager.firstRequest environment.elements requestedN * environment.elements.size %
        environment.elements.sizeRange) = some grant) :
    manager.allocate environment requestedN memory =
      .ok (grant.base, manager.firstRequest environment.elements requestedN)
        (memory.accept environment.elements grant) := by
  have ran := Allocator.allocate_granted granted
  have nonnull := environment.heap_base granted
  have answered : manager.allocateImpl environment requestedN memory =
      .ok (grant.base, manager.firstRequest environment.elements requestedN)
        (memory.accept environment.elements grant) := by
    cases manager with
    | generic allocator =>
        cases heap
        apply (bind_of_ok ran).trans
        rw [if_pos nonnull]
        rfl
    | strategic allocator strategy =>
        cases heap
        cases strategy with
        | strictByDataSize =>
            apply (bind_of_ok rfl).trans
            rw [if_neg (not_not.mpr rfl)]
            apply (bind_of_ok ran).trans
            rw [if_pos nonnull]
            rfl
        | doubleOfDataSize =>
            apply (bind_of_ok ran).trans
            rw [if_pos nonnull]
            rfl
  unfold allocate
  rw [bind_of_ok answered]
  dsimp only
  rw [bind_of_ok (answer_block _ nonnull)]
  rfl

variable (α elements requestedN) in
private theorem frugal_answer (heap : manager.allocator = .heap) :
    ∃ after, manager.allocate (frugal α elements) requestedN .empty =
        .ok (1, manager.firstRequest elements requestedN) after ∧
      after.blocks 1 = some
        (manager.firstRequest elements requestedN * elements.size %
          elements.sizeRange) := by
  refine ⟨_, allocate_of_granted heap (frugal_granted α elements _), ?_⟩
  simp only [Memory.accept, Function.update_self]
  rfl

/-- A wrapped request looks granted. -/
private theorem frugal_fits (inRange : requestedN < elements.sizeRange)
    {after : Memory α} (held : after.blocks 1 = some
      (manager.firstRequest elements requestedN * elements.size % elements.sizeRange))
    (contract : AllocationContract elements requestedN
      (.ok (1, manager.firstRequest elements requestedN) after)) :
    manager.RequestFits elements requestedN := by
  obtain none | ⟨_, enough, bytes, block, room⟩ := contract
  · exact absurd none.1 Nat.one_ne_zero
  · rw [held] at block
    cases block
    have small : manager.firstRequest elements requestedN * elements.size <
        elements.sizeRange :=
      Nat.lt_of_le_of_lt room (Nat.mod_lt _ elements.sizeRange_pos)
    unfold RequestFits
    split
    · have unwrapped : requestedN * 2 < elements.sizeRange := by
        simp only [firstRequest] at enough
        by_contra wraps
        have lower : requestedN * 2 % elements.sizeRange =
            requestedN * 2 - elements.sizeRange := by
          rw [Nat.mod_eq_sub_mod (by omega), Nat.mod_eq_of_lt (by omega)]
        omega
      rwa [firstRequest, Nat.mod_eq_of_lt unwrapped] at small
    · rename_i other
      unfold firstRequest at small
      split at small
      · exact (other _ rfl).elim
      · exact small

theorem allocate_contract_iff (heap : manager.allocator = .heap)
    (inRange : requestedN < elements.sizeRange) :
    (∀ environment : Environment α, environment.elements = elements →
      ∀ memory, AllocationContract elements requestedN
        (manager.allocate environment requestedN memory)) ↔
      manager.RequestFits elements requestedN := by
  constructor
  · intro always
    obtain ⟨after, ran, held⟩ := frugal_answer α elements requestedN heap
    have contract := always (frugal α elements) rfl .empty
    rw [ran] at contract
    exact frugal_fits inRange held contract
  · intro fits environment same memory
    cases same
    exact allocate_contract heap memory fits

theorem allocateStrict_contract_iff (heap : manager.allocator = .heap) :
    (∀ environment : Environment α, environment.elements = elements →
      ∀ memory, StrictContract elements requestedN
        (manager.allocateStrict environment requestedN memory)) ↔
      requestedN * elements.size < elements.sizeRange := by
  constructor
  · intro always
    obtain ⟨after, ran, held⟩ := frugal_allocate α elements requestedN
    have contract := always (frugal α elements) rfl .empty
    unfold allocateStrict allocateStrictImpl at contract
    rw [heap, bind_of_ok ran, bind_of_ok (answer_block after Nat.one_ne_zero)] at contract
    obtain null | ⟨_, bytes, block, room⟩ := contract
    · exact absurd null Nat.one_ne_zero
    · rw [held] at block
      cases block
      exact Nat.lt_of_le_of_lt room (Nat.mod_lt _ elements.sizeRange_pos)
  · intro fits environment same memory
    cases same
    exact allocateStrict_contract heap memory fits

/-- Where no construction fails, a run over a block ends well or outside of it. -/
private theorem frugal_constructFrom (heap : manager.allocator = .heap) (p : Nat)
    (value : Option α) (n built : Nat) (memory : Memory α) :
    (∃ after, constructFrom (frugal α elements) manager p value built n memory =
        .ok () after ∧ after.blocks = memory.blocks) ∨
      ∃ after, constructFrom (frugal α elements) manager p value built n memory =
        .error .undefinedBehaviour after := by
  induction n generalizing built memory with
  | zero => exact .inl ⟨memory, rfl, rfl⟩
  | succ n hypothesis =>
      have step :
          (∃ after, manager.construct (frugal α elements) (p + built) value memory =
            .ok () after ∧ after.blocks = memory.blocks) ∨
          manager.construct (frugal α elements) (p + built) value memory =
            .error .undefinedBehaviour memory := by
        have outside (unmapped : ¬(memory.slots (p + built)).mapped) :
            access (p + built) memory = .error .undefinedBehaviour memory := by
          unfold access
          rw [bind_of_ok (get_apply memory), if_neg unmapped]
          rfl
        unfold construct Allocator.construct
        rw [heap]
        dsimp only
        by_cases mapped : (memory.slots (p + built)).mapped
        · left
          split
          · exact ⟨_, construct_of_mapped mapped value rfl, rfl⟩
          · exact ⟨_, write_of_mapped mapped value, rfl⟩
        · right
          split
          · exact bind_of_error (outside mapped)
          · exact bind_of_error (outside mapped)
      unfold constructFrom
      obtain ⟨middle, ran, same⟩ | ran := step
      · rw [bind_of_ok (onFailure_of_ok ran), ← same]
        exact hypothesis (built + 1) middle
      · refine .inr ⟨memory, bind_of_error ?_⟩
        unfold onFailure
        rw [ran]

theorem allocateAndConstruct_contract_iff (heap : manager.allocator = .heap)
    (inRange : requestedN < elements.sizeRange) :
    (∀ environment : Environment α, environment.elements = elements →
      ∀ memory value, AllocationContract elements requestedN
        (manager.allocateAndConstruct environment requestedN value memory)) ↔
      manager.RequestFits elements requestedN := by
  constructor
  · intro always
    obtain ⟨after, ran, held⟩ := frugal_answer α elements requestedN heap
    have contract := always (frugal α elements) rfl .empty none
    unfold allocateAndConstruct at contract
    rw [bind_of_ok ran] at contract
    dsimp only at contract
    rw [if_pos Nat.one_ne_zero] at contract
    unfold constructOrDeallocate constructN at contract
    rw [if_pos Nat.one_ne_zero] at contract
    obtain ⟨final, built, same⟩ | ⟨final, built⟩ := frugal_constructFrom heap 1
      (none : Option α) (manager.firstRequest elements requestedN) 0 after
    · rw [built] at contract
      rw [← same] at held
      exact frugal_fits inRange held contract
    · rw [built] at contract
      exact contract.elim
  · intro fits environment same memory value
    cases same
    exact allocateAndConstruct_contract heap memory value fits

/-- Every request keeps the contract, whatever the heap answers and whatever is
constructed, exactly when no product wraps. -/
theorem allocation_contract_iff (heap : manager.allocator = .heap)
    (inRange : requestedN < elements.sizeRange) :
    ((∀ environment : Environment α, environment.elements = elements → ∀ memory,
        AllocationContract elements requestedN
          (manager.allocate environment requestedN memory)) ↔
      manager.RequestFits elements requestedN) ∧
    ((∀ environment : Environment α, environment.elements = elements → ∀ memory,
        StrictContract elements requestedN
          (manager.allocateStrict environment requestedN memory)) ↔
      requestedN * elements.size < elements.sizeRange) ∧
    ((∀ environment : Environment α, environment.elements = elements →
        ∀ memory value, AllocationContract elements requestedN
          (manager.allocateAndConstruct environment requestedN value memory)) ↔
      manager.RequestFits elements requestedN) :=
  ⟨allocate_contract_iff heap inRange, allocateStrict_contract_iff heap,
    allocateAndConstruct_contract_iff heap inRange⟩

private def integers : Elements := ⟨⟨false, false⟩, 4, by decide, false⟩

theorem allocation_contract_three :
    AllocationContract integers 3
      ((strategic .heap .doubleOfDataSize).allocate (frugal Nat integers) 3 .empty) := by
  have fits : (strategic .heap .doubleOfDataSize).RequestFits integers 3 :=
    show 3 * 2 * 4 < 2 ^ 64 by decide
  exact (allocation_contract_iff rfl (by decide)).1.mpr fits (frugal Nat integers) rfl .empty

/-- Doubling 2 ^ 61 integers asks the heap for no octet at all. -/
theorem allocation_doubled_to_nothing :
    ∃ after, (strategic .heap .doubleOfDataSize).allocate (frugal Nat integers) (2 ^ 61)
        .empty = .ok (1, 2 ^ 62) after ∧
      after.blocks 1 = some 0 ∧
      ¬AllocationContract integers (2 ^ 61) (.ok (1, 2 ^ 62) after) := by
  have doubles : (strategic .heap .doubleOfDataSize).allocator = .heap := rfl
  obtain ⟨after, ran, held⟩ := frugal_answer Nat integers (2 ^ 61) doubles
  refine ⟨after, ran, held, ?_⟩
  intro contract
  obtain none | ⟨_, _, bytes, block, room⟩ := contract
  · exact absurd none.1 (by decide)
  · have nothing : after.blocks 1 = some 0 := held
    rw [nothing] at block
    cases block
    exact absurd room (by decide)

end Wraps

end AllocationManager

end CommonSerialization.Containers
