import CommonSerialization.Containers.StorageKept

namespace CommonSerialization.Containers

open StateExcept Storage

/-! Runs of the element-wise transfers: the memory they lead to, element after
element, in whatever order the loops go through them. -/

theorem Memory.ext {first second : Memory α}
    (slots : first.slots = second.slots) (blocks : first.blocks = second.blocks)
    (requests : first.requests = second.requests)
    (ungranted : first.ungranted = second.ungranted)
    (denied : first.denied = second.denied)
    (constructions : first.constructions = second.constructions)
    (log : first.log = second.log) : first = second := by
  cases first
  cases second
  simp_all

section OneElement

variable {environment : Environment α} {memory : Memory α} {dest src : Nat}
  {dirty : Bool} {value : α}

def Memory.cleared (memory : Memory α) (dirty : Bool) (dest : Nat) : Memory α :=
  { memory with
    slots := Function.update memory.slots dest .vacant
    log := (if dirty then [⟨.destroyed, dest, true⟩] else []) ++ memory.log }

theorem destroyIf_cleared
    (constructors : environment.elements.constructorAllocator = true)
    (mapped : (memory.slots dest).mapped) (held : (memory.slots dest).holds = dirty) :
    destroyIf environment dirty dest memory = .ok () (memory.cleared dirty dest) := by
  unfold destroyIf
  cases dirty with
  | true =>
      rw [if_pos rfl, destroy_of_mapped mapped constructors]
      unfold Memory.note Memory.put Memory.cleared
      rw [held]
      rfl
  | false =>
      have vacant : memory.slots dest = .vacant := by
        cases slot : memory.slots dest with
        | unmapped => rw [slot] at mapped; cases mapped
        | vacant => rfl
        | object value => rw [slot] at held; cases held
      have same : memory.cleared false dest = memory := by
        unfold Memory.cleared
        rw [← vacant, Function.update_eq_self]
        rfl
      rw [same]
      rfl

def Memory.received (memory : Memory α) (environment : Environment α)
    (transfer : Transfer) (dest src : Nat) (value : α) : Memory α :=
  { memory with
    slots := Function.update
      (match transfer with
      | .copy => memory.slots
      | .move => Function.update memory.slots src (.object (environment.afterMove value)))
      dest (.object value)
    constructions := memory.constructions + 1
    log := ⟨.constructed, dest, false⟩ :: ⟨.taken, src, true⟩ :: memory.log }

theorem constructFrom_received (transfer : Transfer)
    (constructors : environment.elements.constructorAllocator = true)
    (vacant : memory.slots dest = .vacant) (source : memory.slots src = .object value)
    (accepted : environment.refusal memory.constructions = none) :
    constructFrom environment transfer dest src memory =
      .ok () (memory.received environment transfer dest src value) := by
  have apart : dest ≠ src := by
    intro same
    rw [same, source] at vacant
    cases vacant
  have srcMapped : (memory.slots src).mapped := by
    rw [source]
    rfl
  have destMapped : ((memory.note .taken src).slots dest).mapped := by
    rw [show (memory.note .taken src).slots dest = .vacant from vacant]
    rfl
  unfold constructFrom
  rw [bind_of_ok (take_of_mapped srcMapped), if_pos constructors, source]
  have made := construct_of_mapped destMapped (some value) accepted
  rw [Slot.value?_object, bind_of_ok (onFailure_of_ok made)]
  cases transfer with
  | copy =>
      apply congrArg (EStateM.Result.ok ())
      apply Memory.ext
      · rfl
      · rfl
      · rfl
      · rfl
      · rfl
      · rfl
      · simp [Memory.received, Memory.put, Memory.note, vacant, source]
  | move =>
      apply congrArg (EStateM.Result.ok ())
      apply Memory.ext
      · simp only [Memory.received, Memory.put, Memory.note]
        rw [Function.update_of_ne apart.symm, source, Function.update_comm apart]
        rfl
      · rfl
      · rfl
      · rfl
      · rfl
      · rfl
      · simp [Memory.received, Memory.put, Memory.note, vacant, source]

def Memory.refused (memory : Memory α) (environment : Environment α)
    (transfer : Transfer) (dest src : Nat) (value : α) (left : Option α) : Memory α :=
  { memory with
    slots := Function.update
      (match transfer with
      | .copy => memory.slots
      | .move =>
          Function.update memory.slots src (.object (environment.afterRefusedMove value)))
      dest (.ofValue left)
    constructions := memory.constructions + 1
    log := ⟨.refused, dest, false⟩ :: ⟨.taken, src, true⟩ :: memory.log }

theorem constructFrom_refused (transfer : Transfer)
    (constructors : environment.elements.constructorAllocator = true)
    (vacant : memory.slots dest = .vacant) (source : memory.slots src = .object value)
    {refusal : Refusal α}
    (refused : environment.refusal memory.constructions = some refusal) :
    constructFrom environment transfer dest src memory =
      .error (.status refusal.status)
        (memory.refused environment transfer dest src value refusal.left) := by
  have apart : dest ≠ src := by
    intro same
    rw [same, source] at vacant
    cases vacant
  have srcMapped : (memory.slots src).mapped := by
    rw [source]
    rfl
  have destMapped : ((memory.note .taken src).slots dest).mapped := by
    rw [show (memory.note .taken src).slots dest = .vacant from vacant]
    rfl
  unfold constructFrom
  rw [bind_of_ok (take_of_mapped srcMapped), if_pos constructors, source]
  have failed := construct_of_refusal destMapped (some value) refused
  rw [Slot.value?_object]
  cases transfer with
  | copy =>
      have left (after : Memory α) :
          leave .copy environment.afterRefusedMove src after = .ok () after := rfl
      rw [bind_of_error (onFailure_of_status failed (left _))]
      apply congrArg (EStateM.Result.error (Fault.status refusal.status))
      apply Memory.ext
      · rfl
      · rfl
      · rfl
      · rfl
      · rfl
      · rfl
      · simp [Memory.refused, Memory.put, Memory.note, vacant, source]
  | move =>
      have left (after : Memory α) :
          leave .move environment.afterRefusedMove src after =
            .ok () (after.put src ((after.slots src).map environment.afterRefusedMove)) :=
        rfl
      rw [bind_of_error (onFailure_of_status failed (left _))]
      apply congrArg (EStateM.Result.error (Fault.status refusal.status))
      apply Memory.ext
      · simp only [Memory.refused, Memory.put, Memory.note]
        rw [Function.update_of_ne apart.symm, source, Function.update_comm apart]
        rfl
      · rfl
      · rfl
      · rfl
      · rfl
      · rfl
      · simp [Memory.refused, Memory.put, Memory.note, vacant, source]

end OneElement

/-- What a loop does for the element of an index that it gets through with. -/
def elementEvents (clears : Nat → Bool) (dest src index : Nat) : List Event :=
  (if clears (dest + index) then [⟨.destroyed, dest + index, true⟩] else []) ++
    [⟨.taken, src + index, true⟩, ⟨.constructed, dest + index, false⟩]

def Among (base : Nat) (order : List Nat) (address : Nat) : Prop :=
  ∃ index ∈ order, address = base + index

instance (base : Nat) (order : List Nat) (address : Nat) :
    Decidable (Among base order address) :=
  inferInstanceAs (Decidable (∃ index ∈ order, address = base + index))

theorem among_range {base n address : Nat} :
    Among base (List.range n) address ↔ Within base n address := by
  unfold Among Within
  constructor
  · intro among
    obtain ⟨index, member, same⟩ := among
    rw [List.mem_range] at member
    omega
  · intro within
    refine ⟨address - base, List.mem_range.mpr ?_, ?_⟩ <;> omega

@[simp] theorem among_append {base : Nat} {order : List Nat} {index address : Nat} :
    Among base (order ++ [index]) address ↔
      Among base order address ∨ address = base + index := by
  simp [Among, or_and_right, exists_or]

/-- The memory after the elements of some indices have been transferred, in an order
in which none of them is written over before it is read. -/
def Memory.transferred (memory : Memory α) (environment : Environment α)
    (transfer : Transfer) (clears : Nat → Bool) (dest src : Nat) (order : List Nat) :
    Memory α :=
  { memory with
    slots := fun address =>
      if Among dest order address then memory.slots (src + (address - dest))
      else if transfer = .move ∧ Among src order address then
        (memory.slots address).map environment.afterMove
      else memory.slots address
    constructions := memory.constructions + order.length
    log := (order.flatMap (elementEvents clears dest src)).reverse ++ memory.log }

/-- Elements and a place for them: `clears` says where objects are in the way. -/
structure Transferable (environment : Environment α) (memory : Memory α)
    (clears : Nat → Bool) (dest src n : Nat) : Prop where
  constructors : environment.elements.constructorAllocator = true
  objects : Objects memory.slots src n
  mapped : Mapped memory.slots dest n
  held : ∀ index < n, (memory.slots (dest + index)).holds = clears (dest + index)

structure NextIndex (dest src n : Nat) (order : List Nat) (index : Nat) : Prop where
  bound : index < n
  fresh : index ∉ order
  unread : ∀ earlier ∈ order, src + index ≠ dest + earlier

section Order

variable {environment : Environment α} {memory : Memory α} {transfer : Transfer}
  {clears : Nat → Bool} {dest src n index : Nat} {order : List Nat}

namespace Transferable

variable (transfer) in
theorem source (transferable : Transferable environment memory clears dest src n)
    (next : NextIndex dest src n order index) :
    ∃ value, memory.slots (src + index) = .object value ∧
      (memory.transferred environment transfer clears dest src order).slots
        (src + index) = .object value := by
  obtain ⟨value, held⟩ := Slot.exists_of_holds (transferable.objects index next.bound)
  refine ⟨value, held, ?_⟩
  have notWritten : ¬Among dest order (src + index) := by
    intro written
    obtain ⟨earlier, member, same⟩ := written
    exact next.unread earlier member same
  have notTaken : ¬Among src order (src + index) := by
    intro taken
    obtain ⟨earlier, member, same⟩ := taken
    exact next.fresh (Nat.add_left_cancel same ▸ member)
  rw [Memory.transferred]
  simp only [notWritten, notTaken, and_false, if_false, held]

variable (transfer) in
theorem destination (transferable : Transferable environment memory clears dest src n)
    (next : NextIndex dest src n order index) :
    ((memory.transferred environment transfer clears dest src order).slots
        (dest + index)).mapped ∧
      ((memory.transferred environment transfer clears dest src order).slots
        (dest + index)).holds = clears (dest + index) := by
  have notWritten : ¬Among dest order (dest + index) := by
    intro written
    obtain ⟨earlier, member, same⟩ := written
    exact next.fresh (Nat.add_left_cancel same ▸ member)
  rw [Memory.transferred]
  simp only [notWritten, if_false]
  split
  · rw [Slot.mapped_map, Slot.holds_map]
    exact ⟨transferable.mapped index next.bound, transferable.held index next.bound⟩
  · exact ⟨transferable.mapped index next.bound, transferable.held index next.bound⟩

end Transferable

/-- One more element. -/
theorem received_transferred (next : NextIndex dest src n order index) {value : α}
    (source : memory.slots (src + index) = .object value) :
    ((memory.transferred environment transfer clears dest src order).cleared
        (clears (dest + index)) (dest + index)).received environment transfer
          (dest + index) (src + index) value =
      memory.transferred environment transfer clears dest src (order ++ [index]) := by
  apply Memory.ext
  · funext address
    by_cases isDest : address = dest + index
    · have among : Among dest (order ++ [index]) address := by
        rw [among_append]
        exact .inr isDest
      simp only [Memory.received, Memory.transferred, among, if_true]
      rw [isDest, Function.update_self, Nat.add_sub_cancel_left, source]
    · simp only [Memory.received, Memory.transferred, among_append, isDest, or_false]
      rw [Function.update_of_ne isDest]
      cases transfer with
      | copy => simp [Memory.cleared, isDest]
      | move =>
          by_cases isSrc : address = src + index
          · cases isSrc
            have notWritten : ¬Among dest order (src + index) := by
              intro written
              obtain ⟨earlier, member, same⟩ := written
              exact next.unread earlier member same
            simp [notWritten, source, Slot.map]
          · simp [Memory.cleared, isDest, isSrc]
  · rfl
  · rfl
  · rfl
  · rfl
  · simp [Memory.received, Memory.cleared, Memory.transferred, Nat.add_assoc]
  · simp only [Memory.received, Memory.cleared, Memory.transferred, elementEvents,
      List.flatMap_append, List.flatMap_cons, List.flatMap_nil, List.append_nil,
      List.reverse_append]
    split <;> rfl

def Memory.emptied (memory : Memory α) (p n : Nat) : Memory α :=
  { memory with
    slots := fun address =>
      if Within p n address then .vacant else memory.slots address
    log := ((List.range n).map fun index => ⟨.destroyed, p + index, true⟩).reverse ++
      memory.log }

theorem destroyFrom_emptied {p : Nat}
    (constructors : environment.elements.constructorAllocator = true)
    (objects : Objects memory.slots p n) :
    destroyFrom environment p n memory = .ok () (memory.emptied p n) := by
  induction n generalizing p memory with
  | zero =>
      apply congrArg (EStateM.Result.ok ())
      apply Memory.ext
      · funext address
        have outside : ¬Within p 0 address := by
          unfold Within
          omega
        exact (if_neg outside).symm
      · rfl
      · rfl
      · rfl
      · rfl
      · rfl
      · rfl
  | succ n hypothesis =>
      have current := objects 0 (Nat.succ_pos n)
      have later : Objects (memory.cleared true p).slots (p + 1) n := by
        intro index bound
        have apart : p + 1 + index ≠ p := by omega
        rw [Memory.cleared]
        dsimp only
        rw [Function.update_of_ne apart, Nat.add_assoc, Nat.add_comm 1 index]
        exact objects (index + 1) (Nat.succ_lt_succ bound)
      have destroyed : destroy environment p memory = .ok () (memory.cleared true p) :=
        destroyIf_cleared constructors (Slot.mapped_of_holds current) current
      unfold destroyFrom
      rw [bind_of_ok destroyed, hypothesis later]
      apply congrArg (EStateM.Result.ok ())
      apply Memory.ext
      · funext address
        simp only [Memory.emptied, Memory.cleared]
        by_cases first : address = p
        · have inside : Within p (n + 1) address := by
            unfold Within
            omega
          have outside : ¬Within (p + 1) n address := by
            unfold Within
            omega
          rw [if_neg outside, if_pos inside, first, Function.update_self]
        · have same : Within (p + 1) n address ↔ Within p (n + 1) address := by
            unfold Within
            omega
          rw [Function.update_of_ne first]
          simp only [same]
      · rfl
      · rfl
      · rfl
      · rfl
      · rfl
      · simp only [Memory.emptied, Memory.cleared, List.range_succ_eq_map, List.map_cons,
          List.map_map, List.reverse_cons, List.append_assoc]
        congr 1
        apply congrArg List.reverse
        apply List.map_congr_left
        intro index _
        simp only [Function.comp_apply, Event.mk.injEq, true_and, and_true]
        omega

theorem destroyN_emptied {p : Nat} (nonnull : p ≠ 0)
    (constructors : environment.elements.constructorAllocator = true)
    (objects : Objects memory.slots p n) :
    destroyN environment p n memory = .ok () (memory.emptied p n) := by
  unfold destroyN
  rw [if_pos (by simp [constructors, nonnull])]
  exact destroyFrom_emptied constructors objects

end Order

section Loops

variable {environment : Environment α} {memory : Memory α} {transfer : Transfer}
  {clears : Nat → Bool} {dest src n index : Nat} {order : List Nat}
  {cleanup : MProc α Unit}

def Memory.stopped (memory : Memory α) (environment : Environment α)
    (transfer : Transfer) (clears : Nat → Bool) (dest src : Nat) (order : List Nat)
    (index : Nat) (value : α) (left : Option α) : Memory α :=
  ((memory.transferred environment transfer clears dest src order).cleared
    (clears (dest + index)) (dest + index)).refused environment transfer
      (dest + index) (src + index) value left

variable (transfer) in
theorem transferElement (transferable : Transferable environment memory clears dest src n)
    (distinct : dest ≠ src) (next : NextIndex dest src n order index) :
    ∃ value, memory.slots (src + index) = .object value ∧
      ∃ cleared,
        destroyIf environment (clears (dest + index)) (dest + index)
          (memory.transferred environment transfer clears dest src order) =
            .ok () cleared ∧
        (environment.refusal (memory.constructions + order.length) = none →
          constructFrom environment transfer (dest + index) (src + index) cleared =
            .ok () (memory.transferred environment transfer clears dest src
              (order ++ [index]))) ∧
        ∀ refusal,
          environment.refusal (memory.constructions + order.length) = some refusal →
            constructFrom environment transfer (dest + index) (src + index) cleared =
              .error (.status refusal.status)
                (memory.stopped environment transfer clears dest src order index value
                  refusal.left) := by
  obtain ⟨value, source, sourceNow⟩ := transferable.source transfer next
  obtain ⟨mapped, held⟩ := transferable.destination transfer next
  have sourceCleared :
      ((memory.transferred environment transfer clears dest src order).cleared
        (clears (dest + index)) (dest + index)).slots (src + index) = .object value := by
    unfold Memory.cleared
    dsimp only
    rwa [Function.update_of_ne (by omega)]
  refine ⟨value, source, _, destroyIf_cleared transferable.constructors mapped held, ?_, ?_⟩
  · intro accepted
    rw [← received_transferred next source]
    exact constructFrom_received transfer transferable.constructors
      (Function.update_self ..) sourceCleared accepted
  · intro refusal refused
    exact constructFrom_refused transfer transferable.constructors
      (Function.update_self ..) sourceCleared refused

def FirstRefusal (environment : Environment α) (count index : Nat)
    (refusal : Refusal α) : Prop :=
  (∀ earlier < index, environment.refusal (count + earlier) = none) ∧
    environment.refusal (count + index) = some refusal

/-- No place of a processed index is touched while a construction is refused. -/
theorem stopped_objects (transferable : Transferable environment memory clears dest src n)
    (bounded : ∀ earlier ∈ order, earlier < n)
    (next : NextIndex dest src n order index) (value : α) (left : Option α)
    {earlier : Nat} (member : earlier ∈ order) :
    ((memory.stopped environment transfer clears dest src order index value left).slots
      (dest + earlier)).holds := by
  have others : dest + earlier ≠ dest + index := by
    intro same
    exact next.fresh (Nat.add_left_cancel same ▸ member)
  have notSource : dest + earlier ≠ src + index := fun same =>
    next.unread earlier member same.symm
  have written : Among dest order (dest + earlier) := ⟨earlier, member, rfl⟩
  have held : ((memory.transferred environment transfer clears dest src order).slots
      (dest + earlier)).holds := by
    rw [Memory.transferred]
    simp only [written, if_true, Nat.add_sub_cancel_left]
    exact transferable.objects earlier (bounded earlier member)
  unfold Memory.stopped Memory.refused Memory.cleared
  dsimp only
  rw [Function.update_of_ne others]
  cases transfer with
  | copy =>
      dsimp only
      rwa [Function.update_of_ne others]
  | move =>
      dsimp only
      rwa [Function.update_of_ne notSource, Function.update_of_ne others]

variable (transfer) in
theorem transferUpward_run
    (transferable : Transferable environment memory clears dest src n)
    (distinct : dest ≠ src) (nonnull : n ≠ 0 → dest ≠ 0)
    (forward : dest < src ∨ src + n ≤ dest) {done left : Nat} (total : done + left = n)
    (accepted : ∀ earlier < done,
      environment.refusal (memory.constructions + earlier) = none) :
    ((∀ earlier < n, environment.refusal (memory.constructions + earlier) = none) ∧
      transferUpward environment transfer clears dest src done left
          (memory.transferred environment transfer clears dest src (List.range done)) =
        .ok () (memory.transferred environment transfer clears dest src (List.range n))) ∨
    ∃ index < n, ∃ value refusal, memory.slots (src + index) = .object value ∧
      FirstRefusal environment memory.constructions index refusal ∧
      transferUpward environment transfer clears dest src done left
          (memory.transferred environment transfer clears dest src (List.range done)) =
        .error (.status refusal.status)
          ((memory.stopped environment transfer clears dest src (List.range index) index
            value refusal.left).emptied dest index) := by
  induction left generalizing done with
  | zero =>
      cases total
      exact .inl ⟨accepted, rfl⟩
  | succ left hypothesis =>
      have next : NextIndex dest src n (List.range done) done := by
        refine ⟨by omega, List.not_mem_range_self, ?_⟩
        intro earlier member
        rw [List.mem_range] at member
        omega
      obtain ⟨value, source, cleared, cleaned, received, stopped⟩ :=
        transferElement transfer transferable distinct next
      rw [List.length_range] at received stopped
      unfold transferUpward
      rw [bind_of_ok cleaned]
      cases refused : environment.refusal (memory.constructions + done) with
      | none =>
          rw [bind_of_ok (onFailure_of_ok (received refused)), ← List.range_succ]
          apply hypothesis (by omega)
          intro earlier bound
          obtain later | same := Nat.lt_succ_iff_lt_or_eq.mp bound
          · exact accepted earlier later
          · rw [same]
            exact refused
      | some refusal =>
          refine .inr ⟨done, by omega, value, refusal, source, ⟨accepted, refused⟩, ?_⟩
          apply bind_of_error
          apply onFailure_of_status (stopped refusal refused)
          apply destroyN_emptied (nonnull (by omega)) transferable.constructors
          intro index bound
          apply stopped_objects transferable ?_ next value refusal.left
            (List.mem_range.mpr bound)
          intro earlier member
          rw [List.mem_range] at member
          omega

def descending (left n : Nat) : List Nat := (List.range' left (n - left)).reverse

theorem mem_descending {left : Nat} : index ∈ descending left n ↔ left ≤ index ∧ index < n := by
  unfold descending
  rw [List.mem_reverse, List.mem_range'_1]
  omega

theorem descending_step (bound : index < n) :
    descending index n = descending (index + 1) n ++ [index] := by
  unfold descending
  have count : n - index = n - (index + 1) + 1 := by omega
  rw [count, List.range'_succ, List.reverse_cons]

@[simp] theorem length_descending {left : Nat} : (descending left n).length = n - left := by
  simp [descending]

variable (transfer) in
theorem transferDownward_run
    (transferable : Transferable environment memory clears dest src n)
    (backward : src < dest) {left : Nat} (bound : left ≤ n)
    (accepted : ∀ earlier < n - left,
      environment.refusal (memory.constructions + earlier) = none) :
    ((∀ earlier < n, environment.refusal (memory.constructions + earlier) = none) ∧
      transferDownward environment transfer clears dest src n left
          (memory.transferred environment transfer clears dest src (descending left n)) =
        .ok () (memory.transferred environment transfer clears dest src
          (descending 0 n))) ∨
    ∃ index < n, ∃ value refusal, memory.slots (src + index) = .object value ∧
      FirstRefusal environment memory.constructions (n - (index + 1)) refusal ∧
      transferDownward environment transfer clears dest src n left
          (memory.transferred environment transfer clears dest src (descending left n)) =
        .error (.status refusal.status)
          ((memory.stopped environment transfer clears dest src
            (descending (index + 1) n) index value refusal.left).emptied
              (dest + index + 1) (n - 1 - index)) := by
  induction left with
  | zero => exact .inl ⟨accepted, rfl⟩
  | succ index hypothesis =>
      have next : NextIndex dest src n (descending (index + 1) n) index := by
        refine ⟨bound, ?_, ?_⟩
        · rw [mem_descending]
          omega
        · intro earlier member
          rw [mem_descending] at member
          omega
      obtain ⟨value, source, cleared, cleaned, received, stopped⟩ :=
        transferElement transfer transferable (by omega) next
      rw [length_descending] at received stopped
      unfold transferDownward
      rw [bind_of_ok cleaned]
      cases refused : environment.refusal (memory.constructions + (n - (index + 1))) with
      | none =>
          rw [bind_of_ok (onFailure_of_ok (received refused)), ← descending_step bound]
          apply hypothesis (by omega)
          intro earlier earlierBound
          by_cases last : earlier = n - (index + 1)
          · rw [last]
            exact refused
          · exact accepted earlier (by omega)
      | some refusal =>
          refine .inr ⟨index, bound, value, refusal, source, ⟨accepted, refused⟩, ?_⟩
          apply bind_of_error
          apply onFailure_of_status (stopped refusal refused)
          apply destroyN_emptied (by omega) transferable.constructors
          intro later laterBound
          have member : index + 1 + later ∈ descending (index + 1) n := by
            rw [mem_descending]
            omega
          rw [Nat.add_assoc, Nat.add_assoc, ← Nat.add_assoc index]
          apply stopped_objects transferable ?_ next value refusal.left member
          intro earlier member
          exact (mem_descending.mp member).2

variable (environment memory transfer clears dest src) in
theorem transferred_nothing :
    memory.transferred environment transfer clears dest src [] = memory := by
  unfold Memory.transferred Among
  simp

variable (transfer) in
/-- The loop from the first element to the last ends with all elements transferred, or with
the first construction that is refused. -/
theorem transferUpward_ends
    (transferable : Transferable environment memory clears dest src n)
    (distinct : dest ≠ src) (nonnull : n ≠ 0 → dest ≠ 0)
    (forward : dest < src ∨ src + n ≤ dest) :
    ((∀ earlier < n, environment.refusal (memory.constructions + earlier) = none) ∧
      transferUpward environment transfer clears dest src 0 n memory =
        .ok () (memory.transferred environment transfer clears dest src (List.range n))) ∨
    ∃ index < n, ∃ value refusal, memory.slots (src + index) = .object value ∧
      FirstRefusal environment memory.constructions index refusal ∧
      transferUpward environment transfer clears dest src 0 n memory =
        .error (.status refusal.status)
          ((memory.stopped environment transfer clears dest src (List.range index) index
            value refusal.left).emptied dest index) := by
  have run := transferUpward_run transfer transferable distinct nonnull forward
    (Nat.zero_add n) fun _ before => absurd before (Nat.not_lt_zero _)
  rw [List.range_zero, transferred_nothing] at run
  exact run

variable (transfer) in
theorem transferDownward_ends
    (transferable : Transferable environment memory clears dest src n)
    (backward : src < dest) :
    ((∀ earlier < n, environment.refusal (memory.constructions + earlier) = none) ∧
      transferDownward environment transfer clears dest src n n memory =
        .ok () (memory.transferred environment transfer clears dest src
          (descending 0 n))) ∨
    ∃ index < n, ∃ value refusal, memory.slots (src + index) = .object value ∧
      FirstRefusal environment memory.constructions (n - (index + 1)) refusal ∧
      transferDownward environment transfer clears dest src n n memory =
        .error (.status refusal.status)
          ((memory.stopped environment transfer clears dest src
            (descending (index + 1) n) index value refusal.left).emptied
              (dest + index + 1) (n - 1 - index)) := by
  have run := transferDownward_run transfer transferable backward (Nat.le_refl n)
    fun _ before => absurd before (by omega)
  rw [show descending n n = [] by simp [descending], transferred_nothing] at run
  exact run

end Loops

end CommonSerialization.Containers
