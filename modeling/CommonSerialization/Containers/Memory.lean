import CommonSerialization.Common.Platform
import CommonSerialization.Common.Status
import CommonSerialization.Library.Storage

namespace CommonSerialization.Containers

open StateExcept Storage

/-! The memory containers work on.  Addresses count elements, and zero is the null
pointer. -/

/-- An element type as the allocation managers see it. -/
structure Elements where
  platform : Platform
  /-- `sizeof(value_type)`. -/
  size : Nat
  size_pos : 0 < size
  /-- `constructor_allocator::value`. -/
  constructorAllocator : Bool

namespace Elements

variable (elements : Elements)

def sizeRange : Nat := 2 ^ elements.platform.addressBits

theorem sizeRange_pos : 0 < elements.sizeRange := Nat.two_pow_pos _

theorem one_lt_sizeRange : 1 < elements.sizeRange := by
  apply Nat.one_lt_two_pow
  unfold Platform.addressBits
  split <;> exact Nat.succ_ne_zero _

def room (bytes : Nat) : Nat := bytes / elements.size

end Elements

/-- The octets of a block, by where it starts, are in `blocks`.  `ungranted` counts
the requests the heap has not granted, `denied` the null pointers that allocation
managers have answered, `log` has the latest event in front. -/
structure Memory (α : Type) where
  slots : Nat → Slot α
  blocks : Nat → Option Nat
  requests : Nat
  ungranted : Nat := 0
  denied : Nat
  constructions : Nat
  log : List Event

structure Grant where
  base : Nat
  bytes : Nat

/-- A construction that ends with an error status, and what it leaves where the new
object should be. -/
structure Refusal (α : Type) where
  status : Status
  failure : statusSuccess status = false
  left : Option α

/-- What the library does not decide: the element type, when its constructions fail,
what a move leaves of an object, and the answers of the heap. -/
structure Environment (α : Type) where
  elements : Elements
  refusal : Nat → Option (Refusal α)
  afterMove : α → α
  afterRefusedMove : α → α
  heap : Memory α → Nat → Option Grant
  heap_bytes {memory : Memory α} {bytes : Nat} {grant : Grant}
    (granted : heap memory bytes = some grant) : bytes ≤ grant.bytes
  heap_base {memory : Memory α} {bytes : Nat} {grant : Grant}
    (granted : heap memory bytes = some grant) : grant.base ≠ 0
  heap_unused {memory : Memory α} {bytes : Nat} {grant : Grant}
    (granted : heap memory bytes = some grant) : memory.blocks grant.base = none
  heap_fresh {memory : Memory α} {bytes : Nat} {grant : Grant}
    (granted : heap memory bytes = some grant) {address : Nat}
    (inside : Within grant.base (elements.room grant.bytes) address) :
    memory.slots address = .unmapped

namespace Environment

/-- A heap that gives what is asked for at a place of its choice, as long as that
place is free. -/
def exact (elements : Elements) (place : Memory α → Nat) (afterMove : α → α)
    (refusal : Nat → Option (Refusal α)) : Environment α where
  elements := elements
  refusal := refusal
  afterMove := afterMove
  afterRefusedMove := id
  heap := fun memory bytes =>
    if place memory ≠ 0 ∧ memory.blocks (place memory) = none ∧
        ∀ index < elements.room bytes,
          (memory.slots (place memory + index)).mapped = false then
      some ⟨place memory, bytes⟩
    else
      none
  heap_bytes := by
    intro memory bytes grant granted
    split at granted <;> cases granted
    exact Nat.le_refl _
  heap_base := by
    intro memory bytes grant granted
    split at granted <;> cases granted
    rename_i free
    exact free.1
  heap_unused := by
    intro memory bytes grant granted
    split at granted <;> cases granted
    rename_i free
    exact free.2.1
  heap_fresh := by
    intro memory bytes grant granted address inside
    split at granted <;> cases granted
    rename_i free
    obtain ⟨lower, upper⟩ := inside
    dsimp only at lower upper
    have unmapped := free.2.2 (address - place memory) (by omega)
    rw [Nat.add_sub_cancel' lower] at unmapped
    cases slot : memory.slots address with
    | unmapped => rfl
    | vacant => rw [slot] at unmapped; cases unmapped
    | object value => rw [slot] at unmapped; cases unmapped

end Environment

abbrev MProc (α β : Type) := Proc (Memory α) β

namespace Memory

def empty : Memory α := ⟨fun _ => .unmapped, fun _ => none, 0, 0, 0, 0, []⟩

variable (memory : Memory α)

def refuse : Memory α :=
  { memory with requests := memory.requests + 1, ungranted := memory.ungranted + 1 }

def accept (elements : Elements) (grant : Grant) : Memory α :=
  { memory with
    requests := memory.requests + 1
    blocks := Function.update memory.blocks grant.base grant.bytes
    slots := fun address =>
      if Within grant.base (elements.room grant.bytes) address then .vacant
      else memory.slots address }

def put (address : Nat) (slot : Slot α) : Memory α :=
  { memory with slots := Function.update memory.slots address slot }

def note (action : Action) (address : Nat) : Memory α :=
  { memory with log := ⟨action, address, (memory.slots address).holds⟩ :: memory.log }

def copyOctets (dest src n : Nat) : Memory α :=
  { memory with
    slots := fun address =>
      if Within dest n address then memory.slots (src + (address - dest))
      else memory.slots address
    log :=
      (List.range n).reverse.map (fun index =>
          ⟨.written, dest + index, (memory.slots (dest + index)).holds⟩) ++
        ((List.range n).reverse.map (fun index =>
          ⟨.read, src + index, (memory.slots (src + index)).holds⟩) ++ memory.log) }

@[simp] theorem put_self (address : Nat) (slot : Slot α) :
    (memory.put address slot).slots address = slot := by
  simp [put]

theorem put_of_ne {address other : Nat} (differ : other ≠ address) (slot : Slot α) :
    (memory.put address slot).slots other = memory.slots other := by
  simp [put, Function.update_of_ne differ]

end Memory

/-- `AGS_CS_RUN` with something to do before the status is returned. -/
def onFailure (proc : Proc σ β) (cleanup : Proc σ Unit) : Proc σ β := fun state =>
  match proc state with
  | .error (.status status) failed =>
      match cleanup failed with
      | .ok _ cleaned => .error (.status status) cleaned
      | .error fault cleaned => .error fault cleaned
  | ended => ended

section Failures

variable {proc : Proc σ β} {cleanup : Proc σ Unit} {state after cleaned : σ}

theorem onFailure_of_ok {value : β} (ran : proc state = .ok value after) :
    onFailure proc cleanup state = .ok value after := by
  unfold onFailure
  rw [ran]

theorem onFailure_of_status {status : Status}
    (ran : proc state = .error (.status status) after)
    (ranCleanup : cleanup after = .ok () cleaned) :
    onFailure proc cleanup state = .error (.status status) cleaned := by
  unfold onFailure
  rw [ran]
  simp only [ranCleanup]

theorem onFailure_of_failure {status : Status} {fault : Fault}
    (ran : proc state = .error (.status status) after)
    (ranCleanup : cleanup after = .error fault cleaned) :
    onFailure proc cleanup state = .error fault cleaned := by
  unfold onFailure
  rw [ran]
  simp only [ranCleanup]

theorem onFailure_eq_ok {value : β} (ran : onFailure proc cleanup state = .ok value after) :
    proc state = .ok value after := by
  cases ranProc : proc state with
  | ok first middle =>
      rw [onFailure_of_ok ranProc] at ran
      exact ran
  | error fault middle =>
      unfold onFailure at ran
      rw [ranProc] at ran
      cases fault with
      | status status =>
          dsimp only at ran
          split at ran
          · cases ran
          · cases ran
      | exception | undefinedBehaviour | outOfFuel => cases ran

theorem onFailure_final {related : σ → σ → Prop} (refl : ∀ state, related state state)
    (movesCleanup : Moves related cleanup) :
    related (final (proc state)) (final (onFailure proc cleanup state)) := by
  cases ran : proc state with
  | ok value after =>
      rw [onFailure_of_ok ran]
      exact refl after
  | error fault failed =>
      cases fault with
      | status status =>
          have last := movesCleanup failed
          cases ranCleanup : cleanup failed with
          | ok value after =>
              rw [ranCleanup] at last
              rw [onFailure_of_status ran ranCleanup]
              exact last
          | error fault after =>
              rw [ranCleanup] at last
              rw [onFailure_of_failure ran ranCleanup]
              exact last
      | exception | undefinedBehaviour | outOfFuel =>
          unfold onFailure
          rw [ran]
          exact refl failed

theorem onFailure_moves {related : σ → σ → Prop} (refl : ∀ state, related state state)
    (trans : ∀ before middle after, related before middle → related middle after →
      related before after)
    (moves : Moves related proc) (movesCleanup : Moves related cleanup) :
    Moves related (onFailure proc cleanup) :=
  fun state => trans _ _ _ (moves state) (onFailure_final refl movesCleanup)

theorem onFailure_preserves {view : σ → τ} (kept : Preserves view proc)
    (keptCleanup : Preserves view cleanup) : Preserves view (onFailure proc cleanup) :=
  onFailure_moves (fun state => Eq.refl (view state))
    (fun _ _ _ first second => second.trans first) kept keptCleanup

end Failures

inductive Transfer
  | copy
  | move
  deriving DecidableEq

section Objects

variable (environment : Environment α)

/-- An access outside of all storage has no defined behaviour. -/
def access (address : Nat) : MProc α Unit := do
  if ((← get).slots address).mapped then
    return ()
  else
    throw .undefinedBehaviour

def take (address : Nat) : MProc α (Option α) := do
  access address
  let memory ← get
  set (memory.note (if environment.elements.constructorAllocator then .taken else .read)
    address)
  return (memory.slots address).value?

/-- `new ((void*)p) value_type(...)` of the raw allocators. -/
def write (address : Nat) (value : Option α) : MProc α Unit := do
  access address
  modify fun memory => (memory.note .written address).put address (.ofValue value)

def construct (address : Nat) (value : Option α) : MProc α Unit := do
  access address
  let memory ← get
  match environment.refusal memory.constructions with
  | none =>
      set { (memory.note .constructed address).put address (.ofValue value) with
        constructions := memory.constructions + 1 }
  | some refusal =>
      set { (memory.note .refused address).put address (.ofValue refusal.left) with
        constructions := memory.constructions + 1 }
      fail refusal.status

def leave (transfer : Transfer) (change : α → α) (src : Nat) : MProc α Unit :=
  match transfer with
  | .copy => return ()
  | .move => modify fun memory => memory.put src ((memory.slots src).map change)

def constructFrom (transfer : Transfer) (dest src : Nat) : MProc α Unit := do
  let value ← take environment src
  onFailure (construct environment dest value)
    (leave transfer environment.afterRefusedMove src)
  leave transfer environment.afterMove src

/-- `destroy` of the allocators; the raw ones do nothing. -/
def destroy (address : Nat) : MProc α Unit := do
  if environment.elements.constructorAllocator then
    access address
    modify fun memory => (memory.note .destroyed address).put address .vacant
  else
    return ()

def destroyFrom (p : Nat) : Nat → MProc α Unit
  | 0 => return ()
  | n + 1 => do
      destroy environment p
      destroyFrom (p + 1) n

def destroyN (p n : Nat) : MProc α Unit :=
  if environment.elements.constructorAllocator && p != 0 then
    destroyFrom environment p n
  else
    return ()

end Objects

section Octets

variable (elements : Elements)

def areRegionsOverlap (objs1 objs2 n : Nat) : Bool :=
  decide (objs2 ≤ objs1) && decide (objs1 < objs2 + n) ||
    decide (objs1 ≤ objs2) && decide (objs2 < objs1 + n)

/-- A number of octets that does not fit into `size_t` belongs to no array. -/
def memmove (dest src n : Nat) : MProc α Unit := do
  let memory ← get
  if n * elements.size < elements.sizeRange ∧
      (∀ index < n, (memory.slots (src + index)).mapped) ∧
      ∀ index < n, (memory.slots (dest + index)).mapped then
    set (memory.copyOctets dest src n)
  else
    throw .undefinedBehaviour

/-- Overlapping regions have no defined behaviour; an array onto itself is let
pass. -/
def memcpy (dest src n : Nat) : MProc α Unit :=
  if dest ≠ src ∧ areRegionsOverlap dest src n then
    throw .undefinedBehaviour
  else
    memmove elements dest src n

end Octets

end CommonSerialization.Containers
