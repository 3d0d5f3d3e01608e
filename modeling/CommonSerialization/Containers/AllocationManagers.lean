import CommonSerialization.Containers.Memory

namespace CommonSerialization.Containers

open StateExcept Storage

/-! The allocators and the allocation managers over them. -/

/-- `ConstructorNoexceptAllocator` and `RawNoexceptAllocator` take from the heap,
`RawKeeperAllocator` from storage its user has given it. -/
inductive Allocator
  | heap
  | keeper (storage memorySize : Nat)
  deriving DecidableEq

inductive AllocationStrategy
  | strictByDataSize
  | doubleOfDataSize
  deriving DecidableEq

inductive AllocationManager
  | generic (allocator : Allocator)
  | strategic (allocator : Allocator) (strategy : AllocationStrategy)
  deriving DecidableEq

section Allocators

variable (environment : Environment α)

/-- `HeapAllocatorT().allocate(n * sizeof(value_type))`: the product wraps. -/
def Allocator.allocate (allocator : Allocator) (n : Nat) : MProc α Nat :=
  match allocator with
  | .heap => do
      let memory ← get
      match environment.heap memory
          (n * environment.elements.size % environment.elements.sizeRange) with
      | none =>
          set memory.refuse
          return 0
      | some grant =>
          set (memory.accept environment.elements grant)
          return grant.base
  | .keeper storage memorySize =>
      return if n ≤ memorySize ∧ n ≠ 0 then storage else 0

def forgottenIn (memory : Memory α) (p room : Nat) : List Event :=
  if environment.elements.constructorAllocator then
    ((List.range room).filter fun index => (memory.slots (p + index)).holds).map
      fun index => ⟨.forgotten, p + index, true⟩
  else []

def Memory.release (memory : Memory α) (p room : Nat) : Memory α :=
  { memory with
    blocks := Function.update memory.blocks p none
    slots := fun address =>
      if Within p room address then .unmapped else memory.slots address
    log := forgottenIn environment memory p room ++ memory.log }

def Allocator.deallocate (allocator : Allocator) (p : Nat) : MProc α Unit :=
  match allocator with
  | .heap =>
      if p = 0 then
        return ()
      else do
        let memory ← get
        match memory.blocks p with
        | none => throw .undefinedBehaviour
        | some bytes =>
            set (memory.release environment p (environment.elements.room bytes))
  | .keeper _ _ => return ()

def Allocator.construct (allocator : Allocator) (p : Nat) (value : Option α) :
    MProc α Unit :=
  match allocator with
  | .heap =>
      if environment.elements.constructorAllocator then
        Containers.construct environment p value
      else
        write p value
  | .keeper storage memorySize =>
      if p < storage ∨ storage + memorySize < p + 1 then
        fail .errorInvalidArgument
      else
        write p value

variable {environment : Environment α} {memory : Memory α} {n : Nat}

theorem Allocator.allocate_refused
    (refused : environment.heap memory
      (n * environment.elements.size % environment.elements.sizeRange) = none) :
    Allocator.heap.allocate environment n memory = .ok 0 memory.refuse := by
  simp only [allocate]
  rw [bind_of_ok (get_apply memory), refused]
  rfl

theorem Allocator.allocate_granted {grant : Grant}
    (granted : environment.heap memory
      (n * environment.elements.size % environment.elements.sizeRange) = some grant) :
    Allocator.heap.allocate environment n memory =
      .ok grant.base (memory.accept environment.elements grant) := by
  simp only [allocate]
  rw [bind_of_ok (get_apply memory), granted]
  rfl

variable (environment) in
theorem Allocator.deallocate_block {p bytes : Nat} (nonnull : p ≠ 0)
    (held : memory.blocks p = some bytes) :
    Allocator.heap.deallocate environment p memory =
      .ok () (memory.release environment p (environment.elements.room bytes)) := by
  simp only [deallocate]
  rw [if_neg nonnull, bind_of_ok (get_apply memory), held]
  rfl

end Allocators

namespace AllocationManager

def allocator : AllocationManager → Allocator
  | generic allocator => allocator
  | strategic allocator _ => allocator

variable (environment : Environment α) (manager : AllocationManager)

def allocateStrictImpl (n : Nat) : MProc α Nat :=
  manager.allocator.allocate environment n

def allocateMore (strategy : AllocationStrategy) (n : Nat) : MProc α Nat :=
  match strategy with
  | .doubleOfDataSize => manager.allocateStrictImpl environment n
  | .strictByDataSize => return 0

/-- The block and `*pAllocatedN`. -/
def allocateImpl (requestedN : Nat) : MProc α (Nat × Nat) :=
  match manager with
  | generic allocator => do
      let p ← allocator.allocate environment requestedN
      return (p, if p ≠ 0 then requestedN else 0)
  | strategic _ strategy => do
      let doubled := requestedN * 2 % environment.elements.sizeRange
      let p ← manager.allocateMore environment strategy doubled
      if p ≠ 0 then
        return (p, doubled)
      else
        let p ← manager.allocateStrictImpl environment requestedN
        return (p, if p ≠ 0 then requestedN else 0)

/-- Keeps count of the null pointers a caller of a manager gets. -/
def answer (p : Nat) : MProc α Unit :=
  modify fun memory =>
    if p = 0 then { memory with denied := memory.denied + 1 } else memory

def allocateStrict (n : Nat) : MProc α Nat := do
  let p ← manager.allocateStrictImpl environment n
  answer p
  return p

def allocate (requestedN : Nat) : MProc α (Nat × Nat) := do
  let (p, allocatedN) ← manager.allocateImpl environment requestedN
  answer p
  return (p, allocatedN)

def deallocate (p : Nat) : MProc α Unit :=
  manager.allocator.deallocate environment p

def construct (p : Nat) (value : Option α) : MProc α Unit :=
  manager.allocator.construct environment p value

/-- The loop of `constructN`; `built` elements stand before the current one. -/
def constructFrom (p : Nat) (value : Option α) (built : Nat) : Nat → MProc α Unit
  | 0 => return ()
  | n + 1 => do
      onFailure (manager.construct environment (p + built) value)
        (destroyN environment p built)
      constructFrom p value (built + 1) n

def constructN (p n : Nat) (value : Option α) : MProc α Unit :=
  if p ≠ 0 then
    constructFrom environment manager p value 0 n
  else
    fail .errorInvalidArgument

/-- A failed construction is an answer of its own, not a status. -/
def constructOrDeallocate (p allocatedN : Nat) (value : Option α) :
    MProc α (Nat × Nat) := fun memory =>
  match manager.constructN environment p allocatedN value memory with
  | .ok _ after => .ok (p, allocatedN) after
  | .error (.status _) failed =>
      match manager.deallocate environment p failed with
      | .ok _ after => .ok (0, 0) after
      | .error fault after => .error fault after
  | .error fault after => .error fault after

def allocateAndConstruct (requestedN : Nat) (value : Option α) :
    MProc α (Nat × Nat) := do
  let (p, allocatedN) ← manager.allocate environment requestedN
  if p ≠ 0 then
    manager.constructOrDeallocate environment p allocatedN value
  else
    return (p, allocatedN)

def destroyAndDeallocate (p n : Nat) : MProc α Unit := do
  destroyN environment p n
  manager.deallocate environment p

end AllocationManager

section Transfers

variable (environment : Environment α)

def destroyIf (dirty : Bool) (address : Nat) : MProc α Unit :=
  if dirty then destroy environment address else return ()

/-- The loops from the first element to the last; `clears` tells which destinations
are destroyed before they are used. -/
def transferUpward (transfer : Transfer) (clears : Nat → Bool) (dest src : Nat)
    (done : Nat) : Nat → MProc α Unit
  | 0 => return ()
  | n + 1 => do
      destroyIf environment (clears (dest + done)) (dest + done)
      onFailure (constructFrom environment transfer (dest + done) (src + done))
        (destroyN environment dest done)
      transferUpward transfer clears dest src (done + 1) n

def transferDownward (transfer : Transfer) (clears : Nat → Bool) (dest src n : Nat) :
    Nat → MProc α Unit
  | 0 => return ()
  | index + 1 => do
      destroyIf environment (clears (dest + index)) (dest + index)
      onFailure (constructFrom environment transfer (dest + index) (src + index))
        (destroyN environment (dest + index + 1) (n - 1 - index))
      transferDownward transfer clears dest src n index

def transferToRawNoOverlap (transfer : Transfer) (dest src n : Nat) : MProc α Unit :=
  if environment.elements.constructorAllocator then
    transferUpward environment transfer (fun _ => false) dest src 0 n
  else
    memcpy environment.elements dest src n

def transferToDirtyNoOverlap (transfer : Transfer) (dest dirtyMemoryFinish src n : Nat) :
    MProc α Unit :=
  if environment.elements.constructorAllocator then
    transferUpward environment transfer (fun address => decide (address < dirtyMemoryFinish))
      dest src 0 n
  else
    memcpy environment.elements dest src n

def transferToDirty (transfer : Transfer) (dest dirtyMemoryFinish src n : Nat) :
    MProc α Unit :=
  if dest = src then
    return ()
  else if areRegionsOverlap dest src n then
    if environment.elements.constructorAllocator then
      if dest < src then
        transferToDirtyNoOverlap environment transfer dest dirtyMemoryFinish src n
      else
        transferDownward environment transfer
          (fun address => decide (address < dirtyMemoryFinish)) dest src n n
    else
      memmove environment.elements dest src n
  else
    transferToDirtyNoOverlap environment transfer dest dirtyMemoryFinish src n

/-! The functions of the source, two by two. -/

def copyToRawNoOverlap := @transferToRawNoOverlap α environment .copy
def moveToRawNoOverlap := @transferToRawNoOverlap α environment .move
def copyToDirtyNoOverlap := @transferToDirtyNoOverlap α environment .copy
def moveToDirtyNoOverlap := @transferToDirtyNoOverlap α environment .move
def copyToDirty := @transferToDirty α environment .copy
def moveToDirty := @transferToDirty α environment .move

end Transfers

end CommonSerialization.Containers
