import CommonSerialization.Containers.AllocationManagers

namespace CommonSerialization.Containers

open StateExcept Storage

/-! The vector.  Pointers to elements are passed as addresses, iterators too. -/

structure Vector where
  m_p : Nat
  m_dataSize : Nat
  m_allocatedSize : Nat
  m_AllocationManager : AllocationManager
  deriving DecidableEq

structure Store (α : Type) where
  memory : Memory α
  vector : Vector

/-- The same with one more vector: the argument of `init`, or the local one of an
insertion. -/
structure Pair (α : Type) where
  memory : Memory α
  vector : Vector
  other : Vector

abbrev VProc (α β : Type) := Proc (Store α) β

namespace AllocationManager

def fresh : AllocationManager → AllocationManager
  | generic .heap => generic .heap
  | generic (.keeper _ _) => generic (.keeper 0 0)
  | strategic .heap _ => strategic .heap .doubleOfDataSize
  | strategic (.keeper _ _) _ => strategic (.keeper 0 0) .doubleOfDataSize

/-- Copy assignment: a keeper does not copy anything. -/
def assign (manager rhs : AllocationManager) : AllocationManager :=
  match manager, rhs with
  | generic (.keeper storage memorySize), generic (.keeper _ _) =>
      generic (.keeper storage memorySize)
  | strategic (.keeper storage memorySize) _, strategic (.keeper _ _) strategy =>
      strategic (.keeper storage memorySize) strategy
  | _, rhs => rhs

def abandoned : AllocationManager → AllocationManager
  | generic (.keeper _ _) => generic (.keeper 0 0)
  | strategic (.keeper _ _) strategy => strategic (.keeper 0 0) strategy
  | manager => manager

end AllocationManager

namespace Vector

def empty (manager : AllocationManager) : Vector := ⟨0, 0, 0, manager⟩

def setPointer (p : Nat) : VProc α Unit :=
  modify fun store => { store with vector := { store.vector with m_p := p } }

def setDataSize (n : Nat) : VProc α Unit :=
  modify fun store => { store with vector := { store.vector with m_dataSize := n } }

def setAllocatedSize (n : Nat) : VProc α Unit :=
  modify fun store => { store with vector := { store.vector with m_allocatedSize := n } }

def onMemory (proc : MProc α β) : VProc α β :=
  onPart Store.memory (fun memory store => { store with memory := memory }) proc

section Steps

variable {store : Store α} {proc : MProc α β} {after : Memory α}

@[simp] theorem setPointer_apply (p : Nat) :
    setPointer p store = .ok () ⟨store.memory, ⟨p, store.vector.m_dataSize,
      store.vector.m_allocatedSize, store.vector.m_AllocationManager⟩⟩ := rfl

@[simp] theorem setDataSize_apply (n : Nat) :
    setDataSize n store = .ok () ⟨store.memory, ⟨store.vector.m_p, n,
      store.vector.m_allocatedSize, store.vector.m_AllocationManager⟩⟩ := rfl

@[simp] theorem setAllocatedSize_apply (n : Nat) :
    setAllocatedSize n store = .ok () ⟨store.memory, ⟨store.vector.m_p,
      store.vector.m_dataSize, n, store.vector.m_AllocationManager⟩⟩ := rfl

theorem onMemory_of_ok {value : β} (ran : proc store.memory = .ok value after) :
    onMemory proc store = .ok value ⟨after, store.vector⟩ :=
  onPart_of_ok ran

theorem onMemory_of_error {fault : Fault} (ran : proc store.memory = .error fault after) :
    onMemory proc store = .error fault ⟨after, store.vector⟩ :=
  onPart_of_error ran

theorem onMemory_ended {good : β → Memory α → Prop} {bad : Fault → Memory α → Prop}
    (ended : Ended good bad (proc store.memory)) :
    Ended (fun value after => good value after.memory ∧ after.vector = store.vector)
      (fun fault after => bad fault after.memory ∧ after.vector = store.vector)
      (onMemory proc store) :=
  ended.onPart (fun _ _ holds => ⟨holds, rfl⟩) (fun _ _ holds => ⟨holds, rfl⟩)

end Steps

variable (environment : Environment α)

section Growth

/-- `allocateStrict`, which reports nothing, or `allocate`. -/
def newBlock (manager : AllocationManager) (strict : Bool) (n : Nat) :
    MProc α (Nat × Nat) :=
  if strict then do
    let p ← manager.allocateStrict environment n
    return (p, n)
  else
    manager.allocate environment n

def relocate (pNewMp n : Nat) : VProc α Unit := do
  setAllocatedSize n
  let vector := (← get).vector
  onFailure
    (onMemory (moveToRawNoOverlap environment pNewMp vector.m_p vector.m_dataSize))
    (do
      setDataSize 0
      onMemory (vector.m_AllocationManager.deallocate environment pNewMp))
  onMemory (vector.m_AllocationManager.destroyAndDeallocate environment vector.m_p
    vector.m_dataSize)
  setPointer pNewMp

def reserveInternal (n : Nat) (strict : Bool) : VProc α Unit := do
  let vector := (← get).vector
  if vector.m_allocatedSize < n then
    let (pNewMp, n) ← onMemory (newBlock environment vector.m_AllocationManager strict n)
    if pNewMp ≠ 0 then
      relocate environment pNewMp n
    else
      fail .errorNoMemory
  else
    return ()

def addSpaceIfNeed (n : Nat) : VProc α Unit := do
  let vector := (← get).vector
  let needed := (vector.m_dataSize + n) % environment.elements.sizeRange
  if vector.m_dataSize ≤ needed then
    if vector.m_allocatedSize < needed then
      reserveInternal environment needed false
    else
      return ()
  else
    fail .errorOverflow

end Growth

section Sizes

def setSize (n : Nat) : VProc α Unit := do
  reserveInternal environment n false
  setDataSize n

def reserve (n : Nat) : VProc α Unit := reserveInternal environment n true

def clear : VProc α Unit := do
  let vector := (← get).vector
  onMemory (destroyN environment vector.m_p vector.m_dataSize)
  setDataSize 0

def invalidate : VProc α Unit := do
  clear environment
  let vector := (← get).vector
  onMemory (vector.m_AllocationManager.deallocate environment vector.m_p)
  setPointer 0
  setAllocatedSize 0

def release : VProc α Nat := do
  let vector := (← get).vector
  setPointer 0
  setDataSize 0
  setAllocatedSize 0
  return vector.m_p

end Sizes

section Tail

def append (n : Nat) (fill : Vector → MProc α Unit) : VProc α Unit := do
  addSpaceIfNeed environment n
  let vector := (← get).vector
  onMemory (fill vector)
  setDataSize (vector.m_dataSize + n)

def pushBack (value : Nat) : VProc α Unit :=
  append environment 1 fun vector => do
    let value ← take environment value
    vector.m_AllocationManager.construct environment (vector.m_p + vector.m_dataSize) value

def pushBackMove (value : Nat) : VProc α Unit :=
  append environment 1 fun vector =>
    moveToRawNoOverlap environment (vector.m_p + vector.m_dataSize) value 1

def pushBackN (p n : Nat) : VProc α Unit :=
  if p = 0 ∧ n ≠ 0 then
    fail .errorInvalidArgument
  else
    append environment n fun vector =>
      copyToRawNoOverlap environment (vector.m_p + vector.m_dataSize) p n

def writeAll (p : Nat) : List α → MProc α Unit
  | [] => return ()
  | octet :: octets => do
      write p (some octet)
      writeAll (p + 1) octets

def pushBackArithmeticValue (value : List α) : VProc α Unit :=
  append environment value.length fun vector =>
    writeAll (vector.m_p + vector.m_dataSize) value

/-- The arguments stand for the value they construct. -/
def emplaceBack (value : Option α) : VProc α Unit :=
  append environment 1 fun vector =>
    vector.m_AllocationManager.construct environment (vector.m_p + vector.m_dataSize) value

end Tail

section Positions

def replaceElsewhere (p n offset newDataSize : Nat) : VProc α Unit := do
  let vector := (← get).vector
  let (newMp, newAllocatedSize) ←
    onMemory (vector.m_AllocationManager.allocate environment newDataSize)
  if newMp ≠ 0 then
    setAllocatedSize newAllocatedSize
    onMemory (moveToRawNoOverlap environment newMp vector.m_p offset)
    onMemory (copyToRawNoOverlap environment (newMp + offset) p n)
    onMemory (vector.m_AllocationManager.destroyAndDeallocate environment vector.m_p
      vector.m_dataSize)
    setPointer newMp
  else
    fail .errorNoMemory

def replaceInPlace (p n offset : Nat) : VProc α Unit := do
  let vector := (← get).vector
  onMemory (destroyN environment (vector.m_p + offset)
    (if vector.m_dataSize - offset ≤ n then vector.m_dataSize - offset else n))
  onMemory (copyToRawNoOverlap environment (vector.m_p + offset) p n)

/-- The new size is no less than the old one here. -/
def replaceElements (p n offset newDataSize : Nat) : VProc α Unit := do
  if (← get).vector.m_allocatedSize < newDataSize then
    replaceElsewhere environment p n offset newDataSize
  else
    replaceInPlace environment p n offset

/-- Returns `*pNewOffset`. -/
def replace (p n offset : Nat) : VProc α Nat := do
  let vector := (← get).vector
  if p = 0 ∧ n ≠ 0 then
    fail .errorInvalidArgument
  else if vector.m_dataSize < offset then
    fail .errorOverflow
  else
    let offsetPlusN := (offset + n) % environment.elements.sizeRange
    let newDataSize :=
      if vector.m_dataSize < offsetPlusN then offsetPlusN else vector.m_dataSize
    replaceElements environment p n offset newDataSize
    setDataSize newDataSize
    return offsetPlusN

def insertElsewhere (p n offset offsetPlusN newDataSize rightDataPartSize : Nat) :
    VProc α Unit := do
  let vector := (← get).vector
  let (newMp, newAllocatedSize) ←
    onMemory (vector.m_AllocationManager.allocate environment newDataSize)
  if newMp ≠ 0 then
    setAllocatedSize newAllocatedSize
    onMemory (moveToRawNoOverlap environment newMp vector.m_p offset)
    onMemory (copyToRawNoOverlap environment (newMp + offset) p n)
    onlyIf (offset ≠ vector.m_dataSize) (onMemory (moveToRawNoOverlap environment
      (newMp + offsetPlusN) (vector.m_p + offset) rightDataPartSize))
    onMemory (vector.m_AllocationManager.destroyAndDeallocate environment vector.m_p
      vector.m_dataSize)
    setPointer newMp
  else
    fail .errorNoMemory

def insertInPlace (p n offset offsetPlusN rightDataPartSize : Nat) : VProc α Unit := do
  let vector := (← get).vector
  onlyIf (offset ≠ vector.m_dataSize) (onMemory (moveToDirty environment
    (vector.m_p + offsetPlusN) (vector.m_p + vector.m_dataSize) (vector.m_p + offset)
    rightDataPartSize))
  onMemory (copyToRawNoOverlap environment (vector.m_p + offset) p n)

def insertNewElements (p n offset offsetPlusN newDataSize : Nat) : VProc α Unit := do
  let vector := (← get).vector
  let rightDataPartSize := vector.m_dataSize - offset
  if vector.m_allocatedSize < newDataSize then
    insertElsewhere environment p n offset offsetPlusN newDataSize rightDataPartSize
  else if vector.m_dataSize < newDataSize then
    insertInPlace environment p n offset offsetPlusN rightDataPartSize
  else if newDataSize < vector.m_dataSize then
    fail .errorOverflow
  else
    return ()

def insert (p n offset : Nat) : VProc α Nat := do
  let vector := (← get).vector
  if p = 0 ∧ n ≠ 0 then
    fail .errorInvalidArgument
  else if vector.m_dataSize < offset then
    fail .errorOverflow
  else
    let offsetPlusN := (offset + n) % environment.elements.sizeRange
    let newDataSize := (vector.m_dataSize + n) % environment.elements.sizeRange
    insertNewElements environment p n offset offsetPlusN newDataSize
    setDataSize newDataSize
    return offsetPlusN

/-- What both functions that erase do with `n` elements, none of them past the
end. -/
def eraseElements (offset n : Nat) : VProc α Unit := do
  let vector := (← get).vector
  onMemory (destroyN environment (vector.m_p + offset) n)
  let rightNStart := offset + n
  let rightN := vector.m_dataSize - rightNStart
  onMemory (moveToRawNoOverlap environment (vector.m_p + offset)
    (vector.m_p + rightNStart) rightN)
  onMemory (destroyN environment (vector.m_p + rightNStart) rightN)
  setDataSize (offset + rightN)

def erase (offset n : Nat) : VProc α Unit := do
  let vector := (← get).vector
  let offsetPlusN := (offset + n) % environment.elements.sizeRange
  if vector.m_dataSize < offset ∨ offset = vector.m_dataSize ∧ n ≠ 0 then
    fail .errorOverflow
  else if n = 0 then
    return ()
  else if vector.m_dataSize < offsetPlusN ∨ offsetPlusN < offset then
    eraseElements environment offset (vector.m_dataSize - offset)
  else
    eraseElements environment offset n

def isIteratorNotDereferenceable (vector : Vector) (it : Nat) : Bool :=
  decide (it < vector.m_p) || decide (vector.m_p + vector.m_dataSize ≤ it)

def eraseRange (destBegin destEnd : Nat) : VProc α Unit := do
  let vector := (← get).vector
  if destEnd < destBegin then
    fail .errorOverflow
  else if vector.isIteratorNotDereferenceable destBegin then
    fail .errorInvalidArgument
  else if destBegin = destEnd then
    return ()
  else if vector.m_p + vector.m_dataSize < destEnd then
    eraseElements environment (destBegin - vector.m_p)
      (vector.m_p + vector.m_dataSize - destBegin)
  else
    eraseElements environment (destBegin - vector.m_p) (destEnd - destBegin)

def copyN (offset n p : Nat) : VProc α Nat := do
  let vector := (← get).vector
  if p = 0 ∧ n ≠ 0 then
    fail .errorInvalidArgument
  else if vector.m_dataSize < offset ∨ offset = vector.m_dataSize ∧ n ≠ 0 then
    fail .errorOverflow
  else
    let nReal :=
      if vector.m_dataSize < (offset + n) % environment.elements.sizeRange then
        vector.m_dataSize - offset
      else n
    onMemory (copyToDirty environment p (p + nReal) (vector.m_p + offset) nReal)
    return p + nReal

end Positions

end Vector

namespace Pair

def onMemory (proc : MProc α β) : Proc (Pair α) β :=
  onPart Pair.memory (fun memory pair => { pair with memory := memory }) proc

def onThis (proc : VProc α β) : Proc (Pair α) β :=
  onPart (fun pair => ⟨pair.memory, pair.vector⟩)
    (fun store pair => { pair with memory := store.memory, vector := store.vector }) proc

def onOther (proc : VProc α β) : Proc (Pair α) β :=
  onPart (fun pair => ⟨pair.memory, pair.other⟩)
    (fun store pair => { pair with memory := store.memory, other := store.vector }) proc

variable {before after : Memory α} {vector other last : Vector} {proc : VProc α β}

theorem onThis_of_error {fault : Fault} (ran : proc ⟨before, vector⟩ = .error fault ⟨after, last⟩) :
    onThis proc ⟨before, vector, other⟩ = .error fault ⟨after, last, other⟩ := by
  simp only [onThis, onPart, ran]

theorem onOther_of_ok {value : β} (ran : proc ⟨before, other⟩ = .ok value ⟨after, last⟩) :
    onOther proc ⟨before, vector, other⟩ = .ok value ⟨after, vector, last⟩ := by
  simp only [onOther, onPart, ran]

theorem onOther_of_error {fault : Fault} (ran : proc ⟨before, other⟩ = .error fault ⟨after, last⟩) :
    onOther proc ⟨before, vector, other⟩ = .error fault ⟨after, vector, last⟩ := by
  simp only [onOther, onPart, ran]

end Pair

namespace Vector

variable (environment : Environment α)

section Init

def replaceBlock (n : Nat) : VProc α Unit := do
  let vector := (← get).vector
  onMemory (vector.m_AllocationManager.deallocate environment vector.m_p)
  setDataSize 0
  let (p, allocatedN) ← onMemory (vector.m_AllocationManager.allocate environment n)
  setPointer p
  setAllocatedSize allocatedN
  onlyIf (p = 0) (fail .errorNoMemory)

def init (rhs : Vector) : VProc α Unit := do
  clear environment
  modify fun store =>
    { store with
      vector :=
        { store.vector with
          m_AllocationManager :=
            store.vector.m_AllocationManager.assign rhs.m_AllocationManager } }
  onlyIf ((← get).vector.m_allocatedSize < rhs.m_dataSize)
    (replaceBlock environment rhs.m_dataSize)
  let vector := (← get).vector
  onMemory (copyToRawNoOverlap environment vector.m_p rhs.m_p rhs.m_dataSize)
  setDataSize rhs.m_dataSize

def initMove : Proc (Pair α) Unit := do
  let vector := (← get).vector
  Pair.onMemory (vector.m_AllocationManager.destroyAndDeallocate environment vector.m_p
    vector.m_dataSize)
  modify fun pair =>
    { pair with
      vector := pair.other
      other := empty pair.other.m_AllocationManager.abandoned }

end Init

section Ranges

open Pair (onThis onOther)

/-- The element at the cursor goes to the local vector, or the vector gets longer. -/
def displace (pCurrent currentOffset : Nat) : Proc (Pair α) Unit := do
  if currentOffset < (← get).vector.m_dataSize then
    onOther (pushBackMove environment pCurrent)
    Pair.onMemory (destroy environment pCurrent)
  else
    onThis (setDataSize (currentOffset + 1))

/-- The loop over the source, an iterator that leads from address to address.  A turn
that only makes space consumes no element. -/
def insertElements : Nat → List Nat → Nat → Proc (Pair α) Nat
  | _, [], currentOffset => return currentOffset
  | 0, _ :: _, _ => throw .outOfFuel
  | fuel + 1, src :: rest, currentOffset => do
      let vector := (← get).vector
      if currentOffset < vector.m_allocatedSize then
        displace environment (vector.m_p + currentOffset) currentOffset
        Pair.onMemory (copyToRawNoOverlap environment (vector.m_p + currentOffset) src 1)
        insertElements fuel rest (currentOffset + 1)
      else
        onThis (reserveInternal environment
          ((currentOffset + 1) % environment.elements.sizeRange) false)
        insertElements fuel (src :: rest) currentOffset

def displaceEach : Nat → Nat → Proc (Pair α) Unit
  | _, 0 => return ()
  | i, n + 1 => do
      let vector := (← get).vector
      onOther (pushBackMove environment (vector.m_p + i))
      Pair.onMemory (destroy environment (vector.m_p + i))
      displaceEach (i + 1) n

def displaceTail (currentOffset n : Nat) : Proc (Pair α) Unit := do
  if environment.elements.constructorAllocator then
    displaceEach environment currentOffset n
  else
    let vector := (← get).vector
    onOther (pushBackN environment (vector.m_p + currentOffset) n)

def appendDisplaced (oldDataSize currentOffset : Nat) : Proc (Pair α) Unit := do
  onlyIf (currentOffset < oldDataSize)
    (displaceTail environment currentOffset (oldDataSize - currentOffset))
  onThis (setDataSize currentOffset)
  let temp := (← get).other
  onThis (addSpaceIfNeed environment temp.m_dataSize)
  let vector := (← get).vector
  Pair.onMemory (moveToRawNoOverlap environment (vector.m_p + currentOffset) temp.m_p
    temp.m_dataSize)
  onThis (setDataSize (currentOffset + temp.m_dataSize))

/-- The local vector is destroyed however the function ends. -/
def withTemp (body : Proc (Pair α) β) : VProc α β := fun store =>
  let ended := (do
    let result ← onFailure body (onOther (invalidate environment))
    onOther (invalidate environment)
    return result : Proc (Pair α) β)
      ⟨store.memory, store.vector, empty store.vector.m_AllocationManager.fresh⟩
  match ended with
  | .ok result after => .ok result ⟨after.memory, after.vector⟩
  | .error fault after => .error fault ⟨after.memory, after.vector⟩

def insertRange (fuel : Nat) (sources : List Nat) (destBegin : Nat) : VProc α Nat := do
  let vector := (← get).vector
  if vector.isIteratorNotDereferenceable destBegin ∧
      destBegin ≠ vector.m_p + vector.m_dataSize then
    fail .errorOverflow
  else
    withTemp environment do
      let currentOffset ← insertElements environment fuel sources (destBegin - vector.m_p)
      onlyIf ((← get).other.m_dataSize ≠ 0)
        (appendDisplaced environment vector.m_dataSize currentOffset)
      return (← get).vector.m_p + currentOffset

end Ranges

end Vector

end CommonSerialization.Containers
