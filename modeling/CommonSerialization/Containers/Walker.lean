import CommonSerialization.Containers.ListRuns

namespace CommonSerialization.Containers

open StateExcept Storage

/-! The walker: a vector with a cursor. -/

structure Walker where
  m_vector : Vector
  m_offset : Nat
  deriving DecidableEq

structure Walk (α : Type) where
  memory : Memory α
  walker : Walker

abbrev WProc (α β : Type) := Proc (Walk α) β

namespace Walk

def store (walk : Walk α) : Store α := ⟨walk.memory, walk.walker.m_vector⟩

def tell (walk : Walk α) : Nat := walk.walker.m_offset

def size (walk : Walk α) : Nat := walk.walker.m_vector.m_dataSize

end Walk

/-- What `size_t` makes of a difference, also of one of two iterators. -/
def difference (elements : Elements) (minuend subtrahend : Nat) : Nat :=
  (minuend + elements.sizeRange - subtrahend) % elements.sizeRange

namespace Walker

def onVector (proc : VProc α β) : WProc α β :=
  onPart Walk.store
    (fun store walk => ⟨store.memory, ⟨store.vector, walk.walker.m_offset⟩⟩) proc

def setOffset (offset : Nat) : WProc α Unit :=
  modify fun walk => ⟨walk.memory, ⟨walk.walker.m_vector, offset⟩⟩

def setValidOffset (offset : Nat) : WProc α Unit := do
  let walk ← get
  setOffset (if offset < walk.size then offset else walk.size)

def toEnd : WProc α Unit := do
  let walk ← get
  setOffset walk.size

/-- The cursor goes to the end, whatever status there is to return. -/
def endingAtEnd (proc : VProc α Unit) : WProc α Unit := do
  onFailure (onVector proc) toEnd
  toEnd

variable (environment : Environment α)

def advance (n : Nat) : WProc α Unit := do
  let walk ← get
  setOffset ((walk.tell + n) % environment.elements.sizeRange)

section Init

def init (rhs : Walker) : WProc α Unit := do
  onVector (Vector.init environment rhs.m_vector)
  setOffset rhs.m_offset

def initMove (rhs : Walker) : WProc α Unit := do
  onVector (takeFrom environment rhs.m_vector)
  setOffset rhs.m_offset

def initVector (rhs : Vector) : WProc α Unit := do
  onVector (Vector.init environment rhs)
  setOffset 0

def initVectorMove (rhs : Vector) : WProc α Unit := do
  onVector (takeFrom environment rhs)
  setOffset 0

end Init

section Sizes

def setSize (n : Nat) : WProc α Unit := endingAtEnd (Vector.setSize environment n)

def reserve (n : Nat) : WProc α Unit := onVector (Vector.reserve environment n)

def reserveFromCurrentOffset (n : Nat) : WProc α Unit := do
  let walk ← get
  let needed := (walk.tell + n) % environment.elements.sizeRange
  if needed < walk.tell then
    fail .errorOverflow
  else
    onVector (Vector.reserve environment needed)

def clear : WProc α Unit := do
  onVector (Vector.clear environment)
  setOffset 0

def invalidate : WProc α Unit := do
  onVector (Vector.invalidate environment)
  setOffset 0

def release : WProc α Nat := do
  setOffset 0
  onVector Vector.release

end Sizes

section Tail

def pushBack (value : Nat) : WProc α Unit := endingAtEnd (Vector.pushBack environment value)

def pushBackMove (value : Nat) : WProc α Unit :=
  endingAtEnd (Vector.pushBackMove environment value)

def pushBackN (p n : Nat) : WProc α Unit := endingAtEnd (Vector.pushBackN environment p n)

def pushBackArithmeticValue (value : List α) : WProc α Unit :=
  endingAtEnd (Vector.pushBackArithmeticValue environment value)

end Tail

section Positions

def replace (p n offset : Nat) : WProc α Unit := do
  setValidOffset offset
  onVector (ignore (Vector.replace environment p n offset))
  advance environment n

def insert (p n offset : Nat) : WProc α Unit := do
  let oldSize := (← get).size
  setValidOffset offset
  onVector (ignore (Vector.insert environment p n offset))
  advance environment (difference environment.elements (← get).size oldSize)

def insertRange (sources : List Nat) (destBegin : Nat) : WProc α Unit := do
  let walk ← get
  setValidOffset (difference environment.elements destBegin walk.walker.m_vector.m_p)
  onVector (ignore
    (Vector.insertRange environment (2 * sources.length) sources destBegin))
  advance environment (difference environment.elements (← get).size walk.size)

def erase (offset n : Nat) : WProc α Unit := do
  setValidOffset offset
  onVector (Vector.erase environment offset n)

def eraseRange (destBegin destEnd : Nat) : WProc α Unit := do
  let walk ← get
  setValidOffset (difference environment.elements destBegin walk.walker.m_vector.m_p)
  onVector (Vector.eraseRange environment destBegin destEnd)

def write (p n : Nat) : WProc α Unit := do
  let walk ← get
  replace environment p n walk.tell

def read (p n : Nat) : WProc α Nat := do
  let walk ← get
  let pNew ← onVector (Vector.copyN environment walk.tell n p)
  let nReal := pNew - p
  advance environment nReal
  return nReal

def load (p : Nat) : Nat → MProc α (List (Slot α))
  | 0 => return []
  | n + 1 => do
      access p
      let memory ← get
      set (memory.note .read p)
      let rest ← load (p + 1) n
      return memory.slots p :: rest

def readArithmeticValue (sizeofValue : Nat) : WProc α (List (Slot α)) := do
  let walk ← get
  if (sizeofValue + walk.tell) % environment.elements.sizeRange ≤ walk.size then
    let value ← onVector
      (Vector.onMemory (load (walk.walker.m_vector.m_p + walk.tell) sizeofValue))
    advance environment sizeofValue
    return value
  else
    fail .errorOverflow

def subscript (offset : Nat) : WProc α Nat := do
  setValidOffset offset
  return (← get).walker.m_vector.m_p + offset

def seek (offset : Nat) : WProc α Unit := do
  setValidOffset offset
  let walk ← get
  if offset ≤ walk.size then
    return ()
  else
    fail .errorOverflow

end Positions

end Walker

end CommonSerialization.Containers
