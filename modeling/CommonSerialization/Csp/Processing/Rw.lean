import CommonSerialization.Common.Status
import CommonSerialization.Csp.Context.Data
import CommonSerialization.Csp.Types
import Mathlib.Logic.Function.Basic

namespace CommonSerialization.Csp

open StateExcept

/-! Writing to the output vector and reading from the input walker. -/

structure SContext where
  data : Context.Data
  /-- Whether the output vector, at a size, gets room for more octets. -/
  grants : Nat → Nat → Bool

structure SState where
  binaryData : List UInt8
  pointersMap : Nat → Option Nat

abbrev SProc := Proc SState

structure Walker where
  vector : List UInt8
  offset : Nat

/-- An object that lies outside the value being read: the address and the type
it was created with. -/
structure AddedObject (P : Type) where
  address : Nat
  type : Ty P
  object : type.Obj

inductive Event (P : Type)
  | created (type : Ty P) (address offset : Nat) (temporary : Bool)
  | linked (pointee : P) (offset address : Nat)
  | assigned (pointee : P) (address : Nat)

/-- The containers of a deserialization; `history`, newest first, and
`temporaryDepth` record the run and steer nothing. -/
structure DState (P : Type) where
  binaryData : Walker
  pointersMap : Nat → Option Nat
  addedPointers : List (AddedObject P)
  blocks : List (Nat × Nat)
  history : List (Event P)
  temporaryDepth : Nat

abbrev DProc (P : Type) := Proc (DState P)

structure DContext (P : Type) where
  data : Context.Data
  /-- The address of a new block of a size, if the heap has one. -/
  allocate : List (Nat × Nat) → Nat → Option Nat
  /-- The address of a new object on the stack. -/
  stackSlot : List (Nat × Nat) → Nat → Nat
  /-- What a default constructor leaves in an object. -/
  construct : (type : Ty P) → type.Obj
  /-- `std::map::insert` with the order of the key type. -/
  mapInsert : (element : Ty P) → element.Obj → List element.Obj →
    List element.Obj

namespace SContext

def unbounded (data : Context.Data) : SContext := ⟨data, fun _ _ => true⟩

@[simp] theorem unbounded_data (data : Context.Data) :
    (unbounded data).data = data := rfl

end SContext

def SState.empty : SState := ⟨[], fun _ => none⟩

namespace DContext

/-- A context whose heap never runs out: each block lies behind the others. -/
def unbounded (data : Context.Data) : DContext P where
  data := data
  allocate blocks _ :=
    some ((blocks.map fun block => block.1 + block.2).foldr max 0 + 16)
  stackSlot _ _ := 8
  construct type := type.ofImage data.platform []
  mapInsert _ element elements := element :: elements

@[simp] theorem unbounded_data (data : Context.Data) :
    (unbounded data : DContext P).data = data := rfl

end DContext

def DState.start (octets : List UInt8) : DState P where
  binaryData := ⟨octets, 0⟩
  pointersMap _ := none
  addedPointers := []
  blocks := []
  history := []
  temporaryDepth := 0

def wrap (platform : Platform) (value : Nat) : Nat :=
  value % 2 ^ platform.addressBits

section Serialize

variable (ctx : SContext)

/-- The part of `addSpaceIfNeed` that shows outside the vector. -/
def addSpaceIfNeed (n : Nat) : SProc Unit := do
  let size := (← get).binaryData.length
  if wrap ctx.data.platform (size + n) < size then
    fail .errorOverflow
  else if n = 0 ∨ ctx.grants size n then
    return ()
  else
    fail .errorNoMemory

def pushBackN (octets : List UInt8) : SProc Unit := do
  addSpaceIfNeed ctx octets.length
  modify fun state =>
    { state with binaryData := state.binaryData ++ octets }

def pushBackArithmeticValue (size : Width) (value : Word size) : SProc Unit :=
  pushBackN ctx (ctx.data.platform.store size value)

def writePrimitive (size : Width) (value : Word size) : SProc Unit :=
  if size.endiannessReversable && ctx.data.endiannessNotMatch then
    pushBackArithmeticValue ctx size (reverseEndianess size value)
  else
    pushBackArithmeticValue ctx size value

/-- The source copies the objects' bytes whatever their type; for a type with
pointers or containers these bytes have no meaning in another process. -/
def writeRawData (type : Ty P) (objects : List type.Obj) : SProc Unit :=
  if type.plain then
    pushBackN ctx (objects.flatMap (type.image ctx.data.platform))
  else
    throw .undefinedBehaviour

end Serialize

section Deserialize

variable (ctx : DContext P)

def readArithmeticValue (size : Width) : DProc P (Word size) := do
  let walker := (← get).binaryData
  if size.bytes + walker.offset ≤ walker.vector.length then
    modify fun state =>
      { state with
        binaryData :=
          { walker with offset := walker.offset + size.bytes } }
    return ctx.data.platform.load size
      ((walker.vector.drop walker.offset).take size.bytes)
  else
    fail .errorOverflow

/-- The number of octets `copyN` copies from the cursor: a sum that wraps
around passes for a short one. -/
def nReal (walker : Walker) (n : Nat) : Nat :=
  if walker.vector.length < wrap ctx.data.platform (walker.offset + n) then
    walker.vector.length - walker.offset
  else n

/-- A copy that runs past the vector has no defined behaviour. -/
def read (n : Nat) : DProc P (List UInt8) := do
  let walker := (← get).binaryData
  let real := nReal ctx walker n
  if walker.vector.length < walker.offset ∨
      walker.offset = walker.vector.length ∧ n ≠ 0 then
    fail .errorOverflow
  else if walker.vector.length < walker.offset + real then
    throw .undefinedBehaviour
  else
    modify fun state =>
      { state with
        binaryData := { walker with offset := walker.offset + real } }
    return (walker.vector.drop walker.offset).take real

def readPrimitive (size : Width) : DProc P (Word size) := do
  let value ← readArithmeticValue ctx size
  if size.endiannessReversable && ctx.data.endiannessNotMatch then
    return reverseEndianess size value
  else
    return value

def overwrite (platform : Platform) (type : Ty P) (octets : List UInt8)
    (targets : List type.Obj) : List type.Obj :=
  let image := targets.flatMap (type.image platform)
  let written := octets ++ image.drop octets.length
  (List.range targets.length).map fun index =>
    type.ofImage platform (written.drop (type.sizeof * index))

def readRawData (type : Ty P) (targets : List type.Obj) :
    DProc P (List type.Obj) :=
  if type.plain then do
    let bytesSize := wrap ctx.data.platform (type.sizeof * targets.length)
    let octets ← read ctx bytesSize
    if octets.length = bytesSize then
      return overwrite ctx.data.platform type octets targets
    else
      fail .errorOverflow
  else
    throw .undefinedBehaviour

def allocate (size : Nat) : DProc P (Option Nat) := do
  match ctx.allocate (← get).blocks (wrap ctx.data.platform size) with
  | some address =>
      modify fun state =>
        { state with
          blocks := (address, wrap ctx.data.platform size) :: state.blocks }
      return some address
  | none => return none

end Deserialize

end CommonSerialization.Csp
