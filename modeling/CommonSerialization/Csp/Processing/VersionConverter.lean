import CommonSerialization.Csp.Processing.DataContext

namespace CommonSerialization.Csp.VersionConverter

open BodyProcessor StateExcept

/-! `VersionConverter`: a struct in the form it had in an older version of its
interface. -/

section Versions

variable (versioning : Versioning)

def getLatestPrivateVersion : Nat := versioning.kPrivateVersions.headD 0

/-- The first private version, from the latest one on, that is not above the
version of the interface. -/
def getBestCompatInterfaceVersion (compatInterfaceVersion : Nat) : Nat :=
  (versioning.kPrivateVersions.find? fun privateVersion =>
    decide (privateVersion ≤ compatInterfaceVersion)).getD
      Context.Traits.kInterfaceVersionUndefined

end Versions

/-- `ToVersion<_To, _NextTo...>` for a value of a type, with the `init` of each
form from the one before it. -/
inductive ToVersion (P : Type) : Ty P → Type
  | nil {source : Ty P} : ToVersion P source
  | cons {source : Ty P} (older : TopStruct P)
      (init : source.Obj → Except Status older.type.Obj)
      (rest : ToVersion P older.type) : ToVersion P source

/-- `FromVersion<_From, _NextFrom...>` for a target type; `initable` is whether
the target has an `init` from the form itself. -/
inductive FromVersion (P : Type) (target : Ty P) : TopStruct P → Type
  | last (source : TopStruct P)
      (init : Option (source.type.Obj → target.Obj → Except Status target.Obj)) :
      FromVersion P target source
  | cons (source : TopStruct P) (initable : Bool) (next : TopStruct P)
      (init : source.type.Obj → Except Status next.type.Obj)
      (rest : FromVersion P target next) : FromVersion P target source

/-- `InitableBySpecialArgs` of the target and the first form. -/
def FromVersion.initable : FromVersion P target source → Bool
  | .last _ init => init.isSome
  | .cons _ initable _ _ _ => initable

/-- What a program declares for its structs with older forms: the chains of the
specialisations of `toOldStruct` and `fromOldStruct`, and where temporaries
lie while a value is serialized. -/
structure Conversions (P : Type) where
  toOldStruct : (decl : StructDecl) → (fields : Fields P) →
    Option (ToVersion P (.struct decl fields))
  fromOldStruct : (decl : StructDecl) → (fields : Fields P) →
    Option (Σ source, FromVersion P (.struct decl fields) source)
  heapSlot : Nat → Nat → Nat → Option Nat
  stackSlot : Nat → Nat → Nat → Nat

def answer (outcome : Except Status α) : Proc σ α :=
  match outcome with
  | .ok value => return value
  | .error status => fail status

section Serialize

variable (ctx : SContext) (conversions : Conversions P)

/-- The place of a temporary: those of one chain, and of the chains around it,
exist at the same time. -/
def slotOf (level index size : Nat) : SProc Nat :=
  if ctx.data.isHeapUsedForTemp then
    match conversions.heapSlot level index size with
    | some address => return address
    | none => fail .errorNoMemory
  else
    return conversions.stackSlot level index size

def ToVersion.convert
    (serialize : (older : TopStruct P) → older.type.Obj → Nat → SProc Unit)
    (targetVersion level : Nat) : {source : Ty P} → ToVersion P source →
      source.Obj → Nat → SProc Unit
  | _, .nil, _, _ => fail .errorInternal
  | _, .cons older init rest, object, index => do
      let address ← slotOf ctx conversions level index older.type.sizeof
      let value ← answer (init object)
      if targetVersion < getLatestPrivateVersion older.versioning then
        convert serialize targetVersion level rest value (index + 1)
      else
        serialize older value address

def toOldStruct
    (serialize : (older : TopStruct P) → older.type.Obj → Nat → SProc Unit)
    (decl : StructDecl) (fields : Fields P)
    (object : (Ty.struct decl fields).Obj) (targetVersion level : Nat) :
    SProc Status :=
  match conversions.toOldStruct decl fields with
  | none => return .errorNoSuchHandler
  | some chain => do
      chain.convert ctx conversions serialize targetVersion level object 0
      return .noFurtherProcessingRequired

def toOldStructIfNeed
    (serialize : (older : TopStruct P) → older.type.Obj → Nat → SProc Unit)
    (level : Nat) (decl : StructDecl) (fields : Fields P)
    (object : (Ty.struct decl fields).Obj) : SProc Status :=
  match decl.iSerializable with
  | none => return .errorInvalidType
  | some versioning =>
      let targetVersion :=
        getBestCompatInterfaceVersion versioning ctx.data.interfaceVersion
      if targetVersion = getLatestPrivateVersion versioning then
        return .noError
      else if targetVersion = Context.Traits.kInterfaceVersionUndefined then
        return .errorInternal
      else
        toOldStruct ctx conversions serialize decl fields object targetVersion level

def shandlers (pointee : P → Nat → SProc Unit) : Nat → SHandlers P
  | 0 => ⟨pointee, fun _ _ _ => throw .outOfFuel⟩
  | fuel + 1 =>
      ⟨pointee, toOldStructIfNeed ctx conversions
        (fun older => BodyProcessor.serialize ctx (shandlers pointee fuel) older.type) fuel⟩

end Serialize

section Deserialize

variable (ctx : DContext P) (conversions : Conversions P)

def withTemporary (size : Nat) (use : Nat → DProc P α) : DProc P α := do
  if ctx.data.isHeapUsedForTemp then
    match ← allocate ctx size with
    | none => fail .errorNoMemory
    | some address =>
        let value ← use address
        modify fun state =>
          { state with
            blocks := state.blocks.erase (address, wrap ctx.data.platform size) }
        return value
  else
    use (ctx.stackSlot (← get).blocks size)

/-- `convertToUpperVersionOnHeap` and `convertToUpperVersionOnStack`: whether
the next form can be made is asked of the target. -/
def FromVersion.convertToUpperVersion : {source : TopStruct P} →
    FromVersion P target source → source.type.Obj → target.Obj → DProc P target.Obj
  | _, .last _ init, source, object =>
      match init with
      | some init => answer (init source object)
      | none => fail .errorNoSuchHandler
  | _, .cons _ _ next init rest, source, object =>
      withTemporary ctx next.type.sizeof fun _ => do
        if rest.initable then
          let upper ← answer (init source)
          rest.convertToUpperVersion upper object
        else
          fail .errorNoSuchHandler

def readTemporary (deserialize : (source : TopStruct P) → source.type.Obj → Nat →
      DProc P source.type.Obj) (source : TopStruct P) (address : Nat) :
    DProc P source.type.Obj := do
  modify fun state => { state with temporaryDepth := state.temporaryDepth + 1 }
  let object ← deserialize source (ctx.construct source.type) address
  modify fun state => { state with temporaryDepth := state.temporaryDepth - 1 }
  return object

def FromVersion.start (deserialize : (source : TopStruct P) → source.type.Obj → Nat →
      DProc P source.type.Obj) {source : TopStruct P}
    (chain : FromVersion P target source) (object : target.Obj) : DProc P target.Obj :=
  withTemporary ctx source.type.sizeof fun address => do
    let value ← readTemporary ctx deserialize source address
    chain.convertToUpperVersion ctx value object

/-- Forms older than the one in the message are skipped. -/
def FromVersion.convert (deserialize : (source : TopStruct P) → source.type.Obj → Nat →
      DProc P source.type.Obj) (targetVersion : Nat) : {source : TopStruct P} →
    FromVersion P target source → target.Obj → DProc P target.Obj
  | _, .last source init, object =>
      if Context.Traits.kInterfaceVersionUndefined ≤ targetVersion then
        fail .errorInternal
      else
        FromVersion.start ctx deserialize (.last source init) object
  | _, .cons source initable next init rest, object =>
      if getLatestPrivateVersion next.versioning ≤ targetVersion then
        convert deserialize targetVersion rest object
      else
        FromVersion.start ctx deserialize (.cons source initable next init rest) object

def fromOldStruct (deserialize : (source : TopStruct P) → source.type.Obj → Nat →
      DProc P source.type.Obj) (decl : StructDecl) (fields : Fields P)
    (object : (Ty.struct decl fields).Obj) (targetVersion : Nat) :
    DProc P (Status × (Ty.struct decl fields).Obj) :=
  match conversions.fromOldStruct decl fields with
  | none => return (.errorNoSuchHandler, object)
  | some ⟨_, chain⟩ => do
      let value ← chain.convert ctx deserialize targetVersion object
      return (.noFurtherProcessingRequired, value)

def fromOldStructIfNeed (deserialize : (source : TopStruct P) → source.type.Obj → Nat →
      DProc P source.type.Obj) (decl : StructDecl) (fields : Fields P)
    (object : (Ty.struct decl fields).Obj) :
    DProc P (Status × (Ty.struct decl fields).Obj) :=
  match decl.iSerializable with
  | none => return (.errorInvalidType, object)
  | some versioning =>
      let targetVersion :=
        getBestCompatInterfaceVersion versioning ctx.data.interfaceVersion
      if targetVersion = getLatestPrivateVersion versioning then
        return (.noError, object)
      else if targetVersion = Context.Traits.kInterfaceVersionUndefined then
        return (.errorInternal, object)
      else
        fromOldStruct ctx conversions deserialize decl fields object targetVersion

def dhandlers (pointeeType : P → Ty P) (pointee : P → Nat → DProc P Unit) :
    Nat → DHandlers P
  | 0 => ⟨pointee, fun _ _ _ _ => throw .outOfFuel⟩
  | fuel + 1 =>
      ⟨pointee, fun decl fields object _ =>
        fromOldStructIfNeed ctx conversions
          (fun source => BodyProcessor.deserialize ctx pointeeType
            (dhandlers pointeeType pointee fuel) source.type) decl fields object⟩

end Deserialize

end CommonSerialization.Csp.VersionConverter
