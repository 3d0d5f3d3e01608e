import CommonSerialization.Common.Uuid
import CommonSerialization.Csp.Processing.BodyProcessor
import CommonSerialization.Csp.Processing.CommonContext

namespace CommonSerialization.Csp

open StateExcept

/-! The data context of a message, and whole data messages. -/

/-- The fields of an `Interface` that processing looks at. -/
structure Interface where
  id : Uuid
  version : Nat
  mandatoryDataFlags : Context.DataFlags
  forbiddenDataFlags : Context.DataFlags
  deriving DecidableEq

structure TopStruct (P : Type) where
  kId : Uuid
  interface : Interface
  decl : StructDecl
  fields : Fields P
  versioning : Versioning
  declared : decl.iSerializable = some versioning

namespace TopStruct

variable (top : TopStruct P)

@[reducible] def type : Ty P := .struct top.decl top.fields

def getLatestInterfaceVersion : Nat := top.versioning.kInterfaceVersion

def getOriginPrivateVersion : Nat := top.versioning.kPrivateVersions.getLastD 0

end TopStruct

namespace Data

open BodyProcessor

/-- Only set when some conversion will be needed. -/
def noteInterfaceVersions (data : Context.Data) (top : TopStruct P) :
    Context.Data :=
  if data.interfaceVersion < top.getLatestInterfaceVersion then
    data.setInterfaceVersionsNotMatch true
  else data

def pointersContradict (data : Context.Data) : Bool :=
  data.checkRecursivePointers && !data.allowUnmanagedPointers

def serialize (ctx : SContext) (top : TopStruct P) : SProc Context.Data := do
  pushBackN ctx top.kId.octets
  if !Context.Traits.isInterfaceVersionSupported ctx.data.interfaceVersion
      top.getOriginPrivateVersion top.interface.version then
    fail .errorNotSupportedInterfaceVersion
  else
    writePrimitive ctx .four (BitVec.ofNat _ ctx.data.interfaceVersion)
    if pointersContradict ctx.data then
      fail .errorNotCompatibleDataFlagsSettings
    else
      let compatibility :=
        testDataFlagsCompatibility top.versioning ctx.data.dataFlags
      if statusSuccess compatibility then
        writePrimitive ctx .four ctx.data.dataFlags.flags
        return noteInterfaceVersions ctx.data top
      else
        fail compatibility

def serializeNoChecks (ctx : SContext) (top : TopStruct P) :
    SProc Context.Data := do
  pushBackN ctx top.kId.octets
  writePrimitive ctx .four (BitVec.ofNat _ ctx.data.interfaceVersion)
  writePrimitive ctx .four ctx.data.dataFlags.flags
  return noteInterfaceVersions ctx.data top

def readId (ctx : DContext P) : DProc P Uuid := do
  let octets ← read ctx 16
  if sized : octets.length = 16 then
    return ⟨octets, sized⟩
  else
    fail .errorOverflow

def deserializeNoChecks (ctx : DContext P) : DProc P (Uuid × Context.Data) := do
  let id ← readId ctx
  let inputInterfaceVersion ← readPrimitive ctx .four
  let intFlags ← readPrimitive ctx .four
  return (id, (ctx.data.setInterfaceVersion inputInterfaceVersion.toNat
    ).setDataFlags (.ofUInt32 intFlags))

def deserializePostprocessId (top : TopStruct P) (id : Uuid) : DProc P Unit :=
  if top.kId = id then return () else fail .errorMismatchOfStructId

/-- The context as it is for the body; `addedPointers` is whether the caller
has supplied the container. -/
def deserializePostprocessRest (data : Context.Data) (top : TopStruct P)
    (minimumSupportedInterfaceVersion : Nat) (addedPointers : Bool) :
    DProc P Context.Data :=
  if !Context.Traits.isInterfaceVersionSupported data.interfaceVersion
      minimumSupportedInterfaceVersion top.interface.version then
    fail .errorNotSupportedInterfaceVersion
  else
    let compatibility := testDataFlagsCompatibility top.versioning data.dataFlags
    if !statusSuccess compatibility then
      fail compatibility
    else if data.allowUnmanagedPointers && !addedPointers then
      fail .errorInvalidArgument
    else if pointersContradict data then
      fail .errorNotCompatibleDataFlagsSettings
    else
      return noteInterfaceVersions data top

end Data

namespace ISerializable

/-- The version of the struct unless the caller has named another one. -/
def chosenInterfaceVersion (data : Context.Data) (top : TopStruct P) :
    Context.Data :=
  if data.interfaceVersion = Context.Traits.kInterfaceVersionUndefined then
    data.setInterfaceVersion top.getLatestInterfaceVersion
  else data

def serializeHeader (ctx : SContext) (top : TopStruct P) :
    SProc Context.Data := do
  let ctx : SContext := { ctx with data := chosenInterfaceVersion ctx.data top }
  Common.serialize ctx
  Data.serialize ctx top

def serialize (ctx : SContext) (handlers : SContext → BodyProcessor.SHandlers P)
    (top : TopStruct P) (object : top.type.Obj) (address : Nat) :
    SProc Unit := do
  let data ← serializeHeader ctx top
  let bodyContext : SContext := { ctx with data := data }
  BodyProcessor.serialize bodyContext (handlers bodyContext) top.type object
    address

def minimumInterfaceVersion (data : Context.Data) (top : TopStruct P) : Nat :=
  if data.interfaceVersion = Context.Traits.kInterfaceVersionUndefined then
    top.getOriginPrivateVersion
  else data.interfaceVersion

def deserializeHeader (ctx : DContext P) (top : TopStruct P)
    (addedPointers : Bool) : DProc P Context.Data := do
  let common ← Common.deserialize ctx
  let (id, data) ← Data.deserializeNoChecks { ctx with data := common }
  Data.deserializePostprocessId top id
  Data.deserializePostprocessRest data top (minimumInterfaceVersion common top)
    addedPointers

def deserialize (ctx : DContext P) (pointeeType : P → Ty P)
    (handlers : DContext P → BodyProcessor.DHandlers P) (top : TopStruct P)
    (addedPointers : Bool) (target : top.type.Obj) (address : Nat) :
    DProc P top.type.Obj := do
  let data ← deserializeHeader ctx top addedPointers
  let bodyContext : DContext P := { ctx with data := data }
  BodyProcessor.deserialize bodyContext pointeeType (handlers bodyContext)
    top.type target address

end ISerializable

end CommonSerialization.Csp
