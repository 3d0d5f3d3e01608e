import CommonSerialization.Csp.Messaging.Settings
import CommonSerialization.Csp.Processing.DataContext
import CommonSerialization.Csp.Processing.StatusMessage

namespace CommonSerialization.Csp.Messaging

open BodyProcessor

/-! The settings of a party as a data message. -/

def serviceInterface : Interface where
  id := .ofNat 0xe47be322232e4d66917506eed2110b4b
  version := 1
  mandatoryDataFlags := .ofUInt32 0
  forbiddenDataFlags := .ofUInt32 (Context.DataFlags.kSizeOfIntegersMayBeNotEqual |||
    Context.DataFlags.kAllowUnmanagedPointers |||
    Context.DataFlags.kCheckRecursivePointers)

def serviceVersioning : Versioning where
  kInterfaceVersion := 1
  kPrivateVersions := [1]
  effectiveMandatoryDataFlags := serviceInterface.mandatoryDataFlags.flags
  effectiveForbiddenDataFlags := serviceInterface.forbiddenDataFlags.flags

section Types

def flagsType : ScalarType := .integral .unsignedInt .four false

def uuidDecl : StructDecl where
  name := 1
  tags := { Tags.none with alwaysSimplyAssignable := true, endiannessTolerant := true }
  alignment := 1
  tailPadding := 0
  iSerializable := none
  function := .generic

def uuidFields : Fields P :=
  .cons 0 (.array (.scalar (.integral .unsignedChar .one false)) 16) .nil

def interfaceVersionDecl : StructDecl where
  name := 2
  tags := { Tags.none with simplyAssignableAlignedToOne := true }
  alignment := 1
  tailPadding := 0
  iSerializable := some serviceVersioning
  function := .generic

@[reducible] def interfaceVersionFields : Fields P :=
  .cons 0 (.struct uuidDecl uuidFields) (.cons 0 (.scalar flagsType) .nil)

/-- No function of its own is declared for this struct. -/
@[reducible] def interfaceVersionTy : Ty P :=
  .struct interfaceVersionDecl interfaceVersionFields

def settingsDecl : StructDecl where
  name := 3
  tags := .none
  alignment := 8
  tailPadding := 0
  iSerializable := some serviceVersioning
  function := .fieldByField .common

@[reducible] def settingsFields : Fields P :=
  .cons 0 (.container .vectorT 24 StatusMessage.versionTy)
    (.cons 0 (.scalar flagsType)
      (.cons 0 (.scalar flagsType)
        (.cons 0 (.container .vectorT 24 interfaceVersionTy) .nil)))

@[reducible] def settingsTop : TopStruct P where
  kId := .ofNat 0xbf8c27e8fe6a449291cbe4cf411e1236
  interface := serviceInterface
  decl := settingsDecl
  fields := settingsFields
  versioning := serviceVersioning
  declared := rfl

end Types

section Objects

def versionObj (version : UInt8) : (StatusMessage.versionTy : Ty P).Obj :=
  version.toBitVec

def versionOf (object : (StatusMessage.versionTy : Ty P).Obj) : UInt8 :=
  .ofBitVec object

def uuidObj (id : Uuid) : (Ty.struct uuidDecl uuidFields : Ty P).Obj :=
  ((nofun, (fun index => (id.octets.get (index.cast id.sized.symm)).toBitVec), ()),
    nofun)

def uuidOf (object : (Ty.struct uuidDecl uuidFields : Ty P).Obj) : Uuid where
  octets := List.ofFn fun index : Fin 16 => UInt8.ofBitVec (object.1.2.1 index)
  sized := List.length_ofFn

def interfaceVersionObj (interface : InterfaceVersion) :
    (interfaceVersionTy : Ty P).Obj :=
  ((nofun, uuidObj interface.id, nofun, interface.version.toBitVec, ()), nofun)

def interfaceVersionOf (object : (interfaceVersionTy : Ty P).Obj) :
    InterfaceVersion :=
  ⟨uuidOf object.1.2.1, UInt32.ofBitVec object.1.2.2.2.1⟩

def settingsObj (settings : CspPartySettings) : (settingsTop : TopStruct P).type.Obj :=
  ((nofun, (Storage.empty, settings.protocolVersions.map (versionObj (P := P))),
    nofun, settings.mandatoryCommonFlags.flags,
    nofun, settings.forbiddenCommonFlags.flags,
    nofun, (Storage.empty, settings.interfaces.map interfaceVersionObj), ()), nofun)

/-- An assignment to a flag word masks its argument. -/
def settingsOf (object : (settingsTop : TopStruct P).type.Obj) : CspPartySettings where
  protocolVersions := object.1.2.1.2.map (versionOf (P := P))
  mandatoryCommonFlags := .ofUInt32 object.1.2.2.2.1
  forbiddenCommonFlags := .ofUInt32 object.1.2.2.2.2.2.1
  interfaces := object.1.2.2.2.2.2.2.2.1.2.map interfaceVersionOf

end Objects

namespace CspPartySettings

section Serialize

variable (ctx : SContext)

/-- The number of protocol versions is narrowed to their own type. -/
def countOctet (count : Nat) : Word .one :=
  BitVec.ofNat _ count

def serializeFields (object : (settingsTop : TopStruct P).type.Obj) : SProc Unit := do
  let versions := object.1.2.1
  let count := countOctet versions.2.length
  serializeArithmetic ctx (.integral .unsignedChar .one false) count
  serializeN ctx (StatusMessage.versionTy : Ty P)
    (BodyProcessor.serialize ctx .none StatusMessage.versionTy)
    (versions.2.take count.toNat) versions.1.data
  serializeArithmetic ctx flagsType object.1.2.2.2.1
  serializeArithmetic ctx flagsType object.1.2.2.2.2.2.1
  serializeTemplate ctx .vectorT (interfaceVersionTy : Ty P)
    (BodyProcessor.serialize ctx .none interfaceVersionTy)
    object.1.2.2.2.2.2.2.2.1

def serializeBody (object : (settingsTop : TopStruct P).type.Obj) : SProc Unit :=
  writeFieldsUnless
    (serializeCommon ctx .none settingsDecl settingsFields object)
    (serializeFields ctx object)

def serialize (object : (settingsTop : TopStruct P).type.Obj) : SProc Unit := do
  let data ← ISerializable.serializeHeader ctx (settingsTop : TopStruct P)
  serializeBody { ctx with data := data } object

end Serialize

section Deserialize

variable (ctx : DContext P)

/-- `setSize`, whose status is not looked at: without a new block the octets
are copied behind the old one. -/
def setSize (storage : Storage) (n : Nat) : DProc P Storage := do
  if storage.allocatedSize < n then
    match ← allocate ctx n with
    | some address => return ⟨address, n⟩
    | none => throw .undefinedBehaviour
  else
    return storage

def deserializeFields (target : (settingsTop : TopStruct P).type.Obj) :
    DProc P (settingsFields : Fields P).Objs := do
  let cspVersionsSize ←
    deserializeArithmetic ctx (.integral .unsignedChar .one false)
  let storage ← setSize ctx target.1.2.1.1 cspVersionsSize.toNat
  let versions ← deserializeN ctx (StatusMessage.versionTy : Ty P)
    (BodyProcessor.deserialize ctx (fun _ => StatusMessage.versionTy) .none
      StatusMessage.versionTy)
    (List.replicate cspVersionsSize.toNat (0 : Word .one)) cspVersionsSize.toNat
    storage.data
  let mandatoryCommonFlags ← deserializeArithmetic ctx flagsType
  let forbiddenCommonFlags ← deserializeArithmetic ctx flagsType
  let interfaces ← deserializeTemplate ctx .vectorT (interfaceVersionTy : Ty P)
    (BodyProcessor.deserialize ctx (fun _ => interfaceVersionTy) .none
      interfaceVersionTy)
    target.1.2.2.2.2.2.2.2.1.1
  return (nofun, (storage, versions), nofun, mandatoryCommonFlags,
    nofun, forbiddenCommonFlags, nofun, interfaces, ())

def deserializeBody (target : (settingsTop : TopStruct P).type.Obj) (address : Nat) :
    DProc P (settingsTop : TopStruct P).type.Obj :=
  readFieldsUnless settingsDecl settingsFields target
    (deserializeCommon ctx .none settingsDecl settingsFields target address)
    (deserializeFields ctx target)

/-- `deserialize` of a walker; the context accepts the latest protocol
version. -/
def deserialize (target : (settingsTop : TopStruct P).type.Obj) (address : Nat) :
    DProc P (settingsTop : TopStruct P).type.Obj := do
  let data ← ISerializable.deserializeHeader ctx (settingsTop : TopStruct P) false
  deserializeBody { ctx with data := data } target address

end Deserialize

end CspPartySettings

end CommonSerialization.Csp.Messaging
