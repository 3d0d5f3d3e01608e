import CommonSerialization.Csp.Messaging.Server
import CommonSerialization.Csp.Processing.HeaderAcceptance

namespace CommonSerialization.Csp.Messaging

open StateExcept

/-! The requests of an initialised client and how it reads their replies. -/

structure ClientDataHandlerTraits (P : Type) where
  inputType : TopStruct P
  outputType : OutputType P
  kForTempUseHeap : Bool

structure ClientParty (P : Type) where
  client : Client
  program : Program P
  platform : Platform
  /-- Whether the request, at a size, gets room for more octets. -/
  grants : Nat → Nat → Bool
  /-- The memory of a deserialization; its data are not used. -/
  memory : DContext P
  /-- `IClientToServerCommunicator::process`. -/
  process : List UInt8 → Except Status (List UInt8)
  /-- A reply is a vector. -/
  fits : ∀ {request reply}, process request = .ok reply →
    reply.length < 2 ^ platform.addressBits

/-- The output and the container of unmanaged pointers as a call leaves them,
and the status that it returns; a status from a reply need not be named. -/
structure Outcome (P : Type) (type : Ty P) where
  statusOut : Word .four
  output : type.Obj
  unmanagedPointers : Option (List (AddedObject P))

structure HandlerSettings where
  minimumInterfaceVersion : Nat
  outputTypeId : Uuid
  deriving DecidableEq

namespace Client

def getInterfaceVersion (settings : CspPartySettings) (id : Uuid) : Nat :=
  match settings.interfaces.find? fun interface => id == interface.id with
  | some interface => interface.version.toNat
  | none => Context.Traits.kInterfaceVersionUndefined

variable (party : ClientParty P)

section Steps

def outcome : EStateM.Result Fault σ α → Except Fault (α × σ)
  | .ok value state => .ok (value, state)
  | .error fault _ => .error fault

def written (proc : SProc Unit) : Except Fault (List UInt8) := do
  let (_, state) ← outcome (proc .empty)
  return state.binaryData

def communicate (request : List UInt8) : Except Fault (List UInt8) :=
  match party.process request with
  | .ok reply => .ok reply
  | .error status => .error (.status status)

/-- `DCommon` and `DData` before a reply is read. -/
def replyStart : Context.Data where
  platform := party.platform
  protocolVersion := Context.Traits.getLatestProtocolVersion
  messageType := .data
  commonFlags := .ofUInt32 0
  dataFlags := .ofUInt32 0
  interfaceVersion := Context.Traits.kInterfaceVersionUndefined
  interfaceVersionsNotMatch := false
  isHeapUsedForTemp := true

abbrev replyContext : DContext P := { party.memory with data := replyStart party }

end Steps

section HandleData

variable (traits : ClientDataHandlerTraits P)

def targetInterfaceVersion : Nat :=
  getInterfaceVersion party.client.settings traits.inputType.interface.id

def requestData (additionalCommonFlags : Context.CommonFlags)
    (additionalDataFlags : Context.DataFlags) : Context.Data where
  platform := party.platform
  protocolVersion := party.client.settings.getLatestProtocolVersion.toNat
  messageType := .data
  commonFlags :=
    party.client.settings.mandatoryCommonFlags.union additionalCommonFlags
  dataFlags :=
    Context.FlagWord.union
      (.ofUInt32 traits.inputType.versioning.effectiveMandatoryDataFlags)
      additionalDataFlags
  interfaceVersion := targetInterfaceVersion party traits
  interfaceVersionsNotMatch := false
  isHeapUsedForTemp := traits.kForTempUseHeap

def serializeRequest (data : Context.Data) (hasContainer : Bool)
    (input : traits.inputType.type.Obj) (address : Nat) : SProc Unit := do
  let ctx : SContext := ⟨data, party.grants⟩
  Common.serialize ctx
  let bodyData ← Data.serialize ctx traits.inputType
  let bodyContext : SContext := { ctx with data := bodyData }
  if bodyData.allowUnmanagedPointers && !hasContainer then
    fail .errorInvalidArgument
  else
    BodyProcessor.serialize bodyContext (party.program.shandlers bodyContext)
      traits.inputType.type input address

def checkOutputContext (sent data : Context.Data) (outId : Uuid)
    (hasContainer : Bool) : DProc P Context.Data := do
  if sent.dataFlags ≠ data.dataFlags then
    fail .errorNotCompatibleDataFlagsSettings
  else
    Data.deserializePostprocessId traits.outputType.top outId
    let bodyData ← Data.deserializePostprocessRest data traits.outputType.top
      traits.outputType.top.getOriginPrivateVersion hasContainer
    if bodyData.interfaceVersion ≠ targetInterfaceVersion party traits then
      fail .errorMismatchOfInterfaceVersions
    else
      return { bodyData with isHeapUsedForTemp := traits.kForTempUseHeap }

def readOutputContext (sent common : Context.Data) (hasContainer : Bool) :
    DProc P Context.Data := do
  let (outId, data) ← Data.deserializeNoChecks { party.memory with data := common }
  checkOutputContext party traits sent data outId hasContainer

def readBody (data : Context.Data) (output : traits.outputType.top.type.Obj)
    (address : Nat) : DProc P traits.outputType.top.type.Obj :=
  let ctx : DContext P := { party.memory with data := data }
  BodyProcessor.deserialize ctx party.program.pointeeType
    (party.program.dhandlers ctx) traits.outputType.top.type output address

/-- A reply that is a status leaves the output alone. -/
def readByType (sent common : Context.Data) (hasContainer : Bool)
    (output : traits.outputType.top.type.Obj) (address : Nat) :
    DProc P (Word .four × traits.outputType.top.type.Obj) :=
  match common.messageType with
  | .data => do
      let data ← readOutputContext party traits sent common hasContainer
      let received ← readBody party traits data output address
      return (StatusMessage.statusWord .noError, received)
  | .status => do
      let statusOut ← StatusMessage.deserialize { party.memory with data := common }
      return (statusOut, output)
  | _ => fail .errorDataCorrupted

def readReply (sent : Context.Data) (hasContainer : Bool)
    (output : traits.outputType.top.type.Obj) (address : Nat) :
    DProc P (Word .four × traits.outputType.top.type.Obj) := do
  let common ← Common.deserialize (replyContext party)
  if sent.commonFlags ≠ common.commonFlags then
    fail .errorNotCompatibleCommonFlagsSettings
  else
    readByType party traits sent common hasContainer output address

def refuseRequest (additionalCommonFlags : Context.CommonFlags) : Option Status :=
  let version := targetInterfaceVersion party traits
  if !party.client.valid then
    some .errorNotInited
  else if version = Context.Traits.kInterfaceVersionUndefined then
    some .errorNotSupportedInterface
  else if version < traits.inputType.getOriginPrivateVersion ∨
      version < traits.outputType.top.getOriginPrivateVersion then
    some .errorNotSupportedInterfaceVersion
  else if (additionalCommonFlags.inter
      party.client.settings.forbiddenCommonFlags).isSet then
    some .errorNotCompatibleCommonFlagsSettings
  else
    none

def received (reply : List UInt8)
    (unmanagedPointers : Option (List (AddedObject P))) : DState P :=
  { DState.start reply with addedPointers := unmanagedPointers.getD [] }

/-- `handleData`; the input and the output are at addresses. -/
def handleData (additionalCommonFlags : Context.CommonFlags)
    (additionalDataFlags : Context.DataFlags)
    (input : traits.inputType.type.Obj) (inputAddress : Nat)
    (output : traits.outputType.top.type.Obj) (outputAddress : Nat)
    (unmanagedPointers : Option (List (AddedObject P))) :
    Except Fault (Outcome P traits.outputType.top.type) :=
  match refuseRequest party traits additionalCommonFlags with
  | some status => .error (.status status)
  | none => do
      let sent := requestData party traits additionalCommonFlags additionalDataFlags
      let hasContainer := unmanagedPointers.isSome
      let request ← written <|
        serializeRequest party traits sent hasContainer input inputAddress
      let reply ← communicate party request
      let ((statusOut, output), state) ← outcome <|
        readReply party traits sent hasContainer output outputAddress
          (received reply unmanagedPointers)
      return ⟨statusOut, output, unmanagedPointers.map fun _ => state.addedPointers⟩

end HandleData

section HandlerSettings

variable (inputType : TopStruct P)

def discoveryData : Context.Data where
  platform := party.platform
  protocolVersion := party.client.settings.getLatestProtocolVersion.toNat
  messageType := .data
  commonFlags := party.client.settings.mandatoryCommonFlags
  dataFlags := .ofUInt32 0
  interfaceVersion := Context.Traits.kInterfaceVersionUndefined
  interfaceVersionsNotMatch := false
  isHeapUsedForTemp := true

def serializeDiscovery : SProc Unit := do
  let ctx : SContext := ⟨discoveryData party, party.grants⟩
  Common.serialize ctx
  let _ ← Data.serializeNoChecks ctx inputType

def readStatus : DProc P (Context.Data × Word .four) := do
  let common ← Common.deserialize (replyContext party)
  if common.messageType ≠ .status then
    fail .errorDataCorrupted
  else
    let statusOut ← StatusMessage.deserialize { party.memory with data := common }
    return (common, statusOut)

/-- What goes on without the containers of a step that has returned. -/
def settle (result : Except Fault α) : Proc σ α :=
  match result with
  | .ok value => return value
  | .error fault => throw fault

def deserializeErrorNotSupportedInterfaceVersion (ctx : DContext P)
    (state : DState P) : Proc HandlerSettings Unit := do
  let (minimumInterfaceVersion, state) ← settle <| outcome <|
    readPrimitive ctx .four state
  modify fun settings =>
    { settings with minimumInterfaceVersion := minimumInterfaceVersion.toNat }
  let (outputTypeId, _) ← settle <| outcome <| Data.readId ctx state
  modify fun settings => { settings with outputTypeId := outputTypeId }

def getServerHandlerSettings : Proc HandlerSettings (Word .four) := do
  if !party.client.valid then
    fail .errorNotInited
  else if getInterfaceVersion party.client.settings inputType.interface.id =
      Context.Traits.kInterfaceVersionUndefined then
    fail .errorNotSupportedInterface
  else
    let request ← settle <| written (serializeDiscovery party inputType)
    let reply ← settle <| communicate party request
    let ((common, statusOut), state) ← settle <| outcome <|
      readStatus party (.start reply)
    if StatusMessage.wordSuccess statusOut then
      fail .errorDataCorrupted
    else if statusOut ≠
        StatusMessage.statusWord .errorNotSupportedInterfaceVersion then
      return statusOut
    else
      deserializeErrorNotSupportedInterfaceVersion
        { party.memory with data := common } state
      return StatusMessage.statusWord .noError

end HandlerSettings

end Client

end CommonSerialization.Csp.Messaging
