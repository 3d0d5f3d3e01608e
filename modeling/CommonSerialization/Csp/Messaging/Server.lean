import CommonSerialization.Csp.Messaging.SettingsMessage

namespace CommonSerialization.Csp.Messaging

open StateExcept

/-! The server: from the octets of a request to the octets of the reply. -/

/-- What the server compiles in: the types behind pointers, and the functions
that leave the type of an object. -/
structure Program (P : Type) where
  pointeeType : P → Ty P
  shandlers : SContext → BodyProcessor.SHandlers P
  dhandlers : DContext P → BodyProcessor.DHandlers P

/-- The placeholder for an output that is not sent. -/
def iSerializableDummy : TopStruct P where
  kId := .ofNat 0x60b0dd3e7d2e42d9b00d90f7ecd19d25
  interface := serviceInterface
  decl :=
    { name := 4
      tags := { Tags.none with emptyType := true }
      alignment := 1
      tailPadding := 1
      iSerializable := some serviceVersioning
      function := .generic }
  fields := .nil
  versioning := serviceVersioning
  declared := rfl

inductive OutputType (P : Type)
  | dummy
  | struct (top : TopStruct P)

def OutputType.top : OutputType P → TopStruct P
  | dummy => iSerializableDummy
  | struct top => top

/-- The traits of a handler and its two functions; the input of `handleData`
comes with the container of unmanaged pointers, if there is one. -/
structure ServerDataHandler (P : Type) where
  inputType : TopStruct P
  outputType : OutputType P
  kForTempUseHeap : Bool
  kMinimumInterfaceVersion : Nat
  checkPoliciesCompliance : Context.Data → Status
  handleData : inputType.type.Obj → Option (List (AddedObject P)) →
    Status × outputType.top.type.Obj

def minimumInterfaceVersion (inputType outputType : TopStruct P) : Nat :=
  if inputType.getOriginPrivateVersion < outputType.getOriginPrivateVersion then
    inputType.getOriginPrivateVersion
  else
    outputType.getOriginPrivateVersion

structure Invocation (P : Type) where
  handler : Nat
  type : Ty P
  input : type.Obj
  unmanagedPointers : Option (List (AddedObject P))

/-- A message while it is handled; `invocations` and `acquired` record the run
and steer nothing. -/
structure ServerState (P : Type) where
  input : DState P
  data : Context.Data
  binOutput : List UInt8
  invocations : List (Invocation P)
  acquired : List Nat

abbrev ServerProc (P : Type) := Proc (ServerState P)

/-- The registrar as the server sees it; handlers are told apart by numbers. -/
structure Registered (P : Type) where
  handler : Nat → ServerDataHandler P
  aquireHandler : Uuid → Except Status Nat
  aquireHandlers : Uuid → Except Status (List Nat)

structure Server (P : Type) where
  settings : CspPartySettings
  registrar : Registered P
  program : Program P
  platform : Platform
  /-- Whether the reply, at a size, gets room for more octets. -/
  grants : Nat → Nat → Bool
  /-- The memory of a deserialization; its data are not used. -/
  memory : DContext P

namespace Server

variable (server : Server P)

section Steps

def reading (proc : DContext P → DProc P α) : ServerProc P α := fun state =>
  match proc { server.memory with data := state.data } state.input with
  | .ok value input => .ok value { state with input := input }
  | .error fault input => .error fault { state with input := input }

def writing (data : Context.Data) (proc : SContext → SProc α) : ServerProc P α :=
  fun state =>
    match proc ⟨data, server.grants⟩ { SState.empty with binaryData := state.binOutput } with
    | .ok value output => .ok value { state with binOutput := output.binaryData }
    | .error fault output => .error fault { state with binOutput := output.binaryData }

def setData (change : Context.Data → Context.Data) : ServerProc P Unit :=
  modify fun state => { state with data := change state.data }

/-- The status that a call returns; other faults end the caller too. -/
def statusOf (proc : ServerProc P Unit) : ServerProc P Status := fun state =>
  match proc state with
  | .ok _ state => .ok .noError state
  | .error (.status status) state => .ok status state
  | .error fault state => .error fault state

end Steps

section Handler

variable (number : Nat)

abbrev handler : ServerDataHandler P := server.registrar.handler number

def unmanagedPointers (state : ServerState P) : Option (List (AddedObject P)) :=
  if state.data.allowUnmanagedPointers then some state.input.addedPointers else none

def replyData (data : Context.Data) (kForTempUseHeap : Bool) : Context.Data :=
  { data with
    messageType := .data
    interfaceVersionsNotMatch := false
    isHeapUsedForTemp := kForTempUseHeap }

def sendOutput : (outputType : OutputType P) → outputType.top.type.Obj →
    Bool → ServerProc P Unit
  | .dummy, _, _ => return ()
  | .struct top, output, kForTempUseHeap => do
      modify fun state => { state with binOutput := [] }
      let data := (← get).data
      writing server (replyData data kForTempUseHeap) fun ctx =>
        ISerializable.serialize ctx server.program.shandlers top output 0

def handleDataMain (address : Nat) : ServerProc P Unit := do
  let handler := server.handler number
  let input ← reading server fun ctx =>
    BodyProcessor.deserialize ctx server.program.pointeeType
      (server.program.dhandlers ctx) handler.inputType.type
      (ctx.construct handler.inputType.type) address
  let pointers := unmanagedPointers (← get)
  let (status, output) := handler.handleData input pointers
  modify fun state =>
    { state with
      invocations :=
        ⟨number, handler.inputType.type, input, pointers⟩ :: state.invocations }
  if !statusSuccess status then
    fail status
  else
    sendOutput server handler.outputType output handler.kForTempUseHeap

/-- A temporary on the heap lives until the call that uses it returns. -/
def onHeap (size : Nat) (use : Nat → ServerProc P Unit) : ServerProc P Unit :=
  fun state =>
    match reading server (fun ctx => allocate ctx size) state with
    | .ok none state => .error (.status .errorNoMemory) state
    | .ok (some address) allocated =>
        match use address allocated with
        | .ok value after =>
            .ok value { after with
              input := { after.input with blocks := state.input.blocks } }
        | .error fault after =>
            .error fault { after with
              input := { after.input with blocks := state.input.blocks } }
    | .error fault state => .error fault state

def handleDataOnHeap : ServerProc P Unit :=
  onHeap server (server.handler number).inputType.type.sizeof fun address =>
    match (server.handler number).outputType with
    | .dummy => handleDataMain server number address
    | .struct top => onHeap server top.type.sizeof fun _ =>
        handleDataMain server number address

def handleDataOnStack : ServerProc P Unit := do
  let blocks := (← get).input.blocks
  handleDataMain server number
    (server.memory.stackSlot blocks (server.handler number).inputType.type.sizeof)

def contextAfter (data : Context.Data) (top : TopStruct P) (minimum : Nat) :
    Context.Data :=
  if Context.Traits.isInterfaceVersionSupported data.interfaceVersion minimum
      top.interface.version then
    Data.noteInterfaceVersions data top
  else data

def statusData (data : Context.Data) : Context.Data :=
  StatusMessage.statusContext server.platform data.protocolVersion data.commonFlags

def reportInterfaceVersion : ServerProc P Unit := do
  let data := (← get).data
  let handler := server.handler number
  writing server (statusData server data) fun ctx =>
    StatusMessage.serializeErrorNotSupportedInterfaceVersion ctx
      handler.kMinimumInterfaceVersion handler.outputType.top.kId

def checkContext : ServerProc P Unit := do
  let handler := server.handler number
  let data := (← get).data
  let status ← statusOf <| reading server fun _ => do
    let _ ← Data.deserializePostprocessRest data handler.inputType
      handler.kMinimumInterfaceVersion data.allowUnmanagedPointers
  setData fun data => contextAfter data handler.inputType handler.kMinimumInterfaceVersion
  if !statusSuccess status then
    if status = .errorNotSupportedInterfaceVersion then
      reportInterfaceVersion server number
    fail status

def handleDataBody : ServerProc P Unit := do
  setData fun data =>
    { data with isHeapUsedForTemp := (server.handler number).kForTempUseHeap }
  if (server.handler number).kForTempUseHeap then
    handleDataOnHeap server number
  else
    handleDataOnStack server number

def handleDataCommon : ServerProc P Unit := do
  let policies := (server.handler number).checkPoliciesCompliance (← get).data
  if !statusSuccess policies then
    fail policies
  else
    checkContext server number
    handleDataBody server number

end Handler

section Dispatch

def acquire (numbers : List Nat) : ServerProc P Unit :=
  modify fun state => { state with acquired := numbers ++ state.acquired }

def release (number : Nat) : ServerProc P Unit :=
  modify fun state => { state with acquired := state.acquired.erase number }

def setNewError (status newStatus : Status) : Status :=
  if !statusSuccess newStatus && statusSuccess status then newStatus else status

def handleEach (bodyPosition : Nat) : List Nat → Status → ServerProc P Status
  | [], status => return status
  | number :: rest, status => do
      let newStatus ← statusOf (handleDataCommon server number)
      release number
      modify fun state =>
        { state with
          input :=
            { state.input with
              binaryData :=
                { state.input.binaryData with offset := bodyPosition } } }
      handleEach bodyPosition rest (setNewError status newStatus)

def dispatch (id : Uuid) : ServerProc P Status := do
  match server.registrar.aquireHandler id with
  | .ok number =>
      acquire [number]
      let status ← statusOf (handleDataCommon server number)
      release number
      return status
  | .error .errorMoreEntires =>
      match server.registrar.aquireHandlers id with
      | .error status => return status
      | .ok numbers =>
          acquire numbers
          let bodyPosition := (← get).input.binaryData.offset
          handleEach server bodyPosition numbers .noError
  | .error status => return status

/-- The data context of the message and its id.  The data context begins with
no data flags and no interface version. -/
def readDataContext : ServerProc P Uuid := do
  setData fun data =>
    { data with
      dataFlags := .ofUInt32 0
      interfaceVersion := Context.Traits.kInterfaceVersionUndefined
      interfaceVersionsNotMatch := false
      isHeapUsedForTemp := true }
  let header ← reading server Data.deserializeNoChecks
  setData fun _ => header.2
  return header.1

def handleData : ServerProc P Unit := do
  let id ← readDataContext server
  let status ← dispatch server id
  if !statusSuccess status then fail status

end Dispatch

section Message

def settingsData (cspVersion : Nat) : Context.Data where
  platform := server.platform
  protocolVersion := cspVersion
  messageType := .data
  commonFlags := server.settings.mandatoryCommonFlags
  dataFlags := .ofUInt32 0
  interfaceVersion := cspVersion
  interfaceVersionsNotMatch := false
  isHeapUsedForTemp := true

/-- The protocol version stands for the interface version too. -/
def handleGetSettings (cspVersion : Nat) : ServerProc P Unit :=
  writing server (settingsData server cspVersion) fun ctx =>
    CspPartySettings.serialize ctx (settingsObj (P := P) server.settings)

def testCommonFlagsCompatibility
    (commonFlags forbidden mandatory : Context.CommonFlags) : Status :=
  if (commonFlags.inter forbidden).isSet ||
      commonFlags.inter mandatory != mandatory then
    .errorNotCompatibleCommonFlagsSettings
  else
    .noError

/-- The header of the request; the context keeps what a header that is refused
has set. -/
def readCommonContext : ServerProc P Unit := do
  let state ← get
  let ctx : DContext P := { server.memory with data := state.data }
  setData fun _ => Common.contextAfter ctx state.input
  reading server fun _ => do
    let _ ← Common.deserialize ctx

def handleByType : ServerProc P Unit := do
  let data := (← get).data
  match data.messageType with
  | .getSettings => handleGetSettings server data.protocolVersion
  | .data =>
      let status := testCommonFlagsCompatibility data.commonFlags
        server.settings.forbiddenCommonFlags server.settings.mandatoryCommonFlags
      if statusSuccess status then handleData server else fail status
  | _ => fail .errorDataCorrupted

def reportProtocolVersions : ServerProc P Unit :=
  writing server
    (StatusMessage.statusContext server.platform kProtocolVersionUndefined.toNat
      server.settings.mandatoryCommonFlags)
    fun ctx => StatusMessage.serializeErrorNotSupportedProtocolVersion ctx
      server.settings.protocolVersions

/-- A status goes where nothing has been written. -/
def writeStatus (status : Status) : ServerProc P Status := do
  let state ← get
  if state.binOutput.length = 0 then
    let written ← statusOf <| writing server (statusData server state.data) fun ctx =>
      StatusMessage.serializeFullContext ctx status false
    return setNewError status written
  else
    return status

def start (request : List UInt8) : ServerState P where
  input := .start request
  data :=
    { platform := server.platform
      protocolVersion := server.settings.getOldestProtocolVersion.toNat
      messageType := .data
      commonFlags := .ofUInt32 0
      dataFlags := .ofUInt32 0
      interfaceVersion := Context.Traits.kInterfaceVersionUndefined
      interfaceVersionsNotMatch := false
      isHeapUsedForTemp := true }
  binOutput := []
  invocations := []
  acquired := []

/-- `handleMessage` of an initialised server: the status it returns. -/
def handleMessage : ServerProc P Status := do
  let header ← statusOf (readCommonContext server)
  let status ←
    if statusSuccess header then statusOf (handleByType server)
    else if header = .errorNotSupportedProtocolVersion then
      statusOf (reportProtocolVersions server)
    else
      pure header
  writeStatus server status

end Message

end Server

end CommonSerialization.Csp.Messaging
