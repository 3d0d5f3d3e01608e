import CommonSerialization.Csp.Messaging.ClientReplies
import CommonSerialization.Csp.Messaging.Negotiation
import CommonSerialization.Csp.Messaging.Registrar
import CommonSerialization.Csp.Messaging.SettingsReply
import CommonSerialization.Csp.Messaging.VersionGate

namespace CommonSerialization.Csp.Messaging

open StateExcept

/-! What a client learns about the handler of a type. -/

section Registrar

open Registrar

def acquiredFrom : List SdhHandle → Except Status Nat
  | [] => .error .errorNoSuchHandler
  | [handle] =>
      if handle.state ≠ .active then .error .errorNotAvailible
      else .ok handle.handler
  | _ => .error .errorMoreEntires

theorem acquiredFrom_eq_error {range : List SdhHandle} (single : range.length ≤ 1)
    {status : Status} (refused : acquiredFrom range = .error status) :
    status = .errorNoSuchHandler ∨ status = .errorNotAvailible := by
  cases range with
  | nil =>
      cases refused
      exact .inl rfl
  | cons handle rest =>
      cases rest with
      | nil =>
          simp only [acquiredFrom] at refused
          split at refused
          · cases refused
            exact .inr rfl
          · cases refused
      | cons other rest =>
          simp only [List.length_cons] at single
          omega

theorem acquiredFrom_eq_ok {range : List SdhHandle} {number : Nat}
    (acquired : acquiredFrom range = .ok number) :
    ∃ handle ∈ range, handle.handler = number := by
  cases range with
  | nil => cases acquired
  | cons handle rest =>
      cases rest with
      | nil =>
          simp only [acquiredFrom] at acquired
          split at acquired
          · cases acquired
          · cases acquired
            exact ⟨handle, .head _, rfl⟩
      | cons other rest => cases acquired

/-- The registrar of a server is in a state; `key` are the ids as keys of the
map. -/
def RegistrarIn (server : Server P) (s : State) (key : Uuid → Nat) : Prop :=
  ∀ id, server.registrar.aquireHandler id = acquiredFrom (s.equalRange (key id))

end Registrar

namespace Server

variable (server : Server P) (header : Header)

def headed (input : DState P) : ServerState P :=
  { start server header.octets with
    data := header.commonContext (start server header.octets).data, input := input }

def requestContext : Context.Data :=
  ((header.commonContext (start server header.octets).data).setInterfaceVersion
    header.interfaceVersion.toNat).setDataFlags header.validDataFlags

def opened (input : DState P) : ServerState P :=
  { headed server header input with data := requestContext server header }

/-- A data message of a header and no body passes the checks of the server. -/
structure Admits : Prop where
  oldest : server.settings.getOldestProtocolVersion.toNat ≤ header.versionOctet
  version : header.versionOctet = Context.Traits.getLatestProtocolVersion
  endianness : Common.endiannessIsDeclared
    ((start server header.octets).data.setCommonFlags header.validCommonFlags)
  message : Context.Message.ofCode header.messageType = .data
  commonFlags : statusSuccess (testCommonFlagsCompatibility header.validCommonFlags
    server.settings.forbiddenCommonFlags server.settings.mandatoryCommonFlags)

variable {server header} (admits : Admits server header)

include admits

theorem read_of_admits :
    ∃ common input, readCommonContext server (start server header.octets) =
        .ok () (headed server header common) ∧
      readDataContext server (headed server header common) =
        .ok header.id (opened server header input) := by
  let ctx : DContext P :=
    { server.memory with data := (start server header.octets).data }
  have length : header.octets.length < 2 ^ ctx.data.platform.addressBits := by
    rw [Header.length_octets]
    simp only [Platform.addressBits]
    split <;> decide
  have input : (start server header.octets).input.binaryData.vector.drop
      (start server header.octets).input.binaryData.offset =
        header.commonOctets ++ header.dataOctets := by
    rw [← Header.octets_eq]
    rfl
  obtain ⟨data, common, commonRan, rfl, walker⟩ := Header.common_reads ctx header
    ⟨admits.oldest, admits.version.le⟩ admits.endianness (start server header.octets).input _ input
    (Nat.zero_le _) length
  obtain ⟨dataInput, dataInside, dataBounded⟩ :=
    Reads.advance input length walker (Nat.zero_le _)
  obtain ⟨result, last, dataRan, rfl, _⟩ := Header.data_reads ctx header
    (header.commonContext ctx.data) rfl rfl common [] (by rw [List.append_nil, dataInput])
    dataInside dataBounded
  refine ⟨common, last, readCommonContext_of_deserialized commonRan, ?_⟩
  have headerRan : reading server Data.deserializeNoChecks
      (headed server header common) =
        .ok (header.id, requestContext server header)
          { headed server header common with input := last } := by
    have ran : Data.deserializeNoChecks
        { server.memory with data := (headed server header common).data }
        (headed server header common).input =
          .ok (header.id, requestContext server header) last := dataRan
    simp only [reading, ran]
  unfold readDataContext
  rw [setData, bind_of_ok (modify_apply _ _)]
  refine (bind_of_ok headerRan).trans ?_
  rw [setData, bind_of_ok (modify_apply _ _)]
  rfl

theorem writable_of_admits :
    StatusMessage.Writable (statusData server (requestContext server header)) := by
  refine ⟨?_, admits.endianness⟩
  show Context.Traits.isProtocolVersionSupported header.versionOctet = true
  rw [admits.version]
  rfl

theorem handleByType_of_admits :
    ∃ common input, readCommonContext server (start server header.octets) =
        .ok () (headed server header common) ∧
      handleByType server (headed server header common) =
        (do
          let status ← dispatch server header.id
          if !statusSuccess status then fail status) (opened server header input) := by
  obtain ⟨common, input, commonRead, dataRead⟩ := read_of_admits admits
  refine ⟨common, input, commonRead, ?_⟩
  have message : (headed server header common).data.messageType = .data := admits.message
  have accepted : statusSuccess (testCommonFlagsCompatibility
      (headed server header common).data.commonFlags server.settings.forbiddenCommonFlags
      server.settings.mandatoryCommonFlags) = true := admits.commonFlags
  unfold handleByType
  rw [bind_of_ok (get_apply _)]
  simp only [message, accepted, if_true]
  unfold handleData
  rw [bind_of_ok dataRead]

/-- The reply to a request that is rejected before anything is written. -/
theorem handleMessage_of_rejected (unbounded : ∀ size n, server.grants size n = true)
    {status : Status} (failed : statusSuccess status = false)
    (dispatched : ∀ input, ∃ last : ServerState P,
      dispatch server header.id (opened server header input) = .ok status last ∧
        last.invocations = [] ∧ last.binOutput = [] ∧
        last.data = requestContext server header) :
    (final (handleMessage server (start server header.octets))).invocations = [] ∧
      reply server header.octets =
        StatusMessage.fullContextOctets
          (statusData server (requestContext server header)) status := by
  obtain ⟨common, input, commonRead, byType⟩ := handleByType_of_admits admits
  obtain ⟨last, dispatchRan, silent, empty, data⟩ := dispatched input
  rw [bind_of_ok dispatchRan, if_pos (by simp [failed])] at byType
  have written := writeStatus_of_writable server status last unbounded empty
    (by rw [data]; exact writable_of_admits admits)
  have whole : handleMessage server (start server header.octets) =
      .ok status { last with
        binOutput := StatusMessage.fullContextOctets (statusData server last.data)
          status } := by
    unfold handleMessage
    rw [bind_of_ok (statusOf_of_ok commonRead)]
    refine (bind_of_ok (statusOf_of_status byType)).trans ?_
    exact written
  rw [reply, whole, final_ok]
  exact ⟨silent, by rw [data]⟩

omit admits in
theorem dispatch_of_unacquired {status : Status} (input : DState P)
    (answer : server.registrar.aquireHandler header.id = .error status)
    (single : status ≠ .errorMoreEntires) :
    dispatch server header.id (opened server header input) =
      .ok status (opened server header input) := by
  unfold dispatch
  rw [answer]
  cases status <;> first | rfl | exact absurd rfl single

omit admits in
theorem dispatch_of_policies {number : Nat} (input : DState P)
    (answer : server.registrar.aquireHandler header.id = .ok number)
    (refused : statusSuccess ((server.handler number).checkPoliciesCompliance
      (requestContext server header)) = false) :
    dispatch server header.id (opened server header input) =
      .ok ((server.handler number).checkPoliciesCompliance (requestContext server header))
        (opened server header input) := by
  let acquired : ServerState P := { opened server header input with acquired := [number] }
  have common : handleDataCommon server number acquired =
      .error (.status ((server.handler number).checkPoliciesCompliance
        (requestContext server header))) acquired := by
    have failed : (!statusSuccess ((server.handler number).checkPoliciesCompliance
        acquired.data)) = true := by
      rw [Bool.not_eq_true']
      exact refused
    unfold handleDataCommon
    rw [bind_of_ok (get_apply _), if_pos failed]
    rfl
  have released : acquired.acquired.erase number = (opened server header input).acquired := by
    show [number].erase number = []
    rw [List.erase_cons_head]
  unfold dispatch
  rw [answer]
  refine (bind_of_ok (modify_apply _ _)).trans ?_
  refine (bind_of_ok (statusOf_of_status common)).trans ?_
  refine (bind_of_ok (modify_apply _ _)).trans ?_
  rw [released]
  rfl

omit admits in
/-- What a handler tells about itself, or why it is not reached. -/
def handlerAnswer (server : Server P) (header : Header) : Except Status HandlerSettings :=
  match server.registrar.aquireHandler header.id with
  | .error status => .error status
  | .ok number =>
      let policies :=
        (server.handler number).checkPoliciesCompliance (requestContext server header)
      if statusSuccess policies then
        .ok ⟨(server.handler number).kMinimumInterfaceVersion,
          (server.handler number).outputType.top.kId⟩
      else
        .error policies

omit admits in
def answerOctets (data : Context.Data) : Except Status HandlerSettings → List UInt8
  | .error status => StatusMessage.fullContextOctets data status
  | .ok settings =>
      StatusMessage.interfaceVersionOctets data settings.minimumInterfaceVersion
        settings.outputTypeId

theorem arrive_of_admits {number : Nat}
    (answer : server.registrar.aquireHandler header.id = .ok number) :
    ∃ input, arrive server (start server header.octets) =
      .ok number { opened server header input with acquired := [number] } := by
  obtain ⟨common, input, commonRead, dataRead⟩ := read_of_admits admits
  have accepted : (headed server header common).data.messageType = .data ∧
      statusSuccess (testCommonFlagsCompatibility
        (headed server header common).data.commonFlags
        server.settings.forbiddenCommonFlags server.settings.mandatoryCommonFlags) = true :=
    ⟨admits.message, admits.commonFlags⟩
  refine ⟨input, ?_⟩
  unfold arrive
  rw [bind_of_ok commonRead, bind_of_ok (get_apply _), if_pos accepted,
    bind_of_ok dataRead, answer]
  rfl

omit admits in
theorem length_answerOctets_lt (data : Context.Data)
    (answer : Except Status HandlerSettings) (platform : Platform) :
    (answerOctets data answer).length < 2 ^ platform.addressBits := by
  have short : (answerOctets data answer).length ≤ 32 := by
    cases answer with
    | error status =>
        rw [answerOctets, StatusMessage.length_fullContextOctets]
        decide
    | ok settings => rw [answerOctets, StatusMessage.length_interfaceVersionOctets]
  have wide : 32 < 2 ^ platform.addressBits := by
    simp only [Platform.addressBits]
    split <;> decide
  omega

/-- A request in a version that no handler knows is answered without a call. -/
theorem reply_of_admits (unbounded : ∀ size n, server.grants size n = true)
    (unicast : ∀ status, server.registrar.aquireHandler header.id = .error status →
      statusSuccess status = false ∧ status ≠ .errorMoreEntires)
    (closed : ∀ number, server.registrar.aquireHandler header.id = .ok number →
      ¬IsOpen server number header.interfaceVersion.toNat) :
    (final (handleMessage server (start server header.octets))).invocations = [] ∧
      reply server header.octets =
        answerOctets (statusData server (requestContext server header))
          (handlerAnswer server header) := by
  unfold handlerAnswer
  cases answer : server.registrar.aquireHandler header.id with
  | error status =>
      obtain ⟨failed, single⟩ := unicast status answer
      exact handleMessage_of_rejected admits unbounded failed fun input =>
        ⟨_, dispatch_of_unacquired input answer single, rfl, rfl, rfl⟩
  | ok number =>
      simp only
      split
      · rename_i policies
        obtain ⟨input, arrived⟩ := arrive_of_admits admits answer
        let state : ServerState P := { opened server header input with acquired := [number] }
        have sameData : state.data = requestContext server header := rfl
        have sameVersion : state.data.interfaceVersion = header.interfaceVersion.toNat := rfl
        have isClosed : ¬IsOpen server number state.data.interfaceVersion := by
          rw [sameVersion]
          exact closed number answer
        rw [← sameData] at policies
        have writable : StatusMessage.Writable (statusData server state.data) := by
          rw [sameData]
          exact writable_of_admits admits
        obtain ⟨silent, report⟩ :=
          handleMessage_of_closed unbounded arrived isClosed policies writable
        rw [sameData] at report
        exact ⟨silent, report⟩
      · rename_i refused
        rw [Bool.not_eq_true] at refused
        exact handleMessage_of_rejected admits unbounded refused fun input =>
          ⟨_, dispatch_of_policies input answer refused, rfl, rfl, rfl⟩

end Server

namespace Client

variable {party : ClientParty P} {data : Context.Data}

def statusContextOf (party : ClientParty P) (data : Context.Data) : Context.Data :=
  (Header.ofContext data .kNull).commonContext (replyStart party)

/-- A status message that a client accepts. -/
structure Legible (party : ClientParty P) (data : Context.Data) : Prop where
  version : data.protocolVersion = Context.Traits.getLatestProtocolVersion
  endianness : Common.endiannessIsDeclared
    ((replyStart party).setCommonFlags data.commonFlags)
  message : data.messageType = .status

variable (legible : Legible party data)

include legible

theorem readStatus_reads (status : Status) :
    Reads party.platform (readStatus party) (StatusMessage.fullContextOctets data status)
      (fun result => result =
        (statusContextOf party data, StatusMessage.statusWord status)) := by
  let header := Header.ofContext data .kNull
  have version : header.versionOctet = Context.Traits.getLatestProtocolVersion := by
    simp only [header, Header.versionOctet, Header.ofContext, legible.version]
    rfl
  have flags : header.validCommonFlags = data.commonFlags :=
    Header.validCommonFlags_ofContext data .kNull
  have format : data.bigEndianFormat = (statusContextOf party data).bigEndianFormat :=
    congrArg Context.CommonFlags.bigEndianFormat flags.symm
  have message : (statusContextOf party data).messageType = .status := by
    show Context.Message.ofCode data.messageType.code = .status
    rw [legible.message]
    rfl
  rw [StatusMessage.fullContextOctets, format]
  refine (Header.common_reads (replyContext party) header ⟨version.ge, version.le⟩
    (by rw [flags]; exact legible.endianness)).bind ?_
  rintro _ rfl
  rw [if_neg (by exact not_not.mpr message), ← List.append_nil (formatOctets _ .four _)]
  refine (readPrimitive_reads
    { party.memory with data := statusContextOf party data } .four _).bind ?_
  rintro _ rfl
  exact .pure rfl

omit legible in
theorem settle_outcome (value : α) (state : τ) (before : σ) :
    (settle (outcome (.ok value state)) : Proc σ (α × τ)) before =
      .ok (value, state) before := rfl

omit legible in
theorem statusWord_ne {status : Status} (other : status ≠ .errorNotSupportedInterfaceVersion) :
    StatusMessage.statusWord status ≠
      StatusMessage.statusWord .errorNotSupportedInterfaceVersion := by
  cases status <;> first | exact absurd rfl other | decide

omit legible in
theorem readReport_reads (ctx : DContext P) {minimum : Nat} (sized : minimum < 2 ^ 32)
    (id : Uuid) {state : DState P} {rest : List UInt8}
    (input : state.binaryData.vector.drop state.binaryData.offset =
      (formatOctets ctx.data.bigEndianFormat .four (BitVec.ofNat _ minimum) ++
        id.octets) ++ rest)
    (inside : state.binaryData.offset ≤ state.binaryData.vector.length)
    (bounded : state.binaryData.vector.length < 2 ^ ctx.data.platform.addressBits)
    (before : HandlerSettings) :
    deserializeErrorNotSupportedInterfaceVersion ctx state before =
      .ok () ⟨minimum, id⟩ := by
  rw [List.append_assoc] at input
  obtain ⟨_, middle, versionRead, rfl, walker⟩ := readPrimitive_reads ctx .four
    (BitVec.ofNat _ minimum) state _ input inside bounded
  obtain ⟨idInput, idInside, idBounded⟩ := Reads.advance input bounded walker inside
  obtain ⟨_, last, idRead, rfl, _⟩ := readId_reads ctx id middle rest idInput idInside
    idBounded
  have same : (BitVec.ofNat (8 * Width.four.bytes) minimum).toNat = minimum := by
    rw [BitVec.toNat_ofNat]
    exact Nat.mod_eq_of_lt sized
  unfold deserializeErrorNotSupportedInterfaceVersion
  rw [versionRead]
  refine (bind_of_ok (settle_outcome _ middle before)).trans ?_
  refine (bind_of_ok (modify_apply _ _)).trans ?_
  simp only [idRead]
  refine (bind_of_ok (settle_outcome _ last _)).trans ?_
  rw [same]
  rfl

theorem getServerHandlerSettings_of_answer {inputType : TopStruct P}
    {request : List UInt8} {answer : Except Status HandlerSettings}
    (valid : party.client.valid)
    (interface : getInterfaceVersion party.client.settings inputType.interface.id ≠
      Context.Traits.kInterfaceVersionUndefined)
    (made : written (serializeDiscovery party inputType) = .ok request)
    (answered : party.process request = .ok (Server.answerOctets data answer))
    (failed : ∀ status, answer = .error status →
      statusSuccess status = false ∧ status ≠ .errorNotSupportedInterfaceVersion)
    (sized : ∀ settings, answer = .ok settings →
      settings.minimumInterfaceVersion < 2 ^ 32)
    (before : HandlerSettings) :
    getServerHandlerSettings party inputType before =
      match answer with
      | .ok settings => .ok (StatusMessage.statusWord .noError) settings
      | .error status => .ok (StatusMessage.statusWord status) before := by
  have sent : communicate party request = .ok (Server.answerOctets data answer) := by
    rw [communicate, answered]
  have bounded := party.fits answered
  have start (octets : List UInt8) :
      (DState.start octets : DState P).binaryData.vector.drop
        (DState.start octets : DState P).binaryData.offset = octets := List.drop_zero
  unfold getServerHandlerSettings
  rw [if_neg (by simp [valid]), if_neg interface, made]
  refine (bind_of_ok (rfl : settle _ before = .ok request before)).trans ?_
  rw [sent]
  refine (bind_of_ok (rfl : settle _ before = .ok _ before)).trans ?_
  cases answer with
  | error status =>
      obtain ⟨fails, other⟩ := failed status rfl
      obtain ⟨_, after, statusRead, rfl, _⟩ := readStatus_reads legible status
        (.start (StatusMessage.fullContextOctets data status)) []
        (by rw [start, List.append_nil]) (Nat.zero_le _) bounded
      have success : ¬StatusMessage.wordSuccess (StatusMessage.statusWord status) = true := by
        rw [StatusMessage.wordSuccess_statusWord, fails]
        exact Bool.false_ne_true
      simp only [Server.answerOctets, statusRead]
      refine (bind_of_ok (settle_outcome _ after before)).trans ?_
      simp only
      rw [if_neg success, if_pos (statusWord_ne other)]
      rfl
  | ok settings =>
      let report := formatOctets data.bigEndianFormat .four
        (BitVec.ofNat _ settings.minimumInterfaceVersion) ++ settings.outputTypeId.octets
      have whole : Server.answerOctets data (.ok settings) =
          StatusMessage.fullContextOctets data .errorNotSupportedInterfaceVersion ++
            report := rfl
      rw [whole] at bounded ⊢
      obtain ⟨_, after, statusRead, rfl, walker⟩ := readStatus_reads legible
        .errorNotSupportedInterfaceVersion (.start (_ ++ report)) report
        (start _) (Nat.zero_le _) bounded
      obtain ⟨reportInput, reportInside, reportBounded⟩ :=
        Reads.advance (start _) bounded walker (Nat.zero_le _)
      have format : (statusContextOf party data).bigEndianFormat = data.bigEndianFormat :=
        congrArg Context.CommonFlags.bigEndianFormat
          (Header.validCommonFlags_ofContext data .kNull)
      have input : after.binaryData.vector.drop after.binaryData.offset =
          (formatOctets (statusContextOf party data).bigEndianFormat .four
            (BitVec.ofNat _ settings.minimumInterfaceVersion) ++
              settings.outputTypeId.octets) ++ [] := by
        rw [List.append_nil, reportInput, format]
      have reportRead := readReport_reads
        { party.memory with data := statusContextOf party data } (sized settings rfl)
        settings.outputTypeId input reportInside reportBounded before
      have success : ¬StatusMessage.wordSuccess
          (StatusMessage.statusWord .errorNotSupportedInterfaceVersion) = true := by
        decide
      simp only [statusRead]
      refine (bind_of_ok (settle_outcome _ after before)).trans ?_
      simp only
      rw [if_neg success, if_neg (not_not.mpr rfl)]
      exact bind_of_ok reportRead

end Client

section Discovery

variable (party : ClientParty P) (server : Server P) (inputType : TopStruct P)

/-- Client and server talk to each other with settings that they have
negotiated; neither runs out of memory. -/
structure Connected : Prop where
  valid : party.client.valid
  settings : party.client.settings.isValid
  negotiated : ∃ clientSettings, Listed [1] clientSettings ∧ Listed [1] server.settings ∧
    Negotiated clientSettings server.settings party.client.settings
  transport : ∀ request,
    (Server.reply server request).length < 2 ^ party.platform.addressBits →
      party.process request = .ok (Server.reply server request)
  clientMemory : ∀ size n, party.grants size n = true
  serverMemory : ∀ size n, server.grants size n = true

/-- The mandatory flags of the settings name the byte order of both platforms, or
say that it may differ. -/
structure ByteOrderDeclared : Prop where
  client : Common.endiannessIsDeclared (Client.discoveryData party)
  server : Common.endiannessIsDeclared
    { Client.discoveryData party with platform := server.platform }

/-- What a request about a handler comes to, by the entries that the registrar
has for the type. -/
def availableSettings : List Registrar.SdhHandle → Except Status HandlerSettings
  | [] => .error .errorNoSuchHandler
  | [handle] =>
      let handler := server.handler handle.handler
      let policies := handler.checkPoliciesCompliance
        { Client.discoveryData party with platform := server.platform }
      if handle.state ≠ .active then
        .error .errorNotAvailible
      else if statusSuccess policies then
        .ok ⟨handler.kMinimumInterfaceVersion, handler.outputType.top.kId⟩
      else
        .error policies
  | _ => .error .errorMoreEntires

/-- No handler is called; the client gets the settings of the handler that is
available, or the error of the server and nothing else. -/
structure Discovers (range : List Registrar.SdhHandle) : Prop where
  silent : ∀ request,
    Client.written (Client.serializeDiscovery party inputType) = .ok request →
      (final (Server.handleMessage server (Server.start server request))).invocations = []
  answered : ∀ before,
    Client.getServerHandlerSettings party inputType before =
      match availableSettings party server range with
      | .ok settings => .ok (StatusMessage.statusWord .noError) settings
      | .error status => .ok (StatusMessage.statusWord status) before

/-- What is asked of a handler that the registrar may find. -/
structure Discoverable (handler : ServerDataHandler P) : Prop where
  policies : handler.checkPoliciesCompliance
      { Client.discoveryData party with platform := server.platform } ≠
    .errorNotSupportedInterfaceVersion
  sized : handler.kMinimumInterfaceVersion < 2 ^ 32
  interfaceVersion :
    handler.inputType.interface.version < Context.Traits.kInterfaceVersionUndefined

variable {party server} (connected : Connected party server)

include connected

theorem latest_of_connected :
    party.client.settings.getLatestProtocolVersion = 1 ∧
      server.settings.getOldestProtocolVersion = 1 := by
  obtain ⟨clientSettings, _, serverListed, negotiated⟩ := connected.negotiated
  have shared := ((isValid_iff _).mp connected.settings).1
  obtain ⟨latest, rest, versions⟩ := List.exists_cons_of_ne_nil shared
  have member : latest ∈ party.client.settings.protocolVersions := by
    rw [versions]
    exact .head _
  have inServer := ((negotiated.versions latest).mp member).2
  have one {version : UInt8} (listed : version ∈ server.settings.protocolVersions) :
      version = 1 := List.mem_singleton.mp (serverListed.supported version listed)
  have nonempty : server.settings.protocolVersions ≠ [] := List.ne_nil_of_mem inServer
  constructor
  · rw [CspPartySettings.getLatestProtocolVersion, versions]
    exact one inServer
  · rw [CspPartySettings.getOldestProtocolVersion, List.getLastD_eq_getLast?,
      List.getLast?_eq_some_getLast nonempty]
    exact one (List.getLast_mem nonempty)

/-- The flags that both parties have agreed on pass the check of the server. -/
theorem accepted_of_connected :
    statusSuccess (Server.testCommonFlagsCompatibility
      party.client.settings.mandatoryCommonFlags server.settings.forbiddenCommonFlags
      server.settings.mandatoryCommonFlags) := by
  obtain ⟨clientSettings, _, _, negotiated⟩ := connected.negotiated
  have disjoint := ((isValid_iff _).mp connected.settings).2.1
  have forbidden : ¬(party.client.settings.mandatoryCommonFlags.inter
      server.settings.forbiddenCommonFlags).isSet = true := by
    rw [Context.FlagWord.isSet_inter]
    rintro ⟨bit, demanded, forbidden⟩
    exact disjoint bit demanded ((negotiated.forbidden bit).mpr (.inr forbidden))
  have mandatory : party.client.settings.mandatoryCommonFlags.inter
      server.settings.mandatoryCommonFlags = server.settings.mandatoryCommonFlags := by
    apply Context.FlagWord.ext_has
    intro bit
    rw [Context.FlagWord.has_inter, Bool.and_eq_right_iff_imp]
    intro demanded
    exact (negotiated.mandatory bit).mpr (.inr demanded)
  unfold Server.testCommonFlagsCompatibility
  rw [if_neg (by simp [forbidden, mandatory])]
  rfl

def discoveryHeader (party : ClientParty P) (inputType : TopStruct P) : Header :=
  Header.ofContext (Client.discoveryData party) inputType.kId

omit connected in
theorem interfaceVersion_discoveryHeader (inputType : TopStruct P) :
    (discoveryHeader party inputType).interfaceVersion.toNat =
      Context.Traits.kInterfaceVersionUndefined := by
  have sized : (Client.discoveryData party).interfaceVersion < 2 ^ 32 := by
    show 0xffffffff < 2 ^ 32
    decide
  exact Header.interfaceVersion_ofContext _ sized

theorem supported_of_connected :
    Context.Traits.isProtocolVersionSupported
      (Client.discoveryData party).protocolVersion := by
  have latest := (latest_of_connected connected).1
  simp only [Client.discoveryData, latest]
  decide

theorem written_discovery (byteOrder : ByteOrderDeclared party server)
    (inputType : TopStruct P) :
    Client.written (Client.serializeDiscovery party inputType) =
      .ok (discoveryHeader party inputType).octets := by
  let ctx : SContext := ⟨Client.discoveryData party, party.grants⟩
  have unbounded : Unbounded ctx := connected.clientMemory
  have common : Writes ctx.data.platform (Common.serialize ctx)
      (discoveryHeader party inputType).commonOctets (fun _ => True) := by
    rw [Common.serialize, if_neg (by simp [ctx, supported_of_connected connected]),
      if_neg (by simp [ctx, byteOrder.client])]
    exact Header.common_writes _ unbounded (Header.describes_ofContext _ _)
  have data : Writes ctx.data.platform (Data.serializeNoChecks ctx inputType)
      (discoveryHeader party inputType).dataOctets (fun _ => True) :=
    Header.data_writes _ unbounded (Header.describes_ofContext _ _) rfl
  have whole : Writes ctx.data.platform (Client.serializeDiscovery party inputType)
      ((discoveryHeader party inputType).commonOctets ++
        ((discoveryHeader party inputType).dataOctets ++ [])) (fun _ => True) :=
    common.bind fun _ _ => data.bind fun _ _ => .pure trivial
  rw [List.append_nil, ← Header.octets_eq] at whole
  obtain ⟨_, after, ran, _, appended⟩ := whole .empty (by
    rw [Header.length_octets]
    simp only [Platform.addressBits]
    split <;> decide)
  exact Client.written_eq_ok.mpr ⟨after, ran, appended⟩

theorem admits_of_connected (byteOrder : ByteOrderDeclared party server)
    (inputType : TopStruct P) :
    Server.Admits server (discoveryHeader party inputType) := by
  obtain ⟨latest, oldest⟩ := latest_of_connected connected
  have version : (discoveryHeader party inputType).versionOctet = 1 := by
    rw [discoveryHeader,
      Header.versionOctet_ofContext _ (supported_of_connected connected)]
    simp only [Client.discoveryData, latest]
    decide
  have flags : (discoveryHeader party inputType).validCommonFlags =
      party.client.settings.mandatoryCommonFlags :=
    Header.validCommonFlags_ofContext _ _
  refine ⟨?_, version, ?_, rfl, ?_⟩
  · rw [version, oldest]
    decide
  · rw [flags]
    exact byteOrder.server
  · rw [flags]
    exact accepted_of_connected connected

theorem requestContext_discovery (inputType : TopStruct P) :
    Server.requestContext server (discoveryHeader party inputType) =
      { Client.discoveryData party with platform := server.platform } := by
  have latest := (latest_of_connected connected).1
  have version : (discoveryHeader party inputType).versionOctet =
      party.client.settings.getLatestProtocolVersion.toNat :=
    Header.versionOctet_ofContext _ (supported_of_connected connected)
  simp only [Server.requestContext, Header.commonContext, version,
    interfaceVersion_discoveryHeader]
  simp only [discoveryHeader, Header.validCommonFlags_ofContext,
    Header.validDataFlags_ofContext]
  rfl

theorem handlerAnswer_discovery {s : Registrar.State} {key : Uuid → Nat}
    (registrar : RegistrarIn server s key) (inputType : TopStruct P) :
    Server.handlerAnswer server (discoveryHeader party inputType) =
      availableSettings party server (s.equalRange (key inputType.kId)) := by
  unfold Server.handlerAnswer
  rw [requestContext_discovery connected]
  have answer := registrar inputType.kId
  have id : (discoveryHeader party inputType).id = inputType.kId := rfl
  rw [id, answer]
  cases s.equalRange (key inputType.kId) with
  | nil => rfl
  | cons handle rest =>
      cases rest with
      | nil =>
          by_cases inactive : handle.state ≠ .active
          · simp [acquiredFrom, availableSettings, inactive]
          · simp [acquiredFrom, availableSettings, inactive]
      | cons other rest => rfl

omit connected in
/-- Every answer fits into its message. -/
theorem availableSettings_cases {range : List Registrar.SdhHandle}
    (single : range.length ≤ 1)
    (handlers : ∀ handle ∈ range,
      Discoverable party server (server.handler handle.handler)) :
    (∀ status, availableSettings party server range = .error status →
      statusSuccess status = false ∧ status ≠ .errorNotSupportedInterfaceVersion) ∧
      ∀ settings, availableSettings party server range = .ok settings →
        settings.minimumInterfaceVersion < 2 ^ 32 := by
  cases range with
  | nil => exact ⟨fun _ refused => by cases refused; decide, nofun⟩
  | cons handle rest =>
      cases rest with
      | nil =>
          have discoverable := handlers handle (.head _)
          simp only [availableSettings]
          by_cases inactive : handle.state ≠ .active
          · rw [if_pos inactive]
            exact ⟨fun _ refused => by cases refused; decide, nofun⟩
          · rw [if_neg inactive]
            split
            · constructor
              · nofun
              · intro settings same
                cases same
                exact discoverable.sized
            · rename_i failed
              constructor
              · intro status same
                cases same
                exact ⟨Bool.eq_false_iff.mpr failed, discoverable.policies⟩
              · nofun
      | cons other rest =>
          simp only [List.length_cons] at single
          omega

theorem legible_of_connected (byteOrder : ByteOrderDeclared party server) :
    Client.Legible party (Server.statusData server
      { Client.discoveryData party with platform := server.platform }) where
  version := by
    show party.client.settings.getLatestProtocolVersion.toNat = _
    rw [(latest_of_connected connected).1]
    decide
  endianness := byteOrder.client
  message := rfl

theorem discovers (byteOrder : ByteOrderDeclared party server) {inputType : TopStruct P}
    (interface : Client.getInterfaceVersion party.client.settings
      inputType.interface.id ≠ Context.Traits.kInterfaceVersionUndefined)
    {s : Registrar.State} {key : Uuid → Nat} (registrar : RegistrarIn server s key)
    (single : (s.equalRange (key inputType.kId)).length ≤ 1)
    (handlers : ∀ handle ∈ s.equalRange (key inputType.kId),
      Discoverable party server (server.handler handle.handler)) :
    Discovers party server inputType (s.equalRange (key inputType.kId)) := by
  have made := written_discovery connected byteOrder inputType
  have answer := handlerAnswer_discovery connected registrar inputType
  have acquired : server.registrar.aquireHandler (discoveryHeader party inputType).id =
      acquiredFrom (s.equalRange (key inputType.kId)) := registrar inputType.kId
  have unicast : ∀ status, server.registrar.aquireHandler
      (discoveryHeader party inputType).id = .error status →
        statusSuccess status = false ∧ status ≠ .errorMoreEntires := by
    intro status refused
    rw [acquired] at refused
    rcases acquiredFrom_eq_error single refused with rfl | rfl <;> decide
  have closed : ∀ number, server.registrar.aquireHandler
      (discoveryHeader party inputType).id = .ok number →
        ¬Server.IsOpen server number
          (discoveryHeader party inputType).interfaceVersion.toNat := by
    intro number found isOpen
    rw [acquired] at found
    obtain ⟨handle, member, rfl⟩ := acquiredFrom_eq_ok found
    have below := (handlers handle member).interfaceVersion
    rw [interfaceVersion_discoveryHeader] at isOpen
    simp only [Server.IsOpen, Context.Traits.isInterfaceVersionSupported,
      Bool.and_eq_true, decide_eq_true_eq] at isOpen
    exact absurd isOpen.1 (Nat.not_le.mpr below)
  obtain ⟨silent, replied⟩ := Server.reply_of_admits
    (admits_of_connected connected byteOrder inputType) connected.serverMemory unicast
    closed
  rw [requestContext_discovery connected, answer] at replied
  obtain ⟨failed, sized⟩ := availableSettings_cases single handlers
  have answered : party.process (discoveryHeader party inputType).octets =
      .ok (Server.answerOctets (Server.statusData server
        { Client.discoveryData party with platform := server.platform })
        (availableSettings party server (s.equalRange (key inputType.kId)))) := by
    rw [connected.transport, replied]
    rw [replied]
    exact Server.length_answerOctets_lt _ _ _
  constructor
  · intro request sent
    rw [made] at sent
    cases sent
    exact silent
  · intro before
    exact Client.getServerHandlerSettings_of_answer
      (legible_of_connected connected byteOrder) connected.valid interface made
      answered failed sized before

end Discovery

section Inquiry

private def inquiryTop (version : Nat) : TopStruct Empty where
  kId := .ofNat 3
  interface := ⟨.ofNat 7, version, .ofUInt32 0, .ofUInt32 0⟩
  decl :=
    { name := 3
      tags := .none
      alignment := 1
      tailPadding := 1
      iSerializable := some ⟨1, [1], 0, 0⟩
      function := .fieldByField .common }
  fields := .nil
  versioning := ⟨1, [1], 0, 0⟩
  declared := rfl

private def inquiryHandler (version : Nat) : ServerDataHandler Empty where
  inputType := inquiryTop version
  outputType := .struct (inquiryTop version)
  kForTempUseHeap := false
  kMinimumInterfaceVersion := 1
  checkPoliciesCompliance _ := .noError
  handleData input _ := (.noError, input)

private def inquiryState : Registrar.State :=
  { Registrar.State.empty with handlerMap := [⟨0, 3, 0, 0, 0, .active⟩] }

private def inquiryKey (id : Uuid) : Nat := if id = .ofNat 3 then 3 else 0

private def inquiryMemory : DContext Empty :=
  .unbounded
    { platform := ⟨false, false⟩
      protocolVersion := 1
      messageType := .data
      commonFlags := .ofUInt32 0
      dataFlags := .ofUInt32 0
      interfaceVersion := 0
      interfaceVersionsNotMatch := false
      isHeapUsedForTemp := true }

private def inquirySettings (flags : BitVec 32) : CspPartySettings :=
  ⟨[1], .ofUInt32 flags, .ofUInt32 0, [⟨.ofNat 7, 1⟩]⟩

private def inquiryServer (version : Nat) : Server Empty where
  settings := inquirySettings 0
  registrar :=
    ⟨fun _ => inquiryHandler version,
      fun id => acquiredFrom (inquiryState.equalRange (inquiryKey id)),
      fun _ => .error .errorNoSuchHandler⟩
  program := ⟨nofun, fun _ => .none, fun _ => .none⟩
  platform := ⟨false, false⟩
  grants _ _ := true
  memory := inquiryMemory

private def inquiryParty (flags : BitVec 32) (version : Nat) : ClientParty Empty where
  client :=
    ⟨common (inquirySettings flags) (inquirySettings 0), true, .empty⟩
  program := ⟨nofun, fun _ => .none, fun _ => .none⟩
  platform := ⟨false, false⟩
  grants _ _ := true
  memory := inquiryMemory
  process request :=
    if (Server.reply (inquiryServer version) request).length < 2 ^ 64 then
      .ok (Server.reply (inquiryServer version) request)
    else
      .error .errorNoMemory
  fits same := by
    split at same
    · rename_i short
      cases same
      exact short
    · cases same

private theorem inquiry_listed (flags : BitVec 32) : Listed [1] (inquirySettings flags) where
  decreasing := List.pairwise_singleton _ _
  supported _ member := member
  distinct := List.nodup_singleton _

private theorem inquiry_connected (flags : BitVec 32) (version : Nat) :
    Connected (inquiryParty flags version) (inquiryServer version) where
  valid := rfl
  settings := by
    refine (isValid_iff _).mpr ⟨List.cons_ne_nil _ _, ?_, List.cons_ne_nil _ _⟩
    intro bit _ forbidden
    simp [inquiryParty, common, inquirySettings, Context.FlagWord.has,
      Context.FlagWord.union, Context.FlagWord.ofUInt32] at forbidden
  negotiated := ⟨inquirySettings flags, inquiry_listed flags, inquiry_listed 0,
    negotiated_common (inquiry_listed flags) (inquiry_listed 0)⟩
  transport _ short := if_pos short
  clientMemory _ _ := rfl
  serverMemory _ _ := rfl

theorem discovers_inquiry :
    Discovers (inquiryParty 0 1) (inquiryServer 1) (inquiryTop 1)
      (inquiryState.equalRange (inquiryKey (inquiryTop 1).kId)) := by
  refine discovers (inquiry_connected 0 1) ⟨by decide, by decide⟩ (by decide)
    (fun _ => rfl) (by decide) ?_
  intro handle _
  have small : 1 < 2 ^ 32 := by decide
  have defined : 1 < Context.Traits.kInterfaceVersionUndefined := by decide
  exact ⟨nofun, small, defined⟩

/-- Settings that demand the other byte order without saying so let no request
out, and a handler of an interface without a version is called. -/
theorem not_discovers_undeclared :
    (Connected (inquiryParty 2 1) (inquiryServer 1) ∧
      Client.getInterfaceVersion (inquiryParty 2 1).client.settings
        (inquiryTop 1).interface.id ≠ Context.Traits.kInterfaceVersionUndefined ∧
      ¬Discovers (inquiryParty 2 1) (inquiryServer 1) (inquiryTop 1)
        (inquiryState.equalRange (inquiryKey (inquiryTop 1).kId))) ∧
    (Connected (inquiryParty 0 0xffffffff) (inquiryServer 0xffffffff) ∧
      Client.getInterfaceVersion (inquiryParty 0 0xffffffff).client.settings
        (inquiryTop 0xffffffff).interface.id ≠
          Context.Traits.kInterfaceVersionUndefined ∧
      ¬Discovers (inquiryParty 0 0xffffffff) (inquiryServer 0xffffffff)
        (inquiryTop 0xffffffff)
        (inquiryState.equalRange (inquiryKey (inquiryTop 0xffffffff).kId))) := by
  refine ⟨⟨inquiry_connected 2 1, by decide, fun discovers => ?_⟩,
    ⟨inquiry_connected 0 0xffffffff, by decide, fun discovers => ?_⟩⟩
  · have refused : Client.getServerHandlerSettings (inquiryParty 2 1) (inquiryTop 1)
        ⟨0, .kNull⟩ =
          .error (.status .errorNotCompatibleCommonFlagsSettings) ⟨0, .kNull⟩ := rfl
    have answered := discovers.answered ⟨0, .kNull⟩
    rw [refused] at answered
    cases answered
  · have silent := discovers.silent _ rfl
    have length := congrArg List.length silent
    revert length
    decide +kernel

end Inquiry

end CommonSerialization.Csp.Messaging
