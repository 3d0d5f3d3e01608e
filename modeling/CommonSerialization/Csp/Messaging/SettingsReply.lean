import CommonSerialization.Csp.Messaging.Arrival
import CommonSerialization.Csp.Messaging.SettingsExchange

namespace CommonSerialization.Csp.Messaging.Server

open StateExcept BodyProcessor CspPartySettings

/-! What a client learns of the settings of a server from the replies. -/

section Serve

variable (server : Server P)

abbrev replyContext : Context.Data := settingsData server 1

abbrev reportContext : Context.Data :=
  StatusMessage.statusContext server.platform kProtocolVersionUndefined.toNat
    server.settings.mandatoryCommonFlags

theorem settingsContext_replyContext : SettingsContext (replyContext server) :=
  ⟨rfl, rfl, rfl⟩

theorem settings_compatible :
    statusSuccess (testDataFlagsCompatibility (settingsTop : TopStruct P).versioning
      (replyContext server).dataFlags) := by
  show statusSuccess (testDataFlagsCompatibility serviceVersioning (.ofUInt32 0))
  decide

theorem noPointers_replyContext :
    Data.pointersContradict (replyContext server) = false ∧
      (replyContext server).allowUnmanagedPointers = false := by
  have recursive : (replyContext server).checkRecursivePointers = false := by
    show Context.DataFlags.checkRecursivePointers (.ofUInt32 0) = false
    decide
  have unmanaged : (replyContext server).allowUnmanagedPointers = false := by
    show Context.DataFlags.allowUnmanagedPointers (.ofUInt32 0) = false
    decide
  exact ⟨by rw [Data.pointersContradict, recursive]; rfl, unmanaged⟩

theorem encodable_replyContext
    (declared : Common.endiannessIsDeclared (replyContext server)) :
    Encodable (replyContext server) (settingsTop : TopStruct P) where
  supported := rfl
  declared := declared
  interfaceVersion := rfl
  pointers := (noPointers_replyContext server).1
  compatible := settings_compatible server

/-- The settings need no older version. -/
theorem noteInterfaceVersions_settings (data : Context.Data)
    (version : data.interfaceVersion = 1) :
    Data.noteInterfaceVersions data (settingsTop : TopStruct P) = data := by
  have latest : (settingsTop : TopStruct P).getLatestInterfaceVersion = 1 := rfl
  unfold Data.noteInterfaceVersions
  rw [version, latest, if_neg (Nat.lt_irrefl 1)]

def beginning : List UInt8 :=
  (Header.ofContext (replyContext server) (settingsTop : TopStruct P).kId).octets ++
    openingOctets (replyContext server) server.settings

def settingsOctets : List UInt8 :=
  (Header.ofContext (replyContext server) (settingsTop : TopStruct P).kId).octets ++
    (openingOctets (replyContext server) server.settings ++
      (sizeTOctets (replyContext server) server.settings.interfaces.length ++
        elementsOctets (replyContext server) server.settings))

abbrev replySContext : SContext := ⟨replyContext server, server.grants⟩

variable {server} (unbounded : Unbounded (replySContext server))
  (declared : Common.endiannessIsDeclared (replyContext server))
  (bounded : server.settings.interfaces.length < 2 ^ server.platform.addressBits)

include unbounded declared

theorem serializeSettingsHeader_writes :
    Writes server.platform
      (ISerializable.serializeHeader (replySContext server) (settingsTop : TopStruct P))
      (Header.ofContext (replyContext server) (settingsTop : TopStruct P).kId).octets
      (fun data => data = replyContext server) := by
  have named : (replyContext server).interfaceVersion ≠
      Context.Traits.kInterfaceVersionUndefined := by
    show 1 ≠ Context.Traits.kInterfaceVersionUndefined
    decide
  refine (serializeHeader_writes unbounded (encodable_replyContext server declared)
    named).weaken ?_
  rintro _ rfl
  exact noteInterfaceVersions_settings _ rfl

include bounded

theorem serialize_writes
    (short : (replyContext server).bitness32 →
      server.settings.interfaces.length < 2 ^ 32) :
    Writes server.platform
      (CspPartySettings.serialize (replySContext server)
        (settingsObj (P := P) server.settings)) (settingsOctets server)
      (fun _ => True) := by
  refine (serializeSettingsHeader_writes unbounded declared).bind ?_
  rintro _ rfl
  exact serializeBody_writes unbounded (settingsContext_replyContext server)
    server.settings bounded short

theorem serialize_breaks (short : (replyContext server).bitness32)
    (many : 2 ^ 32 ≤ server.settings.interfaces.length) :
    Breaks server.platform
      (CspPartySettings.serialize (replySContext server)
        (settingsObj (P := P) server.settings)) (beginning server) := by
  refine .bind_next (serializeSettingsHeader_writes unbounded declared) ?_
  rintro _ rfl
  exact serializeBody_breaks unbounded (settingsContext_replyContext server)
    server.settings bounded short many

end Serve

section Receive

variable {server : Server P} {receiver : DContext P}

structure Receives (receiver : DContext P) : Prop where
  protocolVersion :
    receiver.data.protocolVersion = Context.Traits.getLatestProtocolVersion
  interfaceVersion :
    receiver.data.interfaceVersion = (settingsTop : TopStruct P).getOriginPrivateVersion
  latest : receiver.data.interfaceVersionsNotMatch = false
  grants : HeapGrants receiver
  constructs : interfaceVersionOf (receiver.construct interfaceVersionTy) =
    InterfaceVersion.undefined

abbrev receiving (server : Server P) (receiver : DContext P) : DContext P :=
  { receiver with data := headerReceived receiver.data (replyContext server) }

theorem sameFormat_receiving :
    SameFormat (replyContext server) (receiving server receiver).data :=
  ⟨rfl, rfl, rfl⟩

variable (receives : Receives receiver)

include receives

theorem deserializeSettingsHeader_reads
    (declared : Common.endiannessIsDeclared
      (commonReceived receiver.data (replyContext server))) :
    Reads receiver.data.platform
      (ISerializable.deserializeHeader receiver (settingsTop : TopStruct P) false)
      (Header.ofContext (replyContext server) (settingsTop : TopStruct P).kId).octets
      (fun data => data = (receiving server receiver).data) := by
  obtain ⟨pointers, unmanaged⟩ := noPointers_replyContext server
  have minimum : ISerializable.minimumInterfaceVersion
      (commonReceived receiver.data (replyContext server))
      (settingsTop : TopStruct P) = 1 := by
    have version :
        (commonReceived receiver.data (replyContext server)).interfaceVersion = 1 :=
      receives.interfaceVersion
    rw [ISerializable.minimumInterfaceVersion, version]
    rfl
  refine (deserializeHeader_reads rfl (le_of_eq receives.protocolVersion) declared rfl
    (show 1 < 2 ^ 32 by decide) (by rw [minimum]; rfl) (settings_compatible server)
    pointers (by rw [unmanaged]; nofun)).weaken ?_
  rintro _ rfl
  exact noteInterfaceVersions_settings _ rfl

variable (target : (settingsTop : TopStruct P).type.Obj) (address : Nat)

theorem deserialize_reads
    (declared : Common.endiannessIsDeclared
      (commonReceived receiver.data (replyContext server)))
    (sent : Common.endiannessIsDeclared (replyContext server))
    (fit : ElementsFit receiver.data.platform (interfaceVersionTy : Ty P)
      server.settings.interfaces.length)
    (short : (replyContext server).bitness32 →
      server.settings.interfaces.length < 2 ^ 32) :
    Reads receiver.data.platform (CspPartySettings.deserialize receiver target address)
      (settingsOctets server)
      (fun object => settingsOf object =
        received receiver (replyContext server) server.settings) := by
  have sameOrder : (replyContext server).endiannessDifference = false →
      receiver.data.platform.isBigEndianPlatform =
        (replyContext server).platform.isBigEndianPlatform := by
    intro none
    by_contra differ
    have flags : (commonReceived receiver.data (replyContext server)).commonFlags =
        (replyContext server).commonFlags := rfl
    have difference :=
      Common.endiannessDifference_of_declared flags sent declared differ
    rw [none] at difference
    cases difference
  refine (deserializeSettingsHeader_reads receives declared).bind ?_
  rintro _ rfl
  exact deserializeBody_reads sameFormat_receiving (settingsContext_replyContext server)
    receives.grants receives.latest server.settings fit short sameOrder target address

theorem deserialize_starves
    (declared : Common.endiannessIsDeclared
      (commonReceived receiver.data (replyContext server))) :
    Starves receiver.data.platform
      (CspPartySettings.deserialize receiver target address) (beginning server) := by
  refine .bind_next (deserializeSettingsHeader_reads receives declared) ?_
  rintro _ rfl
  exact deserializeBody_starves sameFormat_receiving (settingsContext_replyContext server)
    receives.grants receives.latest server.settings target address

/-- A party of the other byte order reads no settings that do not declare it. -/
theorem deserialize_refuses
    (undeclared : ¬Common.endiannessIsDeclared
      (commonReceived receiver.data (replyContext server))) (octets : List UInt8) :
    Refuses receiver.data.platform
      (CspPartySettings.deserialize receiver target address)
      ((Header.ofContext (replyContext server) (settingsTop : TopStruct P).kId).octets ++
        octets) (.status .errorNotCompatibleCommonFlagsSettings) :=
  .extend (.bind_first (deserializeHeader_refuses rfl
    (le_of_eq receives.protocolVersion) undeclared) _) _

end Receive

section Reply

variable (server : Server P)

def reply (request : List UInt8) : List UInt8 :=
  (final (handleMessage server (start server request))).binOutput

def requestHeader (request : List UInt8) : EStateM.Result Fault (DState P) Context.Data :=
  Common.deserialize { server.memory with data := (start server request).data }
    (.start request)

def AsksSettings (request : List UInt8) (cspVersion : Nat) : Prop :=
  ∃ data input, requestHeader server request = .ok data input ∧
    data.messageType = .getSettings ∧ data.protocolVersion = cspVersion

def AsksVersions (request : List UInt8) : Prop :=
  ∃ input, requestHeader server request =
    .error (.status .errorNotSupportedProtocolVersion) input

variable {server} {request : List UInt8}

theorem reply_of_asksSettings {cspVersion : Nat}
    (asks : AsksSettings server request cspVersion) :
    ∃ state : ServerState P, state.binOutput = [] ∧
      state.data.protocolVersion = cspVersion ∧
      Common.endiannessIsDeclared (statusData server state.data) ∧
      reply server request = (final ((do
        let status ← statusOf (handleGetSettings server cspVersion)
        writeStatus server status) state)).binOutput := by
  obtain ⟨data, input, headerRead, message, version⟩ := asks
  obtain ⟨declared, platform⟩ := Common.endiannessIsDeclared_of_deserialize headerRead
  have origin : data.platform = server.platform := platform
  have read :=
    @readCommonContext_of_deserialized P server (start server request) _ _ headerRead
  let headed : ServerState P := { start server request with data := data, input := input }
  have byType : handleByType server headed = handleGetSettings server cspVersion headed := by
    unfold handleByType
    rw [bind_of_ok (get_apply headed)]
    simp only [headed, message, version]
  refine ⟨headed, rfl, version, ?_, ?_⟩
  · rw [← declared]
    simp only [headed, Common.endiannessIsDeclared, statusData, StatusMessage.statusContext,
      Context.Data.endiannessNotMatch, Context.Data.bigEndianFormat,
      Context.Data.endiannessDifference, origin]
  · have sameStatus : statusOf (handleByType server) headed =
        statusOf (handleGetSettings server cspVersion) headed := by
      unfold statusOf
      rw [byType]
    have whole : handleMessage server (start server request) = (do
        let status ← statusOf (handleGetSettings server cspVersion)
        writeStatus server status) headed := by
      have success : statusSuccess .noError = true := rfl
      unfold handleMessage
      rw [bind_of_ok (statusOf_of_ok read)]
      simp only [success, if_true, bind, EStateM.bind]
      rw [← sameStatus]
    rw [reply, whole]

variable (unbounded : ∀ size n, server.grants size n = true)
  (room : server.settings.protocolVersions.length +
    20 * server.settings.interfaces.length + 64 < 2 ^ server.platform.addressBits)

theorem reply_of_unsupported {cspVersion : Nat}
    (asks : AsksSettings server request cspVersion)
    (unsupported : ¬Context.Traits.isProtocolVersionSupported cspVersion) :
    reply server request = [] := by
  obtain ⟨state, empty, version, _, equality⟩ := reply_of_asksSettings asks
  have failed : handleGetSettings server cspVersion state =
      .error (.status .errorNotSupportedProtocolVersion) state :=
    writing_of_refused server (settingsData server cspVersion) _ state
      (bind_of_error (serializeHeader_unsupported ⟨settingsData server cspVersion, _⟩ _ _
        unsupported))
  obtain ⟨result, left⟩ := writeStatus_of_refused server .errorNotSupportedProtocolVersion
    state fun writable => unsupported (version ▸ writable.1)
  rw [equality, bind_of_ok (statusOf_of_status failed), left, final_ok, empty]

include unbounded in
theorem reply_of_undeclared (asks : AsksSettings server request 1)
    (undeclared : ¬Common.endiannessIsDeclared (replyContext server)) :
    ∃ data : Context.Data, data.messageType = .status ∧ reply server request =
      StatusMessage.fullContextOctets data .errorNotCompatibleCommonFlagsSettings := by
  obtain ⟨state, empty, version, declared, equality⟩ := reply_of_asksSettings asks
  have failed : handleGetSettings server 1 state =
      .error (.status .errorNotCompatibleCommonFlagsSettings) state :=
    writing_of_refused server (replyContext server) _ state
      (bind_of_error (serializeHeader_undeclared (replySContext server) _ _ rfl undeclared))
  have supported :
      Context.Traits.isProtocolVersionSupported state.data.protocolVersion := by
    rw [version]
    rfl
  refine ⟨statusData server state.data, rfl, ?_⟩
  rw [equality, bind_of_ok (statusOf_of_status failed),
    writeStatus_of_writable server _ state unbounded empty ⟨supported, declared⟩, final_ok]

/-- A message that has been begun is not replaced. -/
theorem reply_of_begun {cspVersion : Nat} {octets : List UInt8} (begun : octets ≠ [])
    (asks : AsksSettings server request cspVersion)
    (served : ∀ state : ServerState P, state.binOutput = [] →
      ∃ status, statusOf (handleGetSettings server cspVersion) state =
        .ok status { state with binOutput := octets }) :
    reply server request = octets := by
  obtain ⟨state, empty, _, _, equality⟩ := reply_of_asksSettings asks
  obtain ⟨status, ran⟩ := served state empty
  have written : ({ state with binOutput := octets } : ServerState P).binOutput.length ≠
      0 := by
    simpa using begun
  rw [equality, bind_of_ok ran, writeStatus_of_written server status _ written, final_ok]

theorem beginning_ne_nil (server : Server P) (rest : List UInt8) :
    beginning server ++ rest ≠ [] := by
  intro none
  have length := congrArg List.length none
  simp only [beginning, List.length_append, Header.length_octets, List.length_nil] at length
  omega

theorem settingsOctets_eq (server : Server P) :
    settingsOctets server = beginning server ++
      (sizeTOctets (replyContext server) server.settings.interfaces.length ++
        elementsOctets (replyContext server) server.settings) := by
  simp only [settingsOctets, beginning, List.append_assoc]

theorem length_settingsOctets_le (server : Server P) :
    (settingsOctets server).length ≤ server.settings.protocolVersions.length +
      20 * server.settings.interfaces.length + 49 := by
  have size := length_sizeTOctets_le (replyContext server)
    server.settings.interfaces.length
  have elements := @length_elementsOctets_le (replyContext server) server.settings
  have opening := length_openingOctets_le server.settings
    (settingsContext_replyContext server)
  simp only [settingsOctets, List.length_append, Header.length_octets]
  omega

include unbounded room in
theorem reply_of_declared (asks : AsksSettings server request 1)
    (declared : Common.endiannessIsDeclared (replyContext server))
    (short : (replyContext server).bitness32 →
      server.settings.interfaces.length < 2 ^ 32) :
    reply server request = settingsOctets server := by
  refine reply_of_begun (by rw [settingsOctets_eq]; exact beginning_ne_nil server _) asks
    fun state empty => ⟨.noError, statusOf_of_ok ?_⟩
  have length := length_settingsOctets_le server
  have sent := writing_of_writes server (replyContext server)
    (fun ctx => CspPartySettings.serialize ctx (settingsObj (P := P) server.settings)) state
    (serialize_writes unbounded declared (by omega) short)
    (by rw [empty, List.length_nil]; show 0 + _ < 2 ^ server.platform.addressBits; omega)
  rw [empty, List.nil_append] at sent
  exact sent

include unbounded room in
theorem reply_of_many (asks : AsksSettings server request 1)
    (declared : Common.endiannessIsDeclared (replyContext server))
    (short : (replyContext server).bitness32)
    (many : 2 ^ 32 ≤ server.settings.interfaces.length) :
    reply server request = beginning server := by
  have whole := beginning_ne_nil server []
  rw [List.append_nil] at whole
  refine reply_of_begun whole asks fun state empty => ?_
  have length : (beginning server).length < 2 ^ server.platform.addressBits := by
    have longer := length_settingsOctets_le server
    rw [settingsOctets_eq, List.length_append] at longer
    omega
  obtain ⟨status, broken⟩ := writing_of_breaks server (replyContext server)
    (fun ctx => CspPartySettings.serialize ctx (settingsObj (P := P) server.settings)) state
    (serialize_breaks unbounded declared (by omega) short many)
    (by rw [empty, List.length_nil, Nat.zero_add]; exact length)
  rw [empty, List.nil_append] at broken
  exact ⟨status, statusOf_of_status broken⟩

theorem length_report (data : Context.Data) (versions : List UInt8) :
    (StatusMessage.protocolVersionsOctets data versions).length = 13 + versions.length := by
  have count : (formatOctets data.bigEndianFormat .one
      (BitVec.ofNat _ versions.length)).length = 1 := length_formatOctets _ .one _
  simp only [StatusMessage.protocolVersionsOctets, List.length_append,
    StatusMessage.length_fullContextOctets, count]
  omega

include unbounded room in
theorem reply_of_asksVersions (asks : AsksVersions server request) :
    reply server request = StatusMessage.protocolVersionsOctets (reportContext server)
      server.settings.protocolVersions := by
  obtain ⟨input, refused⟩ := asks
  obtain ⟨data, read⟩ :=
    @readCommonContext_of_refused P server (start server request) _ _ refused
  let headed : ServerState P := { start server request with data := data, input := input }
  let octets := StatusMessage.protocolVersionsOctets (reportContext server)
    server.settings.protocolVersions
  have length : octets.length = 13 + server.settings.protocolVersions.length :=
    length_report _ _
  have granted : Unbounded ⟨reportContext server, server.grants⟩ := unbounded
  have sent : reportProtocolVersions server headed =
      .ok () { headed with binOutput := octets } :=
    writing_of_writes server (reportContext server)
      (fun ctx => StatusMessage.serializeErrorNotSupportedProtocolVersion ctx
        server.settings.protocolVersions) headed
      (StatusMessage.serializeErrorNotSupportedProtocolVersion_writes granted _) (by
        show 0 + octets.length < 2 ^ server.platform.addressBits
        omega)
  have whole : handleMessage server (start server request) = (do
      let status ← statusOf (reportProtocolVersions server)
      writeStatus server status) headed :=
    bind_of_ok (statusOf_of_status read)
  have written : ({ headed with binOutput := octets } : ServerState P).binOutput.length ≠
      0 := by
    simp only [length]
    omega
  rw [reply, whole, bind_of_ok (statusOf_of_ok sent),
    writeStatus_of_written server _ _ written, final_ok]

end Reply

section Report

/-- `getServerProtocolVersions` of a client, from the reply on. -/
def readServerProtocolVersions (ctx : DContext P) (storage : Storage) :
    DProc P (List UInt8) := do
  let data ← Common.deserializeNoChecks ctx
  if data.messageType ≠ .status then
    fail .errorDataCorrupted
  else
    let statusOut ← StatusMessage.deserialize { ctx with data := data }
    if statusOut ≠ StatusMessage.statusWord .errorNotSupportedProtocolVersion then
      fail .errorDataCorrupted
    else
      StatusMessage.deserializeErrorNotSupportedProtocolVersion
        { ctx with data := data } storage

def countedReport (data : Context.Data) (settings : CspPartySettings) : List UInt8 :=
  StatusMessage.fullContextOctets data .errorNotSupportedProtocolVersion ++
    (formatOctets data.bigEndianFormat .one
        (BitVec.ofNat _ settings.protocolVersions.length) ++
      countedVersions settings)

theorem protocolVersionsOctets_eq (data : Context.Data) (settings : CspPartySettings) :
    StatusMessage.protocolVersionsOctets data settings.protocolVersions =
      countedReport data settings ++
        settings.protocolVersions.drop (settings.protocolVersions.length % 256) := by
  simp only [StatusMessage.protocolVersionsOctets, countedReport, countedVersions,
    List.append_assoc, List.take_append_drop]

variable (ctx : DContext P) (grants : HeapGrants ctx)

theorem readVersions_reads (versions : List UInt8)
    (targets : List (StatusMessage.versionTy : Ty P).Obj)
    (sized : targets.length = versions.length) :
    Reads ctx.data.platform (readRawData ctx (StatusMessage.versionTy : Ty P) targets)
      versions (fun objects => objects.map (versionOf (P := P)) = versions) := by
  have size : (StatusMessage.versionTy : Ty P).sizeof = 1 := rfl
  refine (readRawData_reads ctx (StatusMessage.versionTy : Ty P) rfl targets versions
    (by rw [size, sized, Nat.one_mul])).weaken fun objects ⟨_, image⟩ => ?_
  have again := image_versions (P := P) ctx.data.platform (objects.map versionOf)
  have same : (objects.map (versionOf (P := P))).map versionObj = objects := by
    rw [List.map_map]
    exact List.map_id _
  rw [same] at again
  exact again.symm.trans image

include grants

theorem deserializeVersionList_reads (settings : CspPartySettings) (storage : Storage) :
    Reads ctx.data.platform
      (StatusMessage.deserializeErrorNotSupportedProtocolVersion ctx storage)
      (formatOctets ctx.data.bigEndianFormat .one
          (BitVec.ofNat _ settings.protocolVersions.length) ++
        countedVersions settings)
      (fun received => received = countedVersions settings) := by
  have size : (StatusMessage.versionTy : Ty P).sizeof = 1 := rfl
  have count : (BitVec.ofNat (8 * Width.one.bytes) settings.protocolVersions.length).toNat =
      (countedVersions settings).length := (length_countedVersions settings).symm
  have few : (countedVersions settings).length < 2 ^ ctx.data.platform.addressBits := by
    have octet : (countedVersions settings).length < 256 := by
      rw [← count]
      exact BitVec.isLt _
    have wide : 256 ≤ 2 ^ ctx.data.platform.addressBits := by
      simp only [Platform.addressBits]
      split <;> decide
    omega
  refine (readPrimitive_reads ctx .one _).bind ?_
  rintro _ rfl
  rw [count, ← List.nil_append (countedVersions settings)]
  refine (reserve_reads ctx grants (StatusMessage.versionTy : Ty P) storage _
    ⟨few, by rwa [size, Nat.one_mul]⟩).bind fun _ _ => ?_
  rw [List.nil_append]
  exact (readVersions_reads ctx (countedVersions settings)
    (List.replicate (countedVersions settings).length (0 : Word .one))
    List.length_replicate).map _ fun _ arrived => arrived

theorem readServerProtocolVersions_reads {data : Context.Data}
    (message : data.messageType = .status) (settings : CspPartySettings)
    (storage : Storage) :
    Reads ctx.data.platform (readServerProtocolVersions ctx storage)
      (countedReport data settings) (fun received => received = countedVersions settings) := by
  rw [countedReport, StatusMessage.fullContextOctets, List.append_assoc]
  refine (StatusMessage.deserializeNoChecks_reads ctx data).bind ?_
  rintro _ rfl
  let ctxOut : DContext P :=
    { ctx with
      data := ((ctx.data.setProtocolVersion
        ((BitVec.ofNat 16 data.protocolVersion).toNat % 256)).setMessageType
          (.ofCode data.messageType.code)).setCommonFlags data.commonFlags }
  have named : Context.Message.ofCode data.messageType.code = .status := by
    rw [message]
    rfl
  have status : ctxOut.data.messageType = .status := named
  have format : ctxOut.data.bigEndianFormat = data.bigEndianFormat := rfl
  rw [if_neg (not_not.mpr status), ← format]
  refine (readPrimitive_reads ctxOut .four _).bind ?_
  rintro _ rfl
  rw [if_neg (not_not.mpr rfl)]
  exact deserializeVersionList_reads ctxOut grants settings storage

end Report

section Exactness

variable (server : Server P) (receiver : DContext P)

/-- The reply reports an error, or it is a data message that the receiver reads
the settings from. -/
def TellsSettings (octets : List UInt8) : Prop :=
  (∃ (data : Context.Data) (status : Status), data.messageType = .status ∧
      ¬statusSuccess status ∧ octets = StatusMessage.fullContextOctets data status) ∨
    (∃ (data : Context.Data) (body : List UInt8), data.messageType = .data ∧
        octets = (Header.ofContext data (settingsTop : TopStruct P).kId).octets ++ body) ∧
      ∀ target address, ∃ object after,
        CspPartySettings.deserialize receiver target address (.start octets) =
            .ok object after ∧
          settingsOf object = server.settings

def TellsVersions (octets : List UInt8) : Prop :=
  ∀ storage, ∃ after, readServerProtocolVersions receiver storage (.start octets) =
    .ok server.settings.protocolVersions after

/-- What the format of a settings message can carry to the receiver. -/
structure Carried : Prop where
  declared : Common.endiannessIsDeclared
    (commonReceived receiver.data (replyContext server))
  versions : server.settings.protocolVersions.length < 256
  interfaces : (replyContext server).endiannessDifference →
    ∀ interface ∈ server.settings.interfaces, interface = .undefined
  count : (replyContext server).bitness32 → server.settings.interfaces.length < 2 ^ 32

theorem countedVersions_eq_iff (settings : CspPartySettings) :
    countedVersions settings = settings.protocolVersions ↔
      settings.protocolVersions.length < 256 := by
  have octet : settings.protocolVersions.length % 256 < 256 := Nat.mod_lt _ (by decide)
  constructor
  · intro same
    have length := congrArg List.length same
    simp only [countedVersions, List.length_take] at length
    omega
  · intro few
    rw [countedVersions, Nat.mod_eq_of_lt few, List.take_length]

theorem receivedInterfaces_eq_iff (receives : Receives receiver) (sender : Context.Data)
    (interfaces : List InterfaceVersion) :
    receivedInterfaces receiver sender interfaces = interfaces ↔
      (sender.endiannessDifference →
        ∀ interface ∈ interfaces, interface = .undefined) := by
  unfold receivedInterfaces
  rw [receives.constructs]
  cases sender.endiannessDifference with
  | false => simp
  | true =>
      rw [if_pos rfl, eq_comm, List.eq_replicate_iff]
      simp

variable {server receiver}

theorem received_eq_iff (receives : Receives receiver) (sender : Context.Data)
    (settings : CspPartySettings) :
    received receiver sender settings = settings ↔
      settings.protocolVersions.length < 256 ∧
        (sender.endiannessDifference →
          ∀ interface ∈ settings.interfaces, interface = .undefined) := by
  rw [← countedVersions_eq_iff, ← receivedInterfaces_eq_iff receiver receives sender]
  constructor
  · intro same
    exact ⟨congrArg CspPartySettings.protocolVersions same,
      congrArg CspPartySettings.interfaces same⟩
  · rintro ⟨versions, interfaces⟩
    rw [received, versions, interfaces]

/-- A status message is not the beginning of a data message. -/
theorem fullContextOctets_ne {status : Status} {data sent : Context.Data} {id : Uuid}
    {body : List UInt8} (isStatus : data.messageType = .status)
    (isData : sent.messageType = .data) :
    StatusMessage.fullContextOctets data status ≠
      (Header.ofContext sent id).octets ++ body := by
  intro same
  simp only [StatusMessage.fullContextOctets, StatusMessage.contextOctets, Header.octets,
    List.append_assoc] at same
  have two (value : Word .two) : (formatOctets false .two value).length = 2 :=
    length_formatOctets _ _ _
  obtain ⟨_, rest⟩ := List.append_inj same ((two _).trans (two _).symm)
  obtain ⟨codes, _⟩ := List.append_inj rest ((two _).trans (two _).symm)
  have equal : data.messageType.code = sent.messageType.code := formatOctets_injective codes
  rw [isStatus, isData] at equal
  exact absurd equal (by decide)

theorem not_tellsSettings {sent : Context.Data} (isData : sent.messageType = .data)
    {body : List UInt8}
    (fails : ∀ target address, ∃ fault after, CspPartySettings.deserialize receiver target
      address (.start ((Header.ofContext sent (settingsTop : TopStruct P).kId).octets ++
        body)) = .error fault after) :
    ¬TellsSettings server receiver
      ((Header.ofContext sent (settingsTop : TopStruct P).kId).octets ++ body) := by
  rintro (⟨data, status, isStatus, _, same⟩ | ⟨_, reads⟩)
  · exact fullContextOctets_ne isStatus isData same.symm
  · obtain ⟨_, _, failed⟩ := fails (receiver.construct _) 0
    obtain ⟨_, _, ran, _⟩ := reads (receiver.construct _) 0
    rw [failed] at ran
    cases ran

theorem not_tellsSettings_of_undeclared (receives : Receives receiver)
    (undeclared : ¬Common.endiannessIsDeclared
      (commonReceived receiver.data (replyContext server))) (body : List UInt8)
    (bounded : ((Header.ofContext (replyContext server)
      (settingsTop : TopStruct P).kId).octets ++ body).length <
        2 ^ receiver.data.platform.addressBits) :
    ¬TellsSettings server receiver ((Header.ofContext (replyContext server)
      (settingsTop : TopStruct P).kId).octets ++ body) := by
  refine not_tellsSettings rfl fun target address => ?_
  obtain ⟨after, failed⟩ := deserialize_refuses receives target address undeclared body
    (.start _) [] (List.append_nil _).symm (Nat.zero_le _) bounded
  exact ⟨_, after, failed⟩

end Exactness

section Survival

variable {server : Server P} {receiver : DContext P}
  (unbounded : ∀ size n, server.grants size n = true)
  (room : server.settings.protocolVersions.length +
    20 * server.settings.interfaces.length + 64 < 2 ^ server.platform.addressBits)
  (receives : Receives receiver)
  (fit : server.settings.protocolVersions.length +
    20 * server.settings.interfaces.length + 64 < 2 ^ receiver.data.platform.addressBits)

include unbounded room receives fit

theorem tellsSettings_of_declared {request : List UInt8}
    (asks : AsksSettings server request 1)
    (declared : Common.endiannessIsDeclared (replyContext server)) :
    TellsSettings server receiver (reply server request) ↔ Carried server receiver := by
  by_cases short : (replyContext server).bitness32 →
      server.settings.interfaces.length < 2 ^ 32
  · rw [reply_of_declared unbounded room asks declared short]
    have length := length_settingsOctets_le server
    have elements : ElementsFit receiver.data.platform (interfaceVersionTy : Ty P)
        server.settings.interfaces.length := by
      have size : (interfaceVersionTy : Ty P).sizeof = 20 := rfl
      exact ⟨by omega, by rw [size]; omega⟩
    by_cases heard : Common.endiannessIsDeclared
        (commonReceived receiver.data (replyContext server))
    · have arrives target address : ∃ object after,
          CspPartySettings.deserialize receiver target address
              (.start (settingsOctets server)) = .ok object after ∧
            settingsOf object =
              received receiver (replyContext server) server.settings := by
        obtain ⟨object, after, ran, arrived, _⟩ :=
          deserialize_reads receives target address heard declared elements short
            (.start (settingsOctets server)) [] (List.append_nil _).symm (Nat.zero_le _)
            (show (settingsOctets server).length < _ by omega)
        exact ⟨object, after, ran, arrived⟩
      have survives := received_eq_iff receives (replyContext server) server.settings
      constructor
      · rintro (⟨data, status, isStatus, _, same⟩ | ⟨_, reads⟩)
        · exact absurd same.symm (fullContextOctets_ne isStatus rfl)
        · obtain ⟨_, _, arrived, same⟩ := arrives (receiver.construct _) 0
          obtain ⟨_, _, ran, told⟩ := reads (receiver.construct _) 0
          rw [arrived] at ran
          cases ran
          obtain ⟨versions, interfaces⟩ := survives.mp (same.symm.trans told)
          exact ⟨heard, versions, interfaces, short⟩
      · intro carried
        refine .inr ⟨⟨replyContext server, _, rfl, rfl⟩, fun target address => ?_⟩
        obtain ⟨object, after, ran, arrived⟩ := arrives target address
        exact ⟨object, after, ran,
          arrived.trans (survives.mpr ⟨carried.versions, carried.interfaces⟩)⟩
    · refine ⟨fun tells => absurd tells ?_, fun carried => absurd carried.declared heard⟩
      exact not_tellsSettings_of_undeclared receives heard _
        (show (settingsOctets server).length < _ by omega)
  · push Not at short
    rw [reply_of_many unbounded room asks declared short.1 short.2]
    have length : (beginning server).length < 2 ^ receiver.data.platform.addressBits := by
      have longer := length_settingsOctets_le server
      rw [settingsOctets_eq, List.length_append] at longer
      omega
    refine ⟨fun tells => absurd tells ?_,
      fun carried => absurd (carried.count short.1) (Nat.not_lt.mpr short.2)⟩
    by_cases heard : Common.endiannessIsDeclared
        (commonReceived receiver.data (replyContext server))
    · refine not_tellsSettings rfl fun target address => ?_
      exact deserialize_starves receives target address heard (.start (beginning server))
        rfl (Nat.zero_le _) length
    · exact not_tellsSettings_of_undeclared receives heard _ length

theorem tellsSettings_iff {request : List UInt8} {cspVersion : Nat}
    (asks : AsksSettings server request cspVersion) :
    TellsSettings server receiver (reply server request) ↔
      Context.Traits.isProtocolVersionSupported cspVersion ∧
        (Common.endiannessIsDeclared (replyContext server) → Carried server receiver) := by
  by_cases supported : Context.Traits.isProtocolVersionSupported cspVersion
  · have one : cspVersion = 1 := by
      simpa [Context.Traits.isProtocolVersionSupported, Context.Traits.kProtocolVersions]
        using supported
    subst one
    by_cases declared : Common.endiannessIsDeclared (replyContext server)
    · rw [tellsSettings_of_declared unbounded room receives fit asks declared]
      exact ⟨fun carried => ⟨supported, fun _ => carried⟩, fun known => known.2 declared⟩
    · obtain ⟨data, isStatus, report⟩ := reply_of_undeclared unbounded asks declared
      refine ⟨fun _ => ⟨supported, fun impossible => absurd impossible declared⟩, fun _ => ?_⟩
      exact .inl ⟨data, _, isStatus, by decide, report⟩
  · rw [reply_of_unsupported asks supported]
    refine ⟨?_, fun known => absurd known.1 supported⟩
    rintro (⟨data, status, _, _, empty⟩ | ⟨⟨data, body, _, empty⟩, _⟩)
    · have length := congrArg List.length empty
      rw [StatusMessage.length_fullContextOctets] at length
      cases length
    · have length := congrArg List.length empty
      rw [List.length_append, Header.length_octets, List.length_nil] at length
      omega

theorem tellsVersions_iff {request : List UInt8} (asks : AsksVersions server request) :
    TellsVersions server receiver (reply server request) ↔
      server.settings.protocolVersions.length < 256 := by
  have isStatus : (reportContext server).messageType = .status := rfl
  have length : (reply server request).length < 2 ^ receiver.data.platform.addressBits := by
    rw [reply_of_asksVersions unbounded room asks, length_report]
    omega
  rw [← countedVersions_eq_iff]
  have arrives (storage : Storage) : ∃ after,
      readServerProtocolVersions receiver storage (.start (reply server request)) =
        .ok (countedVersions server.settings) after := by
    obtain ⟨_, after, ran, rfl, _⟩ :=
      readServerProtocolVersions_reads receiver receives.grants isStatus server.settings
        storage (.start (reply server request)) _
        (by rw [reply_of_asksVersions unbounded room asks, protocolVersionsOctets_eq]; rfl)
        (Nat.zero_le _) length
    exact ⟨after, ran⟩
  constructor
  · intro tells
    obtain ⟨_, arrived⟩ := arrives .empty
    obtain ⟨_, told⟩ := tells .empty
    rw [arrived] at told
    injection told
  · intro same storage
    obtain ⟨after, ran⟩ := arrives storage
    exact ⟨after, by rw [ran, same]⟩

/-- Which settings survive the wire. -/
theorem settings_survive_iff :
    (∀ request cspVersion, AsksSettings server request cspVersion →
      (TellsSettings server receiver (reply server request) ↔
        Context.Traits.isProtocolVersionSupported cspVersion ∧
          (Common.endiannessIsDeclared (replyContext server) →
            Carried server receiver))) ∧
      ∀ request, AsksVersions server request →
        (TellsVersions server receiver (reply server request) ↔
          server.settings.protocolVersions.length < 256) :=
  ⟨fun _ _ asks => tellsSettings_iff unbounded room receives fit asks,
    fun _ asks => tellsVersions_iff unbounded room receives fit asks⟩

end Survival

section Survey

private def surveyPlatform : Platform := ⟨false, false⟩

private def surveyData : Context.Data where
  platform := surveyPlatform
  protocolVersion := 1
  messageType := .data
  commonFlags := .ofUInt32 0
  dataFlags := .ofUInt32 0
  interfaceVersion := 1
  interfaceVersionsNotMatch := false
  isHeapUsedForTemp := true

private def surveyor : DContext Empty :=
  { DContext.unbounded surveyData with
    construct := fun type => type.ofImage surveyPlatform
      (List.replicate 16 0 ++ List.replicate 4 0xff) }

private def surveyHandler : ServerDataHandler Empty where
  inputType := settingsTop
  outputType := .dummy
  kForTempUseHeap := false
  kMinimumInterfaceVersion := 1
  checkPoliciesCompliance _ := .noError
  handleData _ _ := (.noError, iSerializableDummy.type.ofImage surveyPlatform [])

private def surveyed (mandatoryCommonFlags : BitVec 32) : Server Empty where
  settings := ⟨[1], .ofUInt32 mandatoryCommonFlags, .ofUInt32 0, [⟨.ofNat 7, 2⟩]⟩
  registrar :=
    ⟨fun _ => surveyHandler, fun _ => .error .errorNoSuchHandler, fun _ => .ok []⟩
  program := ⟨nofun, fun _ => .none, fun _ => .none⟩
  platform := surveyPlatform
  grants _ _ := true
  memory := .unbounded surveyData

private def survey : List UInt8 := [1, 0, 2, 0, 0, 0, 0, 0]

private theorem surveyor_receives : Receives surveyor :=
  ⟨rfl, rfl, rfl, fun _ _ => ⟨_, rfl⟩, by decide⟩

private theorem surveyed_grants (mandatory : BitVec 32) (size n : Nat) :
    (surveyed mandatory).grants size n = true := rfl

private theorem surveyed_fits (mandatory : BitVec 32) :
    (surveyed mandatory).settings.protocolVersions.length +
      20 * (surveyed mandatory).settings.interfaces.length + 64 <
        2 ^ surveyPlatform.addressBits := by
  show 1 + 20 * 1 + 64 < 2 ^ 64
  decide

theorem settings_survive_survey :
    TellsSettings (surveyed 0) surveyor (reply (surveyed 0) survey) := by
  have asks : AsksSettings (surveyed 0) survey 1 := ⟨_, _, rfl, rfl, rfl⟩
  have survive := settings_survive_iff (surveyed_grants 0) (surveyed_fits 0)
    surveyor_receives (surveyed_fits 0)
  exact (survive.1 survey 1 asks).mpr
    ⟨rfl, fun _ => ⟨by decide, by decide, by decide, by decide⟩⟩

/-- Under flags that announce another byte order the list of interfaces arrives
without its values. -/
theorem interfaces_lost :
    (surveyed Context.CommonFlags.kEndiannessDifference).settings.isValid = true ∧
      AsksSettings (surveyed Context.CommonFlags.kEndiannessDifference) survey 1 ∧
      ¬TellsSettings (surveyed Context.CommonFlags.kEndiannessDifference) surveyor
        (reply (surveyed Context.CommonFlags.kEndiannessDifference) survey) := by
  have asks : AsksSettings (surveyed Context.CommonFlags.kEndiannessDifference) survey 1 :=
    ⟨_, _, rfl, rfl, rfl⟩
  refine ⟨by decide, asks, fun tells => ?_⟩
  have carried := ((tellsSettings_iff (surveyed_grants _) (surveyed_fits _)
    surveyor_receives (surveyed_fits _) asks).mp tells).2 (by decide)
  have lost := carried.interfaces (by decide) ⟨.ofNat 7, 2⟩ (List.mem_singleton.mpr rfl)
  exact absurd lost (by decide)

end Survey

end CommonSerialization.Csp.Messaging.Server
