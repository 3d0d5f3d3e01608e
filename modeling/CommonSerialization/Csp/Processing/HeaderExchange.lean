import CommonSerialization.Csp.Processing.HeaderAcceptance

namespace CommonSerialization.Csp

open StateExcept

/-! The header of a data message, from the context it is written from to the
context it is read into. -/

namespace Header

def ofContext (data : Context.Data) (id : Uuid) : Header where
  version := BitVec.ofNat _ data.protocolVersion
  messageType := data.messageType.code
  commonFlags := data.commonFlags.flags
  id := id
  interfaceVersion := BitVec.ofNat _ data.interfaceVersion
  dataFlags := data.dataFlags.flags

variable (data : Context.Data) (id : Uuid)

theorem describes_ofContext : Describes data (ofContext data id) :=
  ⟨rfl, rfl, rfl, rfl, rfl⟩

@[simp] theorem validCommonFlags_ofContext :
    (ofContext data id).validCommonFlags = data.commonFlags :=
  Context.FlagWord.ofUInt32_flags data.commonFlags

@[simp] theorem validDataFlags_ofContext :
    (ofContext data id).validDataFlags = data.dataFlags :=
  Context.FlagWord.ofUInt32_flags data.dataFlags

theorem versionOctet_ofContext {data : Context.Data}
    (supported : Context.Traits.isProtocolVersionSupported data.protocolVersion) :
    (ofContext data id).versionOctet = data.protocolVersion := by
  have one : data.protocolVersion = 1 := by
    simpa [Context.Traits.isProtocolVersionSupported, Context.Traits.kProtocolVersions]
      using supported
  simp only [versionOctet, ofContext, one]
  rfl

theorem interfaceVersion_ofContext {data : Context.Data}
    (sized : data.interfaceVersion < 2 ^ 32) :
    (ofContext data id).interfaceVersion.toNat = data.interfaceVersion := by
  have width : 8 * Width.four.bytes = 32 := rfl
  simp only [ofContext, BitVec.toNat_ofNat, width]
  exact Nat.mod_eq_of_lt sized

end Header

/-- What a context must be for a data message to be written from it. -/
structure Encodable (data : Context.Data) (top : TopStruct P) : Prop where
  supported : Context.Traits.isProtocolVersionSupported data.protocolVersion
  declared : Common.endiannessIsDeclared data
  interfaceVersion : Context.Traits.isInterfaceVersionSupported data.interfaceVersion
    top.getOriginPrivateVersion top.interface.version
  pointers : Data.pointersContradict data = false
  compatible : statusSuccess
    (BodyProcessor.testDataFlagsCompatibility top.versioning data.dataFlags)

section Writes

variable {ctx : SContext} (unbounded : Unbounded ctx) {top : TopStruct P}
  (encodable : Encodable ctx.data top)

include unbounded encodable

theorem common_serialize_writes :
    Writes ctx.data.platform (Common.serialize ctx)
      (Header.ofContext ctx.data top.kId).commonOctets (fun _ => True) := by
  rw [Common.serialize, if_neg (by simp [encodable.supported]),
    if_neg (by simp [encodable.declared])]
  exact Header.common_writes _ unbounded (Header.describes_ofContext _ _)

theorem data_serialize_writes :
    Writes ctx.data.platform (Data.serialize ctx top)
      (Header.ofContext ctx.data top.kId).dataOctets
      (fun data => data = Data.noteInterfaceVersions ctx.data top) := by
  unfold Data.serialize Header.dataOctets
  rw [Header.validCommonFlags_ofContext]
  refine (pushBackN_writes ctx unbounded top.kId.octets).bind fun _ _ => ?_
  rw [if_neg (by simp [encodable.interfaceVersion])]
  refine (writePrimitive_writes ctx unbounded .four _).bind fun _ _ => ?_
  rw [if_neg (by simp [encodable.pointers])]
  simp only [encodable.compatible, if_true]
  rw [← List.append_nil (formatOctets _ .four _)]
  exact (writePrimitive_writes ctx unbounded .four _).bind fun _ _ => .pure rfl

theorem serializeHeader_writes_chosen
    (chosen : ISerializable.chosenInterfaceVersion ctx.data top = ctx.data) :
    Writes ctx.data.platform (ISerializable.serializeHeader ctx top)
      (Header.ofContext ctx.data top.kId).octets
      (fun data => data = Data.noteInterfaceVersions ctx.data top) := by
  unfold ISerializable.serializeHeader
  rw [chosen, Header.octets_eq]
  exact (common_serialize_writes unbounded encodable).bind fun _ _ =>
    data_serialize_writes unbounded encodable

theorem serializeHeader_writes
    (named : ctx.data.interfaceVersion ≠ Context.Traits.kInterfaceVersionUndefined) :
    Writes ctx.data.platform (ISerializable.serializeHeader ctx top)
      (Header.ofContext ctx.data top.kId).octets
      (fun data => data = Data.noteInterfaceVersions ctx.data top) := by
  apply serializeHeader_writes_chosen unbounded encodable
  rw [ISerializable.chosenInterfaceVersion, if_neg named]

end Writes

section Accepted

variable {ctx : SContext} {before after : SState}

theorem Common.accepted_of_serialize (ran : Common.serialize ctx before = .ok () after) :
    Context.Traits.isProtocolVersionSupported ctx.data.protocolVersion ∧
      Common.endiannessIsDeclared ctx.data := by
  unfold Common.serialize at ran
  split at ran
  · cases ran
  · rename_i supported
    split at ran
    · cases ran
    · rename_i declared
      exact ⟨by simpa using supported, by simpa using declared⟩

theorem Data.accepted_of_serialize {top : TopStruct P} {data : Context.Data}
    (ran : Data.serialize ctx top before = .ok data after) :
    Context.Traits.isInterfaceVersionSupported ctx.data.interfaceVersion
        top.getOriginPrivateVersion top.interface.version ∧
      Data.pointersContradict ctx.data = false ∧
      statusSuccess
        (BodyProcessor.testDataFlagsCompatibility top.versioning ctx.data.dataFlags) ∧
      data = Data.noteInterfaceVersions ctx.data top := by
  obtain ⟨_, _, _, ran⟩ := bind_eq_ok ran
  split at ran
  · cases ran
  · rename_i interfaceVersion
    obtain ⟨_, _, _, ran⟩ := bind_eq_ok ran
    split at ran
    · cases ran
    · rename_i pointers
      simp only at ran
      split at ran
      · rename_i compatible
        obtain ⟨_, _, _, ran⟩ := bind_eq_ok ran
        cases ran
        exact ⟨by simpa using interfaceVersion, by simpa using pointers, compatible, rfl⟩
      · cases ran

end Accepted

section Refused

variable (ctx : SContext) (top : TopStruct P) (before : SState)

theorem chosenInterfaceVersion_protocolVersion (data : Context.Data) :
    (ISerializable.chosenInterfaceVersion data top).protocolVersion =
      data.protocolVersion := by
  unfold ISerializable.chosenInterfaceVersion
  split <;> rfl

theorem chosenInterfaceVersion_declared (data : Context.Data) :
    Common.endiannessIsDeclared (ISerializable.chosenInterfaceVersion data top) =
      Common.endiannessIsDeclared data := by
  unfold ISerializable.chosenInterfaceVersion
  split <;> rfl

/-- Nothing is written of a message at a version the protocol does not have. -/
theorem serializeHeader_unsupported
    (unsupported :
      ¬Context.Traits.isProtocolVersionSupported ctx.data.protocolVersion) :
    ISerializable.serializeHeader ctx top before =
      .error (.status .errorNotSupportedProtocolVersion) before := by
  refine bind_of_error ?_
  rw [Common.serialize, chosenInterfaceVersion_protocolVersion,
    if_pos (by simp [unsupported])]
  rfl

theorem serializeHeader_undeclared
    (supported : Context.Traits.isProtocolVersionSupported ctx.data.protocolVersion)
    (undeclared : ¬Common.endiannessIsDeclared ctx.data) :
    ISerializable.serializeHeader ctx top before =
      .error (.status .errorNotCompatibleCommonFlagsSettings) before := by
  refine bind_of_error ?_
  rw [Common.serialize, chosenInterfaceVersion_protocolVersion,
    chosenInterfaceVersion_declared, if_neg (by simp [supported]),
    if_pos (by simp [undeclared])]
  rfl

end Refused

section Reads

variable {ctx : DContext P} {sender : Context.Data} {top : TopStruct P}

def commonReceived (receiver sender : Context.Data) : Context.Data :=
  { receiver with
    protocolVersion := sender.protocolVersion
    messageType := sender.messageType
    commonFlags := sender.commonFlags }

def headerReceived (receiver sender : Context.Data) : Context.Data :=
  { commonReceived receiver sender with
    interfaceVersion := sender.interfaceVersion
    dataFlags := sender.dataFlags }

theorem protocolVersion_le_latest {data : Context.Data}
    (supported : Context.Traits.isProtocolVersionSupported data.protocolVersion) :
    data.protocolVersion ≤ Context.Traits.getLatestProtocolVersion := by
  have one : data.protocolVersion = 1 := by
    simpa [Context.Traits.isProtocolVersionSupported, Context.Traits.kProtocolVersions]
      using supported
  rw [one]
  decide

theorem common_deserialize_reads
    (supported : Context.Traits.isProtocolVersionSupported sender.protocolVersion)
    (version : ctx.data.protocolVersion ≤ sender.protocolVersion)
    (declared : Common.endiannessIsDeclared (commonReceived ctx.data sender))
    (message : ∀ code, sender.messageType ≠ .unnamed code) :
    Reads ctx.data.platform (Common.deserialize ctx)
      (Header.ofContext sender top.kId).commonOctets
      (fun data => data = commonReceived ctx.data sender) := by
  have octet := Header.versionOctet_ofContext top.kId supported
  have latest := protocolVersion_le_latest supported
  have named : Context.Message.ofCode sender.messageType.code = sender.messageType := by
    cases message' : sender.messageType with
    | status | data | getSettings => decide
    | unnamed code => exact absurd message' (message code)
  refine (Header.common_reads ctx (Header.ofContext sender top.kId)
    (by rw [octet]; exact ⟨version, latest⟩) ?_).weaken ?_
  · rw [Header.validCommonFlags_ofContext]
    exact declared
  · rintro _ rfl
    simp only [Header.commonContext, octet, Header.validCommonFlags_ofContext]
    simp only [Header.ofContext, named]
    rfl

theorem deserializeHeader_refuses {addedPointers : Bool}
    (supported : Context.Traits.isProtocolVersionSupported sender.protocolVersion)
    (version : ctx.data.protocolVersion ≤ sender.protocolVersion)
    (undeclared : ¬Common.endiannessIsDeclared (commonReceived ctx.data sender)) :
    Refuses ctx.data.platform (ISerializable.deserializeHeader ctx top addedPointers)
      (Header.ofContext sender top.kId).octets
      (.status .errorNotCompatibleCommonFlagsSettings) := by
  have octet := Header.versionOctet_ofContext top.kId supported
  rw [Header.octets_eq]
  refine .extend (.bind_first (Header.common_refuses ctx
    (Header.ofContext sender top.kId) ?_ ?_) _) _
  · rw [octet]
    exact ⟨version, protocolVersion_le_latest supported⟩
  · rw [Header.validCommonFlags_ofContext]
    exact undeclared

theorem data_deserialize_reads (sized : sender.interfaceVersion < 2 ^ 32)
    (receiver : Context.Data) (flags : receiver.commonFlags = sender.commonFlags)
    (platform : receiver.platform = ctx.data.platform) :
    Reads ctx.data.platform (Data.deserializeNoChecks { ctx with data := receiver })
      (Header.ofContext sender top.kId).dataOctets
      (fun result => result = (top.kId,
        { receiver with
          interfaceVersion := sender.interfaceVersion
          dataFlags := sender.dataFlags })) := by
  refine (Header.data_reads ctx (Header.ofContext sender top.kId) receiver
    (by rw [Header.validCommonFlags_ofContext, flags]) platform).weaken ?_
  rintro _ rfl
  rw [Header.interfaceVersion_ofContext _ sized, Header.validDataFlags_ofContext]
  rfl

theorem deserializePostprocessRest_of_acceptable (data : Context.Data) {minimum : Nat}
    {addedPointers : Bool}
    (interfaceVersion : Context.Traits.isInterfaceVersionSupported data.interfaceVersion
      minimum top.interface.version)
    (compatible : statusSuccess
      (BodyProcessor.testDataFlagsCompatibility top.versioning data.dataFlags))
    (pointers : Data.pointersContradict data = false)
    (container : data.allowUnmanagedPointers → addedPointers) (state : DState P) :
    Data.deserializePostprocessRest data top minimum addedPointers state =
      .ok (Data.noteInterfaceVersions data top) state := by
  have supplied : (data.allowUnmanagedPointers && !addedPointers) = false := by
    cases allowed : data.allowUnmanagedPointers
    · rfl
    · simp [container allowed]
  unfold Data.deserializePostprocessRest
  rw [if_neg (by simp [interfaceVersion])]
  simp only [compatible, supplied, pointers]
  rfl

theorem deserializeHeader_reads {addedPointers : Bool}
    (supported : Context.Traits.isProtocolVersionSupported sender.protocolVersion)
    (version : ctx.data.protocolVersion ≤ sender.protocolVersion)
    (declared : Common.endiannessIsDeclared (commonReceived ctx.data sender))
    (message : sender.messageType = .data)
    (sized : sender.interfaceVersion < 2 ^ 32)
    (interfaceVersion : Context.Traits.isInterfaceVersionSupported
      sender.interfaceVersion
      (ISerializable.minimumInterfaceVersion (commonReceived ctx.data sender) top)
      top.interface.version)
    (compatible : statusSuccess
      (BodyProcessor.testDataFlagsCompatibility top.versioning sender.dataFlags))
    (pointers : Data.pointersContradict sender = false)
    (container : sender.allowUnmanagedPointers → addedPointers) :
    Reads ctx.data.platform (ISerializable.deserializeHeader ctx top addedPointers)
      (Header.ofContext sender top.kId).octets
      (fun data => data =
        Data.noteInterfaceVersions (headerReceived ctx.data sender) top) := by
  rw [Header.octets_eq]
  refine (common_deserialize_reads supported version declared
    (by rw [message]; nofun)).bind ?_
  rintro _ rfl
  rw [← List.append_nil (Header.dataOctets _)]
  refine (data_deserialize_reads sized (commonReceived ctx.data sender) rfl rfl).bind ?_
  rintro _ rfl
  intro before rest _ _ _
  have id : Data.deserializePostprocessId top top.kId before = .ok () before := by
    rw [Data.deserializePostprocessId, if_pos rfl]
    rfl
  refine ⟨_, before, (bind_of_ok id).trans ?_, rfl, by simp⟩
  exact deserializePostprocessRest_of_acceptable (headerReceived ctx.data sender)
    interfaceVersion compatible pointers container before

end Reads

end CommonSerialization.Csp
