import CommonSerialization.Common.Uuid
import CommonSerialization.Csp.Processing.BodyProcessor
import CommonSerialization.Csp.Processing.CommonContext

namespace CommonSerialization.Csp.StatusMessage

open StateExcept

/-! Status messages and the bodies that two of them have. -/

def statusWord (status : Status) : Word .four :=
  BitVec.ofInt _ status.code

/-- `statusSuccess` of a status that need not be named. -/
def wordSuccess (statusOut : Word .four) : Bool :=
  decide (0 ≤ statusOut.toInt)

theorem wordSuccess_statusWord (status : Status) :
    wordSuccess (statusWord status) = statusSuccess status := by
  cases status <;> rfl

def statusContext (platform : Platform) (protocolVersion : Nat)
    (commonFlags : Context.CommonFlags) : Context.Data where
  platform := platform
  protocolVersion := protocolVersion
  messageType := .status
  commonFlags := commonFlags
  dataFlags := .ofUInt32 0
  interfaceVersion := Context.Traits.kInterfaceVersionUndefined
  interfaceVersionsNotMatch := false
  isHeapUsedForTemp := true

section Serialize

variable (ctx : SContext)

def serialize (statusOut : Status) : SProc Unit :=
  writePrimitive ctx .four (statusWord statusOut)

def serializeFullContext (statusOut : Status) (noChecks : Bool) : SProc Unit := do
  if !noChecks then
    Common.serialize ctx
  else
    Common.serializeNoChecks ctx
  serialize ctx statusOut

/-- The count is narrowed to one octet, the list is not. -/
def serializeProtocolVersions (supportedProtocolVersions : List UInt8) :
    SProc Unit := do
  writePrimitive ctx .one (BitVec.ofNat _ supportedProtocolVersions.length)
  pushBackN ctx supportedProtocolVersions

def serializeMinimumInterfaceVersion (minimumInterfaceVersion : Nat)
    (outputTypeId : Uuid) : SProc Unit := do
  writePrimitive ctx .four (BitVec.ofNat _ minimumInterfaceVersion)
  pushBackN ctx outputTypeId.octets

/-- The context names no protocol version. -/
def serializeErrorNotSupportedProtocolVersion
    (supportedProtocolVersions : List UInt8) : SProc Unit := do
  serializeFullContext ctx .errorNotSupportedProtocolVersion true
  serializeProtocolVersions ctx supportedProtocolVersions

def serializeErrorNotSupportedInterfaceVersion (minimumInterfaceVersion : Nat)
    (outputTypeId : Uuid) : SProc Unit := do
  serializeFullContext ctx .errorNotSupportedInterfaceVersion false
  serializeMinimumInterfaceVersion ctx minimumInterfaceVersion outputTypeId

end Serialize

section Octets

variable (data : Context.Data)

def contextOctets : List UInt8 :=
  formatOctets false .two (BitVec.ofNat _ data.protocolVersion) ++
    (formatOctets false .two data.messageType.code ++
      formatOctets false .four data.commonFlags.flags)

def fullContextOctets (statusOut : Status) : List UInt8 :=
  contextOctets data ++
    formatOctets data.bigEndianFormat .four (statusWord statusOut)

def protocolVersionsOctets (versions : List UInt8) : List UInt8 :=
  fullContextOctets data .errorNotSupportedProtocolVersion ++
    (formatOctets data.bigEndianFormat .one (BitVec.ofNat _ versions.length) ++
      versions)

def interfaceVersionOctets (minimumInterfaceVersion : Nat) (outputTypeId : Uuid) :
    List UInt8 :=
  fullContextOctets data .errorNotSupportedInterfaceVersion ++
    (formatOctets data.bigEndianFormat .four
        (BitVec.ofNat _ minimumInterfaceVersion) ++
      outputTypeId.octets)

theorem length_fullContextOctets (statusOut : Status) :
    (fullContextOctets data statusOut).length = 12 := by
  simp only [fullContextOctets, contextOctets, List.length_append,
    length_formatOctets]
  rfl

theorem length_interfaceVersionOctets (minimumInterfaceVersion : Nat)
    (outputTypeId : Uuid) :
    (interfaceVersionOctets data minimumInterfaceVersion outputTypeId).length =
      32 := by
  simp only [interfaceVersionOctets, List.length_append, length_fullContextOctets,
    length_formatOctets, outputTypeId.sized]
  rfl

def Writable : Prop :=
  Context.Traits.isProtocolVersionSupported data.protocolVersion ∧
    Common.endiannessIsDeclared data

instance : Decidable (Writable data) :=
  inferInstanceAs (Decidable (_ ∧ _))

end Octets

section Writes

variable {ctx : SContext} (unbounded : Unbounded ctx)

include unbounded

theorem serializeNoChecks_writes :
    Writes ctx.data.platform (Common.serializeNoChecks ctx)
      (contextOctets ctx.data) (fun _ => True) := by
  let special : SContext :=
    { ctx with data := Common.commonContextSpecial ctx.data }
  have format : special.data.bigEndianFormat = false := by
    show Context.CommonFlags.bigEndianFormat (.ofUInt32 0) = false
    decide
  rw [contextOctets, ← format]
  refine (writePrimitive_writes special unbounded .two _).bind fun _ _ => ?_
  refine (writePrimitive_writes special unbounded .two _).bind fun _ _ => ?_
  exact writePrimitive_writes special unbounded .four _

theorem serializeFullContext_writes (statusOut : Status) {noChecks : Bool}
    (writable : noChecks ∨ Writable ctx.data) :
    Writes ctx.data.platform (serializeFullContext ctx statusOut noChecks)
      (fullContextOctets ctx.data statusOut) (fun _ => True) := by
  have status := writePrimitive_writes ctx unbounded .four (statusWord statusOut)
  cases noChecks with
  | true => exact (serializeNoChecks_writes unbounded).bind fun _ _ => status
  | false =>
      obtain ⟨supported, declared⟩ := writable.resolve_left Bool.false_ne_true
      have context : Writes ctx.data.platform (Common.serialize ctx)
          (contextOctets ctx.data) (fun _ => True) := by
        rw [Common.serialize, if_neg (by simp [supported]),
          if_neg (by simp [declared])]
        exact serializeNoChecks_writes unbounded
      exact context.bind fun _ _ => status

theorem serializeErrorNotSupportedProtocolVersion_writes (versions : List UInt8) :
    Writes ctx.data.platform
      (serializeErrorNotSupportedProtocolVersion ctx versions)
      (protocolVersionsOctets ctx.data versions) (fun _ => True) := by
  refine (serializeFullContext_writes unbounded _ (.inl rfl)).bind fun _ _ => ?_
  refine (writePrimitive_writes ctx unbounded .one _).bind fun _ _ => ?_
  exact pushBackN_writes ctx unbounded versions

theorem serializeErrorNotSupportedInterfaceVersion_writes
    (writable : Writable ctx.data) (minimumInterfaceVersion : Nat)
    (outputTypeId : Uuid) :
    Writes ctx.data.platform
      (serializeErrorNotSupportedInterfaceVersion ctx minimumInterfaceVersion
        outputTypeId)
      (interfaceVersionOctets ctx.data minimumInterfaceVersion outputTypeId)
      (fun _ => True) := by
  refine (serializeFullContext_writes unbounded _ (.inr writable)).bind fun _ _ => ?_
  refine (writePrimitive_writes ctx unbounded .four _).bind fun _ _ => ?_
  exact pushBackN_writes ctx unbounded outputTypeId.octets

end Writes

theorem serializeFullContext_refused (ctx : SContext)
    (refused : ¬Writable ctx.data) (statusOut : Status) (before : SState) :
    ∃ status, serializeFullContext ctx statusOut false before =
      .error (.status status) before := by
  unfold serializeFullContext
  rw [if_pos (by rfl)]
  have context : ∃ status, Common.serialize ctx before =
      .error (.status status) before := by
    unfold Common.serialize
    split
    · exact ⟨_, rfl⟩
    · rename_i supported
      split
      · exact ⟨_, rfl⟩
      · rename_i declared
        exact absurd ⟨by simpa using supported, by simpa using declared⟩ refused
  obtain ⟨status, failed⟩ := context
  exact ⟨status, bind_of_error failed⟩

theorem serializeErrorNotSupportedInterfaceVersion_refused (ctx : SContext)
    (refused : ¬Writable ctx.data) (minimumInterfaceVersion : Nat)
    (outputTypeId : Uuid) (before : SState) :
    ∃ status, serializeErrorNotSupportedInterfaceVersion ctx
        minimumInterfaceVersion outputTypeId before =
      .error (.status status) before := by
  obtain ⟨status, failed⟩ := serializeFullContext_refused ctx refused
    .errorNotSupportedInterfaceVersion before
  exact ⟨status, bind_of_error failed⟩

section Deserialize

variable (ctx : DContext P)

/-- `status::ContextProcessor::deserialize`; the status need not be named. -/
def deserialize : DProc P (Word .four) :=
  readPrimitive ctx .four

@[reducible] def versionTy : Ty P := .scalar (.integral .unsignedChar .one false)

/-- The list replaces what the vector held. -/
def deserializeErrorNotSupportedProtocolVersion (storage : Storage) :
    DProc P (List UInt8) := do
  let protocolVersionsSize ← readPrimitive ctx .one
  let _ ← BodyProcessor.reserve ctx (versionTy : Ty P) storage
    protocolVersionsSize.toNat
  let versions ← readRawData ctx (versionTy : Ty P)
    (List.replicate protocolVersionsSize.toNat (0 : Word .one))
  return versions.map UInt8.ofBitVec

theorem deserializeNoChecks_reads (data : Context.Data) :
    Reads ctx.data.platform (Common.deserializeNoChecks ctx) (contextOctets data)
      (fun result => result =
        ((ctx.data.setProtocolVersion
          ((BitVec.ofNat 16 data.protocolVersion).toNat % 256)).setMessageType
            (.ofCode data.messageType.code)).setCommonFlags data.commonFlags) := by
  let special : DContext P :=
    { ctx with data := Common.commonContextSpecial ctx.data }
  have format : special.data.bigEndianFormat = false := by
    show Context.CommonFlags.bigEndianFormat (.ofUInt32 0) = false
    decide
  rw [contextOctets, ← List.append_nil (formatOctets false .four data.commonFlags.flags),
    ← format]
  refine (readPrimitive_reads special .two _).bind ?_
  rintro _ rfl
  refine (readPrimitive_reads special .two _).bind ?_
  rintro _ rfl
  refine (readPrimitive_reads special .four _).bind ?_
  rintro _ rfl
  refine .pure ?_
  have flags : (Context.FlagWord.ofUInt32 data.commonFlags.flags : Context.CommonFlags) =
      data.commonFlags := Context.FlagWord.ofUInt32_flags _
  rw [flags]
  rfl

end Deserialize

end CommonSerialization.Csp.StatusMessage
