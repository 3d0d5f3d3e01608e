import CommonSerialization.Csp.Processing.DataContext
import CommonSerialization.Csp.Processing.Inversion

namespace CommonSerialization.Csp

open StateExcept

/-! Which headers let a message through to its body. -/

/-- The fields of the common and the data context as they are in a message. -/
structure Header where
  version : Word .two
  messageType : Word .two
  commonFlags : Word .four
  id : Uuid
  interfaceVersion : Word .four
  dataFlags : Word .four
  deriving DecidableEq

namespace Header

variable (header : Header)

def versionOctet : Nat := header.version.toNat % 256

def reservedOctet : Nat := header.version.toNat / 256

def validCommonFlags : Context.CommonFlags := .ofUInt32 header.commonFlags

def validDataFlags : Context.DataFlags := .ofUInt32 header.dataFlags

def reservedCommonFlags : BitVec 32 :=
  let flags : BitVec 32 := header.commonFlags
  flags &&& ~~~Context.CommonFlags.kValidFlagsMask

def reservedDataFlags : BitVec 32 :=
  let flags : BitVec 32 := header.dataFlags
  flags &&& ~~~Context.DataFlags.kValidFlagsMask

def octets : List UInt8 :=
  formatOctets false .two header.version ++
    (formatOctets false .two header.messageType ++
      (formatOctets false .four header.commonFlags ++
        (header.id.octets ++
          (formatOctets header.validCommonFlags.bigEndianFormat .four
              header.interfaceVersion ++
            formatOctets header.validCommonFlags.bigEndianFormat .four
              header.dataFlags))))

def fieldAt (bigEndianFormat : Bool) (size : Width) (octets : List UInt8)
    (place : Nat) : Word size :=
  (Platform.mk bigEndianFormat false).load size
    ((octets.drop place).take size.bytes)

def ofOctets (octets : List UInt8) : Header :=
  let commonFlags := fieldAt false .four octets 4
  let bigEndianFormat :=
    Context.CommonFlags.bigEndianFormat (.ofUInt32 commonFlags)
  { version := fieldAt false .two octets 0
    messageType := fieldAt false .two octets 2
    commonFlags := commonFlags
    id := ⟨(List.range 16).map fun index => octets.getD (8 + index) 0, by simp⟩
    interfaceVersion := fieldAt bigEndianFormat .four octets 24
    dataFlags := fieldAt bigEndianFormat .four octets 28 }

/-- The checks that processing makes, on the version octet and on flag words
without their reserved bits. -/
structure Checked (ctx : Context.Data) (top : TopStruct P) (header : Header) :
    Prop where
  version : ctx.protocolVersion ≤ header.versionOctet ∧
    header.versionOctet ≤ Context.Traits.getLatestProtocolVersion
  endianness :
    Common.endiannessIsDeclared (ctx.setCommonFlags header.validCommonFlags)
  id : header.id = top.kId
  interfaceVersion :
    ISerializable.minimumInterfaceVersion ctx top ≤
        header.interfaceVersion.toNat ∧
      header.interfaceVersion.toNat ≤ top.interface.version
  mandatory :
    header.validDataFlags.inter
        (.ofUInt32 top.versioning.effectiveMandatoryDataFlags) =
      .ofUInt32 top.versioning.effectiveMandatoryDataFlags
  forbidden :
    (header.validDataFlags.inter
      (.ofUInt32 top.versioning.effectiveForbiddenDataFlags)).isSet = false
  pointers : header.validDataFlags.checkRecursivePointers →
    header.validDataFlags.allowUnmanagedPointers

/-- What the format demands of the rest of the header. -/
structure Unreserved (header : Header) : Prop where
  supported :
    Context.Traits.isProtocolVersionSupported header.versionOctet
  reservedOctet : header.reservedOctet = 0
  messageType : Context.Message.ofCode header.messageType = .data
  commonFlags : header.reservedCommonFlags = 0
  dataFlags : header.reservedDataFlags = 0

def context (ctx : Context.Data) : Context.Data :=
  ((((ctx.setProtocolVersion header.versionOctet).setCommonFlags
    header.validCommonFlags).setMessageType
      (.ofCode header.messageType)).setInterfaceVersion
        header.interfaceVersion.toNat).setDataFlags header.validDataFlags

theorem formatOctets_fieldAt {octets : List UInt8} {place : Nat} {size : Width}
    (long : place + size.bytes ≤ octets.length) (bigEndianFormat : Bool) :
    formatOctets bigEndianFormat size (fieldAt bigEndianFormat size octets place) =
      (octets.drop place).take size.bytes := by
  apply Platform.store_load
  rw [List.length_take, List.length_drop]
  omega

theorem octets_ofOctets {octets : List UInt8} (long : 32 ≤ octets.length) :
    (ofOctets octets).octets = octets.take 32 := by
  have id : (List.range 16).map (fun index => octets.getD (8 + index) 0) =
      (octets.drop 8).take 16 := by
    apply List.ext_getElem
    · simp
      omega
    · intro index left _
      have bound : index < 16 := by simpa using left
      have inside : 8 + index < octets.length := by omega
      simp [inside]
  have widths : Width.two.bytes = 2 ∧ Width.four.bytes = 4 := ⟨rfl, rfl⟩
  simp only [Header.octets, ofOctets, id]
  rw [formatOctets_fieldAt (by simp only [widths]; omega),
    formatOctets_fieldAt (by simp only [widths]; omega),
    formatOctets_fieldAt (by simp only [widths]; omega)]
  simp only [validCommonFlags]
  rw [formatOctets_fieldAt (by simp only [widths]; omega),
    formatOctets_fieldAt (by simp only [widths]; omega)]
  simp only [widths, List.drop_zero]
  rw [show 32 = 2 + (2 + (4 + (16 + (4 + 4)))) from rfl, List.take_add,
    List.take_add, List.take_add, List.take_add, List.take_add]
  simp only [List.drop_drop]

/-- The common part of the header of a message that may end after it. -/
theorem take_commonOctets {octets : List UInt8} (long : 8 ≤ octets.length) :
    octets.take 8 = formatOctets false .two (ofOctets octets).version ++
      (formatOctets false .two (ofOctets octets).messageType ++
        formatOctets false .four (ofOctets octets).commonFlags) := by
  have widths : Width.two.bytes = 2 ∧ Width.four.bytes = 4 := ⟨rfl, rfl⟩
  simp only [ofOctets]
  rw [formatOctets_fieldAt (by simp only [widths]; omega),
    formatOctets_fieldAt (by simp only [widths]; omega),
    formatOctets_fieldAt (by simp only [widths]; omega)]
  simp only [widths, List.drop_zero]
  rw [show 8 = 2 + (2 + 4) from rfl, List.take_add, List.take_add]
  simp only [List.drop_drop]

theorem length_octets : header.octets.length = 32 := by
  simp only [octets, List.length_append, length_formatOctets, header.id.sized]
  rfl

theorem eq_octets_append {octets : List UInt8} (long : 32 ≤ octets.length) :
    octets = (ofOctets octets).octets ++ octets.drop 32 := by
  rw [octets_ofOctets long, List.take_append_drop]

end Header

section Read

variable (ctx : DContext P)

theorem readId_reads (id : Uuid) :
    Reads ctx.data.platform (Data.readId ctx) id.octets
      (fun result => result = id) := by
  have reads := read_reads ctx id.octets
  rw [id.sized] at reads
  rw [Data.readId, ← List.append_nil id.octets]
  refine reads.bind fun octets same => ?_
  subst same
  rw [dif_pos id.sized]
  exact .pure rfl

theorem readId_consumes : Consumes (Data.readId ctx) 16 := by
  intro before id after ran inside
  obtain ⟨octets, middle, readOctets, checked⟩ := bind_eq_ok ran
  split at checked
  · rename_i sized
    cases checked
    obtain ⟨taken, walker⟩ := BodyProcessor.read_eq_ok ctx readOctets
    have length := congrArg List.length taken
    rw [List.length_take, List.length_drop] at length
    rw [walker, sized]
    exact ⟨rfl, by omega⟩
  · cases checked

theorem readId_onlyReads : OnlyReads (Data.readId ctx) := by
  refine OnlyReads.bind ?_ fun octets => ?_
  · intro before octets after ran
    simp only [read, bind, EStateM.bind, get_apply] at ran
    split at ran
    · cases ran
    · split at ran
      · cases ran
      · cases ran
        rfl
  · split
    · exact .pure _
    · exact .fail _

theorem deserialize_onlyReads : OnlyReads (Common.deserialize ctx) := by
  refine (readPrimitive_onlyReads _ .two).bind fun version => ?_
  split
  · exact .fail _
  · refine (readPrimitive_onlyReads _ .two).bind fun messageType => ?_
    refine (readPrimitive_onlyReads _ .four).bind fun intFlags => ?_
    split
    · exact .pure _
    · exact .fail _

theorem deserializeNoChecks_onlyReads : OnlyReads (Data.deserializeNoChecks ctx) := by
  refine (readId_onlyReads ctx).bind fun id => ?_
  refine (readPrimitive_onlyReads ctx .four).bind fun version => ?_
  refine (readPrimitive_onlyReads ctx .four).bind fun intFlags => ?_
  exact .pure _

theorem deserializeNoChecks_consumes : Consumes (Data.deserializeNoChecks ctx) 24 := by
  show Consumes (Data.deserializeNoChecks ctx)
    (16 + (Width.four.bytes + (Width.four.bytes + 0)))
  refine (readId_consumes ctx).bind fun id => ?_
  refine (readPrimitive_consumes ctx .four).bind fun version => ?_
  refine (readPrimitive_consumes ctx .four).bind fun intFlags => ?_
  exact .pure _

theorem deserialize_consumes : Consumes (Common.deserialize ctx) 8 := by
  show Consumes (Common.deserialize ctx)
    (Width.two.bytes + (Width.two.bytes + (Width.four.bytes + 0)))
  refine (readPrimitive_consumes _ .two).bind fun version => ?_
  split
  · exact .fail _ _
  · refine (readPrimitive_consumes _ .two).bind fun messageType => ?_
    refine (readPrimitive_consumes _ .four).bind fun intFlags => ?_
    split
    · exact .pure _
    · exact .fail _ _

theorem deserializePostprocessRest_consumes (data : Context.Data)
    (top : TopStruct P) (minimum : Nat) (addedPointers : Bool) :
    Consumes (Data.deserializePostprocessRest data top minimum addedPointers :
      DProc P Context.Data) 0 := by
  unfold Data.deserializePostprocessRest
  split
  · exact .fail _ _
  · simp only
    split
    · exact .fail _ _
    · split
      · exact .fail _ _
      · split
        · exact .fail _ _
        · exact .pure _

theorem deserializeHeader_consumes (top : TopStruct P) (addedPointers : Bool) :
    Consumes (ISerializable.deserializeHeader ctx top addedPointers) 32 := by
  show Consumes (ISerializable.deserializeHeader ctx top addedPointers)
    (8 + (24 + (0 + 0)))
  refine (deserialize_consumes ctx).bind fun common => ?_
  refine (deserializeNoChecks_consumes _).bind fun result => ?_
  refine Consumes.bind ?_ fun _ => deserializePostprocessRest_consumes _ _ _ _
  unfold Data.deserializePostprocessId
  split
  · exact .pure _
  · exact .fail _ _

end Read

namespace Header

variable (ctx : DContext P) (header : Header)

def commonContext (data : Context.Data) : Context.Data :=
  ((data.setProtocolVersion header.versionOctet).setCommonFlags
    header.validCommonFlags).setMessageType (.ofCode header.messageType)

def commonOctets : List UInt8 :=
  formatOctets false .two header.version ++
    (formatOctets false .two header.messageType ++
      formatOctets false .four header.commonFlags)

def dataOctets : List UInt8 :=
  header.id.octets ++
    (formatOctets header.validCommonFlags.bigEndianFormat .four
        header.interfaceVersion ++
      formatOctets header.validCommonFlags.bigEndianFormat .four
        header.dataFlags)

theorem octets_eq : header.octets = header.commonOctets ++ header.dataOctets := by
  simp only [octets, commonOctets, dataOctets, List.append_assoc]

theorem common_reads
    (version : ctx.data.protocolVersion ≤ header.versionOctet ∧
      header.versionOctet ≤ Context.Traits.getLatestProtocolVersion)
    (endianness : Common.endiannessIsDeclared
      (ctx.data.setCommonFlags header.validCommonFlags)) :
    Reads ctx.data.platform (Common.deserialize ctx) header.commonOctets
      (fun data => data = header.commonContext ctx.data) := by
  let special : DContext P :=
    { ctx with data := Common.commonContextSpecial ctx.data }
  have format : special.data.bigEndianFormat = false := by
    show Context.CommonFlags.bigEndianFormat (.ofUInt32 0) = false
    decide
  rw [commonOctets, ← format]
  refine (readPrimitive_reads special .two header.version).bind ?_
  rintro _ rfl
  unfold versionOctet at version
  rw [if_neg (not_or.mpr ⟨Nat.not_lt.mpr version.1, Nat.not_lt.mpr version.2⟩)]
  refine (readPrimitive_reads special .two header.messageType).bind ?_
  rintro _ rfl
  rw [← List.append_nil (formatOctets _ .four _)]
  refine (readPrimitive_reads special .four header.commonFlags).bind ?_
  rintro _ rfl
  split
  · exact .pure rfl
  · rename_i undeclared
    exact absurd endianness undeclared

/-- A header whose byte order differs without saying so is refused. -/
theorem common_refuses
    (version : ctx.data.protocolVersion ≤ header.versionOctet ∧
      header.versionOctet ≤ Context.Traits.getLatestProtocolVersion)
    (undeclared : ¬Common.endiannessIsDeclared
      (ctx.data.setCommonFlags header.validCommonFlags)) :
    Refuses ctx.data.platform (Common.deserialize ctx) header.commonOctets
      (.status .errorNotCompatibleCommonFlagsSettings) := by
  let special : DContext P :=
    { ctx with data := Common.commonContextSpecial ctx.data }
  have format : special.data.bigEndianFormat = false := by
    show Context.CommonFlags.bigEndianFormat (.ofUInt32 0) = false
    decide
  rw [commonOctets, ← format]
  refine .bind_next (readPrimitive_reads special .two header.version) ?_
  rintro _ rfl
  unfold versionOctet at version
  rw [if_neg (not_or.mpr ⟨Nat.not_lt.mpr version.1, Nat.not_lt.mpr version.2⟩)]
  refine .bind_next (readPrimitive_reads special .two header.messageType) ?_
  rintro _ rfl
  rw [← List.append_nil (formatOctets _ .four _)]
  refine .bind_next (readPrimitive_reads special .four header.commonFlags) ?_
  rintro _ rfl
  have other : ¬Common.endiannessIsDeclared
      ((ctx.data.setProtocolVersion (header.version.toNat % 256)).setCommonFlags
        (.ofUInt32 header.commonFlags)) := undeclared
  rw [if_neg other]
  exact .fail _

theorem data_reads (data : Context.Data)
    (flags : data.commonFlags = header.validCommonFlags)
    (platform : data.platform = ctx.data.platform) :
    Reads ctx.data.platform
      (Data.deserializeNoChecks { ctx with data := data }) header.dataOctets
      (fun result => result = (header.id,
        (data.setInterfaceVersion header.interfaceVersion.toNat).setDataFlags
          header.validDataFlags)) := by
  let bodyContext : DContext P := { ctx with data := data }
  have format : header.validCommonFlags.bigEndianFormat =
      bodyContext.data.bigEndianFormat := by
    rw [← flags]
    rfl
  rw [← platform, dataOctets, format]
  refine (readId_reads bodyContext header.id).bind ?_
  rintro _ rfl
  refine (readPrimitive_reads bodyContext .four header.interfaceVersion).bind ?_
  rintro _ rfl
  rw [← List.append_nil (formatOctets _ .four header.dataFlags)]
  refine (readPrimitive_reads bodyContext .four header.dataFlags).bind ?_
  rintro _ rfl
  exact .pure rfl

theorem deserializePostprocessRest_eq_ok {data result : Context.Data}
    {top : TopStruct P} {minimum : Nat} {before after : DState P} :
    Data.deserializePostprocessRest data top minimum true before =
        .ok result after ↔
      (minimum ≤ data.interfaceVersion ∧
        data.interfaceVersion ≤ top.interface.version) ∧
      statusSuccess (BodyProcessor.testDataFlagsCompatibility top.versioning
        data.dataFlags) ∧
      (data.checkRecursivePointers → data.allowUnmanagedPointers) ∧
      result = Data.noteInterfaceVersions data top ∧ after = before := by
  have range : Context.Traits.isInterfaceVersionSupported data.interfaceVersion
      minimum top.interface.version ↔ minimum ≤ data.interfaceVersion ∧
        data.interfaceVersion ≤ top.interface.version := by
    simp [Context.Traits.isInterfaceVersionSupported, and_comm]
  have contradict : Data.pointersContradict data = true ↔
      ¬(data.checkRecursivePointers → data.allowUnmanagedPointers) := by
    simp [Data.pointersContradict]
  unfold Data.deserializePostprocessRest
  rw [← range]
  cases supported : Context.Traits.isInterfaceVersionSupported
    data.interfaceVersion minimum top.interface.version
  · simp
  · cases compatible : statusSuccess
      (BodyProcessor.testDataFlagsCompatibility top.versioning data.dataFlags)
    · simp [compatible]
    · by_cases pointers : Data.pointersContradict data
      · simp [compatible, pointers, contradict.mp pointers]
      · have together : data.checkRecursivePointers →
            data.allowUnmanagedPointers := by
          by_contra apart
          exact pointers (contradict.mpr apart)
        have same : (Data.noteInterfaceVersions data top = result ∧ before = after) ↔
            (result = Data.noteInterfaceVersions data top ∧ after = before) := by
          rw [eq_comm, @eq_comm _ before]
        have consistent :
            (data.checkRecursivePointers = true →
              data.allowUnmanagedPointers = true) ↔ True := iff_true_intro together
        simpa [compatible, pointers, consistent] using same

theorem statusSuccess_testDataFlagsCompatibility {versioning : Versioning}
    {dataFlags : Context.DataFlags} :
    statusSuccess (BodyProcessor.testDataFlagsCompatibility versioning
        dataFlags) ↔
      dataFlags.inter (.ofUInt32 versioning.effectiveMandatoryDataFlags) =
          .ofUInt32 versioning.effectiveMandatoryDataFlags ∧
        (dataFlags.inter
          (.ofUInt32 versioning.effectiveForbiddenDataFlags)).isSet = false := by
  unfold BodyProcessor.testDataFlagsCompatibility
  simp only [beq_iff_eq, Bool.and_eq_true, Bool.not_eq_true']
  split
  · rename_i compatible
    simp [compatible, statusSuccess, Status.code]
  · rename_i incompatible
    have failed : statusSuccess .errorNotCompatibleDataFlagsSettings = false := by
      decide
    rw [failed]
    constructor
    · nofun
    · exact fun both => absurd ⟨both.2, both.1⟩ incompatible

theorem deserializeHeader_reads {top : TopStruct P}
    (checked : Checked ctx.data top header) :
    Reads ctx.data.platform (ISerializable.deserializeHeader ctx top true)
      header.octets
      (fun data => data =
        Data.noteInterfaceVersions (header.context ctx.data) top) := by
  rw [octets_eq]
  refine (common_reads ctx header checked.version checked.endianness).bind ?_
  rintro _ rfl
  rw [← List.append_nil header.dataOctets]
  refine (data_reads ctx header (header.commonContext ctx.data) rfl rfl).bind ?_
  rintro _ rfl
  intro before rest _ _ _
  have id : Data.deserializePostprocessId top header.id before =
      .ok () before := by
    rw [Data.deserializePostprocessId, if_pos checked.id.symm]
    rfl
  have passed : Data.deserializePostprocessRest (header.context ctx.data) top
      (ISerializable.minimumInterfaceVersion (header.commonContext ctx.data) top)
      true before =
        .ok (Data.noteInterfaceVersions (header.context ctx.data) top) before := by
    rw [deserializePostprocessRest_eq_ok]
    exact ⟨checked.interfaceVersion, statusSuccess_testDataFlagsCompatibility.mpr
      ⟨checked.mandatory, checked.forbidden⟩, checked.pointers, rfl, rfl⟩
  exact ⟨_, before, (bind_of_ok id).trans passed, rfl, by simp⟩

/-- A common context that is let through is one that is supported and declared. -/
theorem checked_of_common {before final : DState P} {rest : List UInt8}
    {data : Context.Data}
    (input : before.binaryData.vector.drop before.binaryData.offset =
      header.commonOctets ++ rest)
    (inside : before.binaryData.offset ≤ before.binaryData.vector.length)
    (bounded : before.binaryData.vector.length <
      2 ^ ctx.data.platform.addressBits)
    (ran : Common.deserialize ctx before = .ok data final) :
    (ctx.data.protocolVersion ≤ header.versionOctet ∧
      header.versionOctet ≤ Context.Traits.getLatestProtocolVersion) ∧
      Common.endiannessIsDeclared
        (ctx.data.setCommonFlags header.validCommonFlags) := by
  let special : DContext P :=
    { ctx with data := Common.commonContextSpecial ctx.data }
  have format : special.data.bigEndianFormat = false := by
    show Context.CommonFlags.bigEndianFormat (.ofUInt32 0) = false
    decide
  rw [commonOctets, ← format] at input
  simp only [List.append_assoc] at input
  obtain ⟨_, checkRan, input, inside, bounded⟩ := (readPrimitive_reads special
    .two header.version).bind_eq_ok input inside bounded ran
  split at checkRan
  · cases checkRan
  · rename_i within
    rw [not_or, Nat.not_lt, Nat.not_lt] at within
    obtain ⟨_, checkRan, input, inside, bounded⟩ := (readPrimitive_reads special
      .two header.messageType).bind_eq_ok input inside bounded checkRan
    obtain ⟨_, checkRan, input, inside, bounded⟩ := (readPrimitive_reads special
      .four header.commonFlags).bind_eq_ok input inside bounded checkRan
    split at checkRan
    · rename_i declared
      exact ⟨within, declared⟩
    · cases checkRan

/-- A message that is let through has passed every check. -/
theorem checked_of_deserializeHeader {top : TopStruct P}
    {before final : DState P} {rest : List UInt8} {data : Context.Data}
    (input : before.binaryData.vector.drop before.binaryData.offset =
      header.octets ++ rest)
    (inside : before.binaryData.offset ≤ before.binaryData.vector.length)
    (bounded : before.binaryData.vector.length <
      2 ^ ctx.data.platform.addressBits)
    (ran : ISerializable.deserializeHeader ctx top true before =
      .ok data final) : Checked ctx.data top header := by
  obtain ⟨common, middle, commonRan, dataRan⟩ := bind_eq_ok ran
  obtain ⟨version, endianness⟩ : (ctx.data.protocolVersion ≤ header.versionOctet ∧
      header.versionOctet ≤ Context.Traits.getLatestProtocolVersion) ∧
        Common.endiannessIsDeclared
          (ctx.data.setCommonFlags header.validCommonFlags) := by
    rw [octets_eq, List.append_assoc] at input
    exact checked_of_common ctx header input inside bounded commonRan
  rw [octets_eq, List.append_assoc] at input
  obtain ⟨_, known, commonKnown, rfl, walker⟩ :=
    common_reads ctx header version endianness before _ input inside bounded
  rw [commonKnown] at commonRan
  cases commonRan
  obtain ⟨input, inside, bounded⟩ := Reads.advance input bounded walker inside
  obtain ⟨_, checkRan, _⟩ := (data_reads ctx header
    (header.commonContext ctx.data) rfl rfl).bind_eq_ok input inside bounded
    dataRan
  obtain ⟨_, _, idRan, restRan⟩ := bind_eq_ok checkRan
  obtain ⟨interfaceVersion, compatible, pointers, _⟩ :=
    deserializePostprocessRest_eq_ok.mp restRan
  obtain ⟨mandatory, forbidden⟩ :=
    statusSuccess_testDataFlagsCompatibility.mp compatible
  refine ⟨version, endianness, ?_, interfaceVersion, mandatory, forbidden, pointers⟩
  unfold Data.deserializePostprocessId at idRan
  split at idRan
  · rename_i same
    exact same.symm
  · cases idRan

def Describes (data : Context.Data) (header : Header) : Prop :=
  BitVec.ofNat _ data.protocolVersion = header.version ∧
    data.messageType.code = header.messageType ∧
    data.commonFlags.flags = header.commonFlags ∧
    BitVec.ofNat _ data.interfaceVersion = header.interfaceVersion ∧
    data.dataFlags.flags = header.dataFlags

theorem common_writes {sctx : SContext} (unbounded : Unbounded sctx)
    (describes : Describes sctx.data header) :
    Writes sctx.data.platform (Common.serializeNoChecks sctx)
      header.commonOctets (fun _ => True) := by
  let special : SContext :=
    { sctx with data := Common.commonContextSpecial sctx.data }
  have format : special.data.bigEndianFormat = false := by
    show Context.CommonFlags.bigEndianFormat (.ofUInt32 0) = false
    decide
  obtain ⟨version, messageType, commonFlags, _⟩ := describes
  rw [commonOctets, ← version, ← messageType, ← commonFlags, ← format]
  refine (writePrimitive_writes special unbounded .two _).bind fun _ _ => ?_
  refine (writePrimitive_writes special unbounded .two _).bind fun _ _ => ?_
  exact writePrimitive_writes special unbounded .four _

theorem data_writes {sctx : SContext} (unbounded : Unbounded sctx)
    (describes : Describes sctx.data header) {top : TopStruct P}
    (id : header.id = top.kId) :
    Writes sctx.data.platform (Data.serializeNoChecks sctx top)
      header.dataOctets (fun _ => True) := by
  obtain ⟨_, _, commonFlags, interfaceVersion, dataFlags⟩ := describes
  have order : header.validCommonFlags.bigEndianFormat =
      sctx.data.bigEndianFormat := by
    have same : header.validCommonFlags = sctx.data.commonFlags := by
      rw [validCommonFlags, ← commonFlags]
      exact Context.FlagWord.ofUInt32_flags _
    rw [same]
    rfl
  rw [dataOctets, order, ← interfaceVersion, ← dataFlags, id]
  refine (pushBackN_writes sctx unbounded _).bind fun _ _ => ?_
  refine (writePrimitive_writes sctx unbounded .four _).bind fun _ _ => ?_
  rw [← List.append_nil (formatOctets _ .four sctx.data.dataFlags.flags)]
  refine (writePrimitive_writes sctx unbounded .four _).bind fun _ _ => ?_
  exact .pure trivial

theorem code_ofCode (code : BitVec 16) :
    (Context.Message.ofCode code).code = code := by
  unfold Context.Message.ofCode
  split
  · rename_i status
    exact status.symm
  · split
    · rename_i data
      exact data.symm
    · split
      · rename_i getSettings
        exact getSettings.symm
      · rfl

theorem and_eq_self_of_reserved {flags mask : BitVec 32}
    (reserved : flags &&& ~~~mask = 0) : flags &&& mask = flags := by
  have parts : flags &&& mask ||| flags &&& ~~~mask = flags := by
    rw [← BitVec.and_or_distrib_left, BitVec.or_not_self, BitVec.and_allOnes]
  rw [reserved] at parts
  simpa using parts

theorem ofNat_toNat_self (word : Word size) :
    BitVec.ofNat (8 * size.bytes) word.toNat = word := by
  rw [BitVec.ofNat_toNat, BitVec.setWidth_eq]

theorem describes_of_unreserved {header : Header}
    (unreserved : Unreserved header) (data : Context.Data) (top : TopStruct P) :
    Describes (Data.noteInterfaceVersions (header.context data) top) header := by
  have noted (chosen : Context.Data → Prop) (plain : chosen (header.context data))
      (marked : chosen
        ((header.context data).setInterfaceVersionsNotMatch true)) :
      chosen (Data.noteInterfaceVersions (header.context data) top) := by
    unfold Data.noteInterfaceVersions
    split
    · exact marked
    · exact plain
  have described : Describes (header.context data) header := by
    have version : header.versionOctet = header.version.toNat := by
      have reserved := unreserved.reservedOctet
      unfold reservedOctet at reserved
      unfold versionOctet
      omega
    refine ⟨?_, code_ofCode _, and_eq_self_of_reserved unreserved.commonFlags,
      ofNat_toNat_self _, and_eq_self_of_reserved unreserved.dataFlags⟩
    show BitVec.ofNat _ header.versionOctet = _
    rw [version]
    exact ofNat_toNat_self _
  exact noted (Describes · header) described described

end Header

def reencode (data : Context.Data) (top : TopStruct P) : SProc Context.Data := do
  Common.serializeNoChecks (.unbounded data)
  Data.serializeNoChecks (.unbounded data) top

/-- The message is let through exactly when its header is in order, and then
encoding the contexts again gives the octets that were consumed. -/
def HeaderExact (ctx : DContext P) (top : TopStruct P) (octets : List UInt8) :
    Prop :=
  ((∃ data final, ISerializable.deserializeHeader ctx top true (.start octets) =
      .ok data final) ↔
    32 ≤ octets.length ∧ (Header.ofOctets octets).Checked ctx.data top ∧
      (Header.ofOctets octets).Unreserved) ∧
  ∀ data final,
    ISerializable.deserializeHeader ctx top true (.start octets) =
        .ok data final →
      ∃ again after, reencode data top .empty = .ok again after ∧
        after.binaryData = octets.take final.binaryData.offset

theorem reencode_eq {header : Header} (unreserved : header.Unreserved)
    (ctx : Context.Data) {top : TopStruct P} (id : header.id = top.kId) :
    ∃ again after,
      reencode (Data.noteInterfaceVersions (header.context ctx) top) top .empty =
          .ok again after ∧ after.binaryData = header.octets := by
  have unbounded : Unbounded
      (.unbounded (Data.noteInterfaceVersions (header.context ctx) top)) :=
    fun _ _ => rfl
  have describes := Header.describes_of_unreserved unreserved ctx top
  have writes := (Header.common_writes header unbounded describes).bind fun _ _ =>
    Header.data_writes header unbounded describes id
  rw [← Header.octets_eq] at writes
  obtain ⟨again, after, ran, _, written⟩ := writes .empty (by
    rw [header.length_octets]
    simp only [SState.empty, List.length_nil, Platform.addressBits]
    split <;> decide)
  exact ⟨again, after, ran, by simpa [SState.empty] using written⟩

/-- The acceptance of a message is exact if and only if its header does not
pass the checks with something in its reserved parts. -/
theorem headerExact_iff (ctx : DContext P) (top : TopStruct P)
    (octets : List UInt8)
    (bounded : octets.length < 2 ^ ctx.data.platform.addressBits) :
    HeaderExact ctx top octets ↔
      (32 ≤ octets.length → (Header.ofOctets octets).Checked ctx.data top →
        (Header.ofOctets octets).Unreserved) := by
  have start (long : 32 ≤ octets.length) :
      (DState.start octets : DState P).binaryData.vector.drop
          (DState.start octets : DState P).binaryData.offset =
        (Header.ofOctets octets).octets ++ octets.drop 32 :=
    Header.eq_octets_append long
  have long {data : Context.Data} {final : DState P}
      (ran : ISerializable.deserializeHeader ctx top true (.start octets) =
        .ok data final) :
      final.binaryData.offset = 32 ∧ 32 ≤ octets.length := by
    obtain ⟨walker, within⟩ :=
      deserializeHeader_consumes ctx top true _ _ _ ran (Nat.zero_le _)
    rw [walker]
    simpa [DState.start] using within
  have accepted {data : Context.Data} {final : DState P}
      (ran : ISerializable.deserializeHeader ctx top true (.start octets) =
        .ok data final) : (Header.ofOctets octets).Checked ctx.data top :=
    Header.checked_of_deserializeHeader ctx _ (start (long ran).2)
      (Nat.zero_le _) bounded ran
  constructor
  · intro exact long checked
    obtain ⟨data, final, ran, _⟩ := Header.deserializeHeader_reads ctx _ checked
      (.start octets) _ (start long) (Nat.zero_le _) bounded
    exact (exact.1.mp ⟨data, final, ran⟩).2.2
  · intro reserved
    constructor
    · constructor
      · rintro ⟨data, final, ran⟩
        exact ⟨(long ran).2, accepted ran, reserved (long ran).2 (accepted ran)⟩
      · rintro ⟨long, checked, _⟩
        obtain ⟨data, final, ran, _⟩ := Header.deserializeHeader_reads ctx _
          checked (.start octets) _ (start long) (Nat.zero_le _) bounded
        exact ⟨data, final, ran⟩
    · intro data final ran
      have checked := accepted ran
      have unreserved := reserved (long ran).2 checked
      obtain ⟨_, _, known, rfl, _⟩ := Header.deserializeHeader_reads ctx _ checked
        (.start octets) _ (start (long ran).2) (Nat.zero_le _) bounded
      rw [ran] at known
      cases known
      rw [(long ran).1, ← Header.octets_ofOctets (long ran).2]
      exact reencode_eq unreserved ctx.data checked.id

section Probe

private def probeVersioning : Versioning := ⟨1, [1], 0, 0⟩

private def probe : TopStruct Empty where
  kId := .ofNat 5
  interface := ⟨.kNull, 1, .ofUInt32 0, .ofUInt32 0⟩
  decl := ⟨1, .none, 1, 0, some probeVersioning, .fieldByField .common⟩
  fields := .nil
  versioning := probeVersioning
  declared := rfl

private def probeContext : DContext Empty :=
  .unbounded
    { platform := ⟨false, false⟩
      protocolVersion := 1
      messageType := .data
      commonFlags := .ofUInt32 0
      dataFlags := .ofUInt32 0
      interfaceVersion := Context.Traits.kInterfaceVersionUndefined
      interfaceVersionsNotMatch := false
      isHeapUsedForTemp := true }

private def probeOctets (reserved : UInt8) : List UInt8 :=
  [1, reserved, 1, 0, 0, 0, 0, 0] ++ (Uuid.ofNat 5).octets ++
    [1, 0, 0, 0, 0, 0, 0, 0]

theorem headerExact_probe : HeaderExact probeContext probe (probeOctets 0) := by
  refine (headerExact_iff probeContext probe (probeOctets 0) (by decide)).mpr ?_
  exact fun _ _ => ⟨by decide, by decide, by decide, by decide, by decide⟩

/-- A message with an octet in the reserved place is let through. -/
theorem not_headerExact_reserved :
    ¬HeaderExact probeContext probe (probeOctets 7) := by
  intro exact
  obtain ⟨_, _, unreserved⟩ := exact.1.mp ⟨_, _, rfl⟩
  exact absurd unreserved.reservedOctet (by decide)

end Probe

end CommonSerialization.Csp
