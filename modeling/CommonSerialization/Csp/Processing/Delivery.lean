import CommonSerialization.Csp.Processing.Inversion
import CommonSerialization.Csp.Processing.Wire

namespace CommonSerialization.Csp.BodyProcessor

open Chunks StateExcept

/-! What the receiver of a pointer-free body gets, on a platform of its own. -/

/-- Both parties use one version of the interface and the same flags. -/
structure SameFormat (sender receiver : Context.Data) : Prop where
  commonFlags : receiver.commonFlags = sender.commonFlags
  dataFlags : receiver.dataFlags = sender.dataFlags
  interfaceVersion : receiver.interfaceVersion = sender.interfaceVersion

namespace SameFormat

theorem refl (data : Context.Data) : SameFormat data data := ⟨rfl, rfl, rfl⟩

variable {sender receiver : Context.Data} (same : SameFormat sender receiver)

include same

theorem bigEndianFormat : receiver.bigEndianFormat = sender.bigEndianFormat := by
  simp only [Context.Data.bigEndianFormat, same.commonFlags]

theorem bitness32 : receiver.bitness32 = sender.bitness32 := by
  simp only [Context.Data.bitness32, same.commonFlags]

theorem writesSize (type : ScalarType) :
    writesSize receiver type = writesSize sender type := by
  simp only [BodyProcessor.writesSize, Context.Data.sizeOfIntegersMayBeNotEqual,
    same.dataFlags]

theorem tagsAllowCopy (type : Ty P) :
    tagsAllowCopy receiver type = tagsAllowCopy sender type := by
  simp only [BodyProcessor.tagsAllowCopy, Context.Data.alignmentMayBeNotEqual,
    Context.Data.sizeOfIntegersMayBeNotEqual, same.dataFlags]

theorem copiesArray (type : Ty P) :
    copiesArray receiver type = copiesArray sender type := by
  simp only [BodyProcessor.copiesArray, same.tagsAllowCopy,
    Context.Data.endiannessDifference,
    Context.Data.simplyAssignableTagsOptimizationsAreTurnedOff,
    same.commonFlags, same.dataFlags, same.interfaceVersion]

theorem leavesToFields (type : Ty P) :
    leavesToFields receiver type = leavesToFields sender type := by
  simp only [BodyProcessor.leavesToFields, Context.Data.endiannessDifference,
    same.commonFlags, same.interfaceVersion]

theorem copiesStruct (type : Ty P) :
    copiesStruct receiver type = copiesStruct sender type := by
  simp only [BodyProcessor.copiesStruct, same.leavesToFields,
    same.tagsAllowCopy,
    Context.Data.simplyAssignableTagsOptimizationsAreTurnedOff, same.dataFlags]

end SameFormat

section Delivered

variable (sender receiver : Context.Data)

def Copied (type : Ty P) (sent received : type.Obj) : Prop :=
  type.image receiver.platform received = type.image sender.platform sent

/-- Elements of an empty type do not travel; only their number is kept. -/
def DeliveredN (type : Ty P) (each : type.Obj → type.Obj → Prop)
    (sent received : List type.Obj) : Prop :=
  if type.emptyType then received.length = sent.length
  else if copiesArray sender type then
    type.plain ∧ List.Forall₂ (Copied sender receiver type) sent received
  else
    List.Forall₂ each sent received

def DeliveredStruct (decl : StructDecl) (fields : Fields P)
    (sent received : (Ty.struct decl fields).Obj) (fieldByField : Prop) :
    Prop :=
  match decl.function with
  | .generic =>
      copiesStruct sender (.struct decl fields) →
        fields.plain ∧ Copied sender receiver (.struct decl fields) sent received
  | .fieldByField .none => fieldByField
  | .fieldByField _ =>
      if copiesStruct sender (.struct decl fields) then
        fields.plain ∧ Copied sender receiver (.struct decl fields) sent received
      else fieldByField

mutual
/-- The relation between the object sent and the object received.  A struct
without a function of its own that is not copied is not transported at all. -/
def Delivered : (type : Ty P) → type.Obj → type.Obj → Prop
  | .scalar _, sent, received => received = sent
  | .pointer _ _, _, _ => False
  | .array element _, sent, received =>
      DeliveredN sender receiver element (Delivered element) (List.ofFn sent)
        (List.ofFn received)
  | .container _ _ element, sent, received =>
      DeliveredN sender receiver element (Delivered element) sent.2 received.2
  | .struct decl fields, sent, received =>
      DeliveredStruct sender receiver decl fields sent received
        (FieldsDelivered fields sent.1 received.1)

def FieldsDelivered : (fields : Fields P) → fields.Objs → fields.Objs → Prop
  | .nil, _, _ => True
  | .cons _ field rest, sent, received =>
      Delivered field sent.2.1 received.2.1 ∧
        FieldsDelivered rest sent.2.2 received.2.2
end

theorem deliveredN_length {sender receiver : Context.Data} {type : Ty P}
    {each : type.Obj → type.Obj → Prop} {sent received : List type.Obj}
    (delivered : DeliveredN sender receiver type each sent received) :
    received.length = sent.length := by
  unfold DeliveredN at delivered
  split at delivered
  · exact delivered
  · split at delivered
    · exact delivered.2.length_eq.symm
    · exact delivered.length_eq.symm

theorem ofFn_getD {length : Nat} (list : List α) (default : Fin length → α)
    (sized : list.length = length) :
    List.ofFn (fun index : Fin length => list.getD index (default index)) =
      list := by
  subst sized
  apply List.ext_getElem
  · simp
  · intro index _ inside
    simp

end Delivered

mutual
def Native : Ty P → Prop
  | .scalar _ => True
  | .pointer _ _ => True
  | .array element _ => Native element
  | .container kind _ element => kind = .vectorT ∧ Native element
  | .struct _ fields => FieldsNative fields

def FieldsNative : Fields P → Prop
  | .nil => True
  | .cons _ field rest => Native field ∧ FieldsNative rest
end

section Deserialize

variable (ctx : DContext P)

def HeapGrants : Prop :=
  ∀ blocks size, ∃ address, ctx.allocate blocks size = some address

theorem heapGrants_unbounded (data : Context.Data) :
    HeapGrants (DContext.unbounded data : DContext P) :=
  fun _ _ => ⟨_, rfl⟩

theorem deserializeFromAnotherSize_self (type : ScalarType) :
    deserializeFromAnotherSize ctx type.size.bytes type =
      readPrimitive ctx type.size := by
  simp [deserializeFromAnotherSize]

theorem deserializeArithmetic_reads (type : ScalarType)
    (value : Word type.size) :
    Reads ctx.data.platform (deserializeArithmetic ctx type)
      (sizeOctets ctx.data type ++
        formatOctets ctx.data.bigEndianFormat type.size value)
      (fun result => result = value) := by
  unfold deserializeArithmetic sizeOctets
  split
  · refine (readPrimitive_reads ctx .one _).bind fun result equality => ?_
    rw [equality, toNat_sizeOctet, deserializeFromAnotherSize_self]
    exact readPrimitive_reads ctx _ value
  · exact readPrimitive_reads ctx _ value

theorem readOriginalValue_reads (original : Width) (value : Word original) :
    Reads ctx.data.platform (readOriginalValue ctx original)
      (formatOctets ctx.data.bigEndianFormat original value)
      (fun result => result = value) := by
  intro before rest input inside bounded
  obtain ⟨result, after, ran, holds, walker⟩ :=
    readPrimitive_reads ctx original value before rest input inside bounded
  exact ⟨result, after, by simp only [readOriginalValue, ran], holds, walker⟩

/-- A value that fits survives the change of its size, as the number it is
under the sign the conversion assumes. -/
theorem deserializeFromAnotherSize_reads (original : Width) (type : ScalarType)
    (value : Word original)
    (fits : FixedWidthInteger.Fits type.size type.signed
      (value.toInteger type.signed)) :
    Reads ctx.data.platform
      (deserializeFromAnotherSize ctx original.bytes type)
      (formatOctets ctx.data.bigEndianFormat original value)
      (fun result =>
        result.toInteger type.signed = value.toInteger type.signed) := by
  have converted := Word.toInteger_ofInt fits
  simp only [deserializeFromAnotherSize, Width.ofBytes_bytes]
  split
  · rename_i equality
    subst equality
    exact (readPrimitive_reads ctx _ value).weaken fun _ same => by rw [same]
  · rw [← List.append_nil (formatOctets _ _ _)]
    refine (readOriginalValue_reads ctx original value).bind
      fun result same => ?_
    subst same
    split
    · rw [castToSmallerType_of_fits fits]
      exact .pure converted
    · exact .pure converted

theorem deserializeSizeT_reads (value : Nat)
    (bounded : value < 2 ^ ctx.data.platform.addressBits)
    (short : ctx.data.bitness32 → value < 2 ^ 32) :
    Reads ctx.data.platform (deserializeSizeT ctx)
      (sizeTOctets ctx.data value) (fun result => result = value) := by
  have stored : value <
      2 ^ (8 * (sizeT ctx.data.platform).size.bytes) := by
    simp only [Platform.addressBits, sizeT, ScalarType.size,
      Platform.sizeOfSizeT] at bounded ⊢
    split at bounded <;> simpa [*, Width.bytes] using bounded
  have wide : value < 2 ^ 64 := by
    simp only [Platform.addressBits] at bounded
    split at bounded <;> omega
  have sized (original : Width) (sent : value < 2 ^ (8 * original.bytes)) :
      Reads ctx.data.platform (do
          let result ← deserializeFromAnotherSize ctx original.bytes
            (sizeT ctx.data.platform)
          return result.toNat)
        (formatOctets ctx.data.bigEndianFormat original (BitVec.ofNat _ value))
        (fun result => result = value) := by
    have integer : Word.toInteger (sizeT ctx.data.platform).signed
        (BitVec.ofNat (8 * original.bytes) value) = value :=
      Word.toInteger_ofNat sent
    rw [← List.append_nil (formatOctets _ _ _)]
    refine (deserializeFromAnotherSize_reads ctx original _ _
      (by rw [integer]; exact fits_natCast.mpr stored)).bind fun result same => ?_
    rw [integer] at same
    exact .pure (Int.ofNat_inj.mp same)
  unfold deserializeSizeT sizeTOctets
  cases narrow : ctx.data.bitness32 with
  | false => exact sized .eight wide
  | true => exact sized .four (short narrow)

theorem deserializeFromAnotherSize_starves (original : Width) (type : ScalarType) :
    Starves ctx.data.platform
      (deserializeFromAnotherSize ctx original.bytes type) [] := by
  have other : Starves ctx.data.platform (readOriginalValue ctx original) [] := by
    intro before input inside bounded
    obtain ⟨fault, after, ran⟩ :=
      readPrimitive_starves ctx original before input inside bounded
    unfold readOriginalValue
    rw [ran]
    split <;> exact ⟨_, _, rfl⟩
  simp only [deserializeFromAnotherSize, Width.ofBytes_bytes]
  split
  · exact readPrimitive_starves ctx type.size
  · exact other.bind_first _

/-- No size is left in the input. -/
theorem deserializeSizeT_starves :
    Starves ctx.data.platform (deserializeSizeT ctx) [] := by
  have sized (original : Width) :=
    deserializeFromAnotherSize_starves ctx original (sizeT ctx.data.platform)
  unfold deserializeSizeT
  cases ctx.data.bitness32 with
  | false => exact (sized .eight).bind_first _
  | true => exact (sized .four).bind_first _

theorem readRawData_reads (type : Ty P) (plain : type.plain)
    (targets : List type.Obj) (octets : List UInt8)
    (sized : octets.length = type.sizeof * targets.length) :
    Reads ctx.data.platform (readRawData ctx type targets) octets
      (fun objects => objects.length = targets.length ∧
        objects.flatMap (type.image ctx.data.platform) = octets) := by
  intro before rest input inside bounded
  obtain ⟨result, after, ran, same, walker⟩ :=
    read_reads ctx octets before rest input inside bounded
  subst same
  have length := congrArg List.length input
  simp only [List.length_drop, List.length_append] at length
  have unwrapped :
      wrap ctx.data.platform (type.sizeof * targets.length) = result.length := by
    rw [← sized]
    exact Nat.mod_eq_of_lt (by omega)
  refine ⟨overwrite ctx.data.platform type result targets, after, ?_,
    ⟨length_overwrite _ type result targets,
      flatMap_overwrite plain _ result targets sized⟩, walker⟩
  simp only [readRawData, plain, if_true, unwrapped]
  rw [bind_of_ok ran]
  simp

/-- The bytes of the sender's objects make objects of the receiver. -/
theorem readRawData_reads_copied (type : Ty P) (plain : type.plain)
    (sender : Context.Data) (sent targets : List type.Obj)
    (lengths : targets.length = sent.length) :
    Reads ctx.data.platform (readRawData ctx type targets)
      (sent.flatMap (type.image sender.platform))
      (List.Forall₂ (Copied sender ctx.data type) sent) := by
  have sentSized := Ty.length_image sender.platform type plain
  have receivedSized := Ty.length_image ctx.data.platform type plain
  have sized :
      (sent.flatMap (type.image sender.platform)).length =
        type.sizeof * targets.length := by
    rw [length_flatMap (fun object _ => sentSized object), lengths]
  refine (readRawData_reads ctx type plain targets _ sized).weaken ?_
  intro received ⟨count, images⟩
  have pieces := forall₂_of_flatMap_eq sentSized receivedSized
    (by rw [count, lengths]) images.symm
  exact pieces.imp fun _ _ equality => equality.symm

theorem deserializeArrayCopy_reads {sender : Context.Data}
    (same : SameFormat sender ctx.data) (type : Ty P) (plain : type.plain)
    (room : Nat) (sent targets : List type.Obj)
    (lengths : targets.length = sent.length) :
    Reads ctx.data.platform (deserializeArrayCopy ctx room type targets)
      (arrayPrefix sender type ++
        sent.flatMap (type.image sender.platform))
      (List.Forall₂ (Copied sender ctx.data type) sent) := by
  have copied := readRawData_reads_copied ctx type plain sender sent targets
    lengths
  cases type with
  | scalar type =>
      simp only [deserializeArrayCopy, arrayPrefix, sizeOctets,
        same.writesSize, ← same.bigEndianFormat]
      split
      · refine (readPrimitive_reads ctx .one _).bind fun result equality => ?_
        rw [if_neg (by simp [equality])]
        exact copied
      · exact copied
  | pointer | array | container | struct => exact copied

theorem registerObject_reads (type : Ty P) (address : Nat) :
    Reads ctx.data.platform (registerObject ctx type address) []
      (fun _ => True) :=
  .modify _ fun _ => rfl

theorem deserializeElements_reads (type : Ty P)
    {each : type.Obj → Nat → DProc P type.Obj}
    {octets : type.Obj → List UInt8} {delivered : type.Obj → type.Obj → Prop}
    (sent : List type.Obj)
    (eachReads : ∀ object ∈ sent, ∀ target address,
      Reads ctx.data.platform (each target address) (octets object)
        (delivered object)) (address : Nat) :
    Reads ctx.data.platform
      (deserializeElements ctx type each sent.length address)
      (sent.flatMap octets) (List.Forall₂ delivered sent) := by
  induction sent generalizing address with
  | nil => exact .pure .nil
  | cons object rest induction =>
      have head := eachReads object (by simp) (ctx.construct type) address
      have tail := induction
        (fun other member => eachReads other (by simp [member]))
        (address + type.sizeof)
      simp only [deserializeElements, List.length_cons, List.flatMap_cons]
      rw [← List.nil_append (octets object ++ _)]
      refine (registerObject_reads ctx type address).bind fun _ _ => ?_
      refine head.bind fun received headDelivered => ?_
      rw [← List.append_nil (rest.flatMap octets)]
      refine tail.bind fun others tailDelivered => ?_
      exact .pure (.cons headDelivered tailDelivered)

theorem deserializeN_reads {sender : Context.Data}
    (same : SameFormat sender ctx.data) (type : Ty P)
    {each : type.Obj → Nat → DProc P type.Obj}
    {octets : type.Obj → List UInt8} {delivered : type.Obj → type.Obj → Prop}
    {sendable : type.Obj → Prop} (sent targets : List type.Obj)
    (lengths : targets.length = sent.length)
    (allowed : SendableN sender type sendable sent)
    (eachReads : ∀ object ∈ sent, sendable object → ∀ target address,
      Reads ctx.data.platform (each target address) (octets object)
        (delivered object)) {room : Nat} (enough : sent.length ≤ room)
    (address : Nat) :
    Reads ctx.data.platform (deserializeN ctx type each targets room address)
      (wireN sender type octets sent)
      (DeliveredN sender ctx.data type delivered sent) := by
  unfold deserializeN wireN DeliveredN
  unfold SendableN at allowed
  rw [same.copiesArray]
  split
  · exact .pure lengths
  · rename_i inhabited
    rw [if_neg inhabited] at allowed
    split
    · rename_i copies
      rw [if_pos copies] at allowed
      exact (deserializeArrayCopy_reads ctx same type allowed room sent targets
        lengths).weaken fun _ copied => ⟨allowed, copied⟩
    · rename_i loops
      rw [if_neg loops] at allowed
      rw [lengths]
      rw [withinRoom_of_le enough]
      exact deserializeElements_reads ctx type sent
        (fun object member =>
          eachReads object member (allowed object member)) address

theorem deserializeSimplyAssignable_eq (type : Ty P) (target : type.Obj)
    (tagged : type.anySimplyAssignable) :
    deserializeSimplyAssignable ctx type target =
      if copiesStruct ctx.data type then do
        let objects ← readRawData ctx type [target]
        return (.noFurtherProcessingRequired, objects.headD target)
      else if leavesToFields ctx.data type then
        return (.noError, target)
      else
        return (.errorNotSupportedSerializationSettingsForStruct, target) := by
  unfold deserializeSimplyAssignable copiesStruct leavesToFields
  rw [tagged]
  cases type.iSerializable.isSome <;>
    cases decide (ctx.data.interfaceVersion < type.getLatestInterfaceVersion) <;>
    cases type.endiannessTolerant <;>
    cases ctx.data.endiannessDifference <;> simp

theorem deserializeAnySimplyAssignable_eq (type : Ty P) (target : type.Obj) :
    deserializeAnySimplyAssignable ctx type target =
      if copiesStruct ctx.data type then do
        let objects ← readRawData ctx type [target]
        return some (objects.headD target)
      else
        return none := by
  unfold deserializeAnySimplyAssignable
  by_cases tagged : type.anySimplyAssignable
  · rw [deserializeSimplyAssignable_eq ctx type target tagged]
    cases copiesStruct ctx.data type
    · cases leavesToFields ctx.data type <;>
        simp [tagged, statusSuccess, Status.code]
    · simp [tagged]
  · have copies : copiesStruct ctx.data type = false := by
      simp [copiesStruct, tagged]
    simp [tagged, copies]

theorem readStruct_reads (sender : Context.Data) (type : Ty P)
    (plain : type.plain) (sent target : type.Obj) :
    Reads ctx.data.platform (do
        let objects ← readRawData ctx type [target]
        return objects.headD target)
      (type.image sender.platform sent)
      (fun received =>
        type.plain ∧ Copied sender ctx.data type sent received) := by
  have reads := readRawData_reads_copied ctx type plain sender [sent] [target]
    rfl
  simp only [List.flatMap_cons, List.flatMap_nil, List.append_nil] at reads
  rw [← List.append_nil (type.image _ _)]
  refine reads.bind fun objects copied => ?_
  cases copied with
  | cons head tail =>
      cases tail
      exact .pure ⟨plain, head⟩

theorem deserializeGeneric_reads {sender : Context.Data}
    (same : SameFormat sender ctx.data) (decl : StructDecl) (fields : Fields P)
    (generic : decl.function = .generic) (fieldByField : List UInt8)
    (sendable : Prop) (delivered : (Ty.struct decl fields).Obj → Prop)
    (allowed : SendableStruct sender decl fields sendable)
    (sent target : (Ty.struct decl fields).Obj) :
    Reads ctx.data.platform (deserializeGeneric ctx (.struct decl fields) target)
      (wireStruct sender decl fields sent fieldByField)
      (fun received =>
        DeliveredStruct sender ctx.data decl fields sent received
          (delivered received)) := by
  simp only [SendableStruct, generic] at allowed
  simp only [wireStruct, DeliveredStruct, generic]
  unfold deserializeGeneric
  by_cases copies : copiesStruct sender (.struct decl fields)
  · have tagged : (Ty.struct decl fields).anySimplyAssignable = true := by
      simp only [copiesStruct, Bool.and_eq_true] at copies
      exact copies.1.1
    rw [if_pos copies] at allowed ⊢
    rw [if_pos tagged, deserializeSimplyAssignable_eq ctx _ _ tagged,
      same.copiesStruct, if_pos copies]
    simp only [bind_assoc, pure_bind]
    exact (readStruct_reads ctx sender (.struct decl fields) allowed sent
      target).weaken fun _ copied _ => copied
  · rw [if_neg copies] at allowed ⊢
    split
    · rename_i tagged
      rw [if_pos tagged] at allowed
      rw [deserializeSimplyAssignable_eq ctx _ _ tagged, same.copiesStruct,
        same.leavesToFields, if_neg copies, if_pos allowed]
      exact .pure fun copied => absurd copied copies
    · rename_i untagged
      rw [if_neg untagged] at allowed
      rw [if_pos allowed]
      exact .pure fun copied => absurd copied copies

theorem deserializeStruct_reads {sender : Context.Data}
    (same : SameFormat sender ctx.data)
    (latest : ctx.data.interfaceVersionsNotMatch = false)
    (handlers : DHandlers P) (decl : StructDecl) (fields : Fields P)
    {sendable : Prop} {delivered : fields.Objs → Prop} {octets : List UInt8}
    {fieldByField : DProc P fields.Objs}
    (allowed : SendableStruct sender decl fields sendable)
    (fieldsRead : sendable →
      Reads ctx.data.platform fieldByField octets delivered)
    (sent target : (Ty.struct decl fields).Obj) (address : Nat) :
    Reads ctx.data.platform
      (deserializeStruct ctx handlers decl fields target address fieldByField)
      (wireStruct sender decl fields sent octets)
      (fun received =>
        DeliveredStruct sender ctx.data decl fields sent received
          (delivered received.1)) := by
  have fieldwise (allowed : sendable) :
      Reads ctx.data.platform
        (readFields decl fields target fieldByField)
        octets (fun received => delivered received.1) := by
    rw [← List.append_nil octets]
    exact (fieldsRead allowed).bind fun _ holds => .pure holds
  have copyOrFields (start : DProc P (Option (Ty.struct decl fields).Obj))
      (equal : start =
        deserializeAnySimplyAssignable ctx (.struct decl fields) target)
      (allowed :
        if copiesStruct sender (.struct decl fields) then fields.plain = true
        else sendable) :
      Reads ctx.data.platform
        (readFieldsUnless decl fields target start fieldByField)
        (if copiesStruct sender (.struct decl fields) then
          (Ty.struct decl fields).image sender.platform sent
        else octets)
        (fun received =>
          if copiesStruct sender (.struct decl fields) then
            fields.plain ∧
              Copied sender ctx.data (.struct decl fields) sent received
          else delivered received.1) := by
    unfold readFieldsUnless
    rw [equal, deserializeAnySimplyAssignable_eq, same.copiesStruct]
    split
    · rename_i copies
      rw [if_pos copies] at allowed
      simp only [bind_assoc, pure_bind]
      exact readStruct_reads ctx sender (.struct decl fields) allowed sent
        target
    · rename_i copies
      rw [if_neg copies] at allowed
      simpa only [pure_bind] using fieldwise allowed
  have common : deserializeCommon ctx handlers decl fields target address =
      deserializeAnySimplyAssignable ctx (.struct decl fields) target := by
    unfold deserializeCommon
    rw [latest]
    split
    · contradiction
    · rfl
  cases function : decl.function with
  | generic =>
      simp only [deserializeStruct, function]
      exact deserializeGeneric_reads ctx same decl fields function octets _
        (fun received => delivered received.1) allowed sent target
  | fieldByField start =>
      simp only [SendableStruct, function] at allowed
      cases start with
      | none =>
          simpa only [deserializeStruct, wireStruct, DeliveredStruct, function]
            using fieldwise allowed
      | anySimplyAssignable =>
          simpa only [deserializeStruct, wireStruct, DeliveredStruct, function]
            using copyOrFields _ rfl allowed
      | common =>
          simpa only [deserializeStruct, wireStruct, DeliveredStruct, function]
            using copyOrFields _ common allowed

theorem allocate_eq (grants : HeapGrants ctx) (size : Nat) (state : DState P) :
    ∃ address after, allocate ctx size state = .ok (some address) after ∧
      after.binaryData = state.binaryData := by
  obtain ⟨address, granted⟩ :=
    grants state.blocks (wrap ctx.data.platform size)
  let block := (address, wrap ctx.data.platform size)
  refine ⟨address, { state with blocks := block :: state.blocks }, ?_, rfl⟩
  simp only [allocate, bind, EStateM.bind, get_apply, granted]
  rfl

theorem reserve_reads (grants : HeapGrants ctx) (type : Ty P)
    (storage : Storage) (n : Nat)
    (fit : ElementsFit ctx.data.platform type n) :
    Reads ctx.data.platform (reserve ctx type storage n) []
      (fun reserved => n ≤ reserved.2) := by
  unfold reserve
  split
  · intro before rest _ _ _
    obtain ⟨address, after, ran, walker⟩ :=
      allocate_eq ctx grants (type.sizeof * n) before
    refine ⟨_, after, by rw [bind_of_ok ran]; rfl, ?_, walker⟩
    simp only [roomFor, if_pos fit.2, Nat.le_refl]
  · exact .pure (Nat.le_refl _)

theorem deserializeVectorT_reads {sender : Context.Data}
    (same : SameFormat sender ctx.data) (grants : HeapGrants ctx) (type : Ty P)
    {each : type.Obj → Nat → DProc P type.Obj}
    {octets : type.Obj → List UInt8} {delivered : type.Obj → type.Obj → Prop}
    {sendable : type.Obj → Prop} (sent : List type.Obj)
    (fit : ElementsFit ctx.data.platform type sent.length)
    (short : sender.bitness32 → sent.length < 2 ^ 32)
    (allowed : SendableN sender type sendable sent)
    (eachReads : ∀ object ∈ sent, sendable object → ∀ target address,
      Reads ctx.data.platform (each target address) (octets object)
        (delivered object)) (storage : Storage) :
    Reads ctx.data.platform
      (deserializeTemplate ctx .vectorT type each storage)
      (wireTemplate sender .vectorT type octets sent)
      (fun received =>
        DeliveredN sender ctx.data type delivered sent received.2) := by
  have sized : sizeTOctets sender sent.length =
      sizeTOctets ctx.data sent.length := by
    simp only [sizeTOctets, same.bitness32, same.bigEndianFormat]
  unfold deserializeTemplate wireTemplate
  rw [sized]
  refine (deserializeSizeT_reads ctx sent.length fit.1
    (by rwa [same.bitness32])).bind fun size equality => ?_
  subst equality
  simp only
  rw [← List.nil_append (wireN sender type octets sent)]
  refine (reserve_reads ctx grants type storage _ fit).bind
    fun reserved enough => ?_
  rw [← List.append_nil (wireN sender type octets sent)]
  refine (deserializeN_reads ctx same type sent _ (by simp) allowed eachReads
    enough _).bind fun received holds => ?_
  exact .pure holds

end Deserialize

mutual
/-- A sendable object arrives: the receiver consumes what the sender wrote for
it and holds the object `Delivered` describes. -/
theorem deserialize_reads (ctx : DContext Empty) {sender : Context.Data}
    (same : SameFormat sender ctx.data)
    (latest : ctx.data.interfaceVersionsNotMatch = false)
    (grants : HeapGrants ctx) (pointeeType : Empty → Ty Empty)
    (handlers : DHandlers Empty) :
    (type : Ty Empty) → Native type → (sent : type.Obj) →
      FitsMemory ctx.data.platform type sent → Sendable sender type sent →
        (target : type.Obj) → (address : Nat) →
          Reads ctx.data.platform
            (deserialize ctx pointeeType handlers type target address)
            (wire sender type sent)
            (Delivered sender ctx.data type sent)
  | .scalar type, _, sent, _, _, _, _ => by
      simp only [deserialize, wire, Delivered]
      have reads := deserializeArithmetic_reads ctx type sent
      simpa only [sizeOctets, same.writesSize, same.bigEndianFormat] using reads
  | .array element length, native, sent, fits, allowed, target, address => by
      simp only [FitsMemory] at fits
      simp only [Sendable] at allowed
      simp only [deserialize, wire, Delivered]
      have reads := deserializeN_reads ctx same element (List.ofFn sent)
        (List.ofFn target) (by simp) allowed
        (fun object member objectAllowed target address => by
          obtain ⟨index, rfl⟩ := List.mem_ofFn.mp member
          exact deserialize_reads ctx same latest grants pointeeType handlers
            element native _ (fits index) objectAllowed target address)
        (show (List.ofFn sent).length ≤ (List.ofFn target).length by simp)
        address
      rw [← List.append_nil (wireN sender _ _ _)]
      refine reads.bind fun received holds => .pure ?_
      have count := deliveredN_length holds
      rw [List.length_ofFn] at count
      rwa [ofFn_getD received target count]
  | .container kind _ element, native, sent, fits, allowed, target, _ => by
      obtain ⟨rfl, elementNative⟩ := native
      simp only [FitsMemory] at fits
      simp only [Sendable] at allowed
      simp only [deserialize, wire, Delivered]
      exact deserializeVectorT_reads ctx same grants element sent.2 fits.1
        allowed.1 allowed.2
        (fun object member objectAllowed target address =>
          deserialize_reads ctx same latest grants pointeeType handlers element
            elementNative object (fits.2 object member) objectAllowed target
            address)
        target.1
  | .struct decl fields, native, sent, fits, allowed, target, address => by
      simp only [FitsMemory] at fits
      simp only [Sendable] at allowed
      simp only [deserialize, wire, Delivered]
      exact deserializeStruct_reads ctx same latest handlers decl fields allowed
        (fun fieldsAllowed =>
          deserializeFields_reads ctx same latest grants pointeeType handlers
            fields native sent.1 fits fieldsAllowed target.1 address)
        sent target address

theorem deserializeFields_reads (ctx : DContext Empty) {sender : Context.Data}
    (same : SameFormat sender ctx.data)
    (latest : ctx.data.interfaceVersionsNotMatch = false)
    (grants : HeapGrants ctx) (pointeeType : Empty → Ty Empty)
    (handlers : DHandlers Empty) :
    (fields : Fields Empty) → FieldsNative fields → (sent : fields.Objs) →
      FieldsFitMemory ctx.data.platform fields sent →
        FieldsSendable sender fields sent →
          (targets : fields.Objs) → (address : Nat) →
            Reads ctx.data.platform
              (deserializeFields ctx pointeeType handlers fields targets address)
              (wireFields sender fields sent)
              (FieldsDelivered sender ctx.data fields sent)
  | .nil, _, _, _, _, _, _ => .pure trivial
  | .cons padding field rest, native, sent, fits, allowed, targets, address => by
      obtain ⟨fieldNative, restNative⟩ := native
      simp only [FieldsFitMemory] at fits
      simp only [FieldsSendable] at allowed
      have head := deserialize_reads ctx same latest grants pointeeType handlers
        field fieldNative sent.2.1 fits.1 allowed.1 targets.2.1
        (address + padding)
      have tail := deserializeFields_reads ctx same latest grants pointeeType
        handlers rest restNative sent.2.2 fits.2 allowed.2 targets.2.2
        (address + padding + field.sizeof)
      simp only [deserializeFields, wireFields, FieldsDelivered]
      refine head.bind fun object headDelivered => ?_
      rw [← List.append_nil (wireFields sender rest sent.2.2)]
      refine tail.bind fun objects tailDelivered => ?_
      exact .pure ⟨headDelivered, tailDelivered⟩
end

end CommonSerialization.Csp.BodyProcessor
