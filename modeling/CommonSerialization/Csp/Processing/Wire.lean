import CommonSerialization.Csp.Images
import CommonSerialization.Csp.Processing.Primitives

namespace CommonSerialization.Csp.BodyProcessor

open StateExcept

/-! The octets of a pointer-free body, as a function of the object. -/

section Decisions

variable (data : Context.Data)

/-- `serializeSimplyAssignable` returns before it looks at the tags. -/
def leavesToFields (type : Ty P) : Bool :=
  type.iSerializable.isSome &&
      decide (data.interfaceVersion < type.getLatestInterfaceVersion) ||
    !type.endiannessTolerant && data.endiannessDifference

def copiesStruct (type : Ty P) : Bool :=
  type.anySimplyAssignable && !leavesToFields data type &&
    (!data.simplyAssignableTagsOptimizationsAreTurnedOff &&
      tagsAllowCopy data type)

theorem anySimplyAssignable_of_tagsAllowCopy {type : Ty P}
    (allowed : tagsAllowCopy data type) : type.anySimplyAssignable := by
  simp only [tagsAllowCopy, Bool.or_eq_true, Bool.and_eq_true] at allowed
  simp only [Ty.anySimplyAssignable, Bool.or_eq_true]
  tauto

theorem copiesArray_struct (decl : StructDecl) (fields : Fields P) :
    copiesArray data (.struct decl fields) =
      copiesStruct data (.struct decl fields) := by
  have implied : tagsAllowCopy data (Ty.struct decl fields) →
      (Ty.struct decl fields).anySimplyAssignable :=
    anySimplyAssignable_of_tagsAllowCopy data
  have order : decide (data.interfaceVersion <
        (Ty.struct decl fields).getLatestInterfaceVersion) =
      !decide ((Ty.struct decl fields).getLatestInterfaceVersion ≤
        data.interfaceVersion) := by
    rw [← decide_not]
    exact decide_eq_decide.mpr Nat.not_le.symm
  unfold copiesArray copiesStruct leavesToFields
  rw [order]
  simp only [Ty.isArithmeticOrEnum]
  cases allowed : tagsAllowCopy data (Ty.struct decl fields)
  · simp
  · rw [implied allowed]
    cases (Ty.struct decl fields).iSerializable.isSome <;>
      cases (Ty.struct decl fields).endiannessTolerant <;>
      cases data.endiannessDifference <;>
      cases data.simplyAssignableTagsOptimizationsAreTurnedOff <;> simp

end Decisions

section Wire

variable (data : Context.Data)

def sizeOctets (type : ScalarType) : List UInt8 :=
  if writesSize data type then
    formatOctets data.bigEndianFormat .one (sizeOctet type.size)
  else []

def sizeTOctets (value : Nat) : List UInt8 :=
  if !data.bitness32 then
    formatOctets data.bigEndianFormat .eight (BitVec.ofNat _ value)
  else
    formatOctets data.bigEndianFormat .four (BitVec.ofNat _ value)

def arrayPrefix : Ty P → List UInt8
  | .scalar type => sizeOctets data type
  | _ => []

def wireN (type : Ty P) (each : type.Obj → List UInt8)
    (objects : List type.Obj) : List UInt8 :=
  if type.emptyType then []
  else if copiesArray data type then
    arrayPrefix data type ++ objects.flatMap (type.image data.platform)
  else
    objects.flatMap each

def wireStruct (decl : StructDecl) (fields : Fields P)
    (object : (Ty.struct decl fields).Obj) (fieldByField : List UInt8) :
    List UInt8 :=
  match decl.function with
  | .generic =>
      if copiesStruct data (.struct decl fields) then
        (Ty.struct decl fields).image data.platform object
      else []
  | .fieldByField .none => fieldByField
  | .fieldByField _ =>
      if copiesStruct data (.struct decl fields) then
        (Ty.struct decl fields).image data.platform object
      else fieldByField

def wireTemplate (kind : ContainerKind) (type : Ty P)
    (each : type.Obj → List UInt8) (objects : List type.Obj) : List UInt8 :=
  sizeTOctets data objects.length ++
    match kind with
    | .vectorT | .stdVector => wireN data type each objects
    | .stdBasicString => wireN data type each (objects ++ terminator type)
    | .stdMap => objects.flatMap each

mutual
def wire : (type : Ty P) → type.Obj → List UInt8
  | .scalar type, value =>
      sizeOctets data type ++
        formatOctets data.bigEndianFormat type.size value
  | .pointer _ _, _ => []
  | .array element _, value =>
      wireN data element (wire element) (List.ofFn value)
  | .container kind _ element, value =>
      wireTemplate data kind element (wire element) value.2
  | .struct decl fields, value =>
      wireStruct data decl fields value (wireFields fields value.1)

def wireFields : (fields : Fields P) → fields.Objs → List UInt8
  | .nil, _ => []
  | .cons _ field rest, values =>
      wire field values.2.1 ++ wireFields rest values.2.2
end

end Wire

/-- The elements of every container fit into the memory of a platform. -/
def ElementsFit (platform : Platform) (type : Ty P) (count : Nat) : Prop :=
  count < 2 ^ platform.addressBits ∧
    type.sizeof * count < 2 ^ platform.addressBits

mutual
def FitsMemory (platform : Platform) : (type : Ty P) → type.Obj → Prop
  | .scalar _, _ => True
  | .pointer _ _, _ => True
  | .array element _, value =>
      ∀ index, FitsMemory platform element (value index)
  | .container _ _ element, value =>
      ElementsFit platform element value.2.length ∧
        ∀ object ∈ value.2, FitsMemory platform element object
  | .struct _ fields, value => FieldsFitMemory platform fields value.1

def FieldsFitMemory (platform : Platform) : (fields : Fields P) →
    fields.Objs → Prop
  | .nil, _ => True
  | .cons _ field rest, values =>
      FitsMemory platform field values.2.1 ∧
        FieldsFitMemory platform rest values.2.2
end

section Sendable

variable (data : Context.Data)

def SendableN (type : Ty P) (each : type.Obj → Prop)
    (objects : List type.Obj) : Prop :=
  if type.emptyType then True
  else if copiesArray data type then type.plain = true
  else ∀ object ∈ objects, each object

def SendableTemplate (kind : ContainerKind) (type : Ty P)
    (each : type.Obj → Prop) (objects : List type.Obj) : Prop :=
  match kind with
  | .vectorT | .stdVector => SendableN data type each objects
  | .stdBasicString => SendableN data type each (objects ++ terminator type)
  | .stdMap => ∀ object ∈ objects, each object

/-- A struct without a function of its own that is not copied is skipped when
its tags are set aside or it is empty, and refused otherwise. -/
def SendableStruct (decl : StructDecl) (fields : Fields P)
    (fieldByField : Prop) : Prop :=
  match decl.function with
  | .generic =>
      if copiesStruct data (.struct decl fields) then fields.plain = true
      else if (Ty.struct decl fields).anySimplyAssignable then
        leavesToFields data (.struct decl fields) = true
      else (Ty.struct decl fields).emptyType = true
  | .fieldByField .none => fieldByField
  | .fieldByField _ =>
      if copiesStruct data (.struct decl fields) then fields.plain = true
      else fieldByField

mutual
def Sendable : (type : Ty P) → type.Obj → Prop
  | .scalar _, _ => True
  | .pointer _ _, _ => False
  | .array element _, value =>
      SendableN data element (Sendable element) (List.ofFn value)
  | .container kind _ element, value =>
      (data.bitness32 → value.2.length < 2 ^ 32) ∧
        SendableTemplate data kind element (Sendable element) value.2
  | .struct decl fields, value =>
      SendableStruct data decl fields (FieldsSendable fields value.1)

def FieldsSendable : (fields : Fields P) → fields.Objs → Prop
  | .nil, _ => True
  | .cons _ field rest, values =>
      Sendable field values.2.1 ∧ FieldsSendable rest values.2.2
end

end Sendable

section Serialize

variable (ctx : SContext)

theorem writeSize_appends (type : ScalarType) {next : SProc Unit}
    (nextAppends : Appends next octets post) :
    Appends (do
      if writesSize ctx.data type then
        writePrimitive ctx .one (sizeOctet type.size)
      next) (sizeOctets ctx.data type ++ octets) post := by
  unfold sizeOctets
  split
  · exact (writePrimitive_appends ctx _ _).bind fun _ _ => nextAppends
  · exact nextAppends

theorem serializeArithmetic_appends (type : ScalarType)
    (value : Word type.size) :
    Appends (serializeArithmetic ctx type value)
      (sizeOctets ctx.data type ++
        formatOctets ctx.data.bigEndianFormat type.size value)
      (fun _ => True) :=
  writeSize_appends ctx type (writePrimitive_appends ctx _ _)

theorem serializeToAnotherSize_appends (target size : Width) (value : Nat)
    (bounded : value < 2 ^ (8 * size.bytes)) :
    Appends (serializeToAnotherSize ctx target false size (BitVec.ofNat _ value))
      (formatOctets ctx.data.bigEndianFormat target (BitVec.ofNat _ value))
      (fun _ => value < 2 ^ (8 * target.bytes)) := by
  have integer := Word.toInteger_ofNat bounded
  unfold serializeToAnotherSize
  split
  · rename_i equality
    subst equality
    exact (writePrimitive_appends ctx _ _).weaken fun _ _ => bounded
  · split
    · rename_i bigger
      have wide : (2 : Nat) ^ (8 * size.bytes) ≤ 2 ^ (8 * target.bytes) :=
        Nat.pow_le_pow_right (by decide) (by omega)
      simp only [castToBiggerType, integer, BitVec.ofInt_natCast]
      exact (writePrimitive_appends ctx _ _).weaken fun _ _ => by omega
    · by_cases fits : FixedWidthInteger.Fits target false (value : Int)
      · rw [castToSmallerType_of_fits (by rwa [integer])]
        simp only [integer, BitVec.ofInt_natCast]
        exact (writePrimitive_appends ctx _ _).weaken fun _ _ =>
          fits_natCast.mp fits
      · rw [castToSmallerType_of_not_fits (by rwa [integer])]
        exact .fail _

theorem serializeSizeT_appends (value : Nat)
    (bounded : value < 2 ^ ctx.data.platform.addressBits) :
    Appends (serializeSizeT ctx value) (sizeTOctets ctx.data value)
      (fun _ => ctx.data.bitness32 → value < 2 ^ 32) := by
  have stored : value < 2 ^ (8 * ctx.data.platform.sizeOfSizeT.bytes) := by
    simp only [Platform.addressBits, Platform.sizeOfSizeT] at bounded ⊢
    split at bounded <;> simpa [*, Width.bytes] using bounded
  unfold serializeSizeT sizeTOctets
  cases short : ctx.data.bitness32
  · exact (serializeToAnotherSize_appends ctx _ _ _ stored).weaken (by simp)
  · exact (serializeToAnotherSize_appends ctx _ _ _ stored).weaken
      fun _ fits _ => fits
theorem serializeArrayCopy_appends (type : Ty P) (objects : List type.Obj) :
    Appends (serializeArrayCopy ctx type objects)
      (arrayPrefix ctx.data type ++
        objects.flatMap (type.image ctx.data.platform))
      (fun _ => type.plain) := by
  cases type with
  | scalar type =>
      exact writeSize_appends ctx type (writeRawData_appends ctx _ _)
  | pointer | array | container | struct => exact writeRawData_appends ctx _ _

theorem serializeElements_appends (size : Nat) {each : α → Nat → SProc Unit}
    {octets : α → List UInt8} {sendable : α → Prop} (objects : List α)
    (eachAppends : ∀ object ∈ objects, ∀ address,
      Appends (each object address) (octets object)
        (fun _ => sendable object)) (address : Nat) :
    Appends (serializeElements ctx size each objects address)
      (objects.flatMap octets)
      (fun _ => ∀ object ∈ objects, sendable object) := by
  induction objects generalizing address with
  | nil => exact .pure (by simp)
  | cons object rest induction =>
      have head := eachAppends object (by simp) address
      have tail := induction
        (fun other member => eachAppends other (by simp [member]))
        (address + size)
      have both : Appends (each object address >>= fun _ =>
            serializeElements ctx size each rest (address + size))
          (octets object ++ rest.flatMap octets)
          (fun _ => ∀ other ∈ object :: rest, sendable other) :=
        head.bind fun _ headSendable =>
          tail.weaken fun _ tailSendable => by
            simpa using ⟨headSendable, tailSendable⟩
      simp only [serializeElements, List.flatMap_cons]
      split
      · rw [← List.nil_append (octets object ++ _)]
        have registered := Appends.modify (fun state : SState =>
          { state with
            pointersMap :=
              Function.update state.pointersMap address
                state.binaryData.length }) fun _ => rfl
        exact registered.bind fun _ _ => both
      · exact both

theorem serializeEach_appends (size : Nat) {each : α → Nat → SProc Unit}
    {octets : α → List UInt8} {sendable : α → Prop} (objects : List α)
    (eachAppends : ∀ object ∈ objects, ∀ address,
      Appends (each object address) (octets object)
        (fun _ => sendable object)) (address : Nat) :
    Appends (serializeEach size each objects address)
      (objects.flatMap octets)
      (fun _ => ∀ object ∈ objects, sendable object) := by
  induction objects generalizing address with
  | nil => exact .pure (by simp)
  | cons object rest induction =>
      have head := eachAppends object (by simp) address
      have tail := induction
        (fun other member => eachAppends other (by simp [member]))
        (address + size)
      simp only [serializeEach, List.flatMap_cons]
      refine head.bind fun _ headSendable => tail.weaken ?_
      intro _ tailSendable
      simpa using ⟨headSendable, tailSendable⟩

theorem serializeN_appends (type : Ty P)
    {each : type.Obj → Nat → SProc Unit} {octets : type.Obj → List UInt8}
    {sendable : type.Obj → Prop} (objects : List type.Obj)
    (eachAppends : ∀ object ∈ objects, ∀ address,
      Appends (each object address) (octets object)
        (fun _ => sendable object)) (address : Nat) :
    Appends (serializeN ctx type each objects address)
      (wireN ctx.data type octets objects)
      (fun _ => SendableN ctx.data type sendable objects) := by
  unfold serializeN wireN SendableN
  split
  · exact .pure trivial
  · split
    · exact serializeArrayCopy_appends ctx type objects
    · exact serializeElements_appends ctx _ objects eachAppends address

theorem serializeSimplyAssignable_eq (type : Ty P) (object : type.Obj) :
    serializeSimplyAssignable ctx type object =
      if copiesStruct ctx.data type then do
        writeRawData ctx type [object]
        return .noFurtherProcessingRequired
      else if !type.anySimplyAssignable || leavesToFields ctx.data type then
        return .noError
      else
        return .errorNotSupportedSerializationSettingsForStruct := by
  unfold serializeSimplyAssignable copiesStruct leavesToFields
  cases type.anySimplyAssignable <;>
    cases type.iSerializable.isSome <;>
    cases decide (ctx.data.interfaceVersion < type.getLatestInterfaceVersion) <;>
    cases type.endiannessTolerant <;>
    cases ctx.data.endiannessDifference <;> simp

theorem serializeAnySimplyAssignable_eq (type : Ty P) (object : type.Obj) :
    serializeAnySimplyAssignable ctx type object =
      if copiesStruct ctx.data type then do
        writeRawData ctx type [object]
        return true
      else
        return false := by
  unfold serializeAnySimplyAssignable
  rw [serializeSimplyAssignable_eq]
  cases copies : copiesStruct ctx.data type
  · cases type.anySimplyAssignable <;>
      cases leavesToFields ctx.data type <;> simp [statusSuccess, Status.code]
  · have tagged : type.anySimplyAssignable = true := by
      simp only [copiesStruct, Bool.and_eq_true] at copies
      exact copies.1.1
    simp [tagged]

theorem writeStruct_appends (type : Ty P) (object : type.Obj) {value : α}
    {post : α → Prop} (holds : type.plain → post value) :
    Appends (do writeRawData ctx type [object]; return value)
      (type.image ctx.data.platform object) post := by
  have written := writeRawData_appends ctx type [object]
  simp only [List.flatMap_cons, List.flatMap_nil, List.append_nil] at written
  rw [← List.append_nil (type.image _ _)]
  exact written.bind fun _ plain => .pure (holds plain)

theorem serializeGeneric_appends (decl : StructDecl) (fields : Fields P)
    (object : (Ty.struct decl fields).Obj) (fieldByField : List UInt8)
    (fieldsSendable : Prop) (generic : decl.function = .generic) :
    Appends (serializeGeneric ctx (.struct decl fields) object)
      (wireStruct ctx.data decl fields object fieldByField)
      (fun _ => SendableStruct ctx.data decl fields fieldsSendable) := by
  unfold serializeGeneric wireStruct SendableStruct
  simp only [generic]
  split
  · rename_i tagged
    rw [serializeSimplyAssignable_eq]
    by_cases copies : copiesStruct ctx.data (.struct decl fields)
    · simp only [copies, if_true, bind_assoc, pure_bind]
      exact writeStruct_appends ctx _ object fun plain => plain
    · by_cases leaves : leavesToFields ctx.data (.struct decl fields)
      · simp only [copies, tagged, leaves]
        exact .pure trivial
      · simp only [copies, tagged, leaves]
        exact .fail _
  · rename_i untagged
    have copies : copiesStruct ctx.data (.struct decl fields) = false := by
      simp [copiesStruct, untagged]
    simp only [copies]
    split
    · rename_i empty
      exact .pure empty
    · exact .throw _

theorem serializeStruct_appends (handlers : SHandlers P)
    (latest : ctx.data.interfaceVersionsNotMatch = false) (decl : StructDecl)
    (fields : Fields P) (object : (Ty.struct decl fields).Obj)
    {fieldByField : SProc Unit} {octets : List UInt8} {sendable : Prop}
    (fieldsAppend : Appends fieldByField octets (fun _ => sendable)) :
    Appends (serializeStruct ctx handlers decl fields object fieldByField)
      (wireStruct ctx.data decl fields object octets)
      (fun _ => SendableStruct ctx.data decl fields sendable) := by
  have copyOrFields (start : SProc Bool)
      (same : start =
        serializeAnySimplyAssignable ctx (.struct decl fields) object) :
      Appends (writeFieldsUnless start fieldByField)
        (if copiesStruct ctx.data (.struct decl fields) then
          (Ty.struct decl fields).image ctx.data.platform object
        else octets)
        (fun _ =>
          if copiesStruct ctx.data (.struct decl fields) then
            fields.plain = true
          else sendable) := by
    rw [same, serializeAnySimplyAssignable_eq]
    unfold writeFieldsUnless
    split
    · simp only [bind_assoc, pure_bind]
      exact writeStruct_appends ctx _ object fun plain => plain
    · simpa using fieldsAppend
  have common : serializeCommon ctx handlers decl fields object =
      serializeAnySimplyAssignable ctx (.struct decl fields) object := by
    unfold serializeCommon
    rw [latest]
    split
    · contradiction
    · rfl
  cases function : decl.function with
  | generic =>
      simp only [serializeStruct, function]
      exact serializeGeneric_appends ctx decl fields object octets sendable
        function
  | fieldByField start =>
      cases start with
      | none =>
          simpa only [serializeStruct, wireStruct, SendableStruct, function]
            using fieldsAppend
      | anySimplyAssignable =>
          simpa only [serializeStruct, wireStruct, SendableStruct, function]
            using copyOrFields _ rfl
      | common =>
          simpa only [serializeStruct, wireStruct, SendableStruct, function]
            using copyOrFields _ common

theorem fitsMemory_of_mem_terminator {platform : Platform} {type : Ty P}
    {object : type.Obj} (member : object ∈ terminator type) :
    FitsMemory platform type object := by
  cases type with
  | scalar type => trivial
  | pointer | array | container | struct =>
      simp only [terminator, List.not_mem_nil] at member

theorem serializeTemplate_appends (kind : ContainerKind) (type : Ty P)
    {each : type.Obj → Nat → SProc Unit} {octets : type.Obj → List UInt8}
    {sendable : type.Obj → Prop} (value : Storage × List type.Obj)
    (bounded : value.2.length < 2 ^ ctx.data.platform.addressBits)
    (eachAppends : ∀ object, object ∈ value.2 ∨ object ∈ terminator type →
      ∀ address,
        Appends (each object address) (octets object)
          (fun _ => sendable object)) :
    Appends (serializeTemplate ctx kind type each value)
      (wireTemplate ctx.data kind type octets value.2)
      (fun _ => (ctx.data.bitness32 → value.2.length < 2 ^ 32) ∧
        SendableTemplate ctx.data kind type sendable value.2) := by
  refine (serializeSizeT_appends ctx _ bounded).bind fun _ sized => ?_
  have elements := fun object member => eachAppends object (.inl member)
  cases kind with
  | vectorT | stdVector =>
      exact (serializeN_appends ctx type value.2 elements _).weaken
        fun _ sendable => ⟨sized, sendable⟩
  | stdBasicString =>
      have characters := serializeN_appends ctx type
        (value.2 ++ terminator type)
        (fun object member => eachAppends object (List.mem_append.mp member))
        value.1.data
      exact characters.weaken fun _ sendable => ⟨sized, sendable⟩
  | stdMap =>
      exact (serializeEach_appends _ value.2 elements _).weaken
        fun _ sendable => ⟨sized, sendable⟩

mutual
/-- A serialization appends the octets of the wire format, and only to
sendable objects. -/
theorem serialize_appends (handlers : SHandlers Empty)
    (latest : ctx.data.interfaceVersionsNotMatch = false) :
    (type : Ty Empty) → (object : type.Obj) →
      FitsMemory ctx.data.platform type object → (address : Nat) →
        Appends (serialize ctx handlers type object address)
          (wire ctx.data type object) (fun _ => Sendable ctx.data type object)
  | .scalar type, object, _, _ => by
      simp only [serialize, wire, Sendable]
      exact serializeArithmetic_appends ctx type object
  | .array element length, object, fits, address => by
      simp only [FitsMemory] at fits
      simp only [serialize, wire, Sendable]
      apply serializeN_appends
      intro part member
      obtain ⟨index, rfl⟩ := List.mem_ofFn.mp member
      exact serialize_appends handlers latest element _ (fits index)
  | .container kind size element, object, fits, address => by
      simp only [FitsMemory] at fits
      simp only [serialize, wire, Sendable]
      apply serializeTemplate_appends ctx kind element object fits.1.1
      intro part partFits
      apply serialize_appends handlers latest element
      rcases partFits with member | ended
      · exact fits.2 part member
      · exact fitsMemory_of_mem_terminator ended
  | .struct decl fields, object, fits, address => by
      simp only [FitsMemory] at fits
      simp only [serialize, wire, Sendable]
      exact serializeStruct_appends ctx handlers latest decl fields object
        (serializeFields_appends handlers latest fields object.1 fits address)

theorem serializeFields_appends (handlers : SHandlers Empty)
    (latest : ctx.data.interfaceVersionsNotMatch = false) :
    (fields : Fields Empty) → (objects : fields.Objs) →
      FieldsFitMemory ctx.data.platform fields objects → (address : Nat) →
        Appends (serializeFields ctx handlers fields objects address)
          (wireFields ctx.data fields objects)
          (fun _ => FieldsSendable ctx.data fields objects)
  | .nil, _, _, _ => .pure trivial
  | .cons padding field rest, objects, fits, address => by
      simp only [FieldsFitMemory] at fits
      have head := serialize_appends handlers latest field objects.2.1 fits.1
        (address + padding)
      have tail := serializeFields_appends handlers latest rest objects.2.2
        fits.2 (address + padding + field.sizeof)
      simp only [serializeFields, wireFields, FieldsSendable]
      exact head.bind fun _ headSendable =>
        tail.weaken fun _ tailSendable => ⟨headSendable, tailSendable⟩
end

end Serialize

end CommonSerialization.Csp.BodyProcessor
