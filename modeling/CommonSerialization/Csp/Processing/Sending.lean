import CommonSerialization.Csp.Processing.Wire

namespace CommonSerialization.Csp.BodyProcessor

open StateExcept

/-! Sendable objects are written, given room for their octets. -/

section Serialize

variable {ctx : SContext} (unbounded : Unbounded ctx)

include unbounded

theorem writeRawData_writes (type : Ty P) (plain : type.plain)
    (objects : List type.Obj) :
    Writes ctx.data.platform (writeRawData ctx type objects)
      (objects.flatMap (type.image ctx.data.platform)) (fun _ => True) := by
  rw [writeRawData, if_pos plain]
  exact pushBackN_writes ctx unbounded _

theorem writeSize_writes (type : ScalarType) {next : SProc Unit}
    (nextWrites : Writes ctx.data.platform next octets post) :
    Writes ctx.data.platform (do
      if writesSize ctx.data type then
        writePrimitive ctx .one (sizeOctet type.size)
      next) (sizeOctets ctx.data type ++ octets) post := by
  unfold sizeOctets
  split
  · exact (writePrimitive_writes ctx unbounded _ _).bind fun _ _ => nextWrites
  · exact nextWrites

theorem serializeArithmetic_writes (type : ScalarType) (value : Word type.size) :
    Writes ctx.data.platform (serializeArithmetic ctx type value)
      (sizeOctets ctx.data type ++
        formatOctets ctx.data.bigEndianFormat type.size value)
      (fun _ => True) :=
  writeSize_writes unbounded type (writePrimitive_writes ctx unbounded _ _)

theorem serializeToAnotherSize_writes (target size : Width) (value : Nat)
    (bounded : value < 2 ^ (8 * size.bytes))
    (fits : value < 2 ^ (8 * target.bytes)) :
    Writes ctx.data.platform
      (serializeToAnotherSize ctx target false size (BitVec.ofNat _ value))
      (formatOctets ctx.data.bigEndianFormat target (BitVec.ofNat _ value))
      (fun _ => True) := by
  have integer := Word.toInteger_ofNat bounded
  unfold serializeToAnotherSize
  split
  · rename_i equality
    subst equality
    exact writePrimitive_writes ctx unbounded _ _
  · split
    · simp only [castToBiggerType, integer, BitVec.ofInt_natCast]
      exact writePrimitive_writes ctx unbounded _ _
    · rw [castToSmallerType_of_fits (by rw [integer]; exact fits_natCast.mpr fits)]
      simp only [integer, BitVec.ofInt_natCast]
      exact writePrimitive_writes ctx unbounded _ _

theorem serializeSizeT_writes (value : Nat)
    (bounded : value < 2 ^ ctx.data.platform.addressBits)
    (short : ctx.data.bitness32 → value < 2 ^ 32) :
    Writes ctx.data.platform (serializeSizeT ctx value)
      (sizeTOctets ctx.data value) (fun _ => True) := by
  have stored : value < 2 ^ (8 * ctx.data.platform.sizeOfSizeT.bytes) := by
    simp only [Platform.addressBits, Platform.sizeOfSizeT] at bounded ⊢
    split at bounded <;> simpa [*, Width.bytes] using bounded
  have long : value < 2 ^ (8 * Width.eight.bytes) :=
    lt_of_lt_of_le bounded (Nat.pow_le_pow_right (by decide) (by
      simp only [Platform.addressBits, Width.bytes]
      split <;> decide))
  unfold serializeSizeT sizeTOctets
  cases bits : ctx.data.bitness32
  · exact serializeToAnotherSize_writes unbounded _ _ _ stored long
  · exact serializeToAnotherSize_writes unbounded _ _ _ stored (short bits)

omit unbounded in
/-- A size of four octets does not hold more. -/
theorem serializeSizeT_breaks (value : Nat)
    (bounded : value < 2 ^ ctx.data.platform.addressBits)
    (short : ctx.data.bitness32) (exceeds : 2 ^ 32 ≤ value) :
    Breaks ctx.data.platform (serializeSizeT ctx value) [] := by
  have wide : ctx.data.platform.sizeOfSizeT = .eight := by
    unfold Platform.addressBits at bounded
    unfold Platform.sizeOfSizeT
    split at bounded
    · omega
    · rename_i long
      rw [if_neg long]
  have stored : value < 2 ^ (8 * Width.eight.bytes) := by
    rw [Platform.addressBits] at bounded
    split at bounded
    · omega
    · exact bounded
  have integer := Word.toInteger_ofNat stored
  have refused : castToSmallerType false (BitVec.ofNat (8 * Width.eight.bytes) value)
      .four = .error .errorValueOverflow := by
    refine castToSmallerType_of_not_fits ?_
    rw [integer, fits_natCast]
    exact Nat.not_lt.mpr exceeds
  unfold serializeSizeT
  rw [short, wide]
  have four : (if !true then Width.eight else Width.four) = .four := rfl
  unfold serializeToAnotherSize
  rw [four, if_neg (by decide), if_neg (by decide), refused]
  exact .fail _

theorem serializeArrayCopy_writes (type : Ty P) (plain : type.plain)
    (objects : List type.Obj) :
    Writes ctx.data.platform (serializeArrayCopy ctx type objects)
      (arrayPrefix ctx.data type ++
        objects.flatMap (type.image ctx.data.platform)) (fun _ => True) := by
  cases type with
  | scalar type =>
      exact writeSize_writes unbounded type
        (writeRawData_writes unbounded _ plain objects)
  | pointer | array | container | struct =>
      exact writeRawData_writes unbounded _ plain objects

omit unbounded in
theorem serializeElements_writes (size : Nat) {each : α → Nat → SProc Unit}
    {octets : α → List UInt8} (objects : List α)
    (eachWrites : ∀ object ∈ objects, ∀ address,
      Writes ctx.data.platform (each object address) (octets object)
        (fun _ => True)) (address : Nat) :
    Writes ctx.data.platform (serializeElements ctx size each objects address)
      (objects.flatMap octets) (fun _ => True) := by
  induction objects generalizing address with
  | nil => exact .pure trivial
  | cons object rest induction =>
      have both : Writes ctx.data.platform (each object address >>= fun _ =>
            serializeElements ctx size each rest (address + size))
          (octets object ++ rest.flatMap octets) (fun _ => True) :=
        (eachWrites object (by simp) address).bind fun _ _ =>
          induction (fun other member => eachWrites other (by simp [member]))
            (address + size)
      simp only [serializeElements, List.flatMap_cons]
      split
      · intro before room
        exact both _ room
      · exact both

omit unbounded in
theorem serializeEach_writes (size : Nat) {each : α → Nat → SProc Unit}
    {octets : α → List UInt8} (objects : List α)
    (eachWrites : ∀ object ∈ objects, ∀ address,
      Writes ctx.data.platform (each object address) (octets object)
        (fun _ => True)) (address : Nat) :
    Writes ctx.data.platform (serializeEach size each objects address)
      (objects.flatMap octets) (fun _ => True) := by
  induction objects generalizing address with
  | nil => exact .pure trivial
  | cons object rest induction =>
      simp only [serializeEach, List.flatMap_cons]
      exact (eachWrites object (by simp) address).bind fun _ _ =>
        induction (fun other member => eachWrites other (by simp [member]))
          (address + size)

theorem serializeN_writes (type : Ty P) {each : type.Obj → Nat → SProc Unit}
    {octets : type.Obj → List UInt8} {sendable : type.Obj → Prop}
    (objects : List type.Obj) (allowed : SendableN ctx.data type sendable objects)
    (eachWrites : ∀ object ∈ objects, sendable object → ∀ address,
      Writes ctx.data.platform (each object address) (octets object)
        (fun _ => True)) (address : Nat) :
    Writes ctx.data.platform (serializeN ctx type each objects address)
      (wireN ctx.data type octets objects) (fun _ => True) := by
  unfold SendableN at allowed
  unfold serializeN wireN
  split
  · exact .pure trivial
  · rename_i filled
    rw [if_neg filled] at allowed
    split
    · rename_i copies
      rw [if_pos copies] at allowed
      exact serializeArrayCopy_writes unbounded type allowed objects
    · rename_i separate
      rw [if_neg separate] at allowed
      exact serializeElements_writes _ objects
        (fun object member => eachWrites object member (allowed object member)) address

theorem writeStruct_writes (type : Ty P) (plain : type.plain) (object : type.Obj)
    (value : α) :
    Writes ctx.data.platform (do writeRawData ctx type [object]; return value)
      (type.image ctx.data.platform object) (fun result => result = value) := by
  have written := writeRawData_writes unbounded type plain [object]
  simp only [List.flatMap_cons, List.flatMap_nil, List.append_nil] at written
  rw [← List.append_nil (type.image _ _)]
  exact written.bind fun _ _ => .pure rfl

theorem serializeGeneric_writes (decl : StructDecl) (fields : Fields P)
    (object : (Ty.struct decl fields).Obj) (fieldByField : List UInt8)
    {fieldsSendable : Prop} (generic : decl.function = .generic)
    (allowed : SendableStruct ctx.data decl fields fieldsSendable) :
    Writes ctx.data.platform (serializeGeneric ctx (.struct decl fields) object)
      (wireStruct ctx.data decl fields object fieldByField) (fun _ => True) := by
  unfold SendableStruct at allowed
  unfold serializeGeneric wireStruct
  simp only [generic] at allowed ⊢
  by_cases copies : copiesStruct ctx.data (.struct decl fields)
  · have tagged : (Ty.struct decl fields).anySimplyAssignable = true := by
      simp only [copiesStruct, Bool.and_eq_true] at copies
      exact copies.1.1
    rw [if_pos copies] at allowed
    rw [if_pos tagged, if_pos copies, serializeSimplyAssignable_eq, if_pos copies]
    simp only [bind_assoc, pure_bind]
    exact (writeStruct_writes unbounded (.struct decl fields) allowed object ()).weaken
      fun _ _ => trivial
  · rw [if_neg copies] at allowed ⊢
    by_cases tagged : (Ty.struct decl fields).anySimplyAssignable
    · rw [if_pos tagged] at allowed ⊢
      rw [serializeSimplyAssignable_eq, if_neg copies, if_pos (by simp [allowed])]
      exact .pure trivial
    · rw [if_neg tagged] at allowed ⊢
      rw [if_pos allowed]
      exact .pure trivial

theorem writeFieldsUnless_writes (decl : StructDecl) (fields : Fields P)
    (object : (Ty.struct decl fields).Obj) {fieldByField : SProc Unit}
    {octets : List UInt8} {sendable : Prop}
    (allowed : if copiesStruct ctx.data (.struct decl fields) then
      fields.plain = true else sendable)
    (fieldsWrite : sendable →
      Writes ctx.data.platform fieldByField octets (fun _ => True)) :
    Writes ctx.data.platform
      (writeFieldsUnless
        (serializeAnySimplyAssignable ctx (.struct decl fields) object) fieldByField)
      (if copiesStruct ctx.data (.struct decl fields) then
        (Ty.struct decl fields).image ctx.data.platform object
      else octets) (fun _ => True) := by
  rw [serializeAnySimplyAssignable_eq]
  unfold writeFieldsUnless
  split
  · rename_i copies
    rw [if_pos copies] at allowed
    simp only [bind_assoc, pure_bind]
    exact (writeStruct_writes unbounded (.struct decl fields) allowed object ()).weaken
      fun _ _ => trivial
  · rename_i separate
    rw [if_neg separate] at allowed
    simpa using fieldsWrite allowed

theorem serializeStruct_writes (handlers : SHandlers P)
    (latest : ctx.data.interfaceVersionsNotMatch = false) (decl : StructDecl)
    (fields : Fields P) (object : (Ty.struct decl fields).Obj)
    {fieldByField : SProc Unit} {octets : List UInt8} {sendable : Prop}
    (allowed : SendableStruct ctx.data decl fields sendable)
    (fieldsWrite : sendable →
      Writes ctx.data.platform fieldByField octets (fun _ => True)) :
    Writes ctx.data.platform
      (serializeStruct ctx handlers decl fields object fieldByField)
      (wireStruct ctx.data decl fields object octets) (fun _ => True) := by
  have common : serializeCommon ctx handlers decl fields object =
      serializeAnySimplyAssignable ctx (.struct decl fields) object := by
    unfold serializeCommon
    rw [latest]
    split
    · contradiction
    · rfl
  cases function : decl.function with
  | generic =>
      simp only [serializeStruct, function]
      exact serializeGeneric_writes unbounded decl fields object octets function allowed
  | fieldByField start =>
      simp only [SendableStruct, function] at allowed
      cases start with
      | none =>
          simpa only [serializeStruct, wireStruct, function] using fieldsWrite allowed
      | anySimplyAssignable =>
          simpa only [serializeStruct, wireStruct, function] using
            writeFieldsUnless_writes unbounded decl fields object allowed fieldsWrite
      | common =>
          simpa only [serializeStruct, wireStruct, function, common] using
            writeFieldsUnless_writes unbounded decl fields object allowed fieldsWrite

theorem serializeTemplate_writes (kind : ContainerKind) (type : Ty P)
    {each : type.Obj → Nat → SProc Unit} {octets : type.Obj → List UInt8}
    {sendable : type.Obj → Prop} (value : Storage × List type.Obj)
    (bounded : value.2.length < 2 ^ ctx.data.platform.addressBits)
    (short : ctx.data.bitness32 → value.2.length < 2 ^ 32)
    (allowed : SendableTemplate ctx.data kind type sendable value.2)
    (eachWrites : ∀ object, object ∈ value.2 ∨ object ∈ terminator type →
      sendable object → ∀ address,
        Writes ctx.data.platform (each object address) (octets object)
          (fun _ => True)) :
    Writes ctx.data.platform (serializeTemplate ctx kind type each value)
      (wireTemplate ctx.data kind type octets value.2) (fun _ => True) := by
  refine (serializeSizeT_writes unbounded _ bounded short).bind fun _ _ => ?_
  cases kind with
  | vectorT | stdVector =>
      exact serializeN_writes unbounded type value.2 allowed
        (fun object member => eachWrites object (.inl member)) _
  | stdBasicString =>
      exact serializeN_writes unbounded type (value.2 ++ terminator type) allowed
        (fun object member => eachWrites object (List.mem_append.mp member)) _
  | stdMap =>
      exact serializeEach_writes _ value.2
        (fun object member => eachWrites object (.inl member) (allowed object member)) _

end Serialize

mutual
/-- A serialization writes the octets of the wire format for a sendable
object. -/
theorem serialize_writes {ctx : SContext} (unbounded : Unbounded ctx)
    (handlers : SHandlers Empty)
    (latest : ctx.data.interfaceVersionsNotMatch = false) :
    (type : Ty Empty) → (object : type.Obj) →
      FitsMemory ctx.data.platform type object → Sendable ctx.data type object →
        (address : Nat) →
          Writes ctx.data.platform (serialize ctx handlers type object address)
            (wire ctx.data type object) (fun _ => True)
  | .scalar type, object, _, _, _ => by
      simp only [serialize, wire]
      exact serializeArithmetic_writes unbounded type object
  | .array element length, object, fits, allowed, address => by
      simp only [FitsMemory] at fits
      simp only [Sendable] at allowed
      simp only [serialize, wire]
      refine serializeN_writes unbounded element _ allowed ?_ address
      intro part member sendable
      obtain ⟨index, rfl⟩ := List.mem_ofFn.mp member
      exact serialize_writes unbounded handlers latest element _ (fits index) sendable
  | .container kind size element, object, fits, allowed, address => by
      simp only [FitsMemory] at fits
      simp only [Sendable] at allowed
      simp only [serialize, wire]
      refine serializeTemplate_writes unbounded kind element object fits.1.1 allowed.1
        allowed.2 ?_
      intro part partFits sendable
      refine serialize_writes unbounded handlers latest element _ ?_ sendable
      rcases partFits with member | ended
      · exact fits.2 part member
      · exact fitsMemory_of_mem_terminator ended
  | .struct decl fields, object, fits, allowed, address => by
      simp only [FitsMemory] at fits
      simp only [Sendable] at allowed
      simp only [serialize, wire]
      exact serializeStruct_writes unbounded handlers latest decl fields object allowed
        fun sendable => serializeFields_writes unbounded handlers latest fields object.1
          fits sendable address

theorem serializeFields_writes {ctx : SContext} (unbounded : Unbounded ctx)
    (handlers : SHandlers Empty)
    (latest : ctx.data.interfaceVersionsNotMatch = false) :
    (fields : Fields Empty) → (objects : fields.Objs) →
      FieldsFitMemory ctx.data.platform fields objects →
        FieldsSendable ctx.data fields objects → (address : Nat) →
          Writes ctx.data.platform (serializeFields ctx handlers fields objects address)
            (wireFields ctx.data fields objects) (fun _ => True)
  | .nil, _, _, _, _ => .pure trivial
  | .cons padding field rest, objects, fits, allowed, address => by
      simp only [FieldsFitMemory] at fits
      simp only [FieldsSendable] at allowed
      simp only [serializeFields, wireFields]
      exact (serialize_writes unbounded handlers latest field objects.2.1 fits.1 allowed.1
        (address + padding)).bind fun _ _ =>
          serializeFields_writes unbounded handlers latest rest objects.2.2 fits.2
            allowed.2 (address + padding + field.sizeof)
end

end CommonSerialization.Csp.BodyProcessor
