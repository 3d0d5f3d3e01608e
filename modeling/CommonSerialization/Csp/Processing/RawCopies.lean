import CommonSerialization.Csp.Processing.HeaderExchange
import CommonSerialization.Csp.Processing.RoundTrip
import CommonSerialization.Csp.Processing.Sending

namespace CommonSerialization.Csp.BodyProcessor

open StateExcept

/-! Raw copies of tagged structs against the fields one by one. -/

mutual
/-- The octets of an object are those of its scalars: no padding lies between
them, and the functions of the structs write all fields. -/
def Dense : Ty P → Prop
  | .scalar _ => True
  | .pointer _ _ => False
  | .array element _ => Dense element
  | .container _ _ _ => False
  | .struct decl fields =>
      decl.function ≠ .generic ∧ (decl.tags.emptyType → fields = .nil) ∧
        decl.tailPadding = 0 ∧ FieldsDense fields

def FieldsDense : Fields P → Prop
  | .nil => True
  | .cons padding field rest => padding = 0 ∧ Dense field ∧ FieldsDense rest
end

mutual
/-- All scalars of a type satisfy `FixSizedArithmeticOrEnumType` or are
floating point values. -/
def FixSized : Ty P → Prop
  | .scalar type =>
      type.fixSizedArithmeticOrEnumType = true ∨ type.isFloatingPoint = true
  | .pointer _ _ => False
  | .array element _ => FixSized element
  | .container _ _ element => FixSized element
  | .struct _ fields => FieldsFixSized fields

def FieldsFixSized : Fields P → Prop
  | .nil => True
  | .cons _ field rest => FixSized field ∧ FieldsFixSized rest
end

mutual
/-- Every struct has functions of its own, and a simply assignable tag only if
it is dense.  Where the sizes of integers may differ, the tags that still allow
a copy are kept to structs of strictly sized fields. -/
def HonestlyTagged (sizesMayDiffer : Bool) : Ty P → Prop
  | .scalar _ => True
  | .pointer _ _ => True
  | .array element _ => HonestlyTagged sizesMayDiffer element
  | .container _ _ element => HonestlyTagged sizesMayDiffer element
  | .struct decl fields =>
      decl.function ≠ .generic ∧ (decl.tags.emptyType → fields = .nil) ∧
        ((Ty.struct decl fields).anySimplyAssignable →
          Dense (.struct decl fields)) ∧
        (sizesMayDiffer → (Ty.struct decl fields).simplyAssignableFixedSize ∨
          (Ty.struct decl fields).alwaysSimplyAssignable →
            FieldsFixSized fields) ∧
        FieldsHonestlyTagged sizesMayDiffer fields

def FieldsHonestlyTagged (sizesMayDiffer : Bool) : Fields P → Prop
  | .nil => True
  | .cons _ field rest =>
      HonestlyTagged sizesMayDiffer field ∧
        FieldsHonestlyTagged sizesMayDiffer rest
end

mutual
theorem honestlyTagged_of_dense {sizesMayDiffer : Bool} : (type : Ty P) →
    Dense type → (sizesMayDiffer → FixSized type) →
      HonestlyTagged sizesMayDiffer type
  | .scalar _, _, _ => trivial
  | .array element _, dense, fixSized => by
      simp only [Dense] at dense
      simp only [FixSized] at fixSized
      simp only [HonestlyTagged]
      exact honestlyTagged_of_dense element dense fixSized
  | .struct decl fields, dense, fixSized => by
      simp only [FixSized] at fixSized
      simp only [HonestlyTagged]
      refine ⟨dense.1, dense.2.1, fun _ => dense, fun differ _ => fixSized differ, ?_⟩
      exact fieldsHonestlyTagged_of_dense fields dense.2.2.2 fixSized

theorem fieldsHonestlyTagged_of_dense {sizesMayDiffer : Bool} :
    (fields : Fields P) → FieldsDense fields →
      (sizesMayDiffer → FieldsFixSized fields) →
        FieldsHonestlyTagged sizesMayDiffer fields
  | .nil, _, _ => trivial
  | .cons _ field rest, dense, fixSized =>
      ⟨honestlyTagged_of_dense field dense.2.1 fun differ => (fixSized differ).1,
        fieldsHonestlyTagged_of_dense rest dense.2.2 fun differ =>
          (fixSized differ).2⟩
end

mutual
theorem plain_of_dense : (type : Ty P) → Dense type → type.plain = true
  | .scalar _, _ => rfl
  | .array element _, dense => by
      simp only [Dense] at dense
      exact plain_of_dense element dense
  | .struct _ fields, dense => plain_of_fieldsDense fields dense.2.2.2

theorem plain_of_fieldsDense : (fields : Fields P) → FieldsDense fields →
    fields.plain = true
  | .nil, _ => rfl
  | .cons _ field rest, dense => by
      simp only [Fields.plain, plain_of_dense field dense.2.1,
        plain_of_fieldsDense rest dense.2.2, Bool.and_self]
end

section Wire

variable {data : Context.Data}

theorem sizeOctets_of_fixSized (type : ScalarType)
    (fixSized : data.sizeOfIntegersMayBeNotEqual →
      FixSized (.scalar type : Ty P)) :
    sizeOctets data type = [] := by
  unfold sizeOctets
  rw [if_neg]
  intro written
  simp only [writesSize, Bool.and_eq_true, Bool.not_eq_true'] at written
  have fixed := fixSized written.2
  simp only [FixSized, written.1.1, written.1.2] at fixed
  cases fixed <;> contradiction

theorem image_of_dense (platform : Platform) {decl : StructDecl}
    {fields : Fields P} (dense : Dense (.struct decl fields))
    (object : (Ty.struct decl fields).Obj) :
    (Ty.struct decl fields).image platform object =
      fields.image platform object.1 := by
  have tail : List.ofFn object.2 = [] := by
    apply List.eq_nil_of_length_eq_zero
    rw [List.length_ofFn]
    exact dense.2.2.1
  rw [Ty.image, tail, List.append_nil]

theorem image_nil_of_emptyType (platform : Platform) {type : Ty P}
    (dense : Dense type) (empty : type.emptyType) (object : type.Obj) :
    type.image platform object = [] := by
  cases type with
  | struct decl fields =>
      have whole := image_of_dense platform dense object
      obtain rfl := dense.2.1 empty
      exact whole
  | scalar | pointer | array | container => cases empty

theorem wireN_of_dense (type : Ty P) (dense : Dense type)
    (fixSized : data.sizeOfIntegersMayBeNotEqual → FixSized type)
    {each : type.Obj → List UInt8}
    (eachImage : ∀ object, each object = type.image data.platform object)
    (objects : List type.Obj) :
    wireN data type each objects =
      objects.flatMap (type.image data.platform) := by
  unfold wireN
  split
  · rename_i empty
    have blank := funext fun object =>
      image_nil_of_emptyType data.platform dense empty object
    rw [blank]
    simp
  · split
    · cases type with
      | scalar type =>
          rw [arrayPrefix, sizeOctets_of_fixSized type fixSized, List.nil_append]
      | pointer | array | container | struct => rfl
    · rw [funext eachImage]

mutual
theorem wire_of_dense
    (native : data.bigEndianFormat = data.platform.isBigEndianPlatform) :
    (type : Ty P) → Dense type →
      (data.sizeOfIntegersMayBeNotEqual → FixSized type) →
        (object : type.Obj) →
          wire data type object = type.image data.platform object
  | .scalar type, _, fixSized, object => by
      simp only [wire, sizeOctets_of_fixSized type fixSized, List.nil_append,
        Ty.image, native, store_eq_formatOctets]
  | .array element _, dense, fixSized, object => by
      simp only [Dense] at dense
      simp only [FixSized] at fixSized
      simp only [wire, Ty.image]
      exact wireN_of_dense element dense fixSized
        (wire_of_dense native element dense fixSized) _
  | .struct decl fields, dense, fixSized, object => by
      simp only [FixSized] at fixSized
      have whole := wireFields_of_dense native fields dense.2.2.2 fixSized object.1
      have image := image_of_dense data.platform dense object
      simp only [wire, wireStruct]
      cases function : decl.function with
      | generic => exact absurd function dense.1
      | fieldByField start =>
          cases start with
          | none => simp only [whole, image]
          | anySimplyAssignable | common => simp only [whole, image, ite_self]

theorem wireFields_of_dense
    (native : data.bigEndianFormat = data.platform.isBigEndianPlatform) :
    (fields : Fields P) → FieldsDense fields →
      (data.sizeOfIntegersMayBeNotEqual → FieldsFixSized fields) →
        (objects : fields.Objs) →
          wireFields data fields objects = fields.image data.platform objects
  | .nil, _, _, _ => rfl
  | .cons padding field rest, dense, fixSized, objects => by
      have front : List.ofFn objects.1 = [] := by
        apply List.eq_nil_of_length_eq_zero
        rw [List.length_ofFn]
        exact dense.1
      have head := wire_of_dense native field dense.2.1
        (fun differ => (fixSized differ).1) objects.2.1
      have tail := wireFields_of_dense native rest dense.2.2
        (fun differ => (fixSized differ).2) objects.2.2
      rw [wireFields, Fields.image, head, tail, front, List.nil_append]
end

/-- Where the sizes of integers may differ, only two of the tags allow a
copy. -/
theorem dense_of_tagsAllowCopy {type : Ty P}
    (honest : HonestlyTagged data.sizeOfIntegersMayBeNotEqual type)
    (allowed : tagsAllowCopy data type) :
    Dense type ∧ (data.sizeOfIntegersMayBeNotEqual → FixSized type) := by
  have tagged := anySimplyAssignable_of_tagsAllowCopy data allowed
  cases type with
  | scalar | pointer | array | container => cases tagged
  | struct decl fields =>
      obtain ⟨_, _, dense, fixSized, _⟩ := honest
      refine ⟨dense tagged, fun differ => fixSized differ ?_⟩
      simp only [tagsAllowCopy, differ, Bool.not_true, Bool.and_false,
        Bool.or_false, Bool.or_eq_true, Bool.and_eq_true] at allowed
      rcases allowed with always | fixed
      · exact .inr always
      · exact .inl fixed.1

theorem tagsAllowCopy_of_copiesStruct {type : Ty P}
    (copies : copiesStruct data type) : tagsAllowCopy data type := by
  simp only [copiesStruct, Bool.and_eq_true] at copies
  exact copies.2.2

theorem tagsAllowCopy_of_copiesArray {type : Ty P}
    (separate : type.isArithmeticOrEnum = false)
    (copies : copiesArray data type) : tagsAllowCopy data type := by
  simp only [copiesArray, separate, Bool.false_or, Bool.and_eq_true] at copies
  exact copies.2.2

section Native

variable (native : data.bigEndianFormat = data.platform.isBigEndianPlatform)

include native

/-- A copy of a struct leaves the octets that its fields would. -/
theorem wireStruct_of_honestlyTagged (decl : StructDecl) (fields : Fields P)
    (honest : HonestlyTagged data.sizeOfIntegersMayBeNotEqual
      (.struct decl fields)) (object : (Ty.struct decl fields).Obj) :
    wireStruct data decl fields object (wireFields data fields object.1) =
      wireFields data fields object.1 := by
  unfold wireStruct
  cases function : decl.function with
  | generic => exact absurd function honest.1
  | fieldByField start =>
      cases start with
      | none => rfl
      | anySimplyAssignable | common =>
          simp only
          split
          · rename_i copies
            obtain ⟨dense, fixSized⟩ := dense_of_tagsAllowCopy honest
              (tagsAllowCopy_of_copiesStruct copies)
            rw [image_of_dense data.platform dense,
              wireFields_of_dense native fields dense.2.2.2 fixSized]
          · rfl

theorem wireN_of_honestlyTagged (type : Ty P)
    (separate : type.isArithmeticOrEnum = false)
    (honest : HonestlyTagged data.sizeOfIntegersMayBeNotEqual type)
    (objects : List type.Obj) :
    wireN data type (wire data type) objects =
      if type.emptyType then [] else objects.flatMap (wire data type) := by
  unfold wireN
  by_cases copies : copiesArray data type
  · obtain ⟨dense, fixSized⟩ := dense_of_tagsAllowCopy honest
      (tagsAllowCopy_of_copiesArray separate copies)
    have unprefixed : arrayPrefix data type = [] := by
      cases type with
      | scalar type => cases separate
      | pointer | array | container | struct => rfl
    rw [if_pos copies, unprefixed, List.nil_append,
      funext (wire_of_dense native type dense fixSized)]
  · rw [if_neg copies]

end Native

end Wire

section Modes

/-- Two contexts that differ at most in whether the optimizations for simply
assignable tags are turned off. -/
structure SameButOptimizations (first second : Context.Data) : Prop where
  platform : second.platform = first.platform
  commonFlags : second.commonFlags = first.commonFlags
  interfaceVersion : second.interfaceVersion = first.interfaceVersion
  interfaceVersionsNotMatch :
    second.interfaceVersionsNotMatch = first.interfaceVersionsNotMatch
  dataFlags : ∀ flag,
    flag &&& Context.DataFlags.kSimplyAssignableTagsOptimizationsAreTurnedOff =
      0 → second.dataFlags.test flag = first.dataFlags.test flag

namespace SameButOptimizations

variable {first second : Context.Data}
  (modes : SameButOptimizations first second)

include modes

theorem sizeOfIntegersMayBeNotEqual :
    second.sizeOfIntegersMayBeNotEqual = first.sizeOfIntegersMayBeNotEqual :=
  modes.dataFlags _ (by decide)

theorem endiannessDifference :
    second.endiannessDifference = first.endiannessDifference := by
  simp only [Context.Data.endiannessDifference, modes.commonFlags]

theorem bigEndianFormat : second.bigEndianFormat = first.bigEndianFormat := by
  simp only [Context.Data.bigEndianFormat, modes.commonFlags]

theorem bitness32 : second.bitness32 = first.bitness32 := by
  simp only [Context.Data.bitness32, modes.commonFlags]

theorem writesSize (type : ScalarType) :
    writesSize second type = writesSize first type := by
  simp only [BodyProcessor.writesSize, modes.sizeOfIntegersMayBeNotEqual]

theorem sizeOctets (type : ScalarType) :
    sizeOctets second type = sizeOctets first type := by
  simp only [BodyProcessor.sizeOctets, modes.writesSize, modes.bigEndianFormat]

theorem sizeTOctets (value : Nat) :
    sizeTOctets second value = sizeTOctets first value := by
  simp only [BodyProcessor.sizeTOctets, modes.bitness32, modes.bigEndianFormat]

theorem copiesArray_scalar (type : ScalarType) :
    copiesArray second (.scalar type : Ty P) =
      copiesArray first (.scalar type : Ty P) := by
  simp only [copiesArray, modes.endiannessDifference, Ty.isArithmeticOrEnum,
    Bool.true_or]

end SameButOptimizations

variable {first second : Context.Data}

theorem wireN_agrees (modes : SameButOptimizations first second)
    (native : first.bigEndianFormat = first.platform.isBigEndianPlatform)
    (type : Ty P)
    (honest : HonestlyTagged first.sizeOfIntegersMayBeNotEqual type)
    (eachAgrees : wire second type = wire first type)
    (objects : List type.Obj) :
    wireN second type (wire second type) objects =
      wireN first type (wire first type) objects := by
  by_cases separate : type.isArithmeticOrEnum = false
  · rw [wireN_of_honestlyTagged native type separate honest,
      wireN_of_honestlyTagged _ type separate, eachAgrees]
    · rwa [modes.sizeOfIntegersMayBeNotEqual]
    · rw [modes.bigEndianFormat, modes.platform, native]
  · cases type with
    | scalar type =>
        simp only [wireN, arrayPrefix, modes.copiesArray_scalar, modes.sizeOctets,
          modes.platform, eachAgrees]
    | pointer | array | container | struct => exact absurd rfl separate

mutual
/-- The octets of an honestly tagged object are the same in both modes. -/
theorem wire_agrees (modes : SameButOptimizations first second)
    (native : first.bigEndianFormat = first.platform.isBigEndianPlatform) :
    (type : Ty P) → HonestlyTagged first.sizeOfIntegersMayBeNotEqual type →
      Native type → wire second type = wire first type
  | .scalar type, _, _ => by
      funext object
      simp only [wire, modes.sizeOctets, modes.bigEndianFormat]
  | .pointer _ _, _, _ => rfl
  | .array element _, honest, vectors => by
      simp only [HonestlyTagged] at honest
      funext object
      simp only [wire]
      exact wireN_agrees modes native element honest
        (wire_agrees modes native element honest vectors) _
  | .container kind _ element, honest, vectors => by
      obtain ⟨rfl, elementVectors⟩ := vectors
      simp only [HonestlyTagged] at honest
      funext object
      have elements := wireN_agrees modes native element honest
        (wire_agrees modes native element honest elementVectors) object.2
      simp only [wire, wireTemplate, modes.sizeTOctets, elements]
  | .struct decl fields, honest, vectors => by
      have fieldsHonest := honest.2.2.2.2
      funext object
      simp only [wire]
      rw [wireStruct_of_honestlyTagged native decl fields honest,
        wireStruct_of_honestlyTagged _ decl fields,
        wireFields_agrees modes native fields fieldsHonest vectors]
      · rwa [modes.sizeOfIntegersMayBeNotEqual]
      · rw [modes.bigEndianFormat, modes.platform, native]

theorem wireFields_agrees (modes : SameButOptimizations first second)
    (native : first.bigEndianFormat = first.platform.isBigEndianPlatform) :
    (fields : Fields P) →
      FieldsHonestlyTagged first.sizeOfIntegersMayBeNotEqual fields →
        FieldsNative fields → wireFields second fields = wireFields first fields
  | .nil, _, _ => rfl
  | .cons _ field rest, honest, vectors => by
      funext objects
      simp only [wireFields, wire_agrees modes native field honest.1 vectors.1,
        wireFields_agrees modes native rest honest.2 vectors.2]
end

mutual
/-- A dense object is never refused. -/
theorem sendable_of_dense (data : Context.Data) : (type : Ty P) → Dense type →
    (object : type.Obj) → Sendable data type object
  | .scalar _, _, _ => trivial
  | .array element _, dense, object => by
      simp only [Dense] at dense
      simp only [Sendable, SendableN]
      split
      · trivial
      · split
        · exact plain_of_dense element dense
        · exact fun part _ => sendable_of_dense data element dense part
  | .struct decl fields, dense, object => by
      have parts := fieldsSendable_of_dense data fields dense.2.2.2 object.1
      have plain := plain_of_fieldsDense fields dense.2.2.2
      simp only [Sendable, SendableStruct]
      cases function : decl.function with
      | generic => exact absurd function dense.1
      | fieldByField start =>
          cases start with
          | none => exact parts
          | anySimplyAssignable | common =>
              simp only
              split
              · exact plain
              · exact parts

theorem fieldsSendable_of_dense (data : Context.Data) : (fields : Fields P) →
    FieldsDense fields → (objects : fields.Objs) →
      FieldsSendable data fields objects
  | .nil, _, _ => trivial
  | .cons _ field rest, dense, objects =>
      ⟨sendable_of_dense data field dense.2.1 objects.2.1,
        fieldsSendable_of_dense data rest dense.2.2 objects.2.2⟩
end

theorem sendableN_agrees (modes : SameButOptimizations first second)
    (type : Ty P)
    (honest : HonestlyTagged first.sizeOfIntegersMayBeNotEqual type)
    {objects : List type.Obj}
    (eachAgrees : ∀ object ∈ objects, Sendable first type object →
      Sendable second type object)
    (sendable : SendableN first type (Sendable first type) objects) :
    SendableN second type (Sendable second type) objects := by
  unfold SendableN at sendable ⊢
  split
  · trivial
  · rename_i occupied
    rw [if_neg occupied] at sendable
    by_cases dense : Dense type
    · split
      · exact plain_of_dense type dense
      · exact fun object _ => sendable_of_dense second type dense object
    · have separate : type.isArithmeticOrEnum = false := by
        cases type with
        | scalar type => exact absurd trivial dense
        | pointer | array | container | struct => rfl
      have loops {data : Context.Data} (sizes : data.sizeOfIntegersMayBeNotEqual =
          first.sizeOfIntegersMayBeNotEqual) : ¬copiesArray data type := by
        intro copies
        refine dense (dense_of_tagsAllowCopy ?_
          (tagsAllowCopy_of_copiesArray separate copies)).1
        rwa [sizes]
      rw [if_neg (loops rfl)] at sendable
      rw [if_neg (loops modes.sizeOfIntegersMayBeNotEqual)]
      exact fun object member => eachAgrees object member (sendable object member)

mutual
theorem sendable_agrees (modes : SameButOptimizations first second) :
    (type : Ty P) → HonestlyTagged first.sizeOfIntegersMayBeNotEqual type →
      Native type → (object : type.Obj) → Sendable first type object →
        Sendable second type object
  | .scalar _, _, _, _, _ => trivial
  | .array element _, honest, vectors, object, sendable => by
      simp only [HonestlyTagged] at honest
      simp only [Sendable] at sendable ⊢
      exact sendableN_agrees modes element honest
        (fun part _ => sendable_agrees modes element honest vectors part) sendable
  | .container kind _ element, honest, vectors, object, sendable => by
      obtain ⟨rfl, elementVectors⟩ := vectors
      simp only [HonestlyTagged] at honest
      simp only [Sendable, SendableTemplate, modes.bitness32] at sendable ⊢
      refine ⟨sendable.1, sendableN_agrees modes element honest ?_ sendable.2⟩
      exact fun part _ =>
        sendable_agrees modes element honest elementVectors part
  | .struct decl fields, honest, vectors, object, sendable => by
      have fieldsHonest := honest.2.2.2.2
      have parts : FieldsSendable first fields object.1 →
          FieldsSendable second fields object.1 :=
        fieldsSendable_agrees modes fields fieldsHonest vectors object.1
      by_cases dense : Dense (.struct decl fields)
      · exact sendable_of_dense second _ dense object
      · have separate {data : Context.Data} (sizes :
            data.sizeOfIntegersMayBeNotEqual =
              first.sizeOfIntegersMayBeNotEqual) :
            ¬copiesStruct data (.struct decl fields) := by
          intro copies
          refine dense (dense_of_tagsAllowCopy ?_
            (tagsAllowCopy_of_copiesStruct copies)).1
          rwa [sizes]
        simp only [Sendable, SendableStruct] at sendable ⊢
        cases function : decl.function with
        | generic => exact absurd function honest.1
        | fieldByField start =>
            cases start with
            | none =>
                rw [function] at sendable
                exact parts sendable
            | anySimplyAssignable | common =>
                simp only [function, if_neg (separate rfl)] at sendable
                simp only [if_neg (separate modes.sizeOfIntegersMayBeNotEqual)]
                exact parts sendable

theorem fieldsSendable_agrees (modes : SameButOptimizations first second) :
    (fields : Fields P) →
      FieldsHonestlyTagged first.sizeOfIntegersMayBeNotEqual fields →
        FieldsNative fields → (objects : fields.Objs) →
          FieldsSendable first fields objects →
            FieldsSendable second fields objects
  | .nil, _, _, _, _ => trivial
  | .cons _ field rest, honest, vectors, objects, sendable =>
      ⟨sendable_agrees modes field honest.1 vectors.1 objects.2.1 sendable.1,
        fieldsSendable_agrees modes rest honest.2 vectors.2 objects.2.2
          sendable.2⟩
end

mutual
theorem transportable_of_honestlyTagged {sizesMayDiffer : Bool} :
    (type : Ty P) → HonestlyTagged sizesMayDiffer type → Transportable type
  | .scalar _, _ => trivial
  | .pointer _ _, _ => trivial
  | .array element _, honest => by
      simp only [HonestlyTagged] at honest
      simp only [Transportable]
      exact transportable_of_honestlyTagged element honest
  | .container _ _ element, honest => by
      simp only [HonestlyTagged] at honest
      simp only [Transportable]
      exact transportable_of_honestlyTagged element honest
  | .struct _ fields, honest =>
      ⟨fun generic => absurd generic honest.1, honest.2.1,
        fieldsTransportable_of_honestlyTagged fields honest.2.2.2.2⟩

theorem fieldsTransportable_of_honestlyTagged {sizesMayDiffer : Bool} :
    (fields : Fields P) → FieldsHonestlyTagged sizesMayDiffer fields →
      FieldsTransportable fields
  | .nil, _ => trivial
  | .cons _ field rest, honest =>
      ⟨transportable_of_honestlyTagged field honest.1,
        fieldsTransportable_of_honestlyTagged rest honest.2⟩
end

end Modes

section Copies

end Copies

section Pixels

end Pixels

end CommonSerialization.Csp.BodyProcessor
