import CommonSerialization.Csp.Processing.Pointees
import CommonSerialization.Csp.Processing.Streams
import Mathlib.Data.Set.Basic

namespace CommonSerialization.Csp

open BodyProcessor VersionConverter StateExcept

/-! The octets of a body do not tell where the temporaries of its conversions
lie. -/

/-- The context with other values of what only conversions look at. -/
def SContext.steered (ctx : SContext) (heap notMatch : Bool) : SContext :=
  { ctx with
    data :=
      { ctx.data with isHeapUsedForTemp := heap, interfaceVersionsNotMatch := notMatch } }

def SContext.tempOn (ctx : SContext) (heap : Bool) : SContext :=
  ctx.steered heap ctx.data.interfaceVersionsNotMatch

section Steered

variable (ctx : SContext) (heap notMatch : Bool)

theorem serializeElements_steered (size : Nat) (each : α → Nat → SProc Unit)
    (objects : List α) (address : Nat) :
    serializeElements (ctx.steered heap notMatch) size each objects address =
      serializeElements ctx size each objects address := by
  induction objects generalizing address with
  | nil => rfl
  | cons object rest ih =>
      simp only [serializeElements, ih]
      rfl

theorem serializeN_steered (type : Ty P) (each : type.Obj → Nat → SProc Unit)
    (objects : List type.Obj) (address : Nat) :
    serializeN (ctx.steered heap notMatch) type each objects address =
      serializeN ctx type each objects address := by
  unfold serializeN
  rw [serializeElements_steered]
  rfl

theorem serializeTemplate_steered (kind : ContainerKind) (type : Ty P)
    (each : type.Obj → Nat → SProc Unit) (value : Storage × List type.Obj) :
    serializeTemplate (ctx.steered heap notMatch) kind type each value =
      serializeTemplate ctx kind type each value := by
  cases kind <;> simp only [serializeTemplate, serializeN_steered] <;> rfl

end Steered

section TempOn

variable (ctx : SContext) (heap : Bool)

variable (handlers : SHandlers P)

mutual

/-- Only the handlers look at where temporaries lie. -/
theorem serialize_tempOn : (type : Ty P) → (object : type.Obj) → (address : Nat) →
    BodyProcessor.serialize (ctx.tempOn heap) handlers type object address =
      BodyProcessor.serialize ctx handlers type object address
  | .scalar _, _, _ => rfl
  | .pointer _ _, _, _ => rfl
  | .array element _, _, _ => by
      have each := funext₂ (serialize_tempOn element)
      simp only [BodyProcessor.serialize, each]
      exact serializeN_steered ctx heap _ _ _ _ _
  | .container kind _ element, _, _ => by
      have each := funext₂ (serialize_tempOn element)
      simp only [BodyProcessor.serialize, each]
      exact serializeTemplate_steered ctx heap _ kind _ _ _
  | .struct decl fields, object, address => by
      simp only [BodyProcessor.serialize, serializeFields_tempOn fields object.1 address]
      rfl

theorem serializeFields_tempOn : (fields : Fields P) → (objects : fields.Objs) →
    (address : Nat) →
    serializeFields (ctx.tempOn heap) handlers fields objects address =
      serializeFields ctx handlers fields objects address
  | .nil, _, _ => rfl
  | .cons padding field rest, objects, address => by
      simp only [serializeFields, serialize_tempOn field, serializeFields_tempOn rest]

end

end TempOn

section Targets

variable (targets : Set Nat)

mutual

/-- Every pointer in an object is null or one of the targets. -/
def Ty.PointsInto : (type : Ty P) → type.Obj → Prop
  | .scalar _, _ => True
  | .pointer _ _, address => address ≠ (0 : Nat) → address ∈ targets
  | .array element _, object => ∀ index, element.PointsInto (object index)
  | .container _ _ element, object => ∀ part ∈ object.2, element.PointsInto part
  | .struct _ fields, object => fields.PointInto object.1

def Fields.PointInto : (fields : Fields P) → fields.Objs → Prop
  | .nil, _ => True
  | .cons _ field rest, objects =>
      field.PointsInto objects.2.1 ∧ rest.PointInto objects.2.2

end

mutual

/-- None of the targets is an element of an array in an object at an address. -/
def Ty.LiesOutside : Ty P → Nat → Prop
  | .array element length, address =>
      ∀ index < length, address + element.sizeof * index ∉ targets ∧
        element.LiesOutside (address + element.sizeof * index)
  | .struct _ fields, address => fields.LieOutside address
  | _, _ => True

def Fields.LieOutside : Fields P → Nat → Prop
  | .nil, _ => True
  | .cons padding field rest, address =>
      field.LiesOutside (address + padding) ∧
        rest.LieOutside (address + padding + field.sizeof)

end

mutual

theorem Ty.pointsInto_univ : (type : Ty P) → (object : type.Obj) →
    type.PointsInto Set.univ object
  | .scalar _, _ => trivial
  | .pointer _ _, _ => fun _ => trivial
  | .array element _, object => fun index => element.pointsInto_univ (object index)
  | .container _ _ element, _ => fun part _ => element.pointsInto_univ part
  | .struct _ fields, object => fields.pointInto_univ object.1

theorem Fields.pointInto_univ : (fields : Fields P) → (objects : fields.Objs) →
    fields.PointInto Set.univ objects
  | .nil, _ => trivial
  | .cons _ field rest, objects =>
      ⟨field.pointsInto_univ objects.2.1, rest.pointInto_univ objects.2.2⟩

end

/-- The `init` functions of a chain make no pointers of their own. -/
def ToVersion.Keeps : {source : Ty P} → ToVersion P source → Prop
  | _, .nil => True
  | source, .cons older init rest =>
      (∀ object value, source.PointsInto targets object → init object = .ok value →
        older.type.PointsInto targets value) ∧ ToVersion.Keeps rest

def ToVersion.Apart (conversions : Conversions P) (level : Nat) :
    {source : Ty P} → ToVersion P source → Nat → Prop
  | _, .nil, _ => True
  | _, .cons older _ rest, index =>
      (∀ address, conversions.heapSlot level index older.type.sizeof = some address →
        older.type.LiesOutside targets address) ∧
      older.type.LiesOutside targets
        (conversions.stackSlot level index older.type.sizeof) ∧
      ToVersion.Apart conversions level rest (index + 1)

variable (ctx : SContext) (conversions : Conversions P) (memory : Memory P)

/-- The pointers that a serialization meets are among the targets, and no
temporary takes the place of a target. -/
structure Undisturbed : Prop where
  memory : ∀ pointee address object, address ∈ targets →
    memory.object pointee address = some object →
      (memory.pointeeType pointee).PointsInto targets object
  inits : ∀ decl fields chain, conversions.toOldStruct decl fields = some chain →
    ToVersion.Keeps targets chain
  temporaries : ctx.data.checkRecursivePointers = true →
    ∀ decl fields chain, conversions.toOldStruct decl fields = some chain →
      ∀ level, ToVersion.Apart targets conversions level chain 0

/-- The same octets, and the same offsets of what pointers can point to. -/
structure Agree (state other : SState) : Prop where
  binaryData : state.binaryData = other.binaryData
  pointersMap : ctx.data.checkRecursivePointers = true →
    ∀ address ∈ targets, state.pointersMap address = other.pointersMap address

/-- Two places for an object that pointers cannot tell apart. -/
def SamePlace (type : Ty P) (address otherAddress : Nat) : Prop :=
  ctx.data.checkRecursivePointers = true →
    address = otherAddress ∨
      type.LiesOutside targets address ∧ type.LiesOutside targets otherAddress

end Targets

section Matching

variable {ctx : SContext} {targets : Set Nat}

theorem fail_matches (status : Status) :
    Matches (Agree targets ctx) (fail status : SProc α) (fail status) :=
  .throw _

theorem addSpaceIfNeed_matches (n : Nat) :
    Matches (Agree targets ctx) (addSpaceIfNeed ctx n) (addSpaceIfNeed ctx n) := by
  unfold addSpaceIfNeed
  refine Matches.get_bind fun state other before => ?_
  rw [before.binaryData]
  split
  · exact .error _ before
  · split
    · exact .ok () before
    · exact .error _ before

theorem pushBackN_matches (octets : List UInt8) :
    Matches (Agree targets ctx) (pushBackN ctx octets) (pushBackN ctx octets) := by
  unfold pushBackN
  refine (addSpaceIfNeed_matches _).bind fun _ => .modify fun state other before => ?_
  exact ⟨congrArg (· ++ octets) before.binaryData, before.pointersMap⟩

theorem writePrimitive_matches (size : Width) (value : Word size) :
    Matches (Agree targets ctx) (writePrimitive ctx size value)
      (writePrimitive ctx size value) := by
  rw [writePrimitive_eq]
  exact pushBackN_matches _

theorem writeRawData_matches (type : Ty P) (objects : List type.Obj) :
    Matches (Agree targets ctx) (writeRawData ctx type objects)
      (writeRawData ctx type objects) := by
  unfold writeRawData
  exact .ite (fun _ => pushBackN_matches _) fun _ => .throw _

theorem serializeArithmetic_matches (type : ScalarType) (value : Word type.size) :
    Matches (Agree targets ctx) (serializeArithmetic ctx type value)
      (serializeArithmetic ctx type value) := by
  simp only [serializeArithmetic]
  refine .ite (fun _ => ?_) fun _ => writePrimitive_matches _ _
  exact (writePrimitive_matches _ _).bind fun _ => writePrimitive_matches _ _

theorem serializeToAnotherSize_matches (target : Width) (isSigned : Bool) (size : Width)
    (value : Word size) :
    Matches (Agree targets ctx) (serializeToAnotherSize ctx target isSigned size value)
      (serializeToAnotherSize ctx target isSigned size value) := by
  unfold serializeToAnotherSize
  split
  · exact writePrimitive_matches _ _
  · split
    · exact writePrimitive_matches _ _
    · split
      · exact writePrimitive_matches _ _
      · exact fail_matches _

theorem serializeSizeT_matches (value : Nat) :
    Matches (Agree targets ctx) (serializeSizeT ctx value) (serializeSizeT ctx value) :=
  serializeToAnotherSize_matches _ _ _ _

theorem Agree.note {state other : SState} (before : Agree targets ctx state other)
    (address : Nat) :
    Agree targets ctx
      { state with
        pointersMap :=
          Function.update state.pointersMap address state.binaryData.length }
      { other with
        pointersMap :=
          Function.update other.pointersMap address other.binaryData.length } := by
  refine ⟨before.binaryData, fun checked target member => ?_⟩
  simp only [Function.update_apply, before.binaryData]
  split
  · rfl
  · exact before.pointersMap checked target member

theorem Agree.noteOutside {state other : SState} (before : Agree targets ctx state other)
    {address otherAddress : Nat} (outside : address ∉ targets)
    (otherOutside : otherAddress ∉ targets) :
    Agree targets ctx
      { state with
        pointersMap :=
          Function.update state.pointersMap address state.binaryData.length }
      { other with
        pointersMap :=
          Function.update other.pointersMap otherAddress other.binaryData.length } := by
  refine ⟨before.binaryData, fun checked target member => ?_⟩
  have differs : target ≠ address := fun same => outside (same ▸ member)
  have otherDiffers : target ≠ otherAddress := fun same => otherOutside (same ▸ member)
  simp only [Function.update_of_ne differs, Function.update_of_ne otherDiffers]
  exact before.pointersMap checked target member

theorem addPointerToMap_matches (checked : ctx.data.checkRecursivePointers = true)
    {address : Nat} (inside : address ≠ 0 → address ∈ targets) :
    Matches (Agree targets ctx) (addPointerToMap ctx address)
      (addPointerToMap ctx address) := by
  unfold addPointerToMap
  refine .ite (fun _ => (serializeSizeT_matches 0).bind fun _ => .pure false) ?_
  intro valid
  refine Matches.get_bind fun state other before => ?_
  rw [before.pointersMap checked address (inside valid)]
  cases other.pointersMap address with
  | none =>
      have added : Matches (Agree targets ctx) _ _ := (serializeSizeT_matches 1).bind
        fun _ => (Matches.modify fun _ _ before => before.note address).bind
          fun _ => .pure true
      exact added state other before
  | some offset =>
      have known : Matches (Agree targets ctx) _ _ := (serializeSizeT_matches offset).bind
        fun _ => .pure false
      exact known state other before

variable {handlers otherHandlers : SHandlers P}

/-- The handlers treat what they are given alike. -/
structure MatchingHandlers (targets : Set Nat) (ctx : SContext)
    (handlers otherHandlers : SHandlers P) : Prop where
  pointee : ∀ pointee, ∀ address ∈ targets,
    Matches (Agree targets ctx) (handlers.pointee pointee address)
      (otherHandlers.pointee pointee address)
  toOldStructIfNeed : ∀ decl fields object, (Ty.struct decl fields).PointsInto targets object →
    Matches (Agree targets ctx) (handlers.toOldStructIfNeed decl fields object)
      (otherHandlers.toOldStructIfNeed decl fields object)

theorem serializePointer_matches (matching : MatchingHandlers targets ctx handlers otherHandlers)
    {pointee : P} {address : Nat} (inside : address ≠ 0 → address ∈ targets) :
    Matches (Agree targets ctx) (serializePointer ctx handlers pointee address)
      (serializePointer ctx otherHandlers pointee address) := by
  unfold serializePointer
  refine .ite (fun _ => fail_matches _) fun _ => .ite (fun checked => ?_) fun _ => ?_
  · by_cases null : address = 0
    · subst null
      have skipped : addPointerToMap ctx 0 = (do serializeSizeT ctx 0; return false) := rfl
      rw [skipped, bind_assoc, bind_assoc]
      exact (serializeSizeT_matches 0).bind fun _ => .pure _
    · refine (addPointerToMap_matches checked inside).bind fun added => ?_
      exact .ite (fun _ => matching.pointee pointee address (inside null)) fun _ => .pure _
  · refine .ite (fun _ => writePrimitive_matches _ _) fun valid => ?_
    exact (writePrimitive_matches _ _).bind fun _ =>
      matching.pointee pointee address (inside valid)

theorem Ty.liesOutside_array_succ {type : Ty P} {length address : Nat}
    (outside : (Ty.array type (length + 1)).LiesOutside targets address) :
    (address ∉ targets ∧ type.LiesOutside targets address) ∧
      (Ty.array type length).LiesOutside targets (address + type.sizeof) := by
  simp only [Ty.LiesOutside] at outside ⊢
  refine ⟨by simpa using outside 0 (Nat.zero_lt_succ _), fun index bound => ?_⟩
  have next := outside (index + 1) (Nat.succ_lt_succ bound)
  rwa [Nat.mul_add, Nat.mul_one, Nat.add_comm (type.sizeof * index), ← Nat.add_assoc] at next

theorem SamePlace.elements {type : Ty P} {length address otherAddress : Nat}
    (places : SamePlace targets ctx (.array type (length + 1)) address otherAddress) :
    SamePlace targets ctx type address otherAddress ∧
      SamePlace targets ctx (.array type length) (address + type.sizeof)
        (otherAddress + type.sizeof) ∧
      (ctx.data.checkRecursivePointers = true →
        address = otherAddress ∨ address ∉ targets ∧ otherAddress ∉ targets) := by
  refine ⟨fun checked => ?_, fun checked => ?_, fun checked => ?_⟩ <;>
    rcases places checked with same | ⟨outside, otherOutside⟩
  · exact .inl same
  · exact .inr ⟨(Ty.liesOutside_array_succ outside).1.2,
      (Ty.liesOutside_array_succ otherOutside).1.2⟩
  · exact .inl (congrArg (· + type.sizeof) same)
  · exact .inr ⟨(Ty.liesOutside_array_succ outside).2,
      (Ty.liesOutside_array_succ otherOutside).2⟩
  · exact .inl same
  · exact .inr ⟨(Ty.liesOutside_array_succ outside).1.1,
      (Ty.liesOutside_array_succ otherOutside).1.1⟩

def MatchingEach (targets : Set Nat) (ctx : SContext) (type : Ty P)
    (each otherEach : type.Obj → Nat → SProc Unit) : Prop :=
  ∀ object address otherAddress, type.PointsInto targets object →
    SamePlace targets ctx type address otherAddress →
    Matches (Agree targets ctx) (each object address) (otherEach object otherAddress)

theorem serializeElements_matches {type : Ty P}
    {each otherEach : type.Obj → Nat → SProc Unit}
    (eachMatches : MatchingEach targets ctx type each otherEach)
    {objects : List type.Obj} (inside : ∀ object ∈ objects, type.PointsInto targets object)
    {address otherAddress : Nat}
    (places : SamePlace targets ctx (.array type objects.length) address otherAddress) :
    Matches (Agree targets ctx) (serializeElements ctx type.sizeof each objects address)
      (serializeElements ctx type.sizeof otherEach objects otherAddress) := by
  induction objects generalizing address otherAddress with
  | nil => exact .pure ()
  | cons object rest ih =>
      obtain ⟨first, others, noted⟩ := places.elements
      have insideRest := fun part member => inside part (List.mem_cons_of_mem object member)
      have goesOn := (eachMatches object address otherAddress (inside object List.mem_cons_self)
        first).bind fun _ => ih insideRest others
      simp only [serializeElements]
      refine .ite (fun checked => Matches.bind (.modify fun _ _ before => ?_) fun _ => goesOn)
        fun _ => goesOn
      rcases noted checked with rfl | ⟨outside, otherOutside⟩
      · exact before.note address
      · exact before.noteOutside outside otherOutside

theorem serializeArrayCopy_matches (type : Ty P) (objects : List type.Obj) :
    Matches (Agree targets ctx) (serializeArrayCopy ctx type objects)
      (serializeArrayCopy ctx type objects) := by
  cases type with
  | scalar type =>
      simp only [serializeArrayCopy]
      refine .ite (fun _ => ?_) fun _ => writeRawData_matches _ _
      exact (writePrimitive_matches _ _).bind fun _ => writeRawData_matches _ _
  | pointer size pointee => exact writeRawData_matches _ _
  | array element length => exact writeRawData_matches _ _
  | container kind size element => exact writeRawData_matches _ _
  | struct decl fields => exact writeRawData_matches _ _

theorem serializeSimplyAssignable_matches (type : Ty P) (object : type.Obj) :
    Matches (Agree targets ctx) (serializeSimplyAssignable ctx type object)
      (serializeSimplyAssignable ctx type object) := by
  unfold serializeSimplyAssignable
  refine .ite (fun _ => .pure _) fun _ => .ite (fun _ => .pure _) fun _ => ?_
  refine .ite (fun _ => .pure _) fun _ => .ite (fun _ => ?_) fun _ => .pure _
  exact (writeRawData_matches _ _).bind fun _ => .pure _

theorem serializeAnySimplyAssignable_matches (type : Ty P) (object : type.Obj) :
    Matches (Agree targets ctx) (serializeAnySimplyAssignable ctx type object)
      (serializeAnySimplyAssignable ctx type object) := by
  unfold serializeAnySimplyAssignable
  refine .ite (fun _ => ?_) fun _ => .pure _
  refine (serializeSimplyAssignable_matches _ _).bind fun status => ?_
  exact .ite (fun _ => .pure _) fun _ => .ite (fun _ => fail_matches _) fun _ => .pure _

theorem serializeGeneric_matches (type : Ty P) (object : type.Obj) :
    Matches (Agree targets ctx) (serializeGeneric ctx type object)
      (serializeGeneric ctx type object) := by
  unfold serializeGeneric
  refine .ite (fun _ => ?_) fun _ => .ite (fun _ => .pure _) fun _ => .throw _
  refine (serializeSimplyAssignable_matches _ _).bind fun status => ?_
  exact .ite (fun _ => fail_matches _) fun _ => .pure _

theorem serializeN_matches {type : Ty P} {each otherEach : type.Obj → Nat → SProc Unit}
    (eachMatches : MatchingEach targets ctx type each otherEach)
    {objects : List type.Obj} (inside : ∀ object ∈ objects, type.PointsInto targets object)
    {address otherAddress : Nat}
    (places : SamePlace targets ctx (.array type objects.length) address otherAddress) :
    Matches (Agree targets ctx) (serializeN ctx type each objects address)
      (serializeN ctx type otherEach objects otherAddress) := by
  unfold serializeN
  refine .ite (fun _ => .pure _) fun _ => .ite (fun _ => serializeArrayCopy_matches _ _) ?_
  exact fun _ => serializeElements_matches eachMatches inside places

theorem serializeEach_matches {type : Ty P} {each otherEach : type.Obj → Nat → SProc Unit}
    (eachMatches : MatchingEach targets ctx type each otherEach)
    {objects : List type.Obj} (inside : ∀ object ∈ objects, type.PointsInto targets object)
    {address : Nat} :
    Matches (Agree targets ctx) (serializeEach type.sizeof each objects address)
      (serializeEach type.sizeof otherEach objects address) := by
  induction objects generalizing address with
  | nil => exact .pure ()
  | cons object rest ih =>
      refine Matches.bind ?_ fun _ => ih fun part member =>
        inside part (List.mem_cons_of_mem object member)
      exact eachMatches object address address (inside object List.mem_cons_self)
        fun _ => .inl rfl

theorem terminator_pointsInto (type : Ty P) :
    ∀ object ∈ terminator type, type.PointsInto targets object := by
  intro object member
  cases type with
  | scalar type => trivial
  | pointer size pointee => cases member
  | array element length => cases member
  | container kind size element => cases member
  | struct decl fields => cases member

theorem serializeTemplate_matches {kind : ContainerKind} {type : Ty P}
    {each otherEach : type.Obj → Nat → SProc Unit}
    (eachMatches : MatchingEach targets ctx type each otherEach)
    {value : Storage × List type.Obj}
    (inside : ∀ object ∈ value.2, type.PointsInto targets object) :
    Matches (Agree targets ctx) (serializeTemplate ctx kind type each value)
      (serializeTemplate ctx kind type otherEach value) := by
  unfold serializeTemplate
  refine (serializeSizeT_matches _).bind fun _ => ?_
  have same (type : Ty P) (address : Nat) : SamePlace targets ctx type address address :=
    fun _ => .inl rfl
  cases kind with
  | vectorT => exact serializeN_matches eachMatches inside (same _ _)
  | stdVector => exact serializeN_matches eachMatches inside (same _ _)
  | stdBasicString =>
      refine serializeN_matches eachMatches (fun object member => ?_) (same _ _)
      rcases List.mem_append.mp member with listed | ending
      · exact inside object listed
      · exact terminator_pointsInto type object ending
  | stdMap => exact serializeEach_matches eachMatches inside

section Structs

variable (matching : MatchingHandlers targets ctx handlers otherHandlers)

include matching

theorem serializeCommon_matches {decl : StructDecl} {fields : Fields P}
    {object : (Ty.struct decl fields).Obj}
    (inside : (Ty.struct decl fields).PointsInto targets object) :
    Matches (Agree targets ctx) (serializeCommon ctx handlers decl fields object)
      (serializeCommon ctx otherHandlers decl fields object) := by
  unfold serializeCommon
  split
  · refine (matching.toOldStructIfNeed decl fields object inside).bind fun status => ?_
    refine .ite (fun _ => .pure _) fun _ => .ite (fun _ => fail_matches _) fun _ => ?_
    exact .ite (fun _ => serializeAnySimplyAssignable_matches _ _) fun _ => fail_matches _
  · exact serializeAnySimplyAssignable_matches _ _

theorem serializeStruct_matches {decl : StructDecl} {fields : Fields P}
    {object : (Ty.struct decl fields).Obj}
    (inside : (Ty.struct decl fields).PointsInto targets object)
    {fieldByField otherFieldByField : SProc Unit}
    (fieldsMatch : Matches (Agree targets ctx) fieldByField otherFieldByField) :
    Matches (Agree targets ctx) (serializeStruct ctx handlers decl fields object fieldByField)
      (serializeStruct ctx otherHandlers decl fields object otherFieldByField) := by
  have goesOn {start otherStart : SProc Bool}
      (starts : Matches (Agree targets ctx) start otherStart) :
      Matches (Agree targets ctx) (writeFieldsUnless start fieldByField)
        (writeFieldsUnless otherStart otherFieldByField) := by
    unfold writeFieldsUnless
    exact starts.bind fun written => .ite (fun _ => fieldsMatch) fun _ => .pure _
  unfold serializeStruct
  split
  · exact serializeGeneric_matches _ _
  · exact fieldsMatch
  · exact goesOn (serializeAnySimplyAssignable_matches _ _)
  · exact goesOn (serializeCommon_matches matching inside)

end Structs

mutual

/-- An object that lies elsewhere gives the same octets. -/
theorem serialize_matches (matching : MatchingHandlers targets ctx handlers otherHandlers) :
    (type : Ty P) → MatchingEach targets ctx type
      (BodyProcessor.serialize ctx handlers type)
      (BodyProcessor.serialize ctx otherHandlers type)
  | .scalar type, object, _, _, _, _ => serializeArithmetic_matches type object
  | .pointer _ _, _, _, _, inside, _ => serializePointer_matches matching inside
  | .array element length, object, _, _, inside, places => by
      refine serializeN_matches (serialize_matches matching element) ?_ ?_
      · intro part member
        obtain ⟨index, rfl⟩ := List.mem_ofFn.mp member
        exact inside index
      · rwa [List.length_ofFn]
  | .container _ _ element, _, _, _, inside, _ =>
      serializeTemplate_matches (serialize_matches matching element) inside
  | .struct _ fields, object, address, otherAddress, inside, places =>
      serializeStruct_matches matching inside
        (serializeFields_matches matching fields object.1 address otherAddress inside places)

theorem serializeFields_matches
    (matching : MatchingHandlers targets ctx handlers otherHandlers) :
    (fields : Fields P) → (objects : fields.Objs) → (address otherAddress : Nat) → fields.PointInto targets objects →
    (ctx.data.checkRecursivePointers = true → address = otherAddress ∨
      fields.LieOutside targets address ∧ fields.LieOutside targets otherAddress) →
    Matches (Agree targets ctx) (serializeFields ctx handlers fields objects address)
      (serializeFields ctx otherHandlers fields objects otherAddress)
  | .nil, _, _, _, _, _ => .pure ()
  | .cons padding field rest, objects, address, otherAddress, inside, places => by
      refine (serialize_matches matching field objects.2.1 (address + padding)
        (otherAddress + padding) inside.1 ?_).bind fun _ =>
          serializeFields_matches matching rest objects.2.2 _ _ inside.2 ?_
      · intro checked
        rcases places checked with rfl | ⟨outside, otherOutside⟩
        · exact .inl rfl
        · exact .inr ⟨outside.1, otherOutside.1⟩
      · intro checked
        rcases places checked with rfl | ⟨outside, otherOutside⟩
        · exact .inl rfl
        · exact .inr ⟨outside.2, otherOutside.2⟩

end

end Matching

section Conversions

variable {ctx : SContext} {targets : Set Nat} {conversions : Conversions P}
  {memory : Memory P}

def TemporariesGranted (conversions : Conversions P) : Prop :=
  ∀ level index size, ∃ address, conversions.heapSlot level index size = some address

theorem slotOf_heap (ctx : SContext) (granted : TemporariesGranted conversions)
    (level index size : Nat) :
    ∃ address, conversions.heapSlot level index size = some address ∧
      slotOf (ctx.tempOn true) conversions level index size = pure address := by
  obtain ⟨address, found⟩ := granted level index size
  refine ⟨address, found, ?_⟩
  simp only [slotOf, SContext.tempOn, SContext.steered, if_true, found]

theorem ToVersion.convert_matches (granted : TemporariesGranted conversions)
    {serialize otherSerialize : (older : TopStruct P) → older.type.Obj → Nat → SProc Unit}
    (serializeMatches : ∀ older : TopStruct P,
      MatchingEach targets ctx older.type (serialize older) (otherSerialize older))
    {targetVersion level : Nat} : {source : Ty P} → (chain : ToVersion P source) →
    ToVersion.Keeps targets chain → {index : Nat} →
    (ctx.data.checkRecursivePointers = true →
      ToVersion.Apart targets conversions level chain index) →
    {object : source.Obj} → source.PointsInto targets object →
    Matches (Agree targets ctx)
      (chain.convert (ctx.tempOn true) conversions serialize targetVersion level object index)
      (chain.convert (ctx.tempOn false) conversions otherSerialize targetVersion level object
        index)
  | _, .nil, _, _, _, _, _ => fail_matches _
  | _, .cons older init rest, keeps, index, apart, object, inside => by
      obtain ⟨address, found, slot⟩ := slotOf_heap ctx granted level index
        older.type.sizeof
      have stack : slotOf (ctx.tempOn false) conversions level index older.type.sizeof =
          pure (conversions.stackSlot level index older.type.sizeof) := rfl
      simp only [ToVersion.convert, slot, stack, pure_bind]
      cases initialized : init object with
      | error status => exact fail_matches status
      | ok value =>
          have insideValue := keeps.1 object value inside initialized
          refine .ite (fun _ => ?_) fun _ => ?_
          · exact ToVersion.convert_matches granted serializeMatches rest keeps.2
              (fun checked => (apart checked).2.2) insideValue
          · refine serializeMatches older value _ _ insideValue fun checked => .inr ?_
            exact ⟨(apart checked).1 address found, (apart checked).2.1⟩

theorem toOldStructIfNeed_matches (granted : TemporariesGranted conversions)
    (undisturbed : Undisturbed targets ctx conversions memory)
    {serialize otherSerialize : (older : TopStruct P) → older.type.Obj → Nat → SProc Unit}
    (serializeMatches : ∀ older : TopStruct P,
      MatchingEach targets ctx older.type (serialize older) (otherSerialize older))
    {level : Nat} {decl : StructDecl} {fields : Fields P}
    {object : (Ty.struct decl fields).Obj}
    (inside : (Ty.struct decl fields).PointsInto targets object) :
    Matches (Agree targets ctx)
      (toOldStructIfNeed (ctx.tempOn true) conversions serialize level decl fields object)
      (toOldStructIfNeed (ctx.tempOn false) conversions otherSerialize level decl fields
        object) := by
  unfold toOldStructIfNeed
  cases declared : decl.iSerializable with
  | none => exact .pure _
  | some versioning =>
      refine .ite (fun _ => .pure _) fun _ => .ite (fun _ => .pure _) fun _ => ?_
      unfold toOldStruct
      cases found : conversions.toOldStruct decl fields with
      | none => exact .pure _
      | some chain =>
          refine Matches.bind ?_ fun _ => .pure _
          exact ToVersion.convert_matches granted serializeMatches chain
            (undisturbed.inits decl fields chain found)
            (fun checked => undisturbed.temporaries checked decl fields chain found level)
            inside

/-- With temporaries on the heap and with temporaries on the stack, everything
that is behind a pointer or in an older form is written alike. -/
theorem ofMemory_matches (granted : TemporariesGranted conversions)
    (undisturbed : Undisturbed targets ctx conversions memory) (fuel : Nat) :
    MatchingHandlers targets ctx
      (SHandlers.ofMemory (ctx.tempOn true) conversions memory fuel)
      (SHandlers.ofMemory (ctx.tempOn false) conversions memory fuel) := by
  induction fuel with
  | zero =>
      refine ⟨fun _ _ _ => .throw _, fun decl fields object inside => ?_⟩
      exact toOldStructIfNeed_matches granted undisturbed (fun _ _ _ _ _ _ => .throw _) inside
  | succ fuel ih =>
      have each (type : Ty P) : MatchingEach targets ctx type
          (BodyProcessor.serialize (ctx.tempOn true)
            (SHandlers.ofMemory (ctx.tempOn true) conversions memory fuel) type)
          (BodyProcessor.serialize (ctx.tempOn false)
            (SHandlers.ofMemory (ctx.tempOn false) conversions memory fuel) type) := by
        intro object address otherAddress inside places
        rw [serialize_tempOn, serialize_tempOn]
        exact serialize_matches ih type object address otherAddress inside places
      refine ⟨fun pointee address member => ?_, fun decl fields object inside => ?_⟩
      · simp only [SHandlers.ofMemory, serializePointee]
        cases found : memory.object pointee address with
        | none => exact .throw _
        | some object =>
            exact each _ object address address
              (undisturbed.memory pointee address object member found) fun _ => .inl rfl
      · exact toOldStructIfNeed_matches granted undisturbed (fun older => each older.type)
          inside

end Conversions

end CommonSerialization.Csp
