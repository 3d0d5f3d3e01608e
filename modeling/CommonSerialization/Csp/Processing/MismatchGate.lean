import CommonSerialization.Csp.Processing.DownwardConversion
import CommonSerialization.Csp.Processing.FlagEnforcement

namespace CommonSerialization.Csp

open BodyProcessor VersionConverter StateExcept

/-! The header decides for a whole message whether structs have to be looked at
for older forms. -/

section Rule

variable (pointeeVersion : P → Nat)

mutual

/-- The greatest interface version in a type. -/
def Ty.interfaceVersion : Ty P → Nat
  | .scalar _ => 0
  | .pointer _ pointee => pointeeVersion pointee
  | .array element _ => element.interfaceVersion
  | .container _ _ element => element.interfaceVersion
  | .struct decl fields =>
      match decl.iSerializable with
      | some versioning => versioning.kInterfaceVersion
      | none => fields.interfaceVersion

def Fields.interfaceVersion : Fields P → Nat
  | .nil => 0
  | .cons _ field rest => max field.interfaceVersion rest.interfaceVersion

end

variable (pointed : Set P)

mutual

/-- The rule for `kInterfaceVersion`, in every struct of a type; pointers lead to
types in a set. -/
def Ty.Ruled : Ty P → Prop
  | .scalar _ => True
  | .pointer _ pointee => pointee ∈ pointed
  | .array element _ => element.Ruled
  | .container _ _ element => element.Ruled
  | .struct decl fields => fields.Ruled ∧
      ∀ versioning, decl.iSerializable = some versioning →
        versioning.kPrivateVersions ≠ [] ∧
          versioning.kInterfaceVersion =
            max (getLatestPrivateVersion versioning)
              (fields.interfaceVersion pointeeVersion)

def Fields.Ruled : Fields P → Prop
  | .nil => True
  | .cons _ field rest => field.Ruled ∧ rest.Ruled

end

variable (dataFlags : Context.DataFlags)

mutual

def Ty.Accepts : Ty P → Prop
  | .scalar _ | .pointer _ _ => True
  | .array element _ => element.Accepts
  | .container _ _ element => element.Accepts
  | .struct decl fields => fields.Accepts ∧
      ∀ versioning, decl.iSerializable = some versioning → Suits dataFlags versioning

def Fields.Accepts : Fields P → Prop
  | .nil => True
  | .cons _ field rest => field.Accepts ∧ rest.Accepts

end

/-- The rule in a type and in everything that can be reached from it through
pointers. -/
structure RuledTree (pointeeType : P → Ty P) (type : Ty P) : Prop where
  type : type.Ruled pointeeVersion pointed
  pointee : ∀ pointee ∈ pointed, (pointeeType pointee).Ruled pointeeVersion pointed
  version : ∀ pointee ∈ pointed,
    (pointeeType pointee).interfaceVersion pointeeVersion = pointeeVersion pointee

structure AcceptingTree (pointeeType : P → Ty P) (type : Ty P) : Prop where
  type : type.Accepts dataFlags
  pointee : ∀ pointee ∈ pointed, (pointeeType pointee).Accepts dataFlags

end Rule

section Structs

variable {pointeeVersion : P → Nat} {pointed : Set P} {interfaceVersion : Nat}

/-- A version that knows everything in a struct knows its latest form. -/
theorem Ty.Ruled.latest {decl : StructDecl} {fields : Fields P} {versioning : Versioning}
    (ruled : (Ty.struct decl fields).Ruled pointeeVersion pointed)
    (declared : decl.iSerializable = some versioning)
    (known : (Ty.struct decl fields).interfaceVersion pointeeVersion ≤ interfaceVersion) :
    getBestCompatInterfaceVersion versioning interfaceVersion =
      getLatestPrivateVersion versioning := by
  obtain ⟨listed, maximum⟩ := ruled.2 versioning declared
  simp only [Ty.interfaceVersion, declared, maximum] at known
  exact getBestCompatInterfaceVersion_of_latest listed (Nat.le_trans (Nat.le_max_left _ _) known)

theorem Ty.Ruled.members {decl : StructDecl} {fields : Fields P}
    (ruled : (Ty.struct decl fields).Ruled pointeeVersion pointed)
    (known : (Ty.struct decl fields).interfaceVersion pointeeVersion ≤ interfaceVersion) :
    fields.interfaceVersion pointeeVersion ≤ interfaceVersion := by
  cases declared : decl.iSerializable with
  | none =>
      simp only [Ty.interfaceVersion, declared] at known
      exact known
  | some versioning =>
      obtain ⟨_, maximum⟩ := ruled.2 versioning declared
      simp only [Ty.interfaceVersion, declared, maximum] at known
      exact Nat.le_trans (Nat.le_max_right _ _) known

end Structs

section Serialize

variable {pointeeVersion : P → Nat} {pointed : Set P}

/-- The context in which every struct is looked at for older forms. -/
def SContext.forced (ctx : SContext) : SContext :=
  ctx.steered ctx.data.isHeapUsedForTemp true

variable {ctx : SContext}

/-- What pointers lead to is written alike; a struct in its latest form is left
alone. -/
structure GatedHandlers (pointeeVersion : P → Nat) (pointed : Set P) (ctx : SContext)
    (handlers forced : SHandlers P) : Prop where
  pointee : ∀ pointee ∈ pointed, pointeeVersion pointee ≤ ctx.data.interfaceVersion →
    handlers.pointee pointee = forced.pointee pointee
  latest : ∀ decl fields versioning object, decl.iSerializable = some versioning →
    getBestCompatInterfaceVersion versioning ctx.data.interfaceVersion =
        getLatestPrivateVersion versioning →
      forced.toOldStructIfNeed decl fields object = pure .noError

variable {handlers forced : SHandlers P}

theorem serializeCommon_forced (matches' : ctx.data.interfaceVersionsNotMatch = false)
    (gated : GatedHandlers pointeeVersion pointed ctx handlers forced) {decl : StructDecl} {fields : Fields P}
    (ruled : (Ty.struct decl fields).Ruled pointeeVersion pointed)
    (accepts : (Ty.struct decl fields).Accepts ctx.data.dataFlags)
    (known : (Ty.struct decl fields).interfaceVersion pointeeVersion ≤
      ctx.data.interfaceVersion) (object : (Ty.struct decl fields).Obj) :
    serializeCommon ctx.forced forced decl fields object =
      serializeCommon ctx handlers decl fields object := by
  unfold serializeCommon
  cases declared : decl.iSerializable with
  | none => rfl
  | some versioning =>
      have suits : statusSuccess
          (testDataFlagsCompatibility versioning ctx.forced.data.dataFlags) = true :=
        accepts.2 versioning declared
      have unchanged := gated.latest decl fields versioning object declared
        (ruled.latest declared known)
      have always : ctx.forced.data.interfaceVersionsNotMatch = true := rfl
      simp only [matches', always, unchanged, pure_bind, suits, if_true]
      rfl

mutual

/-- The gate changes nothing for a type all of whose structs the version knows. -/
theorem serialize_forced (matches' : ctx.data.interfaceVersionsNotMatch = false)
    (gated : GatedHandlers pointeeVersion pointed ctx handlers forced) :
    (type : Ty P) → type.Ruled pointeeVersion pointed →
    type.Accepts ctx.data.dataFlags →
    type.interfaceVersion pointeeVersion ≤ ctx.data.interfaceVersion →
    (object : type.Obj) → (address : Nat) →
    BodyProcessor.serialize ctx.forced forced type object address =
      BodyProcessor.serialize ctx handlers type object address
  | .scalar _, _, _, _, _, _ => rfl
  | .pointer _ pointee, ruled, _, known, object, _ => by
      have same := gated.pointee pointee ruled known
      simp only [BodyProcessor.serialize, serializePointer, same]
      rfl
  | .array element _, ruled, accepts, known, _, _ => by
      have each := funext₂ (serialize_forced matches' gated element ruled accepts known)
      simp only [BodyProcessor.serialize, each]
      exact serializeN_steered ctx _ _ _ _ _ _
  | .container kind _ element, ruled, accepts, known, _, _ => by
      have each := funext₂ (serialize_forced matches' gated element ruled accepts known)
      simp only [BodyProcessor.serialize, each]
      exact serializeTemplate_steered ctx _ _ kind _ _ _
  | .struct decl fields, ruled, accepts, known, object, address => by
      have inside := serializeFields_forced matches' gated fields ruled.1 accepts.1 (ruled.members known)
        object.1 address
      have common := serializeCommon_forced matches' gated ruled accepts known object
      simp only [BodyProcessor.serialize, inside, serializeStruct, common]
      rfl

theorem serializeFields_forced (matches' : ctx.data.interfaceVersionsNotMatch = false)
    (gated : GatedHandlers pointeeVersion pointed ctx handlers forced) :
    (fields : Fields P) →
    fields.Ruled pointeeVersion pointed → fields.Accepts ctx.data.dataFlags →
    fields.interfaceVersion pointeeVersion ≤ ctx.data.interfaceVersion →
    (objects : fields.Objs) → (address : Nat) →
    serializeFields ctx.forced forced fields objects address =
      serializeFields ctx handlers fields objects address
  | .nil, _, _, _, _, _ => rfl
  | .cons padding field rest, ruled, accepts, known, objects, address => by
      have first := serialize_forced matches' gated field ruled.1 accepts.1
        (Nat.le_trans (Nat.le_max_left _ _) known)
      have others := serializeFields_forced matches' gated rest ruled.2 accepts.2
        (Nat.le_trans (Nat.le_max_right _ _) known)
      simp only [serializeFields, first, others]

end

end Serialize

section SerializeTree

variable {pointeeVersion : P → Nat} {pointed : Set P} {conversions : Conversions P}
  {memory : Memory P} {type : Ty P} {ctx : SContext}

theorem ofMemory_latest {decl : StructDecl} {fields : Fields P} {versioning : Versioning}
    (declared : decl.iSerializable = some versioning)
    (latest : getBestCompatInterfaceVersion versioning ctx.data.interfaceVersion =
      getLatestPrivateVersion versioning) (fuel : Nat) (object : (Ty.struct decl fields).Obj) :
    (SHandlers.ofMemory ctx conversions memory fuel).toOldStructIfNeed decl fields object =
      pure .noError := by
  cases fuel <;>
  · simp only [SHandlers.ofMemory, toOldStructIfNeed, declared]
    exact if_pos latest

theorem ofMemory_gated
    (tree : RuledTree pointeeVersion pointed memory.pointeeType type)
    (accepting : AcceptingTree pointed ctx.data.dataFlags memory.pointeeType type)
    (matches' : ctx.data.interfaceVersionsNotMatch = false) (fuel : Nat) :
    GatedHandlers pointeeVersion pointed ctx (SHandlers.ofMemory ctx conversions memory fuel)
      (SHandlers.ofMemory ctx.forced conversions memory fuel) := by
  have latest (fuel : Nat) (decl : StructDecl) (fields : Fields P) (versioning : Versioning)
      (object : (Ty.struct decl fields).Obj) (declared : decl.iSerializable = some versioning)
      (known : getBestCompatInterfaceVersion versioning ctx.data.interfaceVersion =
        getLatestPrivateVersion versioning) :
      (SHandlers.ofMemory ctx.forced conversions memory fuel).toOldStructIfNeed decl fields
        object = pure .noError := by
    have here : getBestCompatInterfaceVersion versioning ctx.forced.data.interfaceVersion =
        getLatestPrivateVersion versioning := known
    exact ofMemory_latest declared here fuel object
  induction fuel with
  | zero => exact ⟨fun _ _ _ => rfl, latest 0⟩
  | succ fuel ih =>
      refine ⟨fun pointee member known => ?_, latest (fuel + 1)⟩
      have same := serialize_forced matches' ih (memory.pointeeType pointee)
        (tree.pointee pointee member) (accepting.pointee pointee member)
        (by rwa [tree.version pointee member])
      funext address
      simp only [SHandlers.ofMemory, serializePointee, same]

end SerializeTree

def DContext.forced (ctx : DContext P) : DContext P :=
  { ctx with data := { ctx.data with interfaceVersionsNotMatch := true } }

section Forced

variable (ctx : DContext P)

theorem deserializeElements_forced (type : Ty P) (each : type.Obj → Nat → DProc P type.Obj)
    (n address : Nat) :
    deserializeElements ctx.forced type each n address =
      deserializeElements ctx type each n address := by
  induction n generalizing address with
  | zero => rfl
  | succ n ih =>
      simp only [deserializeElements, ih]
      rfl

theorem deserializeEachFromAnotherSize_forced (originalTypeSize : Nat) (type : ScalarType)
    (n : Nat) :
    deserializeEachFromAnotherSize ctx.forced originalTypeSize type n =
      deserializeEachFromAnotherSize ctx originalTypeSize type n := by
  induction n with
  | zero => rfl
  | succ n ih =>
      simp only [deserializeEachFromAnotherSize, ih]
      rfl

theorem deserializeArrayCopy_forced (room : Nat) (type : Ty P) (targets : List type.Obj) :
    deserializeArrayCopy ctx.forced room type targets =
      deserializeArrayCopy ctx room type targets := by
  cases type with
  | scalar type =>
      have each (originalTypeSize : Nat) := funext
        (deserializeEachFromAnotherSize_forced ctx originalTypeSize type)
      simp only [deserializeArrayCopy, each]
      rfl
  | pointer size pointee => rfl
  | array element length => rfl
  | container kind size element => rfl
  | struct decl fields => rfl

theorem deserializeN_forced (type : Ty P) (each : type.Obj → Nat → DProc P type.Obj)
    (targets : List type.Obj) (room address : Nat) :
    deserializeN ctx.forced type each targets room address =
      deserializeN ctx type each targets room address := by
  simp only [deserializeN, deserializeArrayCopy_forced, deserializeElements_forced]
  rfl

theorem deserializeEach_forced (type : Ty P) (each : type.Obj → Nat → DProc P type.Obj)
    (n : Nat) (objects : List type.Obj) :
    deserializeEach ctx.forced type each n objects =
      deserializeEach ctx type each n objects := by
  induction n generalizing objects with
  | zero => rfl
  | succ n ih =>
      simp only [deserializeEach, ih]
      rfl

theorem deserializeTemplate_forced (kind : ContainerKind) (type : Ty P)
    (each : type.Obj → Nat → DProc P type.Obj) (storage : Storage) :
    deserializeTemplate ctx.forced kind type each storage =
      deserializeTemplate ctx kind type each storage := by
  cases kind <;>
    simp only [deserializeTemplate, deserializeN_forced, deserializeEach_forced] <;> rfl

end Forced

section Deserialize

variable {pointeeVersion : P → Nat} {pointed : Set P} {ctx : DContext P}

structure GatedDHandlers (pointeeVersion : P → Nat) (pointed : Set P) (ctx : DContext P)
    (handlers forced : DHandlers P) : Prop where
  pointee : ∀ pointee ∈ pointed, pointeeVersion pointee ≤ ctx.data.interfaceVersion →
    handlers.pointee pointee = forced.pointee pointee
  latest : ∀ decl fields versioning object address, decl.iSerializable = some versioning →
    getBestCompatInterfaceVersion versioning ctx.data.interfaceVersion =
        getLatestPrivateVersion versioning →
      forced.fromOldStructIfNeed decl fields object address = pure (.noError, object)

variable {handlers forced : DHandlers P} {pointeeType : P → Ty P}

theorem deserializeCommon_forced (matches' : ctx.data.interfaceVersionsNotMatch = false)
    (gated : GatedDHandlers pointeeVersion pointed ctx handlers forced) {decl : StructDecl}
    {fields : Fields P} (ruled : (Ty.struct decl fields).Ruled pointeeVersion pointed)
    (accepts : (Ty.struct decl fields).Accepts ctx.data.dataFlags)
    (known : (Ty.struct decl fields).interfaceVersion pointeeVersion ≤
      ctx.data.interfaceVersion) (target : (Ty.struct decl fields).Obj) (address : Nat) :
    deserializeCommon ctx.forced forced decl fields target address =
      deserializeCommon ctx handlers decl fields target address := by
  unfold deserializeCommon
  cases declared : decl.iSerializable with
  | none => rfl
  | some versioning =>
      have suits : statusSuccess
          (testDataFlagsCompatibility versioning ctx.forced.data.dataFlags) = true :=
        accepts.2 versioning declared
      have unchanged := gated.latest decl fields versioning target address declared
        (ruled.latest declared known)
      have always : ctx.forced.data.interfaceVersionsNotMatch = true := rfl
      simp only [matches', always, unchanged, pure_bind, suits, if_true]
      rfl

mutual

theorem deserialize_forced (matches' : ctx.data.interfaceVersionsNotMatch = false)
    (gated : GatedDHandlers pointeeVersion pointed ctx handlers forced) :
    (type : Ty P) → type.Ruled pointeeVersion pointed → type.Accepts ctx.data.dataFlags →
    type.interfaceVersion pointeeVersion ≤ ctx.data.interfaceVersion →
    (target : type.Obj) → (address : Nat) →
    BodyProcessor.deserialize ctx.forced pointeeType forced type target address =
      BodyProcessor.deserialize ctx pointeeType handlers type target address
  | .scalar _, _, _, _, _, _ => rfl
  | .pointer _ pointee, ruled, _, known, _, _ => by
      have same := gated.pointee pointee ruled known
      simp only [BodyProcessor.deserialize, deserializePointer, same]
      rfl
  | .array element _, ruled, accepts, known, _, _ => by
      have each := funext₂ (deserialize_forced matches' gated element ruled accepts known)
      simp only [BodyProcessor.deserialize, each, deserializeN_forced]
  | .container kind _ element, ruled, accepts, known, _, _ => by
      have each := funext₂ (deserialize_forced matches' gated element ruled accepts known)
      simp only [BodyProcessor.deserialize, each, deserializeTemplate_forced]
  | .struct decl fields, ruled, accepts, known, target, address => by
      have inside := deserializeFields_forced matches' gated fields ruled.1 accepts.1
        (ruled.members known) target.1 address
      have common := deserializeCommon_forced matches' gated ruled accepts known target address
      simp only [BodyProcessor.deserialize, inside, deserializeStruct, common]
      rfl

theorem deserializeFields_forced (matches' : ctx.data.interfaceVersionsNotMatch = false)
    (gated : GatedDHandlers pointeeVersion pointed ctx handlers forced) :
    (fields : Fields P) → fields.Ruled pointeeVersion pointed →
    fields.Accepts ctx.data.dataFlags →
    fields.interfaceVersion pointeeVersion ≤ ctx.data.interfaceVersion →
    (targets : fields.Objs) → (address : Nat) →
    deserializeFields ctx.forced pointeeType forced fields targets address =
      deserializeFields ctx pointeeType handlers fields targets address
  | .nil, _, _, _, _, _ => rfl
  | .cons padding field rest, ruled, accepts, known, targets, address => by
      have first := deserialize_forced matches' gated field ruled.1 accepts.1
        (Nat.le_trans (Nat.le_max_left _ _) known)
      have others := deserializeFields_forced matches' gated rest ruled.2 accepts.2
        (Nat.le_trans (Nat.le_max_right _ _) known)
      simp only [deserializeFields, first, others]

end

end Deserialize

section DeserializeTree

variable {pointeeVersion : P → Nat} {pointed : Set P} {conversions : Conversions P}
  {pointeeType : P → Ty P} {type : Ty P} {ctx : DContext P}

theorem ofTypes_latest {decl : StructDecl} {fields : Fields P} {versioning : Versioning}
    (declared : decl.iSerializable = some versioning)
    (latest : getBestCompatInterfaceVersion versioning ctx.data.interfaceVersion =
      getLatestPrivateVersion versioning) (fuel : Nat) (target : (Ty.struct decl fields).Obj)
    (address : Nat) :
    (DHandlers.ofTypes ctx conversions pointeeType fuel).fromOldStructIfNeed decl fields target
      address = pure (.noError, target) := by
  cases fuel <;>
  · simp only [DHandlers.ofTypes, fromOldStructIfNeed, declared]
    exact if_pos latest

theorem ofTypes_gated (tree : RuledTree pointeeVersion pointed pointeeType type)
    (accepting : AcceptingTree pointed ctx.data.dataFlags pointeeType type)
    (matches' : ctx.data.interfaceVersionsNotMatch = false) (fuel : Nat) :
    GatedDHandlers pointeeVersion pointed ctx (DHandlers.ofTypes ctx conversions pointeeType fuel)
      (DHandlers.ofTypes ctx.forced conversions pointeeType fuel) := by
  have latest (fuel : Nat) (decl : StructDecl) (fields : Fields P) (versioning : Versioning)
      (target : (Ty.struct decl fields).Obj) (address : Nat)
      (declared : decl.iSerializable = some versioning)
      (known : getBestCompatInterfaceVersion versioning ctx.data.interfaceVersion =
        getLatestPrivateVersion versioning) :
      (DHandlers.ofTypes ctx.forced conversions pointeeType fuel).fromOldStructIfNeed decl
        fields target address = pure (.noError, target) := by
    have here : getBestCompatInterfaceVersion versioning ctx.forced.data.interfaceVersion =
        getLatestPrivateVersion versioning := known
    exact ofTypes_latest declared here fuel target address
  induction fuel with
  | zero => exact ⟨fun _ _ _ => rfl, latest 0⟩
  | succ fuel ih =>
      refine ⟨fun pointee member known => ?_, latest (fuel + 1)⟩
      have reached : (pointeeType pointee).interfaceVersion pointeeVersion ≤
          ctx.data.interfaceVersion := by rwa [tree.version pointee member]
      have same : ∀ target address, BodyProcessor.deserialize ctx.forced pointeeType _ _ target
          address = BodyProcessor.deserialize ctx pointeeType _ _ target address :=
        deserialize_forced matches' ih (pointeeType pointee) (tree.pointee pointee member)
          (accepting.pointee pointee member) reached
      funext address
      simp only [DHandlers.ofTypes, deserializePointee, same]
      rfl

end DeserializeTree

section Message

namespace ISerializable

/-- `serialize` with every struct looked at for older forms. -/
def serializeForced (ctx : SContext) (handlers : SContext → SHandlers P) (top : TopStruct P)
    (object : top.type.Obj) (address : Nat) : SProc Unit := do
  let data ← serializeHeader ctx top
  let bodyContext : SContext := SContext.forced { ctx with data := data }
  BodyProcessor.serialize bodyContext (handlers bodyContext) top.type object address

def deserializeForced (ctx : DContext P) (pointeeType : P → Ty P)
    (handlers : DContext P → DHandlers P) (top : TopStruct P) (addedPointers : Bool)
    (target : top.type.Obj) (address : Nat) : DProc P top.type.Obj := do
  let data ← deserializeHeader ctx top addedPointers
  let bodyContext : DContext P := DContext.forced { ctx with data := data }
  BodyProcessor.deserialize bodyContext pointeeType (handlers bodyContext) top.type target
    address

end ISerializable

variable {top : TopStruct P} {data : Context.Data}

/-- Where the gate is closed the version knows the whole top struct. -/
theorem Data.noteInterfaceVersions_known
    (closed : (Data.noteInterfaceVersions data top).interfaceVersionsNotMatch = false) :
    top.getLatestInterfaceVersion ≤ (Data.noteInterfaceVersions data top).interfaceVersion := by
  have unchanged := Data.noteInterfaceVersions_of_match closed
  rw [Data.noteInterfaceVersions_notMatch] at closed
  rw [unchanged]
  simpa using (Bool.or_eq_false_iff.mp closed).2

theorem noted_of_deserializeHeader {ctx : DContext P} {addedPointers : Bool}
    {before after : DState P}
    (ran : ISerializable.deserializeHeader ctx top addedPointers before = .ok data after) :
    ∃ read, data = Data.noteInterfaceVersions read top := by
  obtain ⟨common, _, _, ran⟩ := bind_eq_ok ran
  obtain ⟨⟨id, read⟩, _, _, ran⟩ := bind_eq_ok ran
  obtain ⟨_, _, _, ran⟩ := bind_eq_ok ran
  refine ⟨read, ?_⟩
  unfold Data.deserializePostprocessRest at ran
  simp only at ran
  repeat' split at ran
  all_goals cases ran
  rfl

theorem interfaceVersion_top (pointeeVersion : P → Nat) :
    top.type.interfaceVersion pointeeVersion = top.getLatestInterfaceVersion := by
  simp only [Ty.interfaceVersion, top.declared]
  rfl

theorem SContext.forced_of_notMatch {ctx : SContext}
    (noted : ctx.data.interfaceVersionsNotMatch = true) : ctx.forced = ctx := by
  unfold SContext.forced SContext.steered
  rw [← noted]

theorem DContext.forced_of_notMatch {ctx : DContext P}
    (noted : ctx.data.interfaceVersionsNotMatch = true) : ctx.forced = ctx := by
  unfold DContext.forced
  rw [← noted]

section Bodies

variable {pointeeVersion : P → Nat} {pointed : Set P} {conversions : Conversions P}

theorem serializeBody_forced (ctx : SContext) {memory : Memory P}
    (tree : RuledTree pointeeVersion pointed memory.pointeeType top.type)
    (accepting : AcceptingTree pointed ctx.data.dataFlags memory.pointeeType top.type)
    (known : ctx.data.interfaceVersionsNotMatch = false →
      top.getLatestInterfaceVersion ≤ ctx.data.interfaceVersion)
    (fuel : Nat) (object : top.type.Obj) (address : Nat) :
    BodyProcessor.serialize ctx (SHandlers.ofMemory ctx conversions memory fuel) top.type object
        address =
      BodyProcessor.serialize ctx.forced (SHandlers.ofMemory ctx.forced conversions memory fuel)
        top.type object address := by
  cases noted : ctx.data.interfaceVersionsNotMatch with
  | true => rw [SContext.forced_of_notMatch noted]
  | false =>
      refine (serialize_forced noted (ofMemory_gated tree accepting noted fuel) top.type
        tree.type accepting.type ?_ object address).symm
      rw [interfaceVersion_top]
      exact known noted

theorem deserializeBody_forced (ctx : DContext P) {pointeeType : P → Ty P}
    (tree : RuledTree pointeeVersion pointed pointeeType top.type)
    (accepting : AcceptingTree pointed ctx.data.dataFlags pointeeType top.type)
    (known : ctx.data.interfaceVersionsNotMatch = false →
      top.getLatestInterfaceVersion ≤ ctx.data.interfaceVersion)
    (fuel : Nat) (target : top.type.Obj) (address : Nat) :
    BodyProcessor.deserialize ctx pointeeType
        (DHandlers.ofTypes ctx conversions pointeeType fuel) top.type target address =
      BodyProcessor.deserialize ctx.forced pointeeType
        (DHandlers.ofTypes ctx.forced conversions pointeeType fuel) top.type target address := by
  cases noted : ctx.data.interfaceVersionsNotMatch with
  | true => rw [DContext.forced_of_notMatch noted]
  | false =>
      refine (deserialize_forced noted (ofTypes_gated tree accepting noted fuel) top.type
        tree.type accepting.type ?_ target address).symm
      rw [interfaceVersion_top]
      exact known noted

end Bodies

/-- The one boolean that the header sets is sound for a whole tree of structs
that keeps the rule for `kInterfaceVersion`. -/
theorem mismatchGate_sound (conversions : Conversions P) (memory : Memory P)
    (top : TopStruct P) {pointeeVersion : P → Nat} {pointed : Set P}
    (tree : RuledTree pointeeVersion pointed memory.pointeeType top.type) (fuel : Nat) :
    (∀ (ctx : SContext) (object : top.type.Obj) (address : Nat),
      AcceptingTree pointed ctx.data.dataFlags memory.pointeeType top.type →
        ISerializable.serialize ctx
            (fun ctx => SHandlers.ofMemory ctx conversions memory fuel) top object address =
          ISerializable.serializeForced ctx
            (fun ctx => SHandlers.ofMemory ctx conversions memory fuel) top object address) ∧
      ∀ (ctx : DContext P) (addedPointers : Bool) (target : top.type.Obj) (address : Nat)
        (state : DState P),
        (∀ data after, ISerializable.deserializeHeader ctx top addedPointers state =
          .ok data after →
            AcceptingTree pointed data.dataFlags memory.pointeeType top.type) →
          ISerializable.deserialize ctx memory.pointeeType
              (fun ctx => DHandlers.ofTypes ctx conversions memory.pointeeType fuel) top
              addedPointers target address state =
            ISerializable.deserializeForced ctx memory.pointeeType
              (fun ctx => DHandlers.ofTypes ctx conversions memory.pointeeType fuel) top
              addedPointers target address state := by
  refine ⟨fun ctx object address accepting => funext fun state => ?_,
    fun ctx addedPointers target address state accepting => ?_⟩
  · unfold ISerializable.serialize ISerializable.serializeForced
    cases ran : ISerializable.serializeHeader ctx top state with
    | error fault after => rw [bind_of_error ran, bind_of_error ran]
    | ok data after =>
        rw [bind_of_ok ran, bind_of_ok ran]
        obtain ⟨_, rfl⟩ := encodable_of_serializeHeader ran
        have flags : (bodyData ctx.data top).dataFlags = ctx.data.dataFlags :=
          bodyData_dataFlags ctx.data
        exact congrFun (serializeBody_forced { ctx with data := bodyData ctx.data top } tree
          (flags ▸ accepting) Data.noteInterfaceVersions_known fuel object address) after
  · unfold ISerializable.deserialize ISerializable.deserializeForced
    cases ran : ISerializable.deserializeHeader ctx top addedPointers state with
    | error fault after => rw [bind_of_error ran, bind_of_error ran]
    | ok data after =>
        rw [bind_of_ok ran, bind_of_ok ran]
        obtain ⟨read, rfl⟩ := noted_of_deserializeHeader ran
        exact congrFun (deserializeBody_forced
          { ctx with data := Data.noteInterfaceVersions read top } tree
          (accepting _ after ran) Data.noteInterfaceVersions_known fuel target address) after

section Letter

private def sealTy : Ty Empty :=
  .struct ⟨1, .none, 4, 0, some ⟨2, [2, 1], 0, 0⟩, .fieldByField .common⟩
    (.cons 0 (.scalar (.integral .unsignedInt .four false)) .nil)

private def letterVersioning : Versioning := ⟨2, [1], 0, 0⟩

private def letter : TopStruct Empty where
  kId := .ofNat 2
  interface := ⟨.kNull, 2, .ofUInt32 0, .ofUInt32 0⟩
  decl := ⟨2, .none, 4, 0, some letterVersioning, .fieldByField .common⟩
  fields := .cons 0 (.array sealTy 3) .nil
  versioning := letterVersioning
  declared := rfl

private theorem ruledTree_letter :
    RuledTree Empty.elim ∅ Empty.elim letter.type where
  type := by
    refine ⟨⟨⟨⟨trivial, trivial⟩, ?_⟩, trivial⟩, ?_⟩ <;>
    · rintro _ ⟨⟩
      exact ⟨by decide, by decide⟩
  pointee := nofun
  version := nofun

private theorem acceptingTree_letter :
    AcceptingTree ∅ (.ofUInt32 0) Empty.elim letter.type where
  type := by
    refine ⟨⟨⟨⟨trivial, trivial⟩, ?_⟩, trivial⟩, ?_⟩ <;>
    · rintro _ ⟨⟩
      decide
  pointee := nofun

private def letterContext : SContext :=
  .unbounded
    { platform := ⟨false, false⟩
      protocolVersion := 1
      messageType := .data
      commonFlags := .ofUInt32 0
      dataFlags := .ofUInt32 0
      interfaceVersion := 2
      interfaceVersionsNotMatch := false
      isHeapUsedForTemp := true }

private def letterConversions : Conversions Empty where
  toOldStruct _ _ := none
  fromOldStruct _ _ := none
  heapSlot _ _ _ := none
  stackSlot _ _ _ := 0

private def letterObject : letter.type.Obj :=
  ((nofun, fun index => ((nofun, BitVec.ofNat 32 index, ()), nofun), ()), nofun)

theorem mismatchGate_sound_letter :
    ISerializable.serialize letterContext
        (fun ctx => SHandlers.ofMemory ctx letterConversions ⟨Empty.elim, nofun⟩ 1) letter
        letterObject 0 =
      ISerializable.serializeForced letterContext
        (fun ctx => SHandlers.ofMemory ctx letterConversions ⟨Empty.elim, nofun⟩ 1) letter
        letterObject 0 :=
  (mismatchGate_sound letterConversions ⟨Empty.elim, nofun⟩ letter ruledTree_letter 1).1
    letterContext letterObject 0 acceptingTree_letter

end Letter

end Message

end CommonSerialization.Csp
