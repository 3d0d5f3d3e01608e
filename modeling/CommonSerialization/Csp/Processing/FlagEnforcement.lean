import CommonSerialization.Csp.Processing.Delivery
import CommonSerialization.Csp.Processing.HeaderExchange
import CommonSerialization.Csp.Processing.Sending
import CommonSerialization.Csp.Processing.VersionConverter

namespace CommonSerialization.Csp

open BodyProcessor VersionConverter StateExcept

/-! Where the data flags that a struct demands or forbids are looked at. -/

def Suits (dataFlags : Context.DataFlags) (versioning : Versioning) : Prop :=
  statusSuccess (testDataFlagsCompatibility versioning dataFlags)

instance : Decidable (Suits dataFlags versioning) :=
  inferInstanceAs (Decidable (_ = true))

section Forms

variable (data : Context.Data)

def inLatestForm (versioning : Versioning) : Prop :=
  data.interfaceVersionsNotMatch = true →
    getBestCompatInterfaceVersion versioning data.interfaceVersion =
      getLatestPrivateVersion versioning

def reachesFields (decl : StructDecl) (fields : Fields P) : Prop :=
  match decl.function with
  | .generic => False
  | .fieldByField .none => True
  | .fieldByField .anySimplyAssignable => copiesStruct data (.struct decl fields) = false
  | .fieldByField .common =>
      copiesStruct data (.struct decl fields) = false ∧
        ∀ versioning, decl.iSerializable = some versioning → inLatestForm data versioning

end Forms

section Encode

def members : (fields : Fields P) → fields.Objs → List (Σ type : Ty P, type.Obj)
  | .nil, _ => []
  | .cons _ field rest, objects => ⟨field, objects.2.1⟩ :: members rest objects.2.2

def ToVersion.form (targetVersion : Nat) : {source : Ty P} → ToVersion P source →
    source.Obj → Option (Σ older : TopStruct P, older.type.Obj)
  | _, .nil, _ => none
  | _, .cons older init rest, object =>
      match init object with
      | .error _ => none
      | .ok value =>
          if targetVersion < getLatestPrivateVersion older.versioning then
            form targetVersion rest value
          else
            some ⟨older, value⟩

/-- The elements that a container serializes one by one. -/
def looped (data : Context.Data) (kind : ContainerKind) (type : Ty P)
    (objects : List type.Obj) : List type.Obj :=
  match kind with
  | .vectorT | .stdVector =>
      if type.emptyType || copiesArray data type then [] else objects
  | .stdBasicString =>
      if type.emptyType || copiesArray data type then [] else objects ++ terminator type
  | .stdMap => objects

variable (data : Context.Data) (conversions : Conversions P)

/-- A struct whose function starts with `CSP_SERIALIZE_COMMON` is encoded with an
object: as the object itself, in it, or in an older form of it. -/
inductive Encodes : (type : Ty P) → type.Obj → Versioning → Prop
  | self {decl : StructDecl} {fields : Fields P} {object : (Ty.struct decl fields).Obj}
      {versioning : Versioning} (function : decl.function = .fieldByField .common)
      (declared : decl.iSerializable = some versioning)
      (latest : inLatestForm data versioning) :
      Encodes (.struct decl fields) object versioning
  | older {decl : StructDecl} {fields : Fields P} {object : (Ty.struct decl fields).Obj}
      {own versioning : Versioning} {chain : ToVersion P (.struct decl fields)}
      {older : TopStruct P} {value : older.type.Obj}
      (function : decl.function = .fieldByField .common)
      (declared : decl.iSerializable = some own)
      (converted : ¬inLatestForm data own)
      (found : conversions.toOldStruct decl fields = some chain)
      (form : ToVersion.form
        (getBestCompatInterfaceVersion own data.interfaceVersion) chain object =
          some ⟨older, value⟩)
      (inside : Encodes older.type value versioning) :
      Encodes (.struct decl fields) object versioning
  | member {decl : StructDecl} {fields : Fields P} {object : (Ty.struct decl fields).Obj}
      {versioning : Versioning} {type : Ty P} {part : type.Obj}
      (reaches : reachesFields data decl fields)
      (listed : ⟨type, part⟩ ∈ members fields object.1)
      (inside : Encodes type part versioning) :
      Encodes (.struct decl fields) object versioning
  | element {type : Ty P} {length : Nat} {object : (Ty.array type length).Obj}
      {versioning : Versioning} {part : type.Obj}
      (listed : part ∈ looped data .vectorT type (List.ofFn object))
      (inside : Encodes type part versioning) :
      Encodes (.array type length) object versioning
  | item {kind : ContainerKind} {size : Nat} {type : Ty P}
      {object : (Ty.container kind size type).Obj} {versioning : Versioning}
      {part : type.Obj} (listed : part ∈ looped data kind type object.2)
      (inside : Encodes type part versioning) :
      Encodes (.container kind size type) object versioning

end Encode

section Serialize

variable {ctx : SContext}

theorem serializeElements_calls {size : Nat} {each : α → Nat → SProc Unit}
    {objects : List α} : ∀ {address : Nat} {before after : SState},
    serializeElements ctx size each objects address before = .ok () after →
      ∀ object ∈ objects, ∃ address before after, each object address before = .ok () after := by
  induction objects with
  | nil => simp
  | cons head rest induction =>
      intro address before after ran object member
      have both : ∃ noted, (do
          each head address
          serializeElements ctx size each rest (address + size)) noted = .ok () after := by
        simp only [serializeElements] at ran
        split at ran
        · obtain ⟨_, noted, _, ran⟩ := bind_eq_ok ran
          exact ⟨noted, ran⟩
        · exact ⟨before, ran⟩
      obtain ⟨noted, ran⟩ := both
      obtain ⟨_, middle, headRan, restRan⟩ := bind_eq_ok ran
      rcases List.mem_cons.mp member with rfl | inRest
      · exact ⟨_, _, _, headRan⟩
      · exact induction restRan object inRest

theorem serializeEach_calls {size : Nat} {each : α → Nat → SProc Unit}
    {objects : List α} : ∀ {address : Nat} {before after : SState},
    serializeEach size each objects address before = .ok () after →
      ∀ object ∈ objects, ∃ address before after, each object address before = .ok () after := by
  induction objects with
  | nil => simp
  | cons head rest induction =>
      intro address before after ran object member
      unfold serializeEach at ran
      obtain ⟨_, middle, headRan, restRan⟩ := bind_eq_ok ran
      rcases List.mem_cons.mp member with rfl | inRest
      · exact ⟨_, _, _, headRan⟩
      · exact induction restRan object inRest

theorem serializeN_calls {type : Ty P} {each : type.Obj → Nat → SProc Unit}
    {objects : List type.Obj} {address : Nat} {before after : SState}
    (ran : serializeN ctx type each objects address before = .ok () after) :
    ∀ object ∈ looped ctx.data .vectorT type objects,
      ∃ address before after, each object address before = .ok () after := by
  intro object member
  unfold looped at member
  simp only at member
  split at member
  · cases member
  · rename_i loops
    simp only [Bool.or_eq_true, not_or] at loops
    unfold serializeN at ran
    rw [if_neg loops.1, if_neg loops.2] at ran
    exact serializeElements_calls ran object member

theorem serializeTemplate_calls {kind : ContainerKind} {type : Ty P}
    {each : type.Obj → Nat → SProc Unit} {value : Storage × List type.Obj}
    {before after : SState}
    (ran : serializeTemplate ctx kind type each value before = .ok () after) :
    ∀ object ∈ looped ctx.data kind type value.2,
      ∃ address before after, each object address before = .ok () after := by
  obtain ⟨_, middle, _, ran⟩ := bind_eq_ok ran
  cases kind with
  | vectorT | stdVector => exact serializeN_calls ran
  | stdBasicString => exact serializeN_calls ran
  | stdMap => exact serializeEach_calls ran

theorem serializeFields_calls {handlers : SHandlers P} : (fields : Fields P) →
    (objects : fields.Objs) → {address : Nat} → {before after : SState} →
    serializeFields ctx handlers fields objects address before = .ok () after →
      ∀ place ∈ members fields objects, ∃ address before after,
        serialize ctx handlers place.1 place.2 address before = .ok () after
  | .nil, _, _, _, _, _, place, member => by cases member
  | .cons padding field rest, objects, address, before, after, ran, place, member => by
      simp only [serializeFields] at ran
      obtain ⟨_, middle, fieldRan, restRan⟩ := bind_eq_ok ran
      rcases List.mem_cons.mp member with rfl | inRest
      · exact ⟨_, _, _, fieldRan⟩
      · exact serializeFields_calls rest objects.2.2 restRan place inRest

theorem ToVersion.convert_calls {conversions : Conversions P}
    {serialize : (older : TopStruct P) → older.type.Obj → Nat → SProc Unit}
    {targetVersion level : Nat} : {source : Ty P} → (chain : ToVersion P source) →
    (object : source.Obj) → {index : Nat} → {before after : SState} →
    chain.convert ctx conversions serialize targetVersion level object index before =
        .ok () after →
      ∃ older value, ToVersion.form targetVersion chain object = some ⟨older, value⟩ ∧
        ∃ address before, serialize older value address before = .ok () after
  | _, .nil, _, _, _, _, ran => by cases ran
  | _, .cons older init rest, object, index, before, after, ran => by
      simp only [ToVersion.convert] at ran
      obtain ⟨address, placed, _, ran⟩ := bind_eq_ok ran
      obtain ⟨value, made, initRan, ran⟩ := bind_eq_ok ran
      have initialized : init object = .ok value := by
        cases outcome : init object with
        | error status =>
            rw [outcome] at initRan
            cases initRan
        | ok result =>
            rw [outcome] at initRan
            cases initRan
            rfl
      simp only [ToVersion.form, initialized]
      split at ran
      · rename_i newer
        rw [if_pos newer]
        exact ToVersion.convert_calls rest value ran
      · rename_i reached
        rw [if_neg reached]
        exact ⟨older, value, rfl, address, made, ran⟩

/-- In an older version the function of a struct tests the data flags, or
passes an older form of the object on. -/
theorem serializeCommon_calls {handlers : SHandlers P} {decl : StructDecl}
    {fields : Fields P} {object : (Ty.struct decl fields).Obj} {versioning : Versioning}
    {before after : SState} {written : Bool}
    (notMatch : ctx.data.interfaceVersionsNotMatch = true)
    (declared : decl.iSerializable = some versioning)
    (ran : serializeCommon ctx handlers decl fields object before = .ok written after) :
    ∃ status middle,
      handlers.toOldStructIfNeed decl fields object before = .ok status middle ∧
      (status = .noFurtherProcessingRequired ∧ written = true ∧ middle = after ∨
        status ≠ .noFurtherProcessingRequired ∧ statusSuccess status ∧
          Suits ctx.data.dataFlags versioning ∧
          serializeAnySimplyAssignable ctx (.struct decl fields) object middle =
            .ok written after) := by
  unfold serializeCommon at ran
  rw [declared, notMatch] at ran
  obtain ⟨status, middle, converted, ran⟩ := bind_eq_ok ran
  refine ⟨status, middle, converted, ?_⟩
  split at ran
  · rename_i done
    cases ran
    exact .inl ⟨done, rfl, rfl⟩
  · rename_i undone
    split at ran
    · cases ran
    · rename_i success
      simp only at ran
      split at ran
      · rename_i suits
        exact .inr ⟨undone, by simpa using success, suits, ran⟩
      · cases ran

/-- The handler of a struct in its latest form has nothing to do. -/
theorem toOldStructIfNeed_of_latest {conversions : Conversions P}
    {serialize : (older : TopStruct P) → older.type.Obj → Nat → SProc Unit} {level : Nat}
    {decl : StructDecl} {fields : Fields P} {object : (Ty.struct decl fields).Obj}
    {versioning : Versioning} (declared : decl.iSerializable = some versioning)
    (latest : getBestCompatInterfaceVersion versioning ctx.data.interfaceVersion =
      getLatestPrivateVersion versioning) (before : SState) :
    toOldStructIfNeed ctx conversions serialize level decl fields object before =
      .ok .noError before := by
  unfold toOldStructIfNeed
  rw [declared]
  simp only
  rw [if_pos latest]
  rfl

theorem toOldStructIfNeed_of_older {conversions : Conversions P}
    {serialize : (older : TopStruct P) → older.type.Obj → Nat → SProc Unit} {level : Nat}
    {decl : StructDecl} {fields : Fields P} {object : (Ty.struct decl fields).Obj}
    {versioning : Versioning} (declared : decl.iSerializable = some versioning)
    (older : getBestCompatInterfaceVersion versioning ctx.data.interfaceVersion ≠
      getLatestPrivateVersion versioning) {before after : SState} {status : Status}
    (ran : toOldStructIfNeed ctx conversions serialize level decl fields object before =
      .ok status after) (success : statusSuccess status) :
    status = .noFurtherProcessingRequired ∧
      ∃ chain older value, conversions.toOldStruct decl fields = some chain ∧
        ToVersion.form
          (getBestCompatInterfaceVersion versioning ctx.data.interfaceVersion) chain object =
            some ⟨older, value⟩ ∧
        ∃ address before, serialize older value address before = .ok () after := by
  unfold toOldStructIfNeed at ran
  rw [declared] at ran
  simp only at ran
  rw [if_neg older] at ran
  split at ran
  · cases ran
    cases success
  · unfold toOldStruct at ran
    cases found : conversions.toOldStruct decl fields with
    | none =>
        rw [found] at ran
        cases ran
        cases success
    | some chain =>
        rw [found] at ran
        obtain ⟨_, _, converted, ran⟩ := bind_eq_ok ran
        cases ran
        obtain ⟨older, value, form, call⟩ := ToVersion.convert_calls chain object converted
        exact ⟨rfl, chain, older, value, rfl, form, call⟩

theorem serializeStruct_calls {handlers : SHandlers P} {decl : StructDecl}
    {fields : Fields P} {object : (Ty.struct decl fields).Obj} {fieldByField : SProc Unit}
    {before after : SState}
    (skips : ∀ written middle, serializeCommon ctx handlers decl fields object before =
        .ok written middle → decl.function = .fieldByField .common → written = false)
    (reaches : reachesFields ctx.data decl fields)
    (ran : serializeStruct ctx handlers decl fields object fieldByField before =
      .ok () after) :
    ∃ middle, fieldByField middle = .ok () after := by
  have notCopied (copies : copiesStruct ctx.data (.struct decl fields) = false)
      {written : Bool} {middle : SState}
      (looked : serializeAnySimplyAssignable ctx (.struct decl fields) object before =
        .ok written middle) : written = false := by
    rw [serializeAnySimplyAssignable_eq, copies] at looked
    cases looked
    rfl
  have goesOn {start : SProc Bool}
      (unwritten : ∀ written middle, start before = .ok written middle → written = false)
      (ran : writeFieldsUnless start fieldByField before = .ok () after) :
      ∃ middle, fieldByField middle = .ok () after := by
    obtain ⟨written, middle, started, ran⟩ := bind_eq_ok ran
    rw [unwritten written middle started] at ran
    exact ⟨middle, ran⟩
  unfold serializeStruct at ran
  unfold reachesFields at reaches
  cases function : decl.function with
  | generic =>
      rw [function] at reaches
      exact reaches.elim
  | fieldByField prologue =>
      rw [function] at ran reaches
      cases prologue with
      | none => exact ⟨before, ran⟩
      | anySimplyAssignable =>
          exact goesOn (fun _ _ started => notCopied reaches started) ran
      | common =>
          exact goesOn (fun written middle started => skips written middle started function)
            ran

section Older

variable {conversions : Conversions P} {pointee : P → Nat → SProc Unit}
  (notMatch : ctx.data.interfaceVersionsNotMatch = true)

theorem serializeStruct_common {handlers : SHandlers P} {decl : StructDecl}
    {fields : Fields P} {object : (Ty.struct decl fields).Obj} {fieldByField : SProc Unit}
    (function : decl.function = .fieldByField .common) {before after : SState}
    (ran : serializeStruct ctx handlers decl fields object fieldByField before =
      .ok () after) :
    ∃ written middle, serializeCommon ctx handlers decl fields object before =
      .ok written middle ∧ (written = true → middle = after) := by
  unfold serializeStruct at ran
  rw [function] at ran
  obtain ⟨written, middle, started, ran⟩ := bind_eq_ok ran
  refine ⟨written, middle, started, ?_⟩
  rintro rfl
  cases ran
  rfl

include notMatch

theorem suits_of_serialize_self {fuel : Nat} {decl : StructDecl} {fields : Fields P}
    {object : (Ty.struct decl fields).Obj} {versioning : Versioning}
    (declared : decl.iSerializable = some versioning)
    (latest : inLatestForm ctx.data versioning) {before after : SState} {written : Bool}
    (ran : serializeCommon ctx (shandlers ctx conversions pointee fuel) decl fields object
      before = .ok written after) :
    Suits ctx.data.dataFlags versioning ∧
      serializeAnySimplyAssignable ctx (.struct decl fields) object before =
        .ok written after := by
  obtain ⟨status, middle, handled, outcome⟩ := serializeCommon_calls notMatch declared ran
  cases fuel with
  | zero => cases handled
  | succ fuel =>
      have nothing : (shandlers ctx conversions pointee (fuel + 1)).toOldStructIfNeed decl
          fields object before = .ok .noError before :=
        toOldStructIfNeed_of_latest declared (latest notMatch) before
      have same := handled.symm.trans nothing
      cases same
      rcases outcome with ⟨done, _⟩ | ⟨_, _, suits, looked⟩
      · cases done
      · exact ⟨suits, looked⟩

theorem serialize_older {fuel : Nat} {decl : StructDecl} {fields : Fields P}
    {object : (Ty.struct decl fields).Obj} {own : Versioning}
    (declared : decl.iSerializable = some own) (converted : ¬inLatestForm ctx.data own)
    {before after : SState} {written : Bool}
    (ran : serializeCommon ctx (shandlers ctx conversions pointee fuel) decl fields object
      before = .ok written after) :
    written = true ∧ ∃ inner chain older value, fuel = inner + 1 ∧
      conversions.toOldStruct decl fields = some chain ∧
      ToVersion.form (getBestCompatInterfaceVersion own ctx.data.interfaceVersion) chain
        object = some ⟨older, value⟩ ∧
      ∃ address before, serialize ctx (shandlers ctx conversions pointee inner) older.type
        value address before = .ok () after := by
  have other : getBestCompatInterfaceVersion own ctx.data.interfaceVersion ≠
      getLatestPrivateVersion own := fun same => converted fun _ => same
  obtain ⟨status, middle, handled, outcome⟩ := serializeCommon_calls notMatch declared ran
  cases fuel with
  | zero => cases handled
  | succ inner =>
      have success : statusSuccess status := by
        rcases outcome with ⟨rfl, _⟩ | ⟨_, success, _⟩
        · rfl
        · exact success
      obtain ⟨done, chain, older, value, found, form, call⟩ :=
        toOldStructIfNeed_of_older declared other handled success
      rcases outcome with ⟨_, rfl, rfl⟩ | ⟨undone, _⟩
      · exact ⟨rfl, inner, chain, older, value, rfl, found, form, call⟩
      · exact absurd done undone

theorem not_written_of_reachesFields {fuel : Nat} {decl : StructDecl} {fields : Fields P}
    {object : (Ty.struct decl fields).Obj} (function : decl.function = .fieldByField .common)
    (reaches : reachesFields ctx.data decl fields) {before after : SState} {written : Bool}
    (ran : serializeCommon ctx (shandlers ctx conversions pointee fuel) decl fields object
      before = .ok written after) :
    written = false := by
  unfold reachesFields at reaches
  rw [function] at reaches
  obtain ⟨copies, latest⟩ := reaches
  have looked : serializeAnySimplyAssignable ctx (.struct decl fields) object before =
      .ok written after := by
    cases declared : decl.iSerializable with
    | none =>
        unfold serializeCommon at ran
        rw [declared] at ran
        exact ran
    | some versioning =>
        exact (suits_of_serialize_self notMatch declared (latest versioning declared) ran).2
  rw [serializeAnySimplyAssignable_eq, copies] at looked
  cases looked
  rfl

/-- In an older version no struct is encoded that the data flags do not suit. -/
theorem suits_of_serialize {type : Ty P} {object : type.Obj} {versioning : Versioning}
    (encodes : Encodes ctx.data conversions type object versioning) :
    ∀ {fuel address : Nat} {before after : SState},
      serialize ctx (shandlers ctx conversions pointee fuel) type object address before =
          .ok () after →
        Suits ctx.data.dataFlags versioning := by
  induction encodes with
  | self function declared latest =>
      intro fuel address before after ran
      simp only [serialize] at ran
      obtain ⟨written, middle, started, _⟩ := serializeStruct_common function ran
      exact (suits_of_serialize_self notMatch declared latest started).1
  | older function declared converted found form inside induction =>
      intro fuel address before after ran
      simp only [serialize] at ran
      obtain ⟨written, middle, started, _⟩ := serializeStruct_common function ran
      obtain ⟨_, inner, chain, older, value, _, found', form', _, _, call⟩ :=
        serialize_older notMatch declared converted started
      rw [found] at found'
      cases found'
      rw [form] at form'
      cases form'
      exact induction call
  | member reaches listed inside induction =>
      intro fuel address before after ran
      simp only [serialize] at ran
      obtain ⟨middle, fieldsRan⟩ := serializeStruct_calls (fun _ _ started function =>
        not_written_of_reachesFields notMatch function reaches started) reaches ran
      obtain ⟨_, _, _, call⟩ := serializeFields_calls _ _ fieldsRan _ listed
      exact induction call
  | element listed inside induction =>
      intro fuel address before after ran
      simp only [serialize] at ran
      obtain ⟨_, _, _, call⟩ := serializeN_calls ran _ listed
      exact induction call
  | item listed inside induction =>
      intro fuel address before after ran
      simp only [serialize] at ran
      obtain ⟨_, _, _, call⟩ := serializeTemplate_calls ran _ listed
      exact induction call

end Older

end Serialize

section Decode

variable (ctx : DContext P)

/-- Where the objects of a loop are read, and in what state, as far as the loop
gets. -/
def elementPlaces (type : Ty P) (each : type.Obj → Nat → DProc P type.Obj) :
    Nat → Nat → DState P → List (Nat × DState P)
  | 0, _, _ => []
  | n + 1, address, state =>
      let noted := final (registerObject ctx type address state)
      (address, noted) ::
        match each (ctx.construct type) address noted with
        | .ok _ after => elementPlaces type each n (address + type.sizeof) after
        | .error _ _ => []

def mapPlaces (type : Ty P) (each : type.Obj → Nat → DProc P type.Obj) :
    Nat → DState P → List (Nat × DState P)
  | 0, _ => []
  | n + 1, state =>
      let slot := ctx.stackSlot state.blocks type.sizeof
      let inside := { state with temporaryDepth := state.temporaryDepth + 1 }
      (slot, inside) ::
        match each (ctx.construct type) slot inside with
        | .error _ _ => []
        | .ok _ after =>
            match allocate ctx type.sizeof
                { after with temporaryDepth := after.temporaryDepth - 1 } with
            | .ok (some _) next => mapPlaces type each n next
            | _ => []

def loopPlaces (type : Ty P) (each : type.Obj → Nat → DProc P type.Obj)
    (n room address : Nat) (state : DState P) : List (Nat × DState P) :=
  if type.emptyType || copiesArray ctx.data type then []
  else elementPlaces ctx type each (min n room) address state

def templatePlaces (kind : ContainerKind) (type : Ty P)
    (each : type.Obj → Nat → DProc P type.Obj) (storage : Storage) (state : DState P) :
    List (Nat × DState P) :=
  match deserializeSizeT ctx state with
  | .error _ _ => []
  | .ok size state =>
      match kind with
      | .vectorT =>
          match reserve ctx type storage size state with
          | .error _ _ => []
          | .ok reserved state =>
              loopPlaces ctx type each size reserved.2 reserved.1.data state
      | .stdVector =>
          match resize ctx type storage size state with
          | .error _ _ => []
          | .ok resized state => loopPlaces ctx type each size size resized.data state
      | .stdBasicString =>
          match resize ctx type storage size state with
          | .error _ _ => []
          | .ok resized state =>
              let n := size + (terminator type).length
              loopPlaces ctx type each n n resized.data state
      | .stdMap => mapPlaces ctx type each size state

def memberPlaces (pointeeType : P → Ty P) (handlers : DHandlers P) :
    (fields : Fields P) → fields.Objs → Nat → DState P →
      List (Σ type : Ty P, type.Obj × Nat × DState P)
  | .nil, _, _, _ => []
  | .cons padding field rest, targets, address, state =>
      ⟨field, targets.2.1, address + padding, state⟩ ::
        match BodyProcessor.deserialize ctx pointeeType handlers field targets.2.1
            (address + padding) state with
        | .ok _ after =>
            memberPlaces pointeeType handlers rest targets.2.2
              (address + padding + field.sizeof) after
        | .error _ _ => []

def FromVersion.form (targetVersion : Nat) : {source : TopStruct P} →
    FromVersion P target source → Option (TopStruct P)
  | source, .last _ _ =>
      if Context.Traits.kInterfaceVersionUndefined ≤ targetVersion then none
      else some source
  | source, .cons _ _ next _ rest =>
      if getLatestPrivateVersion next.versioning ≤ targetVersion then
        form targetVersion rest
      else
        some source

def temporaryPlace (size : Nat) (state : DState P) : Option (Nat × DState P) :=
  if ctx.data.isHeapUsedForTemp then
    match allocate ctx size state with
    | .ok (some address) state =>
        some (address, { state with temporaryDepth := state.temporaryDepth + 1 })
    | _ => none
  else
    some (ctx.stackSlot state.blocks size,
      { state with temporaryDepth := state.temporaryDepth + 1 })

variable (conversions : Conversions P) (pointeeType : P → Ty P)
  (pointee : P → Nat → DProc P Unit)

/-- A struct whose function starts with `CSP_DESERIALIZE_COMMON` is decoded when
an object is read in a state. -/
inductive Decodes : Nat → (type : Ty P) → type.Obj → Nat → DState P → Versioning → Prop
  | self {fuel address : Nat} {decl : StructDecl} {fields : Fields P}
      {target : (Ty.struct decl fields).Obj} {state : DState P} {versioning : Versioning}
      (function : decl.function = .fieldByField .common)
      (declared : decl.iSerializable = some versioning)
      (latest : inLatestForm ctx.data versioning) :
      Decodes fuel (.struct decl fields) target address state versioning
  | older {fuel address : Nat} {decl : StructDecl} {fields : Fields P}
      {target : (Ty.struct decl fields).Obj} {state : DState P}
      {own versioning : Versioning} {first source : TopStruct P}
      {chain : FromVersion P (.struct decl fields) first} {place : Nat × DState P}
      (function : decl.function = .fieldByField .common)
      (declared : decl.iSerializable = some own)
      (converted : ¬inLatestForm ctx.data own)
      (found : conversions.fromOldStruct decl fields = some ⟨first, chain⟩)
      (form : FromVersion.form
        (getBestCompatInterfaceVersion own ctx.data.interfaceVersion) chain = some source)
      (opened : temporaryPlace ctx source.type.sizeof state = some place)
      (inside : Decodes fuel source.type (ctx.construct source.type) place.1 place.2
        versioning) :
      Decodes (fuel + 1) (.struct decl fields) target address state versioning
  | member {fuel address : Nat} {decl : StructDecl} {fields : Fields P}
      {target : (Ty.struct decl fields).Obj} {state : DState P} {versioning : Versioning}
      {place : Σ type : Ty P, type.Obj × Nat × DState P}
      (reaches : reachesFields ctx.data decl fields)
      (listed : place ∈ memberPlaces ctx pointeeType
        (dhandlers ctx conversions pointeeType pointee fuel) fields target.1 address state)
      (inside : Decodes fuel place.1 place.2.1 place.2.2.1 place.2.2.2 versioning) :
      Decodes fuel (.struct decl fields) target address state versioning
  | element {fuel address length : Nat} {type : Ty P} {target : (Ty.array type length).Obj}
      {state : DState P} {versioning : Versioning} {place : Nat × DState P}
      (listed : place ∈ loopPlaces ctx type
        (BodyProcessor.deserialize ctx pointeeType
          (dhandlers ctx conversions pointeeType pointee fuel) type)
        length length address state)
      (inside : Decodes fuel type (ctx.construct type) place.1 place.2 versioning) :
      Decodes fuel (.array type length) target address state versioning
  | item {fuel address size : Nat} {kind : ContainerKind} {type : Ty P}
      {target : (Ty.container kind size type).Obj} {state : DState P}
      {versioning : Versioning} {place : Nat × DState P}
      (listed : place ∈ templatePlaces ctx kind type
        (BodyProcessor.deserialize ctx pointeeType
          (dhandlers ctx conversions pointeeType pointee fuel) type) target.1 state)
      (inside : Decodes fuel type (ctx.construct type) place.1 place.2 versioning) :
      Decodes fuel (.container kind size type) target address state versioning

end Decode

section Deserialize

variable {ctx : DContext P}

theorem deserializeElements_calls {type : Ty P}
    {each : type.Obj → Nat → DProc P type.Obj} : ∀ {n address : Nat}
      {before after : DState P} {objects : List type.Obj},
    deserializeElements ctx type each n address before = .ok objects after →
      ∀ place ∈ elementPlaces ctx type each n address before, ∃ object after,
        each (ctx.construct type) place.1 place.2 = .ok object after := by
  intro n
  induction n with
  | zero =>
      intro address before after objects _ place member
      cases member
  | succ n induction =>
      intro address before after objects ran place member
      unfold deserializeElements at ran
      obtain ⟨_, noted, registered, ran⟩ := bind_eq_ok ran
      obtain ⟨object, middle, headRan, ran⟩ := bind_eq_ok ran
      obtain ⟨rest, last, restRan, _⟩ := bind_eq_ok ran
      unfold elementPlaces at member
      rw [registered, final_ok] at member
      simp only [headRan] at member
      rcases List.mem_cons.mp member with rfl | inRest
      · exact ⟨_, _, headRan⟩
      · exact induction restRan place inRest

theorem deserializeN_calls {type : Ty P} {each : type.Obj → Nat → DProc P type.Obj}
    {targets : List type.Obj} {room address : Nat} {before after : DState P}
    {objects : List type.Obj}
    (ran : deserializeN ctx type each targets room address before = .ok objects after) :
    ∀ place ∈ loopPlaces ctx type each targets.length room address before,
      ∃ object after, each (ctx.construct type) place.1 place.2 = .ok object after := by
  intro place member
  unfold loopPlaces at member
  split at member
  · cases member
  · rename_i loops
    simp only [Bool.or_eq_true, not_or] at loops
    unfold deserializeN at ran
    rw [if_neg loops.1, if_neg loops.2] at ran
    obtain ⟨read, middle, loopRan, _⟩ := bind_eq_ok ran
    exact deserializeElements_calls loopRan place member

theorem deserializeEach_calls {type : Ty P} {each : type.Obj → Nat → DProc P type.Obj} :
    ∀ {n : Nat} {collected objects : List type.Obj} {before after : DState P},
    deserializeEach ctx type each n collected before = .ok objects after →
      ∀ place ∈ mapPlaces ctx type each n before, ∃ object after,
        each (ctx.construct type) place.1 place.2 = .ok object after := by
  intro n
  induction n with
  | zero =>
      intro collected objects before after ran place member
      cases member
  | succ n induction =>
      intro collected objects before after ran place member
      unfold deserializeEach at ran
      rw [bind_of_ok (get_apply before)] at ran
      simp only [bind_of_ok (modify_apply _ before)] at ran
      obtain ⟨element, middle, elementRan, ran⟩ := bind_eq_ok ran
      simp only [bind_of_ok (modify_apply _ middle)] at ran
      obtain ⟨address, next, allocated, ran⟩ := bind_eq_ok ran
      unfold mapPlaces at member
      simp only [elementRan] at member
      rcases List.mem_cons.mp member with rfl | inRest
      · exact ⟨_, _, elementRan⟩
      · rw [allocated] at inRest
        cases address with
        | none => cases inRest
        | some address => exact induction ran place inRest

theorem deserializeTemplate_calls {kind : ContainerKind} {type : Ty P}
    {each : type.Obj → Nat → DProc P type.Obj} {storage : Storage} {before after : DState P}
    {result : Storage × List type.Obj}
    (ran : deserializeTemplate ctx kind type each storage before = .ok result after) :
    ∀ place ∈ templatePlaces ctx kind type each storage before, ∃ object after,
      each (ctx.construct type) place.1 place.2 = .ok object after := by
  intro place member
  obtain ⟨size, sized, sizeRead, ran⟩ := bind_eq_ok ran
  unfold templatePlaces at member
  simp only [sizeRead] at member
  have length (n : Nat) : (List.replicate n (ctx.construct type)).length = n :=
    List.length_replicate
  cases kind with
  | vectorT =>
      obtain ⟨reserved, room, reservation, ran⟩ := bind_eq_ok ran
      obtain ⟨objects, last, loopRan, _⟩ := bind_eq_ok ran
      simp only [reservation] at member
      have calls := deserializeN_calls loopRan
      rw [length] at calls
      exact calls place member
  | stdVector =>
      obtain ⟨resized, room, resizing, ran⟩ := bind_eq_ok ran
      obtain ⟨objects, last, loopRan, _⟩ := bind_eq_ok ran
      simp only [resizing] at member
      have calls := deserializeN_calls loopRan
      rw [length] at calls
      exact calls place member
  | stdBasicString =>
      obtain ⟨resized, room, resizing, ran⟩ := bind_eq_ok ran
      obtain ⟨objects, last, loopRan, _⟩ := bind_eq_ok ran
      simp only [resizing] at member
      have calls := deserializeN_calls loopRan
      rw [length] at calls
      exact calls place member
  | stdMap =>
      obtain ⟨objects, last, loopRan, _⟩ := bind_eq_ok ran
      exact deserializeEach_calls loopRan place member

theorem deserializeFields_calls {pointeeType : P → Ty P} {handlers : DHandlers P} :
    (fields : Fields P) → (targets : fields.Objs) → {address : Nat} →
    {before after : DState P} → {objects : fields.Objs} →
    deserializeFields ctx pointeeType handlers fields targets address before =
        .ok objects after →
      ∀ place ∈ memberPlaces ctx pointeeType handlers fields targets address before,
        ∃ object after, BodyProcessor.deserialize ctx pointeeType handlers place.1 place.2.1
          place.2.2.1 place.2.2.2 = .ok object after
  | .nil, _, _, _, _, _, _, place, member => by cases member
  | .cons padding field rest, targets, address, before, after, objects, ran, place,
      member => by
      simp only [deserializeFields] at ran
      obtain ⟨object, middle, fieldRan, ran⟩ := bind_eq_ok ran
      obtain ⟨others, last, restRan, _⟩ := bind_eq_ok ran
      simp only [memberPlaces, fieldRan] at member
      rcases List.mem_cons.mp member with rfl | inRest
      · exact ⟨_, _, fieldRan⟩
      · exact deserializeFields_calls rest targets.2.2 restRan place inRest

theorem deserializeCommon_calls {handlers : DHandlers P} {decl : StructDecl}
    {fields : Fields P} {target : (Ty.struct decl fields).Obj} {address : Nat}
    {versioning : Versioning} {before after : DState P}
    {result : Option (Ty.struct decl fields).Obj}
    (notMatch : ctx.data.interfaceVersionsNotMatch = true)
    (declared : decl.iSerializable = some versioning)
    (ran : deserializeCommon ctx handlers decl fields target address before =
      .ok result after) :
    ∃ handled middle,
      handlers.fromOldStructIfNeed decl fields target address before = .ok handled middle ∧
      (handled.1 = .noFurtherProcessingRequired ∧ result = some handled.2 ∧ middle = after ∨
        handled.1 ≠ .noFurtherProcessingRequired ∧ statusSuccess handled.1 ∧
          Suits ctx.data.dataFlags versioning ∧
          deserializeAnySimplyAssignable ctx (.struct decl fields) target middle =
            .ok result after) := by
  unfold deserializeCommon at ran
  rw [declared, notMatch] at ran
  obtain ⟨handled, middle, converted, ran⟩ := bind_eq_ok ran
  refine ⟨handled, middle, converted, ?_⟩
  simp only at ran
  split at ran
  · rename_i done
    cases ran
    exact .inl ⟨done, rfl, rfl⟩
  · rename_i undone
    split at ran
    · cases ran
    · rename_i success
      split at ran
      · rename_i suits
        exact .inr ⟨undone, by simpa using success, suits, ran⟩
      · cases ran

section Forms

variable {deserialize : (source : TopStruct P) → source.type.Obj → Nat →
  DProc P source.type.Obj}

theorem FromVersion.start_calls {target : Ty P} {source : TopStruct P}
    {chain : FromVersion P target source} {object value : target.Obj}
    {before after : DState P}
    (ran : FromVersion.start ctx deserialize chain object before = .ok value after)
    {place : Nat × DState P}
    (opened : temporaryPlace ctx source.type.sizeof before = some place) :
    ∃ value after, deserialize source (ctx.construct source.type) place.1 place.2 =
      .ok value after := by
  have reads (address : Nat) (state : DState P) {last : DState P}
      (used : (do
        let value ← readTemporary ctx deserialize source address
        chain.convertToUpperVersion ctx value object) state = .ok value last) :
      ∃ value after, deserialize source (ctx.construct source.type) address
        { state with temporaryDepth := state.temporaryDepth + 1 } = .ok value after := by
    obtain ⟨form, middle, formRead, _⟩ := bind_eq_ok used
    unfold readTemporary at formRead
    rw [bind_of_ok (modify_apply _ state)] at formRead
    obtain ⟨read, _, readRan, _⟩ := bind_eq_ok formRead
    exact ⟨_, _, readRan⟩
  unfold FromVersion.start withTemporary at ran
  unfold temporaryPlace at opened
  split at ran
  · rename_i heap
    rw [if_pos heap] at opened
    obtain ⟨address, granted, allocated, ran⟩ := bind_eq_ok ran
    rw [allocated] at opened
    cases address with
    | none => cases opened
    | some address =>
        cases opened
        obtain ⟨_, _, used, ended⟩ := bind_eq_ok ran
        cases ended
        exact reads address granted used
  · rename_i stack
    rw [if_neg stack] at opened
    cases opened
    rw [bind_of_ok (get_apply before)] at ran
    exact reads _ before ran

theorem FromVersion.convert_calls {target : Ty P} {targetVersion : Nat} :
    {first : TopStruct P} → (chain : FromVersion P target first) →
    {object value : target.Obj} → {before after : DState P} →
    chain.convert ctx deserialize targetVersion object before = .ok value after →
    {source : TopStruct P} → FromVersion.form targetVersion chain = some source →
    {place : Nat × DState P} →
    temporaryPlace ctx source.type.sizeof before = some place →
      ∃ value after, deserialize source (ctx.construct source.type) place.1 place.2 =
        .ok value after
  | _, .last source init, object, value, before, after, ran, reached, form, place, opened => by
      simp only [FromVersion.convert] at ran
      simp only [FromVersion.form] at form
      split at ran
      · cases ran
      · rename_i older
        rw [if_neg older] at form
        cases form
        exact FromVersion.start_calls ran opened
  | _, .cons source initable next init rest, object, value, before, after, ran, reached,
      form, place, opened => by
      simp only [FromVersion.convert] at ran
      simp only [FromVersion.form] at form
      split at ran
      · rename_i skipped
        rw [if_pos skipped] at form
        exact FromVersion.convert_calls rest ran form opened
      · rename_i reads
        rw [if_neg reads] at form
        cases form
        exact FromVersion.start_calls ran opened

variable {conversions : Conversions P} {decl : StructDecl} {fields : Fields P}
  {target : (Ty.struct decl fields).Obj} {versioning : Versioning}
  (declared : decl.iSerializable = some versioning)

include declared

theorem fromOldStructIfNeed_of_latest
    (latest : getBestCompatInterfaceVersion versioning ctx.data.interfaceVersion =
      getLatestPrivateVersion versioning) (before : DState P) :
    fromOldStructIfNeed ctx conversions deserialize decl fields target before =
      .ok (.noError, target) before := by
  unfold fromOldStructIfNeed
  rw [declared]
  simp only
  rw [if_pos latest]
  rfl

theorem fromOldStructIfNeed_of_older
    (older : getBestCompatInterfaceVersion versioning ctx.data.interfaceVersion ≠
      getLatestPrivateVersion versioning) {before after : DState P}
    {handled : Status × (Ty.struct decl fields).Obj}
    (ran : fromOldStructIfNeed ctx conversions deserialize decl fields target before =
      .ok handled after) (success : statusSuccess handled.1) :
    handled.1 = .noFurtherProcessingRequired ∧
      ∃ first chain, conversions.fromOldStruct decl fields = some ⟨first, chain⟩ ∧
        chain.convert ctx deserialize
            (getBestCompatInterfaceVersion versioning ctx.data.interfaceVersion) target
            before = .ok handled.2 after := by
  unfold fromOldStructIfNeed at ran
  rw [declared] at ran
  simp only at ran
  rw [if_neg older] at ran
  split at ran
  · cases ran
    cases success
  · unfold fromOldStruct at ran
    cases found : conversions.fromOldStruct decl fields with
    | none =>
        rw [found] at ran
        cases ran
        cases success
    | some chain =>
        rw [found] at ran
        obtain ⟨_, _, converted, ran⟩ := bind_eq_ok ran
        cases ran
        exact ⟨rfl, chain.1, chain.2, rfl, converted⟩

end Forms

theorem deserializeStruct_calls {handlers : DHandlers P} {decl : StructDecl}
    {fields : Fields P} {target object : (Ty.struct decl fields).Obj} {address : Nat}
    {fieldByField : DProc P fields.Objs} {before after : DState P}
    (skips : ∀ result middle,
      deserializeCommon ctx handlers decl fields target address before =
          .ok result middle →
        decl.function = .fieldByField .common → result = none ∧ middle = before)
    (reaches : reachesFields ctx.data decl fields)
    (ran : deserializeStruct ctx handlers decl fields target address fieldByField before =
      .ok object after) :
    ∃ objects middle, fieldByField before = .ok objects middle := by
  have goesOn {start : DProc P (Option (Ty.struct decl fields).Obj)}
      (unread : ∀ result middle, start before = .ok result middle →
        result = none ∧ middle = before)
      (ran : readFieldsUnless decl fields target start fieldByField before =
        .ok object after) :
      ∃ objects middle, fieldByField before = .ok objects middle := by
    obtain ⟨result, middle, started, readRan⟩ := bind_eq_ok ran
    obtain ⟨rfl, rfl⟩ := unread result middle started
    have readRan : readFields decl fields target fieldByField middle = .ok object after :=
      readRan
    obtain ⟨objects, last, fieldsRan, _⟩ := bind_eq_ok readRan
    exact ⟨objects, last, fieldsRan⟩
  unfold deserializeStruct at ran
  unfold reachesFields at reaches
  cases function : decl.function with
  | generic =>
      rw [function] at reaches
      exact reaches.elim
  | fieldByField prologue =>
      rw [function] at ran reaches
      cases prologue with
      | none =>
          obtain ⟨objects, last, fieldsRan, _⟩ := bind_eq_ok ran
          exact ⟨objects, last, fieldsRan⟩
      | anySimplyAssignable =>
          refine goesOn (fun result middle started => ?_) ran
          rw [deserializeAnySimplyAssignable_eq] at started
          simp only at reaches
          rw [reaches] at started
          cases started
          exact ⟨rfl, rfl⟩
      | common =>
          exact goesOn (fun result middle started => skips result middle started function)
            ran

section Older

variable {conversions : Conversions P} {pointeeType : P → Ty P}
  {pointee : P → Nat → DProc P Unit}

theorem deserializeStruct_common {handlers : DHandlers P} {decl : StructDecl}
    {fields : Fields P} {target object : (Ty.struct decl fields).Obj} {address : Nat}
    {fieldByField : DProc P fields.Objs}
    (function : decl.function = .fieldByField .common) {before after : DState P}
    (ran : deserializeStruct ctx handlers decl fields target address fieldByField before =
      .ok object after) :
    ∃ result middle, deserializeCommon ctx handlers decl fields target address before =
      .ok result middle := by
  unfold deserializeStruct at ran
  rw [function] at ran
  obtain ⟨result, middle, started, _⟩ := bind_eq_ok ran
  exact ⟨result, middle, started⟩

variable (notMatch : ctx.data.interfaceVersionsNotMatch = true)

include notMatch

theorem suits_of_deserialize_self {fuel address : Nat} {decl : StructDecl}
    {fields : Fields P} {target : (Ty.struct decl fields).Obj} {versioning : Versioning}
    (declared : decl.iSerializable = some versioning)
    (latest : inLatestForm ctx.data versioning) {before after : DState P}
    {result : Option (Ty.struct decl fields).Obj}
    (ran : deserializeCommon ctx (dhandlers ctx conversions pointeeType pointee fuel) decl
      fields target address before = .ok result after) :
    Suits ctx.data.dataFlags versioning ∧
      deserializeAnySimplyAssignable ctx (.struct decl fields) target before =
        .ok result after := by
  obtain ⟨handled, middle, handlerRan, outcome⟩ :=
    deserializeCommon_calls notMatch declared ran
  cases fuel with
  | zero => cases handlerRan
  | succ fuel =>
      have nothing : (dhandlers ctx conversions pointeeType pointee
          (fuel + 1)).fromOldStructIfNeed decl fields target address before =
            .ok (.noError, target) before :=
        fromOldStructIfNeed_of_latest declared (latest notMatch) before
      have same := handlerRan.symm.trans nothing
      cases same
      rcases outcome with ⟨done, _⟩ | ⟨_, _, suits, looked⟩
      · cases done
      · exact ⟨suits, looked⟩

theorem deserialize_older {fuel address : Nat} {decl : StructDecl}
    {fields : Fields P} {target : (Ty.struct decl fields).Obj} {own : Versioning}
    (declared : decl.iSerializable = some own) (converted : ¬inLatestForm ctx.data own)
    {before after : DState P} {result : Option (Ty.struct decl fields).Obj}
    (ran : deserializeCommon ctx (dhandlers ctx conversions pointeeType pointee (fuel + 1))
      decl fields target address before = .ok result after) :
    ∃ first chain value, conversions.fromOldStruct decl fields = some ⟨first, chain⟩ ∧
      result = some value ∧
      chain.convert ctx (fun source => BodyProcessor.deserialize ctx pointeeType
          (dhandlers ctx conversions pointeeType pointee fuel) source.type)
          (getBestCompatInterfaceVersion own ctx.data.interfaceVersion) target before =
        .ok value after := by
  have other : getBestCompatInterfaceVersion own ctx.data.interfaceVersion ≠
      getLatestPrivateVersion own := fun same => converted fun _ => same
  obtain ⟨handled, middle, handlerRan, outcome⟩ :=
    deserializeCommon_calls notMatch declared ran
  have success : statusSuccess handled.1 := by
    rcases outcome with ⟨done, _⟩ | ⟨_, success, _⟩
    · rw [done]
      rfl
    · exact success
  obtain ⟨done, first, chain, found, conversion⟩ :=
    fromOldStructIfNeed_of_older declared other handlerRan success
  rcases outcome with ⟨_, rfl, rfl⟩ | ⟨undone, _⟩
  · exact ⟨first, chain, handled.2, found, rfl, conversion⟩
  · exact absurd done undone

theorem unread_of_reachesFields {fuel address : Nat} {decl : StructDecl}
    {fields : Fields P} {target : (Ty.struct decl fields).Obj}
    (function : decl.function = .fieldByField .common)
    (reaches : reachesFields ctx.data decl fields) {before after : DState P}
    {result : Option (Ty.struct decl fields).Obj}
    (ran : deserializeCommon ctx (dhandlers ctx conversions pointeeType pointee fuel) decl
      fields target address before = .ok result after) :
    result = none ∧ after = before := by
  unfold reachesFields at reaches
  rw [function] at reaches
  obtain ⟨copies, latest⟩ := reaches
  have looked : deserializeAnySimplyAssignable ctx (.struct decl fields) target before =
      .ok result after := by
    cases declared : decl.iSerializable with
    | none =>
        unfold deserializeCommon at ran
        rw [declared] at ran
        exact ran
    | some versioning =>
        exact (suits_of_deserialize_self notMatch declared (latest versioning declared)
          ran).2
  rw [deserializeAnySimplyAssignable_eq, copies] at looked
  cases looked
  exact ⟨rfl, rfl⟩

/-- In an older version no struct is decoded that the data flags do not suit. -/
theorem suits_of_deserialize {fuel address : Nat} {type : Ty P} {target : type.Obj}
    {before : DState P} {versioning : Versioning}
    (decodes : Decodes ctx conversions pointeeType pointee fuel type target address before
      versioning) :
    ∀ {object : type.Obj} {after : DState P},
      BodyProcessor.deserialize ctx pointeeType
          (dhandlers ctx conversions pointeeType pointee fuel) type target address before =
          .ok object after →
        Suits ctx.data.dataFlags versioning := by
  induction decodes with
  | self function declared latest =>
      intro object after ran
      simp only [BodyProcessor.deserialize] at ran
      obtain ⟨_, _, started⟩ := deserializeStruct_common function ran
      exact (suits_of_deserialize_self notMatch declared latest started).1
  | older function declared converted found form opened inside induction =>
      intro object after ran
      simp only [BodyProcessor.deserialize] at ran
      obtain ⟨_, _, started⟩ := deserializeStruct_common function ran
      obtain ⟨first, chain, value, found', _, conversion⟩ :=
        deserialize_older notMatch declared converted started
      rw [found] at found'
      cases found'
      obtain ⟨_, _, call⟩ := FromVersion.convert_calls _ conversion form opened
      exact induction call
  | member reaches listed inside induction =>
      intro object after ran
      simp only [BodyProcessor.deserialize] at ran
      obtain ⟨_, _, fieldsRan⟩ := deserializeStruct_calls (fun _ _ started function =>
        unread_of_reachesFields notMatch function reaches started) reaches ran
      obtain ⟨_, _, call⟩ := deserializeFields_calls _ _ fieldsRan _ listed
      exact induction call
  | element listed inside induction =>
      intro object after ran
      simp only [BodyProcessor.deserialize] at ran
      obtain ⟨objects, _, loopRan, _⟩ := bind_eq_ok ran
      have calls := deserializeN_calls loopRan
      rw [List.length_ofFn] at calls
      obtain ⟨_, _, call⟩ := calls _ listed
      exact induction call
  | item listed inside induction =>
      intro object after ran
      simp only [BodyProcessor.deserialize] at ran
      obtain ⟨_, _, call⟩ := deserializeTemplate_calls ran _ listed
      exact induction call

end Older

end Deserialize

namespace Data

variable {data : Context.Data} {top : TopStruct P}

theorem noteInterfaceVersions_notMatch :
    (noteInterfaceVersions data top).interfaceVersionsNotMatch =
      (data.interfaceVersionsNotMatch ||
        decide (data.interfaceVersion < top.getLatestInterfaceVersion)) := by
  unfold noteInterfaceVersions
  split
  · simp [Context.Data.setInterfaceVersionsNotMatch, *]
  · simp [*]

theorem noteInterfaceVersions_of_match
    (matches' : (noteInterfaceVersions data top).interfaceVersionsNotMatch = false) :
    noteInterfaceVersions data top = data := by
  rw [noteInterfaceVersions_notMatch] at matches'
  unfold noteInterfaceVersions
  rw [if_neg]
  simpa using (Bool.or_eq_false_iff.mp matches').2

end Data

section Sender

variable (conversions : Conversions P) (pointee : SContext → P → Nat → SProc Unit)

def bodyData (data : Context.Data) (top : TopStruct P) : Context.Data :=
  Data.noteInterfaceVersions (ISerializable.chosenInterfaceVersion data top) top

/-- No message is written of a top struct with a struct that the flags do not
suit. -/
def SerializationEnforces (ctx : SContext) (top : TopStruct P) (object : top.type.Obj)
    (address : Nat) (before : SState) : Prop :=
  (∃ versioning, Encodes (bodyData ctx.data top) conversions top.type object versioning ∧
      ¬Suits ctx.data.dataFlags versioning) →
    ∀ fuel after, ISerializable.serialize ctx
      (fun ctx => shandlers ctx conversions (pointee ctx) fuel) top object address before ≠
        .ok () after

variable {conversions pointee} {ctx : SContext} {top : TopStruct P}
  {object : top.type.Obj} {address : Nat} {before : SState}

theorem bodyData_dataFlags (data : Context.Data) :
    (bodyData data top).dataFlags = data.dataFlags := by
  unfold bodyData Data.noteInterfaceVersions ISerializable.chosenInterfaceVersion
  split <;> split <;> rfl

/-- Only a context that the checks of the header accept is written. -/
theorem encodable_of_serializeHeader {data : Context.Data} {after : SState}
    (ran : ISerializable.serializeHeader ctx top before = .ok data after) :
    Encodable (ISerializable.chosenInterfaceVersion ctx.data top) top ∧
      data = bodyData ctx.data top := by
  obtain ⟨_, middle, commonRan, dataRan⟩ := bind_eq_ok ran
  obtain ⟨supported, declared⟩ := Common.accepted_of_serialize commonRan
  obtain ⟨interfaceVersion, pointers, compatible, noted⟩ :=
    Data.accepted_of_serialize dataRan
  exact ⟨⟨supported, declared, interfaceVersion, pointers, compatible⟩, noted⟩

theorem serializationEnforces_of_notMatch
    (older : (bodyData ctx.data top).interfaceVersionsNotMatch = true) :
    SerializationEnforces conversions pointee ctx top object address before := by
  rintro ⟨versioning, encodes, unsuited⟩ fuel after ran
  obtain ⟨data, middle, headerRan, bodyRan⟩ := bind_eq_ok ran
  obtain ⟨_, rfl⟩ := encodable_of_serializeHeader headerRan
  apply unsuited
  rw [← bodyData_dataFlags]
  let bodyContext : SContext := { ctx with data := bodyData ctx.data top }
  have noted : bodyContext.data.interfaceVersionsNotMatch = true := older
  exact suits_of_serialize noted encodes bodyRan

end Sender

section PointerFree

variable (conversions : Conversions Empty) (pointee : SContext → Empty → Nat → SProc Unit)
  {ctx : SContext} {top : TopStruct Empty} {object : top.type.Obj} {address : Nat}
  {before : SState}

theorem chosenInterfaceVersion_idem (data : Context.Data) (top : TopStruct P) :
    ISerializable.chosenInterfaceVersion (ISerializable.chosenInterfaceVersion data top)
      top = ISerializable.chosenInterfaceVersion data top := by
  unfold ISerializable.chosenInterfaceVersion
  by_cases unnamed : data.interfaceVersion = Context.Traits.kInterfaceVersionUndefined
  · simp only [if_pos unnamed, Context.Data.setInterfaceVersion, ite_self]
  · simp only [if_neg unnamed]

theorem chosenInterfaceVersion_platform (data : Context.Data) (top : TopStruct P) :
    (ISerializable.chosenInterfaceVersion data top).platform = data.platform := by
  unfold ISerializable.chosenInterfaceVersion
  split <;> rfl

/-- In the latest version a message is written of whatever the header and the
body accept. -/
theorem serialize_succeeds (unbounded : Unbounded ctx)
    (matches' : (bodyData ctx.data top).interfaceVersionsNotMatch = false)
    (fits : FitsMemory ctx.data.platform top.type object)
    (room : before.binaryData.length +
      ((Header.ofContext (ISerializable.chosenInterfaceVersion ctx.data top)
          top.kId).octets ++
        wire (bodyData ctx.data top) top.type object).length <
          2 ^ ctx.data.platform.addressBits)
    (encodable : Encodable (ISerializable.chosenInterfaceVersion ctx.data top) top)
    (sendable : Sendable (bodyData ctx.data top) top.type object)
    (handlers : SContext → SHandlers Empty) :
    ∃ after, ISerializable.serialize ctx handlers top object address before =
      .ok () after := by
  let chosen : SContext :=
    { ctx with data := ISerializable.chosenInterfaceVersion ctx.data top }
  have same : ISerializable.serialize ctx handlers top object address =
      ISerializable.serialize chosen handlers top object address := by
    unfold ISerializable.serialize ISerializable.serializeHeader
    simp only [chosen, chosenInterfaceVersion_idem]
  have platform : chosen.data.platform = ctx.data.platform :=
    chosenInterfaceVersion_platform ctx.data top
  have body : bodyData ctx.data top = chosen.data :=
    Data.noteInterfaceVersions_of_match matches'
  rw [body] at sendable room matches'
  have endless : Unbounded chosen := unbounded
  have header : Writes chosen.data.platform (ISerializable.serializeHeader chosen top)
      (Header.ofContext chosen.data top.kId).octets
      (fun data => data = Data.noteInterfaceVersions chosen.data top) :=
    serializeHeader_writes_chosen endless encodable (chosenInterfaceVersion_idem ctx.data top)
  have writes : Writes chosen.data.platform
      (ISerializable.serialize chosen handlers top object address)
      ((Header.ofContext chosen.data top.kId).octets ++ wire chosen.data top.type object)
      (fun _ => True) := by
    refine header.bind fun data noted => ?_
    obtain rfl : data = chosen.data := noted.trans body
    exact serialize_writes endless _ matches' top.type object (by rwa [platform]) sendable
      address
  obtain ⟨_, after, ran, _⟩ := writes before (by rw [platform]; exact room)
  exact ⟨after, by rw [same]; exact ran⟩

theorem sendable_of_serialize
    (matches' : (bodyData ctx.data top).interfaceVersionsNotMatch = false)
    (fits : FitsMemory ctx.data.platform top.type object)
    {handlers : SContext → SHandlers Empty} {after : SState}
    (ran : ISerializable.serialize ctx handlers top object address before =
      .ok () after) :
    Sendable (bodyData ctx.data top) top.type object := by
  obtain ⟨data, middle, headerRan, bodyRan⟩ := bind_eq_ok ran
  obtain ⟨_, rfl⟩ := encodable_of_serializeHeader headerRan
  have platform : (bodyData ctx.data top).platform = ctx.data.platform := by
    have body : bodyData ctx.data top =
        ISerializable.chosenInterfaceVersion ctx.data top :=
      Data.noteInterfaceVersions_of_match matches'
    rw [body, chosenInterfaceVersion_platform]
  exact (serialize_appends { ctx with data := bodyData ctx.data top } _ matches' top.type
    object (by rwa [platform]) address _ _ _ bodyRan).2

/-- Exactly when the sender of a pointer-free struct looks at every flag. -/
theorem serializationEnforces_iff (unbounded : Unbounded ctx)
    (fits : FitsMemory ctx.data.platform top.type object)
    (room : before.binaryData.length +
      ((Header.ofContext (ISerializable.chosenInterfaceVersion ctx.data top)
          top.kId).octets ++
        wire (bodyData ctx.data top) top.type object).length <
          2 ^ ctx.data.platform.addressBits) :
    SerializationEnforces conversions pointee ctx top object address before ↔
      (bodyData ctx.data top).interfaceVersionsNotMatch = true ∨
        (∀ versioning,
          Encodes (bodyData ctx.data top) conversions top.type object versioning →
            Suits ctx.data.dataFlags versioning) ∨
        ¬(Encodable (ISerializable.chosenInterfaceVersion ctx.data top) top ∧
          Sendable (bodyData ctx.data top) top.type object) := by
  constructor
  · intro enforces
    by_contra! escapes
    obtain ⟨notOlder, ⟨versioning, encodes, unsuited⟩, encodable, sendable⟩ := escapes
    have matches' : (bodyData ctx.data top).interfaceVersionsNotMatch = false := by
      simpa using notOlder
    obtain ⟨after, ran⟩ : ∃ after, ISerializable.serialize ctx
        (fun ctx => shandlers ctx conversions (pointee ctx) 0) top object address before =
          .ok () after :=
      serialize_succeeds unbounded matches' fits room encodable sendable _
    exact enforces ⟨versioning, encodes, unsuited⟩ 0 after ran
  · rintro (older | suits | refused)
    · exact serializationEnforces_of_notMatch older
    · rintro ⟨versioning, encodes, unsuited⟩
      exact absurd (suits versioning encodes) unsuited
    · intro present fuel after ran
      obtain ⟨_, _, headerRan, _⟩ := bind_eq_ok ran
      cases matches' : (bodyData ctx.data top).interfaceVersionsNotMatch with
      | true => exact serializationEnforces_of_notMatch matches' present fuel after ran
      | false =>
          exact refused ⟨(encodable_of_serializeHeader headerRan).1,
            sendable_of_serialize matches' fits ran⟩

end PointerFree

section Receiver

variable (conversions : Conversions P) (pointeeType : P → Ty P)
  (pointee : DContext P → P → Nat → DProc P Unit)

/-- No struct is read from a message that its header lets through, with a struct
in it that the flags do not suit. -/
def DeserializationEnforces (ctx : DContext P) (top : TopStruct P) (addedPointers : Bool)
    (target : top.type.Obj) (address : Nat) (before : DState P) : Prop :=
  ∀ data middle,
    ISerializable.deserializeHeader ctx top addedPointers before = .ok data middle →
      ∀ fuel, (∃ versioning, Decodes { ctx with data := data } conversions pointeeType
          (pointee { ctx with data := data }) fuel top.type target address middle
          versioning ∧ ¬Suits data.dataFlags versioning) →
        ∀ object after, ISerializable.deserialize ctx pointeeType
          (fun ctx => dhandlers ctx conversions pointeeType (pointee ctx) fuel) top
          addedPointers target address before ≠ .ok object after

variable {conversions pointeeType pointee} {ctx : DContext P} {top : TopStruct P}
  {addedPointers : Bool} {target : top.type.Obj} {address : Nat} {before : DState P}

theorem deserializationEnforces_of_notMatch
    (older : ∀ data middle,
      ISerializable.deserializeHeader ctx top addedPointers before = .ok data middle →
        data.interfaceVersionsNotMatch = true) :
    DeserializationEnforces conversions pointeeType pointee ctx top addedPointers target
      address before := by
  rintro data middle headerRan fuel ⟨versioning, decodes, unsuited⟩ object after ran
  obtain ⟨_, _, headerRan', bodyRan⟩ := bind_eq_ok ran
  rw [headerRan] at headerRan'
  cases headerRan'
  let bodyContext : DContext P := { ctx with data := data }
  have noted : bodyContext.data.interfaceVersionsNotMatch = true :=
    older data middle headerRan
  exact unsuited (suits_of_deserialize noted decodes bodyRan)

end Receiver

/-- Exactly when the receiver of a pointer-free struct looks at every flag. -/
theorem deserializationEnforces_iff {conversions : Conversions Empty}
    {pointeeType : Empty → Ty Empty} {pointee : DContext Empty → Empty → Nat → DProc Empty Unit}
    {ctx : DContext Empty} (grants : HeapGrants ctx) {top : TopStruct Empty}
    (native : Native top.type) {addedPointers : Bool} {target : top.type.Obj}
    {address : Nat} {before middle : DState Empty} {data sender : Context.Data}
    (accepted : ISerializable.deserializeHeader ctx top addedPointers before =
      .ok data middle)
    (same : SameFormat sender data) {object : top.type.Obj} {rest : List UInt8}
    (fits : FitsMemory data.platform top.type object)
    (sendable : Sendable sender top.type object)
    (body : middle.binaryData.vector.drop middle.binaryData.offset =
      wire sender top.type object ++ rest)
    (inside : middle.binaryData.offset ≤ middle.binaryData.vector.length)
    (bounded : middle.binaryData.vector.length < 2 ^ data.platform.addressBits) :
    DeserializationEnforces conversions pointeeType pointee ctx top addedPointers target
        address before ↔
      data.interfaceVersionsNotMatch = true ∨
        ∀ fuel versioning, Decodes { ctx with data := data } conversions pointeeType
            (pointee { ctx with data := data }) fuel top.type target address middle
            versioning → Suits data.dataFlags versioning := by
  constructor
  · intro enforces
    by_contra! escapes
    obtain ⟨notOlder, fuel, versioning, decodes, unsuited⟩ := escapes
    have matches' : data.interfaceVersionsNotMatch = false := by simpa using notOlder
    obtain ⟨received, after, bodyRan, _⟩ := deserialize_reads { ctx with data := data } same
      matches' grants pointeeType
      (dhandlers { ctx with data := data } conversions pointeeType
        (pointee { ctx with data := data }) fuel)
      top.type native object fits sendable target address middle rest body inside bounded
    exact enforces data middle accepted fuel ⟨versioning, decodes, unsuited⟩ received after
      ((bind_of_ok accepted).trans bodyRan)
  · rintro (older | suits)
    · apply deserializationEnforces_of_notMatch
      intro other _ headerRan
      rw [accepted] at headerRan
      cases headerRan
      exact older
    · intro other _ headerRan fuel present
      rw [accepted] at headerRan
      cases headerRan
      obtain ⟨versioning, decodes, unsuited⟩ := present
      exact absurd (suits fuel versioning decodes) unsuited

/-- The data flags are enforced in older versions; in the latest one they are
when nothing that they do not suit is in the message. -/
theorem flags_enforced_iff (P : Type) :
    (∀ (conversions : Conversions P) (pointee : SContext → P → Nat → SProc Unit)
        (ctx : SContext) (top : TopStruct P) (object : top.type.Obj) (address : Nat)
        (before : SState), (bodyData ctx.data top).interfaceVersionsNotMatch = true →
      SerializationEnforces conversions pointee ctx top object address before) ∧
    (∀ (conversions : Conversions P) (pointeeType : P → Ty P)
        (pointee : DContext P → P → Nat → DProc P Unit) (ctx : DContext P)
        (top : TopStruct P) (addedPointers : Bool) (target : top.type.Obj) (address : Nat)
        (before : DState P),
      (∀ data middle,
        ISerializable.deserializeHeader ctx top addedPointers before = .ok data middle →
          data.interfaceVersionsNotMatch = true) →
      DeserializationEnforces conversions pointeeType pointee ctx top addedPointers target
        address before) ∧
    (∀ (conversions : Conversions Empty) (pointee : SContext → Empty → Nat → SProc Unit)
        (ctx : SContext) (top : TopStruct Empty) (object : top.type.Obj) (address : Nat)
        (before : SState), Unbounded ctx → FitsMemory ctx.data.platform top.type object →
      before.binaryData.length +
        ((Header.ofContext (ISerializable.chosenInterfaceVersion ctx.data top)
            top.kId).octets ++
          wire (bodyData ctx.data top) top.type object).length <
            2 ^ ctx.data.platform.addressBits →
      (SerializationEnforces conversions pointee ctx top object address before ↔
        (bodyData ctx.data top).interfaceVersionsNotMatch = true ∨
          (∀ versioning,
            Encodes (bodyData ctx.data top) conversions top.type object versioning →
              Suits ctx.data.dataFlags versioning) ∨
          ¬(Encodable (ISerializable.chosenInterfaceVersion ctx.data top) top ∧
            Sendable (bodyData ctx.data top) top.type object))) ∧
    (∀ (conversions : Conversions Empty) (pointeeType : Empty → Ty Empty)
        (pointee : DContext Empty → Empty → Nat → DProc Empty Unit) (ctx : DContext Empty)
        (top : TopStruct Empty) (addedPointers : Bool) (target : top.type.Obj)
        (address : Nat) (before middle : DState Empty) (data sender : Context.Data)
        (object : top.type.Obj) (rest : List UInt8), HeapGrants ctx → Native top.type →
      ISerializable.deserializeHeader ctx top addedPointers before = .ok data middle →
      SameFormat sender data → FitsMemory data.platform top.type object →
      Sendable sender top.type object →
      middle.binaryData.vector.drop middle.binaryData.offset =
        wire sender top.type object ++ rest →
      middle.binaryData.offset ≤ middle.binaryData.vector.length →
      middle.binaryData.vector.length < 2 ^ data.platform.addressBits →
      (DeserializationEnforces conversions pointeeType pointee ctx top addedPointers target
          address before ↔
        data.interfaceVersionsNotMatch = true ∨
          ∀ fuel versioning, Decodes { ctx with data := data } conversions pointeeType
              (pointee { ctx with data := data }) fuel top.type target address middle
              versioning → Suits data.dataFlags versioning)) := by
  refine ⟨?_, ?_, ?_, ?_⟩
  · intro conversions pointee ctx top object address before older
    exact serializationEnforces_of_notMatch older
  · intro conversions pointeeType pointee ctx top addedPointers target address before older
    exact deserializationEnforces_of_notMatch older
  · intro conversions pointee ctx top object address before unbounded fits room
    exact serializationEnforces_iff conversions pointee unbounded fits room
  · intro conversions pointeeType pointee ctx top addedPointers target address before middle
      data sender object rest grants native accepted same fits sendable body inside bounded
    exact deserializationEnforces_iff grants native accepted same fits sendable body inside
      bounded

section Parcel

private def contentsVersioning : Versioning := ⟨1, [1], 1, 0⟩

private def contentsTy : Ty Empty :=
  .struct ⟨1, .none, 4, 0, some contentsVersioning, .fieldByField .common⟩
    (.cons 0 (.scalar (.integral .unsignedInt .four false)) .nil)

private def stampTy : Ty Empty :=
  .struct ⟨2, .none, 1, 0, some ⟨2, [2, 1], 0, 0⟩, .fieldByField .none⟩ .nil

private def parcelVersioning : Versioning := ⟨2, [1], 0, 0⟩

private def parcel : TopStruct Empty where
  kId := .ofNat 3
  interface := ⟨.kNull, 2, .ofUInt32 0, .ofUInt32 0⟩
  decl := ⟨3, .none, 4, 0, some parcelVersioning, .fieldByField .common⟩
  fields := .cons 0 contentsTy (.cons 0 stampTy .nil)
  versioning := parcelVersioning
  declared := rfl

private def parcelData (interfaceVersion : Nat) : Context.Data where
  platform := ⟨false, false⟩
  protocolVersion := 1
  messageType := .data
  commonFlags := .ofUInt32 0
  dataFlags := .ofUInt32 0
  interfaceVersion := interfaceVersion
  interfaceVersionsNotMatch := false
  isHeapUsedForTemp := true

private def parcelReceiver : DContext Empty :=
  .unbounded (parcelData Context.Traits.kInterfaceVersionUndefined)

private def parcelObject : parcel.type.Obj :=
  ((nofun, ((nofun, 7#32, ()), nofun), nofun, ((), nofun), ()), nofun)

private def parcelOctets (interfaceVersion : Nat) : List UInt8 :=
  (Header.ofContext (parcelData interfaceVersion) parcel.kId).octets ++ [7, 0, 0, 0]

private def noConversions : Conversions Empty where
  toOldStruct _ _ := none
  fromOldStruct _ _ := none
  heapSlot _ _ _ := none
  stackSlot _ _ _ := 0

private theorem encodes_contents {data : Context.Data}
    (latest : inLatestForm data parcelVersioning ∧ inLatestForm data contentsVersioning) :
    Encodes data noConversions parcel.type parcelObject contentsVersioning := by
  refine .member ⟨rfl, ?_⟩ (.head _) (.self rfl rfl latest.2)
  rintro _ ⟨⟩
  exact latest.1

private theorem decodes_contents {pointee : Empty → Nat → DProc Empty Unit} (fuel : Nat)
    (state : DState Empty) :
    Decodes { parcelReceiver with data := parcelData 2 } noConversions Empty.elim pointee fuel
      parcel.type parcelObject 0 state contentsVersioning := by
  have latest (versioning : Versioning) : inLatestForm (parcelData 2) versioning := nofun
  have inside : Decodes { parcelReceiver with data := parcelData 2 } noConversions Empty.elim
      pointee fuel contentsTy parcelObject.1.2.1 0 state contentsVersioning :=
    .self rfl rfl (latest _)
  refine .member ⟨rfl, fun _ _ => latest _⟩ (List.mem_cons_self ..) ?_
  exact inside

private theorem sendable_parcel :
    Sendable (parcelData 2) parcel.type parcelObject := by
  have contents : FieldsSendable (parcelData 2)
      (.cons 0 (.scalar (.integral .unsignedInt .four false)) .nil : Fields Empty)
      (nofun, 7#32, ()) := ⟨trivial, trivial⟩
  exact (show FieldsSendable (parcelData 2) parcel.fields parcelObject.1 from
    ⟨contents, trivial, trivial⟩)

private def parcelBody : DState Empty :=
  { DState.start (parcelOctets 2) with binaryData := ⟨parcelOctets 2, 32⟩ }

theorem flags_enforced_parcel :
    SerializationEnforces noConversions (fun _ => Empty.elim)
        (.unbounded (parcelData 1)) parcel parcelObject 0 .empty ∧
      DeserializationEnforces noConversions Empty.elim (fun _ => Empty.elim)
        parcelReceiver parcel false parcelObject 0 (.start (parcelOctets 1)) ∧
      ¬SerializationEnforces noConversions (fun _ => Empty.elim)
        (.unbounded (parcelData 2)) parcel parcelObject 0 .empty ∧
      ¬DeserializationEnforces noConversions Empty.elim (fun _ => Empty.elim)
        parcelReceiver parcel false parcelObject 0 (.start (parcelOctets 2)) := by
  obtain ⟨senderOlder, receiverOlder, senderExactly, receiverExactly⟩ :=
    flags_enforced_iff Empty
  have fits : FitsMemory (P := Empty) ⟨false, false⟩ parcel.type parcelObject :=
    ⟨⟨trivial, trivial⟩, trivial, trivial⟩
  refine ⟨senderOlder _ _ _ _ _ _ _ rfl, receiverOlder _ _ _ _ _ _ _ _ _ ?_, ?_, ?_⟩
  · intro data middle headerRan
    cases headerRan
    rfl
  · rw [senderExactly _ _ _ _ _ _ _ (fun _ _ => rfl) fits (by decide)]
    rintro (older | suits | refused)
    · cases older
    · exact absurd (suits _ (encodes_contents ⟨nofun, nofun⟩)) (by decide)
    · exact refused ⟨⟨by decide, by decide, by decide, by decide, by decide⟩,
        sendable_parcel⟩
  · rw [receiverExactly _ _ _ parcelReceiver _ _ _ _ _ parcelBody (parcelData 2)
      (parcelData 2) parcelObject [] (heapGrants_unbounded _)
      ⟨⟨trivial, trivial⟩, trivial, trivial⟩ rfl ⟨rfl, rfl, rfl⟩ fits sendable_parcel rfl
      (by decide) (by decide)]
    rintro (older | suits)
    · cases older
    · exact absurd (suits 1 _ (decodes_contents 1 _)) (by decide)

/-- In the latest version a struct whose flag is missing is written and read. -/
theorem contents_not_enforced :
    ¬SerializationEnforces noConversions (fun _ => Empty.elim)
        (.unbounded (parcelData 2)) parcel parcelObject 0 .empty ∧
      ¬DeserializationEnforces noConversions Empty.elim (fun _ => Empty.elim)
        parcelReceiver parcel false parcelObject 0 (.start (parcelOctets 2)) := by
  constructor
  · intro enforces
    exact enforces ⟨_, encodes_contents ⟨nofun, nofun⟩, by decide⟩ 1 _ rfl
  · intro enforces
    exact enforces (parcelData 2) parcelBody rfl 1
      ⟨_, decodes_contents 1 _, by decide⟩ _ _ rfl

end Parcel

end CommonSerialization.Csp
