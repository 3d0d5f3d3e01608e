import CommonSerialization.Csp.Processing.ReadingBack
import Mathlib.Data.List.Sort
import Mathlib.Order.Defs.Unbundled

namespace CommonSerialization.Csp

def Fields.types : Fields P → List (Ty P)
  | .nil => []
  | .cons _ field rest => field :: rest.types

def Ty.isBool : Ty P → Bool
  | .scalar (.integral .bool _ _) => true
  | _ => false

namespace BodyProcessor

open StateExcept

/-! The containers of the standard library, nested in any way. -/

section Maps

/-- `std::map::insert`: an element with an equivalent key stays, and a new one
comes before the first greater one. -/
def insertUnique (less : α → α → Bool) (element : α) (elements : List α) : List α :=
  if elements.any fun other => !less element other && !less other element then elements
  else elements.orderedInsert (fun first second => less first second) element

theorem insertUnique_of_last {less : α → α → Bool}
    (asymmetric : ∀ first second, less first second → ¬less second first) {element : α}
    {elements : List α} (last : ∀ other ∈ elements, less other element) :
    insertUnique less element elements = elements ++ [element] := by
  have new : ¬elements.any fun other => !less element other && !less other element := by
    rw [List.any_eq_true]
    rintro ⟨other, member, alike⟩
    rw [last other member, Bool.not_true, Bool.and_false] at alike
    contradiction
  rw [insertUnique, if_neg new]
  clear new
  induction elements with
  | nil => rfl
  | cons head rest induction =>
      have after := asymmetric _ _ (last head List.mem_cons_self)
      rw [List.orderedInsert_of_not_le _ rest after,
        induction fun other member => last other (List.mem_cons_of_mem _ member)]
      rfl

/-- How the maps of a program order their elements: by a strict weak order. -/
structure KeyOrder (P : Type) where
  less : (element : Ty P) → element.Value → element.Value → Bool
  ordered : ∀ element,
    IsStrictWeakOrder element.Value fun first second => less element first second = true

theorem KeyOrder.asymmetric (order : KeyOrder P) (element : Ty P)
    (first second : element.Value) (before : order.less element first second) :
    ¬order.less element second first := by
  intro after
  have ordered := order.ordered element
  exact ordered.irrefl first (ordered.trans _ _ _ before after)

/-- `std::map::insert` compares the elements by that order. -/
def KeyOrder.Inserts (order : KeyOrder P) (ctx : DContext P) : Prop :=
  ∀ (type : Ty P) (element : type.Obj) (elements : List type.Obj),
    ctx.mapInsert type element elements =
      insertUnique (fun first second => order.less type (type.valueOf first) (type.valueOf second))
        element elements

mutual
/-- The elements of every `std::map` are in strictly ascending order. -/
def KeyOrder.Ascending (order : KeyOrder P) : (type : Ty P) → type.Obj → Prop
  | .scalar _, _ => True
  | .pointer _ _, _ => True
  | .array element _, object => ∀ index, order.Ascending element (object index)
  | .container kind _ element, object =>
      (kind = .stdMap →
        (object.2.map element.valueOf).Pairwise fun first second =>
          order.less element first second) ∧
        ∀ part ∈ object.2, order.Ascending element part
  | .struct _ fields, object => order.FieldsAscending fields object.1

def KeyOrder.FieldsAscending (order : KeyOrder P) : (fields : Fields P) → fields.Objs → Prop
  | .nil, _ => True
  | .cons _ field rest, objects =>
      order.Ascending field objects.2.1 ∧ order.FieldsAscending rest objects.2.2
end

theorem KeyOrder.Inserts.of_last {order : KeyOrder P} {ctx : DContext P}
    (inserts : order.Inserts ctx) {type : Ty P} {element : type.Obj} {elements : List type.Obj}
    (last : ∀ other ∈ elements,
      order.less type (type.valueOf other) (type.valueOf element)) :
    ctx.mapInsert type element elements = elements ++ [element] := by
  rw [inserts]
  exact insertUnique_of_last (fun _ _ => order.asymmetric type _ _) last

variable (ctx : DContext P) (grants : HeapGrants ctx) {order : KeyOrder P}
  (inserts : order.Inserts ctx) (type : Ty P) {each : type.Obj → Nat → DProc P type.Obj}

include grants inserts

/-- Each element comes behind those that are in the map already. -/
theorem deserializeEach_readsBack {objects : List type.Obj} {pieces : List (List UInt8)}
    (back : List.Forall₂ (ReadsBack ctx type each) objects pieces) :
    ∀ elements : List type.Obj,
      ((elements ++ objects).map type.valueOf).Pairwise
          (fun first second => order.less type first second) →
        Reads ctx.data.platform (deserializeEach ctx type each objects.length elements)
          pieces.flatten fun received =>
            received.map type.valueOf = (elements ++ objects).map type.valueOf := by
  induction back with
  | nil =>
      intro elements _
      rw [List.append_nil]
      exact .pure rfl
  | @cons object piece objects pieces head tail induction =>
      intro elements ascending
      have allocates (size : Nat) :
          Reads ctx.data.platform (allocate ctx size) [] fun answer => answer.isSome := by
        intro before rest _ _ _
        obtain ⟨address, after, ran, walker⟩ := allocate_eq ctx grants size before
        exact ⟨_, after, ran, rfl, walker⟩
      have deeper (change : Nat → Nat) :
          Reads ctx.data.platform
            (modify fun state =>
              { state with temporaryDepth := change state.temporaryDepth } : DProc P Unit) []
            fun _ => True :=
        Reads.modify (fun state =>
          { state with temporaryDepth := change state.temporaryDepth }) fun _ => rfl
      refine Reads.get_bind fun state => ?_
      rw [List.flatten_cons, ← List.nil_append (piece ++ _)]
      refine (deeper (· + 1)).bind fun _ _ => ?_
      refine (head _ _).bind fun element same => ?_
      rw [← List.nil_append (List.flatten pieces)]
      refine (deeper (· - 1)).bind fun _ _ => ?_
      rw [← List.nil_append (List.flatten pieces)]
      refine (allocates _).bind fun answer granted => ?_
      obtain ⟨address, rfl⟩ := Option.isSome_iff_exists.mp granted
      have whole : ((elements ++ [element]) ++ objects).map type.valueOf =
          (elements ++ object :: objects).map type.valueOf := by
        simp only [List.map_append, List.map_cons, same, List.append_assoc,
          List.cons_append, List.nil_append]
      have inserted : ctx.mapInsert type element elements = elements ++ [element] := by
        refine inserts.of_last fun other member => ?_
        rw [same]
        rw [List.map_append, List.pairwise_append] at ascending
        exact ascending.2.2 _ (List.mem_map_of_mem member) _ List.mem_cons_self
      have rest := induction (elements ++ [element]) (by rwa [whole])
      simp only [inserted]
      rwa [whole] at rest

theorem serializeStdMap_sends (sctx : SContext) (same : ctx.data = sctx.data)
    {write : type.Obj → Nat → SProc Unit} (value : Storage × List type.Obj)
    (fit : ElementsFit ctx.data.platform type value.2.length)
    (ascending : (value.2.map type.valueOf).Pairwise fun first second =>
      order.less type first second)
    (eachSends : ∀ object ∈ value.2, ∀ address,
      Sends (write object address) (ReadsBack ctx type each object)) :
    Sends (serializeTemplate sctx .stdMap type write value)
      (TemplateReadsBack ctx .stdMap type each value) := by
  refine (serializeSizeT_sends sctx ctx same _ fit.1).bind fun _ sizeOctets sized => ?_
  refine (serializeEach_sends type.sizeof value.2 eachSends _).weaken ?_
  rintro _ ⟨pieces, rfl, back⟩ storage
  refine sized.bind ?_
  rintro size rfl
  have elements := deserializeEach_readsBack ctx grants inserts type back [] ascending
  exact elements.map _ fun received alike => alike

end Maps

section Tuples

/-- A tuple is processed like a struct whose function visits the members in
the order of their indices: nothing goes before them or between them. -/
def stdTuple (name alignment tailPadding : Nat) (members : Fields P) : Ty P :=
  .struct ⟨name, Tags.none, alignment, tailPadding, none, .fieldByField .none⟩ members

def stdPair (name alignment padding tailPadding : Nat) (first second : Ty P) : Ty P :=
  stdTuple name alignment tailPadding (.cons 0 first (.cons padding second .nil))

variable {name alignment padding tailPadding : Nat} {first second : Ty P}

end Tuples

section RoundTrips

variable (sctx : SContext) (ctx : DContext P) (shandlers : SHandlers P)
  (dhandlers : DHandlers P) (pointeeType : P → Ty P) (order : KeyOrder P)

/-- What is written for an object is read back, into any other, as the same
value; a type that is tagged empty has only one. -/
structure RoundTrips (type : Ty P) : Prop where
  blank : type.emptyType → ∀ first second : type.Obj,
    type.valueOf first = type.valueOf second
  returns : ∀ object address, FitsMemory sctx.data.platform type object →
    order.Ascending type object →
      Sends (serialize sctx shandlers type object address)
        (ReadsBack ctx type (deserialize ctx pointeeType dhandlers type) object)

variable {sctx ctx shandlers dhandlers pointeeType order} (same : ctx.data = sctx.data)

include same

theorem roundTrips_scalar (type : ScalarType) :
    RoundTrips sctx ctx shandlers dhandlers pointeeType order (.scalar type : Ty P) := by
  refine ⟨nofun, fun value address _ _ => ?_⟩
  simp only [serialize]
  have written := serializeArithmetic_appends sctx type value
  rw [← same] at written
  exact written.sends fun _ _ _ _ => deserializeArithmetic_reads ctx type value

theorem roundTrips_array {element : Ty P} (length : Nat)
    (elements : RoundTrips sctx ctx shandlers dhandlers pointeeType order element) :
    RoundTrips sctx ctx shandlers dhandlers pointeeType order (.array element length) := by
  refine ⟨nofun, fun value address fits ascending => ?_⟩
  simp only [serialize]
  have eachSends : ∀ object ∈ List.ofFn value, ∀ address,
      Sends (serialize sctx shandlers element object address)
        (ReadsBack ctx element (deserialize ctx pointeeType dhandlers element) object) := by
    intro object member address
    obtain ⟨index, rfl⟩ := List.mem_ofFn.mp member
    exact elements.returns _ address (fits index) (ascending index)
  refine (serializeN_sends sctx ctx same element _ elements.blank eachSends address).weaken ?_
  intro octets back target address
  simp only [deserialize]
  refine (back (List.ofFn target) _ address (by simp) (by simp)).map _ ?_
  intro received alike
  have count : received.length = length := by
    simpa using congrArg List.length alike
  rw [← ofFn_getD received target count, List.map_ofFn, List.map_ofFn] at alike
  exact List.ofFn_injective alike

omit same in
theorem serializeFields_sends : (fields : Fields P) →
    (∀ field ∈ fields.types,
      RoundTrips sctx ctx shandlers dhandlers pointeeType order field) →
    (values : fields.Objs) → FieldsFitMemory sctx.data.platform fields values →
      order.FieldsAscending fields values → (address : Nat) →
        Sends (serializeFields sctx shandlers fields values address) fun octets =>
          ∀ targets address, Reads ctx.data.platform
            (deserializeFields ctx pointeeType dhandlers fields targets address) octets
            fun received => fields.valuesOf received = fields.valuesOf values
  | .nil, _, _, _, _, _ => .pure fun _ _ => .pure rfl
  | .cons padding field rest, members, values, fits, ascending, address => by
      simp only [FieldsFitMemory] at fits
      simp only [KeyOrder.FieldsAscending] at ascending
      simp only [serializeFields]
      refine ((members field List.mem_cons_self).returns values.2.1 _ fits.1
        ascending.1).bind fun _ fieldOctets fieldBack => ?_
      refine (serializeFields_sends rest
        (fun other member => members other (List.mem_cons_of_mem _ member)) values.2.2 fits.2
        ascending.2 _).weaken fun octets restBack targets address => ?_
      simp only [deserializeFields]
      refine (fieldBack targets.2.1 (address + padding)).bind fun object alike => ?_
      refine (restBack targets.2.2 _).map _ fun objects restAlike => ?_
      simp only [Fields.valuesOf, alike, restAlike]

def Current (data : Context.Data) (decl : StructDecl) : Prop :=
  decl.iSerializable.isSome → data.interfaceVersionsNotMatch = false

theorem roundTrips_struct {decl : StructDecl} {fields : Fields P} {prologue : Prologue}
    (own : decl.function = .fieldByField prologue)
    (current : prologue = .common → Current sctx.data decl)
    (bare : decl.tags.emptyType → fields = .nil)
    (members : ∀ field ∈ fields.types,
      RoundTrips sctx ctx shandlers dhandlers pointeeType order field) :
    RoundTrips sctx ctx shandlers dhandlers pointeeType order (.struct decl fields) := by
  have blank (empty : (Ty.struct decl fields).emptyType)
      (first second : (Ty.struct decl fields).Obj) :
      (Ty.struct decl fields).valueOf first = (Ty.struct decl fields).valueOf second := by
    obtain rfl := bare empty
    rfl
  refine ⟨blank, fun object address fits ascending => ?_⟩
  have written := serializeFields_sends fields members object.1 fits ascending address
  have fieldwise : Sends (serializeFields sctx shandlers fields object.1 address) fun octets =>
      ∀ target address, Reads ctx.data.platform (readFields decl fields target
          (deserializeFields ctx pointeeType dhandlers fields target.1 address)) octets
        fun received => fields.valuesOf received.1 = fields.valuesOf object.1 := by
    refine written.weaken fun octets back target address => ?_
    exact (back target.1 address).map _ fun objects alike => alike
  have wholeOrFields (start : SProc Bool)
      (starts : start = serializeAnySimplyAssignable sctx (.struct decl fields) object) :
      Sends (writeFieldsUnless start (serializeFields sctx shandlers fields object.1 address))
        fun octets => ∀ target address, Reads ctx.data.platform
          (readFieldsUnless decl fields target
            (deserializeAnySimplyAssignable ctx (.struct decl fields) target)
            (deserializeFields ctx pointeeType dhandlers fields target.1 address)) octets
          fun received => fields.valuesOf received.1 = fields.valuesOf object.1 := by
    rw [starts, serializeAnySimplyAssignable_eq, ← same]
    unfold writeFieldsUnless readFieldsUnless
    by_cases copies : copiesStruct ctx.data (.struct decl fields)
    · simp only [if_pos copies, bind_assoc, pure_bind, deserializeAnySimplyAssignable_eq]
      have whole : Appends (do writeRawData sctx (.struct decl fields) [object]; return ())
          ((Ty.struct decl fields).image sctx.data.platform object) fun _ => fields.plain :=
        writeStruct_appends sctx (.struct decl fields) object fun plain => plain
      rw [← same] at whole
      refine whole.sends fun _ plain target address => ?_
      refine (readStruct_reads ctx ctx.data (.struct decl fields) plain object
        target).weaken fun received copied => ?_
      exact valueOf_eq_of_copied rfl (.struct decl fields) plain copied.2
    · simp only [if_neg copies, pure_bind, deserializeAnySimplyAssignable_eq]
      exact fieldwise
  simp only [serialize, serializeStruct, own]
  cases prologue with
  | none =>
      refine fieldwise.weaken fun octets back target address => ?_
      simp only [deserialize, deserializeStruct, own]
      exact back target address
  | anySimplyAssignable =>
      refine (wholeOrFields _ rfl).weaken fun octets back target address => ?_
      simp only [deserialize, deserializeStruct, own]
      exact back target address
  | common =>
      have starts : serializeCommon sctx shandlers decl fields object =
          serializeAnySimplyAssignable sctx (.struct decl fields) object := by
        unfold serializeCommon
        split
        · rename_i versioned mismatch
          have matching := current rfl (by rw [versioned]; rfl)
          rw [matching] at mismatch
          contradiction
        · rfl
      refine (wholeOrFields _ starts).weaken fun octets back target address => ?_
      have reads : deserializeCommon ctx dhandlers decl fields target address =
          deserializeAnySimplyAssignable ctx (.struct decl fields) target := by
        unfold deserializeCommon
        split
        · rename_i versioned mismatch
          have matching := current rfl (by rw [versioned]; rfl)
          rw [same, matching] at mismatch
          contradiction
        · rfl
      simp only [deserialize, deserializeStruct, own, reads]
      exact back target address

omit same in
theorem roundTrips_empty {decl : StructDecl} (generic : decl.function = .generic)
    (empty : decl.tags.emptyType)
    (untagged : (Ty.struct decl .nil : Ty P).anySimplyAssignable = false) :
    RoundTrips sctx ctx shandlers dhandlers pointeeType order (.struct decl .nil) := by
  refine ⟨fun _ _ _ => rfl, fun object address _ _ => ?_⟩
  have tagged : (Ty.struct decl .nil : Ty P).emptyType := empty
  simp only [serialize, serializeStruct, generic, serializeGeneric, untagged, tagged]
  refine .pure fun target address => ?_
  simp only [deserialize, deserializeStruct, generic, deserializeGeneric, untagged, tagged]
  exact .pure trivial

section Containers

theorem roundTrips_container (kind : ContainerKind) (size : Nat) {element : Ty P}
    (sent : ∀ value : Storage × List element.Obj,
      ElementsFit ctx.data.platform element value.2.length →
      (∀ object ∈ value.2, FitsMemory sctx.data.platform element object) →
      order.Ascending (.container kind size element) value →
        Sends (serializeTemplate sctx kind element (serialize sctx shandlers element) value)
          (TemplateReadsBack ctx kind element (deserialize ctx pointeeType dhandlers element)
            value)) :
    RoundTrips sctx ctx shandlers dhandlers pointeeType order
      (.container kind size element) := by
  refine ⟨nofun, fun value address fits ascending => ?_⟩
  simp only [FitsMemory] at fits
  simp only [serialize]
  have fit : ElementsFit ctx.data.platform element value.2.length := by
    rw [same]
    exact fits.1
  refine (sent value fit fits.2 ascending).weaken fun octets back target _ => ?_
  simp only [deserialize]
  exact back target.1

variable (grants : HeapGrants ctx)

include grants

theorem roundTrips_vectorT {element : Ty P} (size : Nat)
    (elements : RoundTrips sctx ctx shandlers dhandlers pointeeType order element) :
    RoundTrips sctx ctx shandlers dhandlers pointeeType order
      (.container .vectorT size element) := by
  refine roundTrips_container same .vectorT size fun value fit fits ascending => ?_
  apply serializeVectorT_sends sctx ctx same grants element elements.blank value fit
  intro object member address
  exact elements.returns object address (fits object member) (ascending.2 object member)

theorem roundTrips_stdVector {element : Ty P} (size : Nat)
    (elements : RoundTrips sctx ctx shandlers dhandlers pointeeType order element) :
    RoundTrips sctx ctx shandlers dhandlers pointeeType order
      (.container .stdVector size element) := by
  refine roundTrips_container same .stdVector size fun value fit fits ascending => ?_
  apply serializeStdVector_sends sctx ctx same grants element elements.blank value fit
  intro object member address
  exact elements.returns object address (fits object member) (ascending.2 object member)

theorem roundTrips_stdBasicString (size : Nat) (type : ScalarType) :
    RoundTrips sctx ctx shandlers dhandlers pointeeType order
      (.container .stdBasicString size (.scalar type) : Ty P) := by
  refine roundTrips_container same .stdBasicString size fun value fit _ _ => ?_
  apply serializeStdBasicString_sends sctx ctx same grants (.scalar type) nofun value fit
  intro object _ address
  have characters : RoundTrips sctx ctx shandlers dhandlers pointeeType order (.scalar type) :=
    roundTrips_scalar same type
  exact characters.returns object address trivial trivial

theorem roundTrips_stdMap (inserts : order.Inserts ctx) {element : Ty P} (size : Nat)
    (elements : RoundTrips sctx ctx shandlers dhandlers pointeeType order element) :
    RoundTrips sctx ctx shandlers dhandlers pointeeType order
      (.container .stdMap size element) := by
  refine roundTrips_container same .stdMap size fun value fit fits ascending => ?_
  apply serializeStdMap_sends ctx grants inserts element sctx same value fit (ascending.1 rfl)
  intro object member address
  exact elements.returns object address (fits object member) (ascending.2 object member)

end Containers

end RoundTrips

section Nested

/-- The types that are nested from containers and from element types that are
`known`. -/
inductive Nested (data : Context.Data) (known : Ty P → Prop) : Ty P → Prop
  | known {type : Ty P} (element : known type) : Nested data known type
  | scalar (type : ScalarType) : Nested data known (.scalar type)
  | empty {decl : StructDecl} (generic : decl.function = .generic)
      (tagged : decl.tags.emptyType)
      (untagged : (Ty.struct decl .nil : Ty P).anySimplyAssignable = false) :
      Nested data known (.struct decl .nil)
  | array {element : Ty P} (length : Nat) (elements : Nested data known element) :
      Nested data known (.array element length)
  | struct {decl : StructDecl} {fields : Fields P} {prologue : Prologue}
      (own : decl.function = .fieldByField prologue)
      (current : prologue = .common → Current data decl)
      (bare : decl.tags.emptyType → fields = .nil)
      (members : ∀ field ∈ fields.types, Nested data known field) :
      Nested data known (.struct decl fields)
  | vectorT {element : Ty P} (size : Nat) (elements : Nested data known element) :
      Nested data known (.container .vectorT size element)
  | stdVector {element : Ty P} (size : Nat) (elements : Nested data known element)
      (notBool : element.isBool = false) :
      Nested data known (.container .stdVector size element)
  | stdBasicString (size : Nat) (type : ScalarType) :
      Nested data known (.container .stdBasicString size (.scalar type))
  | stdMap {key mapped : Ty P} (size name alignment padding tailPadding : Nat)
      (keys : Nested data known key) (values : Nested data known mapped) :
      Nested data known (.container .stdMap size
        (stdPair name alignment padding tailPadding key mapped))
  | stdPair {first second : Ty P} (name alignment padding tailPadding : Nat)
      (firsts : Nested data known first) (seconds : Nested data known second) :
      Nested data known (stdPair name alignment padding tailPadding first second)
  | stdTuple {members : Fields P} (name alignment tailPadding : Nat)
      (each : ∀ member ∈ members.types, Nested data known member) :
      Nested data known (stdTuple name alignment tailPadding members)

variable {sctx : SContext} {ctx : DContext P} {shandlers : SHandlers P}
  {dhandlers : DHandlers P} {pointeeType : P → Ty P} {order : KeyOrder P}

theorem roundTrips_stdTuple (same : ctx.data = sctx.data) {members : Fields P}
    (name alignment tailPadding : Nat)
    (each : ∀ member ∈ members.types,
      RoundTrips sctx ctx shandlers dhandlers pointeeType order member) :
    RoundTrips sctx ctx shandlers dhandlers pointeeType order
      (stdTuple name alignment tailPadding members) :=
  roundTrips_struct same rfl nofun nofun each

theorem roundTrips_stdPair (same : ctx.data = sctx.data) {first second : Ty P}
    (name alignment padding tailPadding : Nat)
    (firsts : RoundTrips sctx ctx shandlers dhandlers pointeeType order first)
    (seconds : RoundTrips sctx ctx shandlers dhandlers pointeeType order second) :
    RoundTrips sctx ctx shandlers dhandlers pointeeType order
      (stdPair name alignment padding tailPadding first second) := by
  refine roundTrips_stdTuple same name alignment tailPadding fun member listed => ?_
  rcases List.mem_cons.mp listed with rfl | listed
  · exact firsts
  · obtain rfl := List.mem_singleton.mp listed
    exact seconds

theorem roundTrips_of_nested (same : ctx.data = sctx.data) (grants : HeapGrants ctx)
    (inserts : order.Inserts ctx) {known : Ty P → Prop}
    (elements : ∀ type, known type →
      RoundTrips sctx ctx shandlers dhandlers pointeeType order type) {type : Ty P}
    (nested : Nested sctx.data known type) :
    RoundTrips sctx ctx shandlers dhandlers pointeeType order type := by
  induction nested with
  | known element => exact elements _ element
  | scalar type => exact roundTrips_scalar same type
  | empty generic tagged untagged => exact roundTrips_empty generic tagged untagged
  | array length _ induction => exact roundTrips_array same length induction
  | struct own current bare _ induction =>
      exact roundTrips_struct same own current bare induction
  | vectorT size _ induction => exact roundTrips_vectorT same grants size induction
  | stdVector size _ _ induction => exact roundTrips_stdVector same grants size induction
  | stdBasicString size type => exact roundTrips_stdBasicString same grants size type
  | stdMap size name alignment padding tailPadding _ _ keys values =>
      apply roundTrips_stdMap same grants inserts size
      exact roundTrips_stdPair same name alignment padding tailPadding keys values
  | stdPair name alignment padding tailPadding _ _ firsts seconds =>
      exact roundTrips_stdPair same name alignment padding tailPadding firsts seconds
  | stdTuple name alignment tailPadding _ induction =>
      exact roundTrips_stdTuple same name alignment tailPadding induction

/-- What a successful serialization appends is read back into any target,
whatever follows it in the message. -/
theorem deserialize_serialize_nested (sctx : SContext) (ctx : DContext P)
    (same : ctx.data = sctx.data) (grants : HeapGrants ctx) (shandlers : SHandlers P)
    (dhandlers : DHandlers P) (pointeeType : P → Ty P) (order : KeyOrder P)
    (inserts : order.Inserts ctx) {known : Ty P → Prop}
    (elements : ∀ type, known type →
      RoundTrips sctx ctx shandlers dhandlers pointeeType order type) {type : Ty P}
    (nested : Nested sctx.data known type) (object target : type.Obj)
    (fits : FitsMemory sctx.data.platform type object) (ascending : order.Ascending type object)
    (sourceAddress targetAddress : Nat) (before after : SState)
    (ran : serialize sctx shandlers type object sourceAddress before = .ok () after) :
    ∃ octets, after.binaryData = before.binaryData ++ octets ∧
      ∀ (start : DState P) (suffix : List UInt8),
        start.binaryData.vector.drop start.binaryData.offset = octets ++ suffix →
        start.binaryData.offset ≤ start.binaryData.vector.length →
        start.binaryData.vector.length < 2 ^ sctx.data.platform.addressBits →
        ∃ received final,
          deserialize ctx pointeeType dhandlers type target targetAddress start =
              .ok received final ∧
            type.valueOf received = type.valueOf object ∧
            final.binaryData =
              { start.binaryData with
                offset := start.binaryData.offset + octets.length } := by
  have roundTrips := roundTrips_of_nested same grants inserts elements nested
  obtain ⟨octets, appended, back⟩ :=
    roundTrips.returns object sourceAddress fits ascending before () after ran
  refine ⟨octets, appended, fun start suffix input inside bounded => ?_⟩
  rw [← same] at bounded
  exact back target targetAddress start suffix input inside bounded

end Nested

section Dictionary

private def keyNumber : (element : Ty Empty) → element.Value → Nat
  | .struct _ (.cons _ (.scalar _) _), value => BitVec.toNat value.1
  | _, _ => 0

private def byNumber : KeyOrder Empty where
  less element first second := decide (keyNumber element first < keyNumber element second)
  ordered element :=
    { irrefl := fun first => by simp
      trans := fun first second third => by simp; omega
      incomp_trans := fun first second third => by simp; omega }

private def dictionaryContext : Context.Data where
  platform := ⟨false, false⟩
  protocolVersion := 1
  messageType := .data
  commonFlags := .ofUInt32 0
  dataFlags := .ofUInt32 0
  interfaceVersion := 1
  interfaceVersionsNotMatch := false
  isHeapUsedForTemp := false

private def dictionaryReader : DContext Empty :=
  { DContext.unbounded dictionaryContext with
    mapInsert := fun type =>
      insertUnique fun first second =>
        byNumber.less type (type.valueOf first) (type.valueOf second) }

private def octetTy : Ty Empty := .scalar (.integral .unsignedChar .one false)

private def wordTy : Ty Empty :=
  .container .stdBasicString 32 (.scalar (.integral (.char true) .one false))

private def dictionaryTy : Ty Empty :=
  stdTuple 0 8 0
    (.cons 0 (.container .stdMap 48 (stdPair 1 8 7 0 octetTy wordTy))
      (.cons 0 (.container .stdVector 24 (.scalar (.integral .unsignedShort .two false))) .nil))

private def dictionary : dictionaryTy.Obj :=
  ((nofun, (⟨64, 2⟩,
      [((nofun, 1#8, fun _ => 0, (⟨96, 2⟩, [0x61#8, 0#8]), ()), nofun),
        ((nofun, 2#8, fun _ => 0, (⟨128, 0⟩, []), ()), nofun)]),
    nofun, (⟨160, 1⟩, [0x1234#16]), ()), nofun)

private def dictionaryOctets : List UInt8 :=
  [2, 0, 0, 0, 0, 0, 0, 0, 1, 2, 0, 0, 0, 0, 0, 0, 0, 0x61, 0, 0, 2, 0, 0, 0, 0, 0, 0, 0, 0, 0,
    1, 0, 0, 0, 0, 0, 0, 0, 0x34, 0x12]

theorem deserialize_serialize_dictionary :
    ∃ received final,
      deserialize dictionaryReader Empty.elim .none dictionaryTy dictionary 0
          (.start (dictionaryOctets ++ [0xff])) = .ok received final ∧
        dictionaryTy.valueOf received = dictionaryTy.valueOf dictionary ∧
        final.binaryData.offset = 40 := by
  have nested : Nested dictionaryContext (fun _ => False) dictionaryTy := by
    refine .stdTuple 0 8 0 fun member listed => ?_
    rcases List.mem_cons.mp listed with rfl | listed
    · exact .stdMap 48 1 8 7 0 (.scalar _) (.stdBasicString 32 _)
    · obtain rfl := List.mem_singleton.mp listed
      exact .stdVector 24 (.scalar _) rfl
  have ran : serialize (.unbounded dictionaryContext) .none dictionaryTy dictionary 0 .empty =
      .ok () ⟨dictionaryOctets, fun _ => none⟩ := rfl
  have fits : FitsMemory dictionaryContext.platform dictionaryTy dictionary := by
    refine ⟨⟨⟨by decide, by decide⟩, fun part member => ?_⟩,
      ⟨⟨by decide, by decide⟩, fun _ _ => trivial⟩, trivial⟩
    rcases List.mem_cons.mp member with rfl | member
    · exact ⟨trivial, ⟨⟨by decide, by decide⟩, fun _ _ => trivial⟩, trivial⟩
    · obtain rfl := List.mem_singleton.mp member
      exact ⟨trivial, ⟨⟨by decide, by decide⟩, fun _ _ => trivial⟩, trivial⟩
  have ascending : byNumber.Ascending dictionaryTy dictionary := by
    refine ⟨⟨fun _ => ?_, fun part member => ?_⟩, ⟨nofun, fun _ _ => trivial⟩, trivial⟩
    · exact List.pairwise_pair.mpr rfl
    · rcases List.mem_cons.mp member with rfl | member
      · exact ⟨trivial, ⟨nofun, fun _ _ => trivial⟩, trivial⟩
      · obtain rfl := List.mem_singleton.mp member
        exact ⟨trivial, ⟨nofun, fun _ _ => trivial⟩, trivial⟩
  obtain ⟨octets, written, readBack⟩ :=
    deserialize_serialize_nested (.unbounded dictionaryContext) dictionaryReader rfl
      (fun _ _ => ⟨_, rfl⟩) .none .none Empty.elim byNumber (fun _ _ _ => rfl) nofun nested
      dictionary dictionary fits ascending 0 0 _ _ ran
  obtain rfl : dictionaryOctets = octets := written
  obtain ⟨received, final, returned, value, walker⟩ :=
    readBack (.start (dictionaryOctets ++ [0xff])) [0xff] rfl (by decide) (by decide)
  exact ⟨received, final, returned, value, by rw [walker]; rfl⟩

end Dictionary

end BodyProcessor

end CommonSerialization.Csp
