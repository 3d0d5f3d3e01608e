import CommonSerialization.Csp.Processing.RoundTrip

namespace CommonSerialization.Csp.BodyProcessor

open Chunks StateExcept

/-! What is written in pieces is read back piece by piece. -/

section Reader

variable (ctx : DContext P)

/-- The octets are read back into any object, as one of the same value. -/
def ReadsBack (type : Ty P) (each : type.Obj → Nat → DProc P type.Obj) (object : type.Obj)
    (octets : List UInt8) : Prop :=
  ∀ target address, Reads ctx.data.platform (each target address) octets fun received =>
    type.valueOf received = type.valueOf object

/-- The same for the objects of an array, in a block that has room for them. -/
def ReadsBackN (type : Ty P) (each : type.Obj → Nat → DProc P type.Obj)
    (objects : List type.Obj) (octets : List UInt8) : Prop :=
  ∀ targets room address, targets.length = objects.length → objects.length ≤ room →
    Reads ctx.data.platform (deserializeN ctx type each targets room address) octets
      fun received => received.map type.valueOf = objects.map type.valueOf

theorem deserializeElements_readsBack (type : Ty P)
    {each : type.Obj → Nat → DProc P type.Obj} {objects : List type.Obj}
    {pieces : List (List UInt8)}
    (back : List.Forall₂ (ReadsBack ctx type each) objects pieces) :
    ∀ address, Reads ctx.data.platform
      (deserializeElements ctx type each objects.length address) pieces.flatten fun received =>
        received.map type.valueOf = objects.map type.valueOf := by
  induction back with
  | nil => exact fun _ => .pure rfl
  | @cons object piece objects pieces head tail induction =>
      intro address
      rw [List.flatten_cons, ← List.nil_append (piece ++ _)]
      refine (registerObject_reads ctx type address).bind fun _ _ => ?_
      refine (head _ _).bind fun received same => ?_
      refine (induction (address + type.sizeof)).map _ fun others alike => ?_
      rw [List.map_cons, List.map_cons, same, alike]

theorem readsBackN_of_empty (type : Ty P) (each : type.Obj → Nat → DProc P type.Obj)
    (blank : ∀ first second : type.Obj, type.valueOf first = type.valueOf second)
    (empty : type.emptyType) (objects : List type.Obj) :
    ReadsBackN ctx type each objects [] := by
  intro targets room address lengths _
  unfold deserializeN
  rw [if_pos empty]
  refine .pure ?_
  apply List.ext_getElem
  · rw [List.length_map, List.length_map, lengths]
  · intro index _ _
    rw [List.getElem_map, List.getElem_map]
    exact blank _ _

theorem readsBackN_of_copied (type : Ty P) (each : type.Obj → Nat → DProc P type.Obj)
    (occupied : ¬type.emptyType) (copies : copiesArray ctx.data type) (plain : type.plain)
    (objects : List type.Obj) :
    ReadsBackN ctx type each objects
      (arrayPrefix ctx.data type ++ objects.flatMap (type.image ctx.data.platform)) := by
  intro targets room address lengths _
  unfold deserializeN
  rw [if_neg occupied, if_pos copies]
  refine (deserializeArrayCopy_reads ctx (.refl _) type plain room objects targets
    lengths).weaken fun received copied => ?_
  exact map_eq_map_of_forall₂ copied fun _ _ alike => valueOf_eq_of_copied rfl type plain alike

theorem readsBackN_of_pieces (type : Ty P) {each : type.Obj → Nat → DProc P type.Obj}
    (occupied : ¬type.emptyType) (loops : ¬copiesArray ctx.data type) {objects : List type.Obj}
    {pieces : List (List UInt8)}
    (back : List.Forall₂ (ReadsBack ctx type each) objects pieces) :
    ReadsBackN ctx type each objects pieces.flatten := by
  intro targets room address lengths enough
  unfold deserializeN
  rw [if_neg occupied, if_neg loops, lengths, withinRoom_of_le enough]
  exact deserializeElements_readsBack ctx type back address

theorem resize_reads (grants : HeapGrants ctx) (type : Ty P) (storage : Storage) (n : Nat)
    (fit : ElementsFit ctx.data.platform type n) :
    Reads ctx.data.platform (resize ctx type storage n) [] fun _ => True := by
  unfold resize
  split
  · rw [if_pos fit.2]
    intro before rest _ _ _
    obtain ⟨address, after, ran, walker⟩ := allocate_eq ctx grants (type.sizeof * n) before
    exact ⟨_, after, by rw [bind_of_ok ran]; rfl, trivial, walker⟩
  · exact .pure trivial

end Reader

section Writer

variable (sctx : SContext) (ctx : DContext P)

theorem serializeElements_sends (size : Nat) {each : α → Nat → SProc Unit}
    {good : α → List UInt8 → Prop} (objects : List α)
    (eachSends : ∀ object ∈ objects, ∀ address, Sends (each object address) (good object)) :
    ∀ address, Sends (serializeElements sctx size each objects address) fun octets =>
      ∃ pieces, octets = pieces.flatten ∧ List.Forall₂ good objects pieces := by
  induction objects with
  | nil => exact fun _ => .pure ⟨[], rfl, .nil⟩
  | cons object rest induction =>
      intro address
      have both : Sends (each object address >>= fun _ =>
          serializeElements sctx size each rest (address + size)) fun octets =>
            ∃ pieces, octets = pieces.flatten ∧
              List.Forall₂ good (object :: rest) pieces := by
        refine (eachSends object List.mem_cons_self address).bind fun _ piece head => ?_
        have tail := induction (fun other member =>
          eachSends other (List.mem_cons_of_mem _ member)) (address + size)
        refine tail.weaken ?_
        rintro _ ⟨pieces, rfl, others⟩
        exact ⟨piece :: pieces, rfl, .cons head others⟩
      unfold serializeElements
      split
      · have noted : Sends (modify fun state : SState =>
            { state with
              pointersMap :=
                Function.update state.pointersMap address
                  state.binaryData.length } : SProc Unit) fun octets => octets = [] :=
          Appends.sends (Appends.modify (fun state : SState =>
            { state with
              pointersMap :=
                Function.update state.pointersMap address
                  state.binaryData.length }) fun _ => rfl) fun _ _ => rfl
        refine noted.bind ?_
        rintro _ _ rfl
        exact both
      · exact both

theorem serializeEach_sends (size : Nat) {each : α → Nat → SProc Unit}
    {good : α → List UInt8 → Prop} (objects : List α)
    (eachSends : ∀ object ∈ objects, ∀ address, Sends (each object address) (good object)) :
    ∀ address, Sends (serializeEach size each objects address) fun octets =>
      ∃ pieces, octets = pieces.flatten ∧ List.Forall₂ good objects pieces := by
  induction objects with
  | nil => exact fun _ => .pure ⟨[], rfl, .nil⟩
  | cons object rest induction =>
      intro address
      refine (eachSends object List.mem_cons_self address).bind fun _ piece head => ?_
      have tail := induction (fun other member =>
        eachSends other (List.mem_cons_of_mem _ member)) (address + size)
      refine tail.weaken ?_
      rintro _ ⟨pieces, rfl, others⟩
      exact ⟨piece :: pieces, rfl, .cons head others⟩

variable (same : ctx.data = sctx.data)

include same

theorem serializeN_sends (type : Ty P) {write : type.Obj → Nat → SProc Unit}
    {each : type.Obj → Nat → DProc P type.Obj} (objects : List type.Obj)
    (blank : type.emptyType → ∀ first second : type.Obj,
      type.valueOf first = type.valueOf second)
    (eachSends : ∀ object ∈ objects, ∀ address,
      Sends (write object address) (ReadsBack ctx type each object)) (address : Nat) :
    Sends (serializeN sctx type write objects address) (ReadsBackN ctx type each objects) := by
  unfold serializeN
  rw [← same]
  split
  · rename_i empty
    exact .pure (readsBackN_of_empty ctx type each (blank empty) empty objects)
  · rename_i occupied
    split
    · rename_i copies
      have copied := serializeArrayCopy_appends sctx type objects
      rw [← same] at copied
      exact copied.sends fun _ plain =>
        readsBackN_of_copied ctx type each occupied copies plain objects
    · rename_i loops
      refine (serializeElements_sends sctx type.sizeof objects eachSends address).weaken ?_
      rintro _ ⟨pieces, rfl, back⟩
      exact readsBackN_of_pieces ctx type occupied loops back

theorem serializeSizeT_sends (value : Nat)
    (bounded : value < 2 ^ ctx.data.platform.addressBits) :
    Sends (serializeSizeT sctx value) fun octets =>
      Reads ctx.data.platform (deserializeSizeT ctx) octets fun result => result = value := by
  rw [same] at bounded
  refine (serializeSizeT_appends sctx value bounded).sends fun _ short => ?_
  rw [← same] at short bounded ⊢
  exact deserializeSizeT_reads ctx value bounded short

variable (grants : HeapGrants ctx) (type : Ty P) {write : type.Obj → Nat → SProc Unit}
  {each : type.Obj → Nat → DProc P type.Obj}
  (blank : type.emptyType → ∀ first second : type.Obj,
    type.valueOf first = type.valueOf second)
  (value : Storage × List type.Obj)
  (fit : ElementsFit ctx.data.platform type value.2.length)

/-- Whatever the container held, it is read back with the elements that were
written. -/
abbrev TemplateReadsBack (ctx : DContext P) (kind : ContainerKind) (type : Ty P)
    (each : type.Obj → Nat → DProc P type.Obj) (value : Storage × List type.Obj)
    (octets : List UInt8) : Prop :=
  ∀ storage, Reads ctx.data.platform (deserializeTemplate ctx kind type each storage) octets
    fun received => received.2.map type.valueOf = value.2.map type.valueOf

include grants blank fit

theorem serializeVectorT_sends
    (eachSends : ∀ object ∈ value.2, ∀ address,
      Sends (write object address) (ReadsBack ctx type each object)) :
    Sends (serializeTemplate sctx .vectorT type write value)
      (TemplateReadsBack ctx .vectorT type each value) := by
  refine (serializeSizeT_sends sctx ctx same _ fit.1).bind fun _ sizeOctets sized => ?_
  refine (serializeN_sends sctx ctx same type value.2 blank eachSends _).weaken ?_
  intro octets back storage
  refine sized.bind ?_
  rintro size rfl
  rw [← List.nil_append octets]
  refine (reserve_reads ctx grants type storage _ fit).bind fun reserved enough => ?_
  exact (back _ _ _ List.length_replicate enough).map _ fun received alike => alike

theorem serializeStdVector_sends
    (eachSends : ∀ object ∈ value.2, ∀ address,
      Sends (write object address) (ReadsBack ctx type each object)) :
    Sends (serializeTemplate sctx .stdVector type write value)
      (TemplateReadsBack ctx .stdVector type each value) := by
  refine (serializeSizeT_sends sctx ctx same _ fit.1).bind fun _ sizeOctets sized => ?_
  refine (serializeN_sends sctx ctx same type value.2 blank eachSends _).weaken ?_
  intro octets back storage
  refine sized.bind ?_
  rintro size rfl
  rw [← List.nil_append octets]
  refine (resize_reads ctx grants type storage _ fit).bind fun resized _ => ?_
  exact (back _ _ _ List.length_replicate (Nat.le_refl _)).map _ fun received alike => alike

/-- The terminator is written and read, too. -/
theorem serializeStdBasicString_sends
    (eachSends : ∀ object, object ∈ value.2 ++ terminator type → ∀ address,
      Sends (write object address) (ReadsBack ctx type each object)) :
    Sends (serializeTemplate sctx .stdBasicString type write value)
      (TemplateReadsBack ctx .stdBasicString type each value) := by
  refine (serializeSizeT_sends sctx ctx same _ fit.1).bind fun _ sizeOctets sized => ?_
  refine (serializeN_sends sctx ctx same type _ blank eachSends _).weaken ?_
  intro octets back storage
  refine sized.bind ?_
  rintro size rfl
  rw [← List.nil_append octets]
  refine (resize_reads ctx grants type storage _ fit).bind fun resized _ => ?_
  have count : (value.2 ++ terminator type).length =
      value.2.length + (terminator type).length := List.length_append
  refine (back _ _ _ (List.length_replicate.trans count.symm) (Nat.le_of_eq count)).map _ ?_
  intro received alike
  rw [List.map_take, alike, List.map_append]
  exact List.take_left' (List.length_map _)

end Writer

end CommonSerialization.Csp.BodyProcessor
