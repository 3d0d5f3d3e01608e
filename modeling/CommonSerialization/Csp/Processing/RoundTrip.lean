import CommonSerialization.Csp.Processing.Delivery
import Mathlib.Data.List.OfFn

namespace CommonSerialization.Csp.BodyProcessor

open Chunks

/-! Serialization and deserialization of pointer-free bodies on one platform. -/

mutual
/-- Every struct has functions of its own or holds no data; only a struct
without fields is tagged empty. -/
def Transportable : Ty P → Prop
  | .scalar _ => True
  | .pointer _ _ => True
  | .array element _ => Transportable element
  | .container _ _ element => Transportable element
  | .struct decl fields =>
      (decl.function = .generic → decl.tags.emptyType) ∧
        (decl.tags.emptyType → fields = .nil) ∧ FieldsTransportable fields

def FieldsTransportable : Fields P → Prop
  | .nil => True
  | .cons _ field rest => Transportable field ∧ FieldsTransportable rest
end

theorem blank_of_emptyType {type : Ty P} (transportable : Transportable type)
    (empty : type.emptyType) (first second : type.Obj) :
    type.valueOf first = type.valueOf second := by
  cases type with
  | struct decl fields =>
      obtain ⟨_, bare, _⟩ := transportable
      obtain rfl := bare empty
      rfl
  | scalar | pointer | array | container => cases empty

section SamePlatform

variable {sender receiver : Context.Data}
  (samePlatform : receiver.platform = sender.platform)

include samePlatform

theorem valueOf_eq_of_copied (type : Ty P) (plain : type.plain)
    {sent received : type.Obj}
    (copied : Copied sender receiver type sent received) :
    type.valueOf received = type.valueOf sent := by
  apply Ty.valueOf_eq_of_image_eq sender.platform type plain
  rwa [Copied, samePlatform] at copied

/-- The elements of an empty type have no value beyond their number. -/
theorem map_valueOf_eq_of_deliveredN (type : Ty P)
    {each : type.Obj → type.Obj → Prop} {sent received : List type.Obj}
    (blank : type.emptyType → ∀ first second : type.Obj,
      type.valueOf first = type.valueOf second)
    (eachEqual : ∀ first second, each first second →
      type.valueOf second = type.valueOf first)
    (delivered : DeliveredN sender receiver type each sent received) :
    received.map type.valueOf = sent.map type.valueOf := by
  unfold DeliveredN at delivered
  split at delivered
  · rename_i empty
    apply List.ext_getElem
    · simpa using delivered
    · intro index _ _
      rw [List.getElem_map, List.getElem_map]
      exact blank empty _ _
  · split at delivered
    · exact map_eq_map_of_forall₂ delivered.2 fun _ _ copied =>
        valueOf_eq_of_copied samePlatform type delivered.1 copied
    · exact map_eq_map_of_forall₂ delivered eachEqual

theorem valuesOf_eq_of_deliveredStruct {decl : StructDecl} {fields : Fields P}
    (transportable : Transportable (.struct decl fields))
    {sent received : (Ty.struct decl fields).Obj} {fieldByField : Prop}
    (fieldsEqual : fieldByField →
      fields.valuesOf received.1 = fields.valuesOf sent.1)
    (delivered :
      DeliveredStruct sender receiver decl fields sent received fieldByField) :
    fields.valuesOf received.1 = fields.valuesOf sent.1 := by
  have whole (copied : fields.plain ∧
      Copied sender receiver (.struct decl fields) sent received) :
      fields.valuesOf received.1 = fields.valuesOf sent.1 :=
    valueOf_eq_of_copied samePlatform (.struct decl fields) copied.1 copied.2
  cases function : decl.function with
  | generic =>
      exact blank_of_emptyType transportable
        (transportable.1 function) received sent
  | fieldByField start =>
      simp only [DeliveredStruct, function] at delivered
      cases start with
      | none => exact fieldsEqual delivered
      | anySimplyAssignable | common =>
          simp only at delivered
          split at delivered
          · exact whole delivered
          · exact fieldsEqual delivered

end SamePlatform

mutual
theorem valueOf_eq_of_delivered {sender receiver : Context.Data}
    (samePlatform : receiver.platform = sender.platform) : (type : Ty P) → Transportable type →
    (sent received : type.Obj) → Delivered sender receiver type sent received →
      type.valueOf received = type.valueOf sent
  | .scalar _, _, _, _, delivered => delivered
  | .array element length, transportable, sent, received, delivered => by
      simp only [Transportable] at transportable
      simp only [Delivered] at delivered
      have values := map_valueOf_eq_of_deliveredN samePlatform element
        (blank_of_emptyType transportable)
        (valueOf_eq_of_delivered samePlatform element transportable) delivered
      simp only [List.map_ofFn] at values
      exact List.ofFn_injective values
  | .container _ _ element, transportable, sent, received, delivered => by
      simp only [Transportable] at transportable
      simp only [Delivered] at delivered
      exact map_valueOf_eq_of_deliveredN samePlatform element
        (blank_of_emptyType transportable)
        (valueOf_eq_of_delivered samePlatform element transportable) delivered
  | .struct decl fields, transportable, sent, received, delivered => by
      have fieldsTransportable := transportable.2.2
      simp only [Delivered] at delivered
      exact valuesOf_eq_of_deliveredStruct samePlatform transportable
        (valuesOf_eq_of_fieldsDelivered samePlatform fields fieldsTransportable
          sent.1 received.1) delivered

theorem valuesOf_eq_of_fieldsDelivered {sender receiver : Context.Data}
    (samePlatform : receiver.platform = sender.platform) :
    (fields : Fields P) → FieldsTransportable fields → (sent received : fields.Objs) →
      FieldsDelivered sender receiver fields sent received →
        fields.valuesOf received = fields.valuesOf sent
  | .nil, _, _, _, _ => rfl
  | .cons _ field rest, transportable, sent, received, delivered => by
      simp only [FieldsTransportable] at transportable
      simp only [FieldsDelivered] at delivered
      simp only [Fields.valuesOf,
        valueOf_eq_of_delivered samePlatform field transportable.1 _ _
          delivered.1,
        valuesOf_eq_of_fieldsDelivered samePlatform rest transportable.2 _ _
          delivered.2]
end

/-- What a successful serialization appends is read back, whatever follows it
in the message: the value is the same and the cursor stops at its end. -/
theorem deserialize_serialize (sctx : SContext) (dctx : DContext Empty)
    (sameContext : dctx.data = sctx.data)
    (latest : sctx.data.interfaceVersionsNotMatch = false)
    (grants : HeapGrants dctx) (shandlers : SHandlers Empty)
    (dhandlers : DHandlers Empty) (pointeeType : Empty → Ty Empty)
    (type : Ty Empty) (native : Native type)
    (transportable : Transportable type) (object target : type.Obj)
    (fits : FitsMemory sctx.data.platform type object)
    (sourceAddress targetAddress : Nat) (before after : SState)
    (ran : serialize sctx shandlers type object sourceAddress before =
      .ok () after) :
    ∃ octets, after.binaryData = before.binaryData ++ octets ∧
      ∀ (start : DState Empty) (suffix : List UInt8),
        start.binaryData.vector.drop start.binaryData.offset =
            octets ++ suffix →
        start.binaryData.offset ≤ start.binaryData.vector.length →
        start.binaryData.vector.length <
            2 ^ sctx.data.platform.addressBits →
        ∃ received final,
          deserialize dctx pointeeType dhandlers type target targetAddress
              start = .ok received final ∧
            type.valueOf received = type.valueOf object ∧
            final.binaryData =
              { start.binaryData with
                offset := start.binaryData.offset + octets.length } := by
  obtain ⟨appended, allowed⟩ := serialize_appends sctx shandlers latest type
    object fits sourceAddress before () after ran
  have samePlatform : dctx.data.platform = sctx.data.platform := by
    rw [sameContext]
  have same : SameFormat sctx.data dctx.data := by
    rw [sameContext]
    exact .refl _
  refine ⟨_, appended, ?_⟩
  intro start suffix input inside bounded
  obtain ⟨received, final, readBack, delivered, walker⟩ :=
    deserialize_reads dctx same (by rw [sameContext, latest]) grants pointeeType
      dhandlers type native object (by rwa [samePlatform]) allowed target
      targetAddress start suffix input inside (by rwa [samePlatform])
  exact ⟨received, final, readBack,
    valueOf_eq_of_delivered samePlatform type transportable object received
      delivered, walker⟩

section Record

private def recordContext : Context.Data where
  platform := ⟨false, false⟩
  protocolVersion := 1
  messageType := .data
  commonFlags := .ofUInt32 6
  dataFlags := .ofUInt32 2
  interfaceVersion := 1
  interfaceVersionsNotMatch := false
  isHeapUsedForTemp := true

private def recordTy : Ty Empty :=
  .struct ⟨0, .none, 8, 0, none, .fieldByField .common⟩
    (.cons 0 (.scalar (.integral .int .four false))
      (.cons 4 (.container .vectorT 32
        (.scalar (.integral .unsignedShort .two false))) .nil))

private def record : recordTy.Obj :=
  ((nofun, 0x12345678#32, fun _ => 0, (⟨64, 2⟩, [1#16, 0xabcd#16]), ()), nofun)

private def recordOctets : List UInt8 :=
  [4, 0x12, 0x34, 0x56, 0x78, 0, 0, 0, 0, 0, 0, 0, 2, 2, 0, 1, 2, 0xab, 0xcd]

theorem deserialize_serialize_record :
    ∃ received final,
      deserialize (.unbounded recordContext) Empty.elim .none recordTy record 0
          (.start (recordOctets ++ [0xff])) = .ok received final ∧
        recordTy.valueOf received = recordTy.valueOf record ∧
        final.binaryData.offset = 19 := by
  have fits : FitsMemory recordContext.platform recordTy record :=
    ⟨trivial, ⟨⟨by decide, by decide⟩, fun _ _ => trivial⟩, trivial⟩
  have ran : serialize (.unbounded recordContext) .none recordTy record 0
      .empty = .ok () ⟨recordOctets, fun _ => none⟩ := rfl
  obtain ⟨octets, written, readBack⟩ :=
    deserialize_serialize _ (.unbounded recordContext) rfl rfl
      (heapGrants_unbounded _) .none .none Empty.elim recordTy
      ⟨trivial, ⟨rfl, trivial⟩, trivial⟩
      ⟨nofun, nofun, trivial, trivial, trivial⟩ record record fits 0 0 _ _ ran
  obtain rfl : recordOctets = octets := written
  obtain ⟨received, final, returned, value, walker⟩ :=
    readBack (.start (recordOctets ++ [0xff])) [0xff] rfl (by decide)
      (by decide)
  exact ⟨received, final, returned, value, by rw [walker]; rfl⟩

end Record

end CommonSerialization.Csp.BodyProcessor
