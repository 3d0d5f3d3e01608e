import CommonSerialization.Csp.Processing.CommonContext
import CommonSerialization.Csp.Processing.RoundTrip

namespace CommonSerialization.Csp.BodyProcessor

open Chunks

/-! Parties whose platforms have different byte orders. -/

/-- `Uuid`: its functions visit two integers, its value is its bytes. -/
def idDecl : StructDecl where
  name := 0
  tags :=
    { Tags.none with alwaysSimplyAssignable := true, endiannessTolerant := true }
  alignment := 1
  tailPadding := 0
  iSerializable := none
  function := .fieldByField .none

abbrev uint64 : ScalarType := .integral .unsignedLong .eight false

abbrev idFields : Fields P :=
  .cons 0 (.scalar uint64) (.cons 0 (.scalar uint64) .nil)

abbrev idTy : Ty P := .struct idDecl idFields

section Agreement

variable (sender receiver : Platform)

mutual
/-- Numbers are the same numbers, the bytes of an `Id` are the same bytes. -/
def Agrees : (type : Ty P) → type.Obj → type.Obj → Prop
  | .scalar _, sent, received => received = sent
  | .pointer _ _, _, _ => False
  | .array element _, sent, received =>
      List.Forall₂ (Agrees element) (List.ofFn sent) (List.ofFn received)
  | .container _ _ element, sent, received =>
      List.Forall₂ (Agrees element) sent.2 received.2
  | .struct decl fields, sent, received =>
      if decl = idDecl then
        (Ty.struct decl fields).image receiver received =
          (Ty.struct decl fields).image sender sent
      else
        FieldsAgree fields sent.1 received.1

def FieldsAgree : (fields : Fields P) → fields.Objs → fields.Objs → Prop
  | .nil, _, _ => True
  | .cons _ field rest, sent, received =>
      Agrees field sent.2.1 received.2.1 ∧
        FieldsAgree rest sent.2.2 received.2.2
end

end Agreement

mutual
/-- The bytes of the type mean the same in both byte orders. -/
def OrderFree : Ty P → Prop
  | .scalar type => type.size = .one
  | .pointer _ _ => False
  | .array element length => length = 0 ∨ OrderFree element
  | .container _ _ _ => False
  | .struct decl fields => decl = idDecl ∨ FieldsOrderFree fields

def FieldsOrderFree : Fields P → Prop
  | .nil => True
  | .cons _ field rest => OrderFree field ∧ FieldsOrderFree rest
end

mutual
/-- The endianness tolerant tag is on structs without values that a byte order
changes, and `Id` is declared as the library declares it. -/
def TolerantTagsSound : Ty P → Prop
  | .scalar _ => True
  | .pointer _ _ => True
  | .array element _ => TolerantTagsSound element
  | .container _ _ element => TolerantTagsSound element
  | .struct decl fields =>
      (decl.tags.endiannessTolerant → OrderFree (.struct decl fields)) ∧
        (decl = idDecl → fields = idFields) ∧ FieldsTolerantTagsSound fields

def FieldsTolerantTagsSound : Fields P → Prop
  | .nil => True
  | .cons _ field rest =>
      TolerantTagsSound field ∧ FieldsTolerantTagsSound rest
end

mutual
theorem orderFree_of_sizeof_le_one : (type : Ty P) → type.plain →
    type.sizeof ≤ 1 → OrderFree type
  | .scalar type, _, small => by
      simp only [Ty.sizeof] at small
      simp only [OrderFree]
      cases size : type.size with
      | one => rfl
      | two | four | eight =>
          rw [size] at small
          simp [Width.bytes] at small
  | .array element length, plain, small => by
      simp only [Ty.sizeof] at small
      simp only [OrderFree]
      cases length with
      | zero => exact .inl rfl
      | succ length =>
          right
          apply orderFree_of_sizeof_le_one element plain
          rw [Nat.mul_succ] at small
          omega
  | .struct decl fields, plain, small => by
      simp only [Ty.sizeof] at small
      exact .inr (fieldsOrderFree_of_sizeof_le_one fields plain (by omega))

theorem fieldsOrderFree_of_sizeof_le_one : (fields : Fields P) →
    fields.plain → fields.sizeof ≤ 1 → FieldsOrderFree fields
  | .nil, _, _ => trivial
  | .cons padding field rest, plain, small => by
      simp only [Fields.plain, Bool.and_eq_true] at plain
      simp only [Fields.sizeof] at small
      exact ⟨orderFree_of_sizeof_le_one field plain.1 (by omega),
        fieldsOrderFree_of_sizeof_le_one rest plain.2 (by omega)⟩
end

theorem orderFree_of_endiannessTolerant {type : Ty P} (plain : type.plain)
    (sound : TolerantTagsSound type) (tolerant : type.endiannessTolerant) :
    OrderFree type := by
  simp only [Ty.endiannessTolerant, Bool.or_eq_true, beq_iff_eq] at tolerant
  rcases tolerant with tagged | single
  · cases type with
    | struct decl fields => exact sound.1 tagged
    | scalar | pointer | array | container => cases tagged
  · exact orderFree_of_sizeof_le_one type plain (by omega)

/-- An integer keeps its bytes between platforms exactly when these agree on
its byte order or the order makes no difference to it. -/
theorem store_eq_store_iff (sender receiver : Platform) (size : Width)
    (value : Word size) :
    receiver.store size value = sender.store size value ↔
      receiver.isBigEndianPlatform = sender.isBigEndianPlatform ∨
        reverseEndianess size value = value := by
  rw [store_eq_formatOctets, store_eq_formatOctets]
  by_cases order :
      receiver.isBigEndianPlatform = sender.isBigEndianPlatform
  · simp [order]
  · have opposite : receiver.isBigEndianPlatform =
        !sender.isBigEndianPlatform := by
      cases received : receiver.isBigEndianPlatform <;>
        cases sent : sender.isBigEndianPlatform <;> simp_all
    rw [opposite, ← formatOctets_reverseEndianess]
    constructor
    · exact fun equality => .inr (formatOctets_injective equality)
    · rintro (same | equality)
      · exact absurd (opposite.trans same) order
      · rw [equality]

section Copies

variable {sender receiver : Platform}

theorem scalar_eq_of_copied {size : Width} {sent received : Word size}
    (orderly : receiver.isBigEndianPlatform = sender.isBigEndianPlatform ∨
      size = .one)
    (copied : receiver.store size received = sender.store size sent) :
    received = sent := by
  have same : receiver.store size received = sender.store size received := by
    rw [store_eq_store_iff]
    rcases orderly with order | rfl
    · exact .inl order
    · exact .inr rfl
  rw [same] at copied
  exact formatOctets_injective copied

mutual
theorem agrees_of_copied : (type : Ty P) → type.plain →
    receiver.isBigEndianPlatform = sender.isBigEndianPlatform ∨
      OrderFree type →
    (sent received : type.Obj) →
      type.image receiver received = type.image sender sent →
        Agrees sender receiver type sent received
  | .scalar type, _, orderly, sent, received, copied => by
      simp only [Ty.image] at copied
      simp only [OrderFree] at orderly
      exact scalar_eq_of_copied orderly copied
  | .array element length, plain, orderly, sent, received, copied => by
      have pieces := forall₂_of_flatMap_eq
        (Ty.length_image sender element plain)
        (Ty.length_image receiver element plain) (by simp) copied.symm
      simp only [Agrees]
      cases length with
      | zero => simp
      | succ length =>
          refine pieces.imp fun first second image => ?_
          apply agrees_of_copied element plain
          · simpa [OrderFree] using orderly
          · exact image.symm
  | .struct decl fields, plain, orderly, sent, received, copied => by
      simp only [Agrees]
      split
      · exact copied
      · rename_i other
        have parts := List.append_inj copied (by
          rw [Fields.length_image receiver fields plain,
            Fields.length_image sender fields plain])
        apply fieldsAgree_of_copied fields plain _ _ _ parts.1
        simpa [OrderFree, other] using orderly

theorem fieldsAgree_of_copied : (fields : Fields P) → fields.plain →
    receiver.isBigEndianPlatform = sender.isBigEndianPlatform ∨
      FieldsOrderFree fields →
    (sent received : fields.Objs) →
      fields.image receiver received = fields.image sender sent →
        FieldsAgree sender receiver fields sent received
  | .nil, _, _, _, _, _ => trivial
  | .cons padding field rest, plain, orderly, sent, received, copied => by
      simp only [Fields.plain, Bool.and_eq_true] at plain
      simp only [FieldsOrderFree] at orderly
      have outer := List.append_inj copied (by
        simp [Ty.length_image receiver field plain.1,
          Ty.length_image sender field plain.1])
      have inner := List.append_inj outer.1 (by simp)
      exact ⟨agrees_of_copied field plain.1 (by tauto) _ _ inner.2,
        fieldsAgree_of_copied rest plain.2 (by tauto) _ _ outer.2⟩
end

end Copies

mutual
/-- Every integer inside is its own reverse. -/
def Palindromic : (type : Ty P) → type.Obj → Prop
  | .scalar type, value => reverseEndianess type.size value = value
  | .pointer _ _, _ => True
  | .array element _, value => ∀ index, Palindromic element (value index)
  | .container _ _ element, value =>
      ∀ object ∈ value.2, Palindromic element object
  | .struct _ fields, value => FieldsPalindromic fields value.1

def FieldsPalindromic : (fields : Fields P) → fields.Objs → Prop
  | .nil, _ => True
  | .cons _ field rest, values =>
      Palindromic field values.2.1 ∧ FieldsPalindromic rest values.2.2
end

section Survival

variable (sender receiver : Context.Data)

mutual
/-- Each `Id` that is written by its function, and not copied with an array or
a struct around it, goes to a platform of the same byte order or has halves
that no byte order changes. -/
def IdsSurvive : (type : Ty P) → type.Obj → Prop
  | .scalar _, _ => True
  | .pointer _ _, _ => True
  | .array element _, value =>
      copiesArray sender element ∨ ∀ index, IdsSurvive element (value index)
  | .container _ _ element, value =>
      copiesArray sender element ∨ ∀ object ∈ value.2, IdsSurvive element object
  | .struct decl fields, value =>
      if decl = idDecl then
        receiver.platform.isBigEndianPlatform =
            sender.platform.isBigEndianPlatform ∨
          FieldsPalindromic fields value.1
      else
        (decl.function ≠ .fieldByField .none ∧
            copiesStruct sender (.struct decl fields)) ∨
          FieldsIdsSurvive fields value.1

def FieldsIdsSurvive : (fields : Fields P) → fields.Objs → Prop
  | .nil, _ => True
  | .cons _ field rest, values =>
      IdsSurvive field values.2.1 ∧ FieldsIdsSurvive rest values.2.2
end

end Survival

section Delivery

variable {sender receiver : Context.Data}

theorem image_idTy (platform : Platform) (object : (idTy : Ty P).Obj) :
    (idTy : Ty P).image platform object =
      platform.store .eight object.1.2.1 ++
        platform.store .eight object.1.2.2.2.1 := by
  simp [Ty.image, Fields.image, idDecl, ScalarType.size]

theorem copied_idTy_iff {sent received : (idTy : Ty P).Obj}
    (delivered : FieldsDelivered sender receiver idFields sent.1 received.1) :
    (idTy : Ty P).image receiver.platform received =
        (idTy : Ty P).image sender.platform sent ↔
      receiver.platform.isBigEndianPlatform =
          sender.platform.isBigEndianPlatform ∨
        FieldsPalindromic idFields sent.1 := by
  obtain ⟨high, low, _⟩ := delivered
  have high : received.1.2.1 = sent.1.2.1 := high
  have low : received.1.2.2.2.1 = sent.1.2.2.2.1 := low
  have palindromic : FieldsPalindromic idFields sent.1 ↔
      reverseEndianess .eight sent.1.2.1 = sent.1.2.1 ∧
        reverseEndianess .eight sent.1.2.2.2.1 = sent.1.2.2.2.1 := by
    simp [FieldsPalindromic, Palindromic, ScalarType.size]
  rw [image_idTy, image_idTy, high, low, palindromic]
  have split := store_eq_store_iff sender.platform receiver.platform .eight
  constructor
  · intro equality
    have parts := List.append_inj equality
      ((Platform.length_store _ _ _).trans (Platform.length_store _ _ _).symm)
    have first := (split _).mp parts.1
    have second := (split _).mp parts.2
    tauto
  · intro condition
    rw [(split sent.1.2.1).mpr (by tauto),
      (split sent.1.2.2.2.1).mpr (by tauto)]

variable
  (declared : receiver.platform.isBigEndianPlatform ≠
    sender.platform.isBigEndianPlatform → sender.endiannessDifference = true)

include declared

omit declared in
theorem blank_agrees {type : Ty P} (transportable : Transportable type)
    (empty : type.emptyType) (sent received : type.Obj) :
    Agrees sender.platform receiver.platform type sent received ∧
      IdsSurvive sender receiver type sent := by
  cases type with
  | struct decl fields =>
      obtain rfl := transportable.2.1 empty
      have other : decl ≠ idDecl := by
        rintro rfl
        cases empty
      simp [Agrees, IdsSurvive, FieldsAgree, FieldsIdsSurvive, other]
  | scalar | pointer | array | container => cases empty

/-- Objects are copied only between platforms of one byte order, or when it is
no matter. -/
theorem agrees_of_tolerated {type : Ty P} (plain : type.plain)
    (sound : TolerantTagsSound type)
    (tolerated : !sender.endiannessDifference || type.endiannessTolerant)
    {sent received : type.Obj}
    (copied : Copied sender receiver type sent received) :
    Agrees sender.platform receiver.platform type sent received := by
  apply agrees_of_copied type plain _ sent received copied
  by_cases order : receiver.platform.isBigEndianPlatform =
      sender.platform.isBigEndianPlatform
  · exact .inl order
  · right
    rw [declared order] at tolerated
    exact orderFree_of_endiannessTolerant plain sound (by simpa using tolerated)

theorem agrees_of_copiesArray {type : Ty P} (plain : type.plain)
    (sound : TolerantTagsSound type) (copies : copiesArray sender type)
    {sent received : type.Obj}
    (copied : Copied sender receiver type sent received) :
    Agrees sender.platform receiver.platform type sent received := by
  apply agrees_of_tolerated declared plain sound _ copied
  simp only [copiesArray, Bool.and_eq_true] at copies
  exact copies.1

theorem agreesN_iff {type : Ty P} (sound : TolerantTagsSound type)
    (transportable : Transportable type) {sent received : List type.Obj}
    (eachIff : ∀ first second, Delivered sender receiver type first second →
      (Agrees sender.platform receiver.platform type first second ↔
        IdsSurvive sender receiver type first))
    (delivered : DeliveredN sender receiver type
      (Delivered sender receiver type) sent received) :
    List.Forall₂ (Agrees sender.platform receiver.platform type) sent
        received ↔
      copiesArray sender type ∨
        ∀ object ∈ sent, IdsSurvive sender receiver type object := by
  unfold DeliveredN at delivered
  split at delivered
  · rename_i empty
    have blank (first second : type.Obj) :
        Agrees sender.platform receiver.platform type first second ∧
          IdsSurvive sender receiver type first :=
      blank_agrees transportable empty first second
    have agree : List.Forall₂
        (Agrees sender.platform receiver.platform type) sent received :=
      List.forall₂_iff_get.mpr ⟨delivered.symm, fun _ _ _ => (blank _ _).1⟩
    simp only [agree, true_iff]
    exact .inr fun object _ => (blank object object).2
  · split at delivered
    · rename_i copies
      simp only [copies, true_or, iff_true]
      exact delivered.2.imp fun _ _ copied =>
        agrees_of_copiesArray declared delivered.1 sound copies copied
    · rename_i loops
      simp only [loops]
      clear transportable
      induction delivered with
      | nil => simp
      | cons head tail induction =>
          simp [eachIff _ _ head, induction]

theorem agreesStruct_iff {decl : StructDecl} {fields : Fields P}
    (sound : TolerantTagsSound (.struct decl fields))
    (transportable : Transportable (.struct decl fields))
    {sent received : (Ty.struct decl fields).Obj}
    (fieldsIff : FieldsDelivered sender receiver fields sent.1 received.1 →
      (FieldsAgree sender.platform receiver.platform fields sent.1 received.1 ↔
        FieldsIdsSurvive sender receiver fields sent.1))
    (delivered : DeliveredStruct sender receiver decl fields sent received
      (FieldsDelivered sender receiver fields sent.1 received.1)) :
    Agrees sender.platform receiver.platform (.struct decl fields) sent
        received ↔
      IdsSurvive sender receiver (.struct decl fields) sent := by
  by_cases id : decl = idDecl
  · subst id
    obtain rfl := sound.2.1 rfl
    simp only [Agrees, IdsSurvive, if_true]
    exact copied_idTy_iff delivered
  · have whole (copied : fields.plain ∧
        Copied sender receiver (.struct decl fields) sent received)
        (copies : copiesStruct sender (.struct decl fields)) :
        FieldsAgree sender.platform receiver.platform fields sent.1
          received.1 := by
      have arrays : copiesArray sender (.struct decl fields) := by
        rwa [copiesArray_struct]
      have plain : (Ty.struct decl fields).plain := copied.1
      have agree := agrees_of_copiesArray declared plain sound arrays copied.2
      simpa only [Agrees, if_neg id] using agree
    simp only [Agrees, IdsSurvive, if_neg id]
    cases function : decl.function with
    | generic =>
        have empty := transportable.1 function
        obtain rfl := transportable.2.1 empty
        simp [FieldsAgree, FieldsIdsSurvive]
    | fieldByField start =>
        simp only [DeliveredStruct, function] at delivered
        cases start with
        | none => simpa using fieldsIff delivered
        | anySimplyAssignable | common =>
            simp only at delivered
            split at delivered
            · rename_i copies
              simp [copies, whole delivered copies]
            · rename_i loops
              simp [loops, fieldsIff delivered]

end Delivery

mutual
/-- The receiver decodes the value that was sent exactly when every `Id` that
is written field by field survives. -/
theorem agrees_iff_of_delivered {sender receiver : Context.Data}
    (declared : receiver.platform.isBigEndianPlatform ≠
      sender.platform.isBigEndianPlatform →
        sender.endiannessDifference = true) :
    (type : Ty P) → TolerantTagsSound type → Transportable type →
      (sent received : type.Obj) →
      Delivered sender receiver type sent received →
        (Agrees sender.platform receiver.platform type sent received ↔
          IdsSurvive sender receiver type sent)
  | .scalar _, _, _, sent, received, delivered => by
      simp only [Delivered] at delivered
      simp [Agrees, IdsSurvive, delivered]
  | .array element length, sound, transportable, sent, received, delivered => by
      simp only [Transportable] at transportable
      simp only [Delivered] at delivered
      simp only [TolerantTagsSound] at sound
      simp only [Agrees, IdsSurvive]
      rw [agreesN_iff declared sound transportable
        (agrees_iff_of_delivered declared element sound transportable) delivered]
      simp
  | .container _ _ element, sound, transportable, sent, received, delivered => by
      simp only [Transportable] at transportable
      simp only [Delivered] at delivered
      simp only [TolerantTagsSound] at sound
      simp only [Agrees, IdsSurvive]
      exact agreesN_iff declared sound transportable
        (agrees_iff_of_delivered declared element sound transportable) delivered
  | .struct decl fields, sound, transportable, sent, received, delivered => by
      simp only [Delivered] at delivered
      exact agreesStruct_iff declared sound transportable
        (fieldsAgree_iff_of_delivered declared fields sound.2.2 transportable.2.2 _ _)
        delivered

theorem fieldsAgree_iff_of_delivered {sender receiver : Context.Data}
    (declared : receiver.platform.isBigEndianPlatform ≠
      sender.platform.isBigEndianPlatform →
        sender.endiannessDifference = true) :
    (fields : Fields P) → FieldsTolerantTagsSound fields → FieldsTransportable fields →
      (sent received : fields.Objs) →
        FieldsDelivered sender receiver fields sent received →
          (FieldsAgree sender.platform receiver.platform fields sent received ↔
            FieldsIdsSurvive sender receiver fields sent)
  | .nil, _, _, _, _, _ => by simp [FieldsAgree, FieldsIdsSurvive]
  | .cons _ field rest, sound, transportable, sent, received, delivered => by
      simp only [FieldsTransportable] at transportable
      simp only [FieldsDelivered] at delivered
      simp only [FieldsTolerantTagsSound] at sound
      simp only [FieldsAgree, FieldsIdsSurvive,
        agrees_iff_of_delivered declared field sound.1 transportable.1 _ _
          delivered.1,
        fieldsAgree_iff_of_delivered declared rest sound.2 transportable.2 _ _
          delivered.2]
end

/-- A message between platforms of any byte orders: both parties accept its
flags, the receiver consumes the body, and it holds the value that was sent
exactly when every `Id` survives. -/
theorem deserialize_agrees_iff (sctx : SContext)
    (dctx headerContext : DContext Empty)
    {headerBefore headerAfter : SState}
    (headerSent : Common.serialize sctx headerBefore = .ok () headerAfter)
    {headerStart headerEnd : DState Empty}
    (headerReceived : Common.deserialize headerContext headerStart =
      .ok dctx.data headerEnd)
    (same : SameFormat sctx.data dctx.data)
    (senderLatest : sctx.data.interfaceVersionsNotMatch = false)
    (receiverLatest : dctx.data.interfaceVersionsNotMatch = false)
    (grants : HeapGrants dctx) (shandlers : SHandlers Empty)
    (dhandlers : DHandlers Empty) (pointeeType : Empty → Ty Empty)
    (type : Ty Empty) (native : Native type)
    (transportable : Transportable type) (sound : TolerantTagsSound type)
    (object target : type.Obj)
    (senderFits : FitsMemory sctx.data.platform type object)
    (receiverFits : FitsMemory dctx.data.platform type object)
    (sourceAddress targetAddress : Nat) (before after : SState)
    (ran : serialize sctx shandlers type object sourceAddress before =
      .ok () after) :
    ∃ octets, after.binaryData = before.binaryData ++ octets ∧
      ∀ (start : DState Empty) (suffix : List UInt8),
        start.binaryData.vector.drop start.binaryData.offset =
            octets ++ suffix →
        start.binaryData.offset ≤ start.binaryData.vector.length →
        start.binaryData.vector.length <
            2 ^ dctx.data.platform.addressBits →
        ∃ received final,
          deserialize dctx pointeeType dhandlers type target targetAddress
              start = .ok received final ∧
            final.binaryData =
              { start.binaryData with
                offset := start.binaryData.offset + octets.length } ∧
            (Agrees sctx.data.platform dctx.data.platform type object received ↔
              IdsSurvive sctx.data dctx.data type object) := by
  obtain ⟨appended, allowed⟩ := serialize_appends sctx shandlers senderLatest
    type object senderFits sourceAddress before () after ran
  refine ⟨_, appended, ?_⟩
  intro start suffix input inside bounded
  obtain ⟨received, final, readBack, delivered, walker⟩ :=
    deserialize_reads dctx same receiverLatest grants pointeeType dhandlers type
      native object receiverFits allowed target targetAddress start suffix input
      inside bounded
  have declared := Common.endiannessDifference_of_declared same.commonFlags
    (Common.endiannessIsDeclared_of_serialize headerSent)
    (Common.endiannessIsDeclared_of_deserialize headerReceived).1
  exact ⟨received, final, readBack, walker,
    agrees_iff_of_delivered declared type sound transportable object received
      delivered⟩

section Halves

private def halvesContext (isBigEndianPlatform : Bool) : Context.Data where
  platform := ⟨isBigEndianPlatform, false⟩
  protocolVersion := 1
  messageType := .data
  commonFlags := .ofUInt32 4
  dataFlags := .ofUInt32 0
  interfaceVersion := 1
  interfaceVersionsNotMatch := false
  isHeapUsedForTemp := true

private def idOf (high low : BitVec 64) : (idTy : Ty Empty).Obj :=
  ((nofun, high, nofun, low, ()), nofun)

private def halvesHeader : List UInt8 := [1, 0, 1, 0, 4, 0, 0, 0]

/-- An `Id` that reads the same in both byte orders arrives. -/
theorem deserialize_agrees_palindrome :
    ∃ received final,
      deserialize (.unbounded (halvesContext true)) Empty.elim .none idTy
          (idOf 0 0) 0 (.start (List.replicate 16 1)) = .ok received final ∧
        Agrees ⟨false, false⟩ ⟨true, false⟩ idTy
          (idOf 0x0101010101010101 0x0101010101010101) received := by
  have ran : serialize (.unbounded (halvesContext false)) .none idTy
      (idOf 0x0101010101010101 0x0101010101010101) 0 .empty =
        .ok () ⟨List.replicate 16 1, fun _ => none⟩ := rfl
  have headerSent : Common.serialize (.unbounded (halvesContext false))
      .empty = .ok () ⟨halvesHeader, fun _ => none⟩ := rfl
  have headerReceived :
      Common.deserialize
        (.unbounded (halvesContext true) : DContext Empty)
        (.start halvesHeader) = .ok (halvesContext true)
          { DState.start halvesHeader with
            binaryData := ⟨halvesHeader, 8⟩ } := rfl
  have sound : TolerantTagsSound (idTy : Ty Empty) :=
    ⟨fun _ => .inl rfl, fun _ => rfl, trivial, trivial, trivial⟩
  obtain ⟨octets, written, readBack⟩ :=
    deserialize_agrees_iff _ (.unbounded (halvesContext true)) _ headerSent
      headerReceived ⟨rfl, rfl, rfl⟩ rfl rfl (heapGrants_unbounded _) .none
      .none Empty.elim idTy ⟨trivial, trivial, trivial⟩
      ⟨nofun, nofun, trivial, trivial, trivial⟩ sound _ (idOf 0 0)
      ⟨trivial, trivial, trivial⟩ ⟨trivial, trivial, trivial⟩ 0 0 _ _ ran
  obtain rfl : List.replicate 16 1 = octets := written
  obtain ⟨received, final, returned, _, agreement⟩ :=
    readBack (.start (List.replicate 16 1)) [] rfl (by decide) (by decide)
  exact ⟨received, final, returned,
    agreement.mpr (.inr ⟨rfl, rfl, trivial⟩)⟩

/-- Both halves of another `Id` come out reversed. -/
theorem deserialize_reverses_halves :
    Common.endiannessIsDeclared (halvesContext false) ∧
      Common.endiannessIsDeclared (halvesContext true) ∧
      ∃ octets received final,
        serialize (.unbounded (halvesContext false)) .none idTy
            (idOf 0x0706050403020100 0x0f0e0d0c0b0a0908) 0 .empty =
              .ok () ⟨octets, fun _ => none⟩ ∧
          deserialize (.unbounded (halvesContext true)) Empty.elim .none idTy
            (idOf 0 0) 0 (.start octets) = .ok received final ∧
          ¬Agrees ⟨false, false⟩ ⟨true, false⟩ idTy
            (idOf 0x0706050403020100 0x0f0e0d0c0b0a0908) received := by
  refine ⟨rfl, rfl, List.range 16 |>.map UInt8.ofNat,
    idOf 0x0706050403020100 0x0f0e0d0c0b0a0908, _, rfl, rfl, ?_⟩
  simp only [Agrees, if_true]
  decide

end Halves

end CommonSerialization.Csp.BodyProcessor
