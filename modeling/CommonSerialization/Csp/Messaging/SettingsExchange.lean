import CommonSerialization.Csp.Messaging.SettingsMessage
import CommonSerialization.Csp.Processing.GenericStructs
import CommonSerialization.Csp.Processing.HeaderExchange
import CommonSerialization.Csp.Processing.Sending
import Mathlib.Data.List.OfFn

namespace CommonSerialization.Csp.Messaging

open BodyProcessor StateExcept

/-! The settings of a party, from the party that sends them to the one that
reads them. -/

structure SettingsContext (data : Context.Data) : Prop where
  dataFlags : data.dataFlags = .ofUInt32 0
  interfaceVersion : data.interfaceVersion = 1
  latest : data.interfaceVersionsNotMatch = false

namespace SettingsContext

variable {data : Context.Data} (context : SettingsContext data)

include context

theorem writesSize (type : ScalarType) : writesSize data type = false := by
  have off : Context.DataFlags.sizeOfIntegersMayBeNotEqual (.ofUInt32 0) = false := by
    decide
  simp only [BodyProcessor.writesSize, Context.Data.sizeOfIntegersMayBeNotEqual,
    context.dataFlags, off, Bool.and_false]

omit context in
theorem copiesArray_versionTy :
    copiesArray data (StatusMessage.versionTy : Ty P) = true := by
  have tolerant : (StatusMessage.versionTy : Ty P).endiannessTolerant = true := rfl
  unfold copiesArray
  rw [tolerant]
  simp [StatusMessage.versionTy, Ty.isArithmeticOrEnum]

theorem leavesToFields_interfaceVersionTy :
    leavesToFields data (interfaceVersionTy : Ty P) = data.endiannessDifference := by
  have tolerant : (interfaceVersionTy : Ty P).endiannessTolerant = false := rfl
  have latest : (interfaceVersionTy : Ty P).getLatestInterfaceVersion = 1 := rfl
  unfold leavesToFields
  rw [tolerant, latest, context.interfaceVersion]
  simp

theorem copiesStruct_interfaceVersionTy :
    copiesStruct data (interfaceVersionTy : Ty P) = !data.endiannessDifference := by
  have tagged : (interfaceVersionTy : Ty P).anySimplyAssignable = true := rfl
  have aligned : (interfaceVersionTy : Ty P).simplyAssignableAlignedToOne = true := rfl
  have sizes : Context.DataFlags.sizeOfIntegersMayBeNotEqual (.ofUInt32 0) = false := by
    decide
  have tags : Context.DataFlags.simplyAssignableTagsOptimizationsAreTurnedOff
      (.ofUInt32 0) = false := by
    decide
  unfold copiesStruct tagsAllowCopy
  rw [tagged, aligned, context.leavesToFields_interfaceVersionTy]
  simp only [Context.Data.sizeOfIntegersMayBeNotEqual, context.dataFlags, sizes,
    Context.Data.simplyAssignableTagsOptimizationsAreTurnedOff, tags]
  simp

end SettingsContext

section Images

theorem image_versionObj (platform : Platform) (version : UInt8) :
    (StatusMessage.versionTy : Ty P).image platform (versionObj version) = [version] := by
  show platform.store .one version.toBitVec = [version]
  unfold Platform.store
  split <;> simp [ByteOrder.toOctets, Width.bytes]

theorem image_versions (platform : Platform) (versions : List UInt8) :
    (versions.map versionObj).flatMap
        ((StatusMessage.versionTy : Ty P).image platform) = versions := by
  induction versions with
  | nil => rfl
  | cons version rest induction =>
      rw [List.map_cons, List.flatMap_cons, image_versionObj, induction]
      rfl

theorem ofFn_get_cast {length : Nat} (list : List α) (sized : list.length = length) :
    List.ofFn (fun index : Fin length => list.get (index.cast sized.symm)) = list := by
  subst sized
  exact List.ofFn_get list

theorem image_uuidObj (platform : Platform) (id : Uuid) :
    (Ty.struct uuidDecl uuidFields : Ty P).image platform (uuidObj id) = id.octets := by
  have octets : List.ofFn (fun index : Fin 16 =>
        (versionObj (id.octets.get (index.cast id.sized.symm)) :
          (StatusMessage.versionTy : Ty P).Obj)) = id.octets.map versionObj := by
    have mapped := List.map_ofFn
      (f := fun index : Fin 16 => id.octets.get (index.cast id.sized.symm))
      (g := (versionObj : UInt8 → (StatusMessage.versionTy : Ty P).Obj))
    rw [ofFn_get_cast id.octets id.sized] at mapped
    exact mapped.symm
  have images := image_versions (P := P) platform id.octets
  rw [← octets] at images
  have whole : (Ty.struct uuidDecl uuidFields : Ty P).image platform (uuidObj id) =
      ([] ++ (List.ofFn (fun index : Fin 16 =>
        (versionObj (id.octets.get (index.cast id.sized.symm)) :
          (StatusMessage.versionTy : Ty P).Obj))).flatMap
            ((StatusMessage.versionTy : Ty P).image platform) ++ []) ++ [] := rfl
  rw [whole, images]
  simp

theorem image_interfaceVersionObj (platform : Platform) (interface : InterfaceVersion) :
    (interfaceVersionTy : Ty P).image platform (interfaceVersionObj interface) =
      interface.id.octets ++ platform.store .four interface.version.toBitVec := by
  have whole : (interfaceVersionTy : Ty P).image platform (interfaceVersionObj interface) =
      ([] ++ (Ty.struct uuidDecl uuidFields : Ty P).image platform (uuidObj interface.id) ++
        ([] ++ platform.store .four interface.version.toBitVec ++ [])) ++ [] := rfl
  rw [whole, image_uuidObj]
  simp

theorem uuidOf_uuidObj (id : Uuid) :
    uuidOf (uuidObj id : (Ty.struct uuidDecl uuidFields : Ty P).Obj) = id :=
  Uuid.ext (ofFn_get_cast id.octets id.sized)

theorem interfaceVersionOf_interfaceVersionObj (interface : InterfaceVersion) :
    interfaceVersionOf (interfaceVersionObj interface : (interfaceVersionTy : Ty P).Obj) =
      interface := by
  have parts : interfaceVersionOf
      (interfaceVersionObj interface : (interfaceVersionTy : Ty P).Obj) =
        ⟨uuidOf (uuidObj interface.id : (Ty.struct uuidDecl uuidFields : Ty P).Obj),
          interface.version⟩ := rfl
  rw [parts, uuidOf_uuidObj]

theorem interfaceVersionOf_eq_of_valueOf_eq {first second : (interfaceVersionTy : Ty P).Obj}
    (equality : (interfaceVersionTy : Ty P).valueOf first =
      (interfaceVersionTy : Ty P).valueOf second) :
    interfaceVersionOf first = interfaceVersionOf second := by
  have octets : first.1.2.1.1.2.1 = second.1.2.1.1.2.1 :=
    congrArg (fun value => value.1.1) equality
  have version : first.1.2.2.2.1 = second.1.2.2.2.1 :=
    congrArg (fun value => value.2.1) equality
  unfold interfaceVersionOf uuidOf
  rw [octets, version]

theorem interfaceVersionOf_of_copied {sender receiver : Context.Data}
    (sameOrder : receiver.platform.isBigEndianPlatform =
      sender.platform.isBigEndianPlatform)
    {interface : InterfaceVersion} {received : (interfaceVersionTy : Ty P).Obj}
    (copied : Copied sender receiver (interfaceVersionTy : Ty P)
      (interfaceVersionObj interface) received) :
    interfaceVersionOf received = interface := by
  rw [← interfaceVersionOf_interfaceVersionObj (P := P) interface]
  refine interfaceVersionOf_eq_of_valueOf_eq ?_
  refine Ty.valueOf_eq_of_image_eq receiver.platform _ rfl _ _ ?_
  rw [Copied] at copied
  rw [copied, image_interfaceVersionObj, image_interfaceVersionObj]
  unfold Platform.store
  rw [sameOrder]

end Images

namespace CspPartySettings

section Octets

variable (data : Context.Data) (settings : CspPartySettings)

def scalarOctets (type : ScalarType) (value : Word type.size) : List UInt8 :=
  sizeOctets data type ++ formatOctets data.bigEndianFormat type.size value

def countedVersions : List UInt8 :=
  settings.protocolVersions.take (settings.protocolVersions.length % 256)

theorem length_countedVersions :
    (countedVersions settings).length =
      (countOctet settings.protocolVersions.length).toNat := by
  have width : 8 * Width.one.bytes = 8 := rfl
  simp only [countedVersions, List.length_take, countOctet, BitVec.toNat_ofNat, width]
  omega

theorem length_sizeTOctets_le (value : Nat) : (sizeTOctets data value).length ≤ 8 := by
  unfold sizeTOctets
  split
  · exact le_of_eq (length_formatOctets _ .eight _)
  · exact (le_of_eq (length_formatOctets _ .four _)).trans (by decide)

/-- Interfaces are copied as raw bytes or left out. -/
def elementsOctets : List UInt8 :=
  if data.endiannessDifference then []
  else settings.interfaces.flatMap fun interface =>
    interface.id.octets ++ data.platform.store .four interface.version.toBitVec

def openingOctets : List UInt8 :=
  scalarOctets data (.integral .unsignedChar .one false)
      (countOctet settings.protocolVersions.length) ++
    (countedVersions settings ++
      (scalarOctets data flagsType settings.mandatoryCommonFlags.flags ++
        scalarOctets data flagsType settings.forbiddenCommonFlags.flags))

variable {data} (context : SettingsContext data)

include context

theorem length_openingOctets_le :
    (openingOctets data settings).length ≤ settings.protocolVersions.length + 9 := by
  have scalar (type : ScalarType) (value : Word type.size) :
      (scalarOctets data type value).length = type.size.bytes := by
    simp only [scalarOctets, sizeOctets, context.writesSize, List.length_append,
      length_formatOctets]
    simp
  have counted : (countedVersions settings).length ≤ settings.protocolVersions.length :=
    List.length_take_le' _ _
  have count : (scalarOctets data (.integral .unsignedChar .one false)
      (countOctet settings.protocolVersions.length)).length = 1 := scalar _ _
  have flags (word : Context.CommonFlags) :
      (scalarOctets data flagsType word.flags).length = 4 := scalar _ _
  simp only [openingOctets, List.length_append, count]
  rw [flags, flags]
  omega

omit context in
theorem length_elementsOctets_le :
    (elementsOctets data settings).length ≤ 20 * settings.interfaces.length := by
  unfold elementsOctets
  split
  · simp
  · induction settings.interfaces with
    | nil => simp
    | cons interface rest induction =>
        have version : (data.platform.store .four interface.version.toBitVec).length = 4 :=
          Platform.length_store _ .four _
        simp only [List.flatMap_cons, List.length_append, interface.id.sized,
          List.length_cons]
        omega

theorem wireN_versions (versions : List UInt8) :
    wireN data (StatusMessage.versionTy : Ty P) (wire data StatusMessage.versionTy)
      (versions.map versionObj) = versions := by
  have filled : (StatusMessage.versionTy : Ty P).emptyType = false := rfl
  have noPrefix : arrayPrefix data (StatusMessage.versionTy : Ty P) = [] := by
    simp only [arrayPrefix, sizeOctets, context.writesSize]
    rfl
  unfold wireN
  rw [filled, SettingsContext.copiesArray_versionTy, noPrefix]
  exact image_versions data.platform versions

theorem wireN_interfaces :
    wireN data (interfaceVersionTy : Ty P) (wire data interfaceVersionTy)
      (settings.interfaces.map interfaceVersionObj) = elementsOctets data settings := by
  have filled : (interfaceVersionTy : Ty P).emptyType = false := rfl
  unfold wireN elementsOctets
  rw [filled, copiesArray_struct, context.copiesStruct_interfaceVersionTy]
  cases difference : data.endiannessDifference with
  | false =>
      have images := fun interface : InterfaceVersion =>
        image_interfaceVersionObj (P := P) data.platform interface
      simp only [Bool.not_false, if_true, List.flatMap_map, images]
      rfl
  | true =>
      have nothing (object : (interfaceVersionTy : Ty P).Obj) :
          wire data interfaceVersionTy object = [] := by
        have copies := context.copiesStruct_interfaceVersionTy (P := P)
        rw [difference] at copies
        show (if copiesStruct data (interfaceVersionTy : Ty P) then _ else []) = []
        rw [copies]
        rfl
      simpa using fun interface _ => nothing (interfaceVersionObj interface)

end Octets

section Serialize

variable {ctx : SContext} (unbounded : Unbounded ctx) (context : SettingsContext ctx.data)
  (settings : CspPartySettings)

include unbounded context

theorem serializeVersions_writes (address : Nat) :
    Writes ctx.data.platform
      (serializeN ctx (StatusMessage.versionTy : Ty P)
        (BodyProcessor.serialize ctx .none StatusMessage.versionTy)
        ((countedVersions settings).map versionObj) address)
      (countedVersions settings) (fun _ => True) := by
  have copied : SendableN ctx.data (StatusMessage.versionTy : Ty P) (fun _ => False)
      ((countedVersions settings).map versionObj) := by
    unfold SendableN
    rw [SettingsContext.copiesArray_versionTy]
    rfl
  have written : Writes ctx.data.platform
      (serializeN ctx (StatusMessage.versionTy : Ty P)
        (BodyProcessor.serialize ctx .none StatusMessage.versionTy)
        ((countedVersions settings).map versionObj) address)
      (wireN ctx.data (StatusMessage.versionTy : Ty P)
        (wire ctx.data StatusMessage.versionTy)
        ((countedVersions settings).map versionObj)) (fun _ => True) :=
    serializeN_writes unbounded _ _ copied
      (fun _ _ impossible => impossible.elim) address
  rwa [wireN_versions context] at written

theorem serializeInterfaces_writes (address : Nat) :
    Writes ctx.data.platform
      (serializeN ctx (interfaceVersionTy : Ty P)
        (BodyProcessor.serialize ctx .none interfaceVersionTy)
        (settings.interfaces.map interfaceVersionObj) address)
      (elementsOctets ctx.data settings) (fun _ => True) := by
  have copies := context.copiesStruct_interfaceVersionTy (P := P)
  have leaves := context.leavesToFields_interfaceVersionTy (P := P)
  rw [← wireN_interfaces (P := P) settings context]
  have allowed : SendableN ctx.data (interfaceVersionTy : Ty P)
      (fun _ => ctx.data.endiannessDifference = true)
      (settings.interfaces.map interfaceVersionObj) := by
    unfold SendableN
    rw [copiesArray_struct, copies]
    cases ctx.data.endiannessDifference with
    | false => rfl
    | true => exact fun _ _ => rfl
  refine serializeN_writes unbounded (interfaceVersionTy : Ty P) _ allowed ?_ address
  · intro object _ difference _
    rw [difference] at copies leaves
    have octets : wire ctx.data interfaceVersionTy object = [] := by
      show (if copiesStruct ctx.data (interfaceVersionTy : Ty P) then _ else []) = []
      rw [copies]
      rfl
    rw [octets, serialize_generic_eq interfaceVersionDecl interfaceVersionFields rfl rfl,
      copies, leaves]
    exact .pure trivial

theorem serializeOpening_writes (address : Nat) {rest : SProc Unit} {octets : List UInt8}
    (restWrites : Writes ctx.data.platform rest octets (fun _ => True)) :
    Writes ctx.data.platform (do
      serializeArithmetic ctx (.integral .unsignedChar .one false)
        (countOctet settings.protocolVersions.length)
      serializeN ctx (StatusMessage.versionTy : Ty P)
        (BodyProcessor.serialize ctx .none StatusMessage.versionTy)
        ((countedVersions settings).map versionObj) address
      serializeArithmetic ctx flagsType settings.mandatoryCommonFlags.flags
      serializeArithmetic ctx flagsType settings.forbiddenCommonFlags.flags
      rest) (openingOctets ctx.data settings ++ octets) (fun _ => True) := by
  simp only [openingOctets, List.append_assoc]
  refine (serializeArithmetic_writes unbounded _ _).bind fun _ _ => ?_
  refine (serializeVersions_writes unbounded context settings address).bind fun _ _ => ?_
  refine (serializeArithmetic_writes unbounded _ _).bind fun _ _ => ?_
  exact (serializeArithmetic_writes unbounded _ _).bind fun _ _ => restWrites

omit unbounded in
theorem serializeBody_eq :
    serializeBody ctx (settingsObj (P := P) settings) = (do
      serializeArithmetic ctx (.integral .unsignedChar .one false)
        (countOctet settings.protocolVersions.length)
      serializeN ctx (StatusMessage.versionTy : Ty P)
        (BodyProcessor.serialize ctx .none StatusMessage.versionTy)
        ((countedVersions settings).map versionObj) 0
      serializeArithmetic ctx flagsType settings.mandatoryCommonFlags.flags
      serializeArithmetic ctx flagsType settings.forbiddenCommonFlags.flags
      serializeTemplate ctx .vectorT (interfaceVersionTy : Ty P)
        (BodyProcessor.serialize ctx .none interfaceVersionTy)
        (Storage.empty, settings.interfaces.map interfaceVersionObj)) := by
  have start : serializeCommon ctx .none settingsDecl settingsFields
      (settingsObj (P := P) settings) = pure false := by
    have untagged : serializeAnySimplyAssignable ctx (.struct settingsDecl settingsFields)
        (settingsObj (P := P) settings) = pure false := by
      rw [serializeAnySimplyAssignable_eq]
      rfl
    unfold serializeCommon
    rw [context.latest]
    exact untagged
  have count : (settings.protocolVersions.map (versionObj (P := P))).length =
      settings.protocolVersions.length := List.length_map _
  have versions : (settings.protocolVersions.map (versionObj (P := P))).take
        (countOctet settings.protocolVersions.length).toNat =
      (countedVersions settings).map versionObj := by
    rw [countedVersions, List.map_take]
    simp only [countOctet, BitVec.toNat_ofNat]
    rfl
  unfold serializeBody writeFieldsUnless
  rw [start, pure_bind]
  simp only [serializeFields, settingsObj, count, versions]
  rfl

theorem serializeBody_writes
    (bounded : settings.interfaces.length < 2 ^ ctx.data.platform.addressBits)
    (short : ctx.data.bitness32 → settings.interfaces.length < 2 ^ 32) :
    Writes ctx.data.platform (serializeBody ctx (settingsObj (P := P) settings))
      (openingOctets ctx.data settings ++
        (sizeTOctets ctx.data settings.interfaces.length ++
          elementsOctets ctx.data settings)) (fun _ => True) := by
  rw [serializeBody_eq context]
  refine serializeOpening_writes unbounded context settings 0 ?_
  unfold serializeTemplate
  rw [List.length_map]
  exact (serializeSizeT_writes unbounded _ bounded short).bind fun _ _ =>
    serializeInterfaces_writes unbounded context settings 0

theorem serializeBody_breaks
    (bounded : settings.interfaces.length < 2 ^ ctx.data.platform.addressBits)
    (short : ctx.data.bitness32) (many : 2 ^ 32 ≤ settings.interfaces.length) :
    Breaks ctx.data.platform (serializeBody ctx (settingsObj (P := P) settings))
      (openingOctets ctx.data settings) := by
  rw [serializeBody_eq context]
  simp only [openingOctets]
  refine .bind_next (serializeArithmetic_writes unbounded _ _) fun _ _ => ?_
  refine .bind_next (serializeVersions_writes unbounded context settings 0) fun _ _ => ?_
  refine .bind_next (serializeArithmetic_writes unbounded _ _) fun _ _ => ?_
  rw [← List.append_nil (scalarOctets _ flagsType settings.forbiddenCommonFlags.flags)]
  refine .bind_next (serializeArithmetic_writes unbounded _ _) fun _ _ => ?_
  unfold serializeTemplate
  rw [List.length_map]
  exact (serializeSizeT_breaks _ bounded short many).bind_first _

end Serialize

section Deserialize

variable {ctx : DContext P} {sender : Context.Data} (same : SameFormat sender ctx.data)
  (context : SettingsContext sender) (grants : HeapGrants ctx)

include same

theorem scalarOctets_eq (type : ScalarType) (value : Word type.size) :
    scalarOctets sender type value = scalarOctets ctx.data type value := by
  simp only [scalarOctets, sizeOctets, same.writesSize, same.bigEndianFormat]

theorem deserializeScalar_reads (type : ScalarType) (value : Word type.size) :
    Reads ctx.data.platform (deserializeArithmetic ctx type)
      (scalarOctets sender type value) (fun result => result = value) := by
  rw [scalarOctets_eq same]
  exact deserializeArithmetic_reads ctx type value

include context

theorem deserializeVersions_reads (versions : List UInt8)
    (targets : List (StatusMessage.versionTy : Ty P).Obj)
    (lengths : targets.length = versions.length) (address : Nat) :
    Reads ctx.data.platform
      (deserializeN ctx (StatusMessage.versionTy : Ty P)
        (BodyProcessor.deserialize ctx (fun _ => StatusMessage.versionTy) .none
          StatusMessage.versionTy) targets versions.length address)
      versions (fun received => received.map versionOf = versions) := by
  have copied : SendableN sender (StatusMessage.versionTy : Ty P) (fun _ => False)
      (versions.map versionObj) := by
    unfold SendableN
    rw [SettingsContext.copiesArray_versionTy]
    rfl
  have reads : Reads ctx.data.platform
      (deserializeN ctx (StatusMessage.versionTy : Ty P)
        (BodyProcessor.deserialize ctx (fun _ => StatusMessage.versionTy) .none
          StatusMessage.versionTy) targets versions.length address)
      (wireN sender (StatusMessage.versionTy : Ty P) (wire sender StatusMessage.versionTy)
        (versions.map versionObj))
      (DeliveredN sender ctx.data (StatusMessage.versionTy : Ty P) (fun _ _ => False)
        (versions.map versionObj)) :=
    deserializeN_reads ctx same _ _ targets (by rw [lengths, List.length_map]) copied
      (fun _ _ impossible => impossible.elim) (by rw [List.length_map]) address
  rw [wireN_versions context] at reads
  refine reads.weaken fun received arrived => ?_
  have filled : (StatusMessage.versionTy : Ty P).emptyType = false := rfl
  unfold DeliveredN at arrived
  rw [filled, SettingsContext.copiesArray_versionTy] at arrived
  have equal (sent object : (StatusMessage.versionTy : Ty P).Obj)
      (image : Copied sender ctx.data (StatusMessage.versionTy : Ty P) sent object) :
      versionOf object = versionOf sent := by
    have one := image_versionObj (P := P) sender.platform (versionOf sent)
    have other := image_versionObj (P := P) ctx.data.platform (versionOf object)
    have heads : [versionOf object] = [versionOf sent] :=
      other.symm.trans (Eq.trans image one)
    exact List.head_eq_of_cons_eq heads
  rw [Chunks.map_eq_map_of_forall₂ arrived.2 equal, List.map_map]
  exact List.map_id _

/-- The interfaces that arrive: those that were left out are as their default
constructor leaves them. -/
def receivedInterfaces (ctx : DContext P) (sender : Context.Data)
    (interfaces : List InterfaceVersion) : List InterfaceVersion :=
  if sender.endiannessDifference then
    List.replicate interfaces.length
      (interfaceVersionOf (ctx.construct interfaceVersionTy))
  else interfaces

theorem deserializeElements_reads (settings : CspPartySettings)
    (sameOrder : sender.endiannessDifference = false →
      ctx.data.platform.isBigEndianPlatform = sender.platform.isBigEndianPlatform)
    {room : Nat} (enough : settings.interfaces.length ≤ room) (address : Nat) :
    Reads ctx.data.platform
      (deserializeN ctx (interfaceVersionTy : Ty P)
        (BodyProcessor.deserialize ctx (fun _ => interfaceVersionTy) .none
          interfaceVersionTy)
        (List.replicate settings.interfaces.length (ctx.construct interfaceVersionTy))
        room address)
      (elementsOctets sender settings)
      (fun received => received.map interfaceVersionOf =
        receivedInterfaces ctx sender settings.interfaces) := by
  have copies := context.copiesStruct_interfaceVersionTy (P := P)
  have filled : (interfaceVersionTy : Ty P).emptyType = false := rfl
  cases difference : sender.endiannessDifference with
  | false =>
      rw [difference, ← copiesArray_struct] at copies
      have copied : SendableN sender (interfaceVersionTy : Ty P) (fun _ => False)
          (settings.interfaces.map interfaceVersionObj) := by
        unfold SendableN
        rw [copies]
        rfl
      have reads : Reads ctx.data.platform
          (deserializeN ctx (interfaceVersionTy : Ty P)
            (BodyProcessor.deserialize ctx (fun _ => interfaceVersionTy) .none
              interfaceVersionTy)
            (List.replicate settings.interfaces.length
              (ctx.construct interfaceVersionTy)) room address)
          (wireN sender (interfaceVersionTy : Ty P) (wire sender interfaceVersionTy)
            (settings.interfaces.map interfaceVersionObj))
          (DeliveredN sender ctx.data (interfaceVersionTy : Ty P) (fun _ _ => False)
            (settings.interfaces.map interfaceVersionObj)) :=
        deserializeN_reads ctx same _ _ _ (by simp) copied
          (fun _ _ impossible => impossible.elim) (by rwa [List.length_map]) address
      rw [wireN_interfaces settings context] at reads
      refine reads.weaken fun received arrived => ?_
      unfold DeliveredN at arrived
      rw [filled, copies] at arrived
      have pieces := List.forall₂_map_left_iff.mp arrived.2
      have whole : received.map interfaceVersionOf = settings.interfaces.map id :=
        Chunks.map_eq_map_of_forall₂ pieces fun interface object image =>
          interfaceVersionOf_of_copied (sameOrder difference) image
      rw [whole, List.map_id, receivedInterfaces, difference]
      rfl
  | true =>
      rw [difference, ← copiesArray_struct] at copies
      have leaves := context.leavesToFields_interfaceVersionTy (P := P)
      rw [difference] at leaves
      have none : elementsOctets sender settings = [] := by
        rw [elementsOctets, difference]
        rfl
      have silent (target : (interfaceVersionTy : Ty P).Obj) (address : Nat)
          (before : DState P) :
          BodyProcessor.deserialize ctx (fun _ => interfaceVersionTy) .none
            interfaceVersionTy target address before = .ok target before := by
        rw [deserialize_generic_eq interfaceVersionDecl interfaceVersionFields rfl rfl,
          same.copiesStruct, same.leavesToFields, ← copiesArray_struct, copies, leaves]
        rfl
      rw [none]
      intro before rest _ _ _
      obtain ⟨after, ran, walker⟩ := deserializeElements_silent ctx
        (interfaceVersionTy : Ty P) silent settings.interfaces.length address before
      refine ⟨List.replicate settings.interfaces.length (ctx.construct interfaceVersionTy),
        after, ?_, ?_, by simp [walker]⟩
      · unfold deserializeN
        rw [filled, same.copiesArray, copies, List.length_replicate,
          withinRoom_of_le enough]
        exact ran
      · simp only [receivedInterfaces, difference, if_true, List.map_replicate]

include grants

theorem deserializeInterfaces_reads (settings : CspPartySettings)
    (fit : ElementsFit ctx.data.platform (interfaceVersionTy : Ty P)
      settings.interfaces.length)
    (short : sender.bitness32 → settings.interfaces.length < 2 ^ 32)
    (sameOrder : sender.endiannessDifference = false →
      ctx.data.platform.isBigEndianPlatform = sender.platform.isBigEndianPlatform)
    (storage : Storage) :
    Reads ctx.data.platform
      (deserializeTemplate ctx .vectorT (interfaceVersionTy : Ty P)
        (BodyProcessor.deserialize ctx (fun _ => interfaceVersionTy) .none
          interfaceVersionTy) storage)
      (sizeTOctets sender settings.interfaces.length ++ elementsOctets sender settings)
      (fun received => received.2.map interfaceVersionOf =
        receivedInterfaces ctx sender settings.interfaces) := by
  have sized : sizeTOctets sender settings.interfaces.length =
      sizeTOctets ctx.data settings.interfaces.length := by
    simp only [sizeTOctets, same.bitness32, same.bigEndianFormat]
  unfold deserializeTemplate
  rw [sized]
  refine (deserializeSizeT_reads ctx settings.interfaces.length fit.1
    (by rwa [same.bitness32])).bind fun size equality => ?_
  subst equality
  simp only
  rw [← List.nil_append (elementsOctets sender settings)]
  refine (reserve_reads ctx grants _ storage _ fit).bind fun reserved enough => ?_
  rw [← List.append_nil (elementsOctets sender settings)]
  refine (deserializeElements_reads same context settings sameOrder enough _).bind
    fun received arrived => ?_
  exact .pure arrived

omit same context in
theorem setSize_reads (storage : Storage) (n : Nat) :
    Reads ctx.data.platform (setSize ctx storage n) [] (fun _ => True) := by
  unfold setSize
  split
  · intro before rest _ _ _
    obtain ⟨address, after, ran, walker⟩ := allocate_eq ctx grants n before
    exact ⟨_, after, by rw [bind_of_ok ran]; rfl, trivial, walker⟩
  · exact .pure trivial

def received (ctx : DContext P) (sender : Context.Data) (settings : CspPartySettings) :
    CspPartySettings where
  protocolVersions := countedVersions settings
  mandatoryCommonFlags := settings.mandatoryCommonFlags
  forbiddenCommonFlags := settings.forbiddenCommonFlags
  interfaces := receivedInterfaces ctx sender settings.interfaces

section Opening

variable (ctx) in
def readOpening (target : (settingsTop : TopStruct P).type.Obj) :
    DProc P ((Storage × List (StatusMessage.versionTy : Ty P).Obj) ×
      Word .four × Word .four) := do
  let cspVersionsSize ←
    deserializeArithmetic ctx (.integral .unsignedChar .one false)
  let storage ← setSize ctx target.1.2.1.1 cspVersionsSize.toNat
  let versions ← deserializeN ctx (StatusMessage.versionTy : Ty P)
    (BodyProcessor.deserialize ctx (fun _ => StatusMessage.versionTy) .none
      StatusMessage.versionTy)
    (List.replicate cspVersionsSize.toNat (0 : Word .one)) cspVersionsSize.toNat
    storage.data
  let mandatoryCommonFlags ← deserializeArithmetic ctx flagsType
  let forbiddenCommonFlags ← deserializeArithmetic ctx flagsType
  return ((storage, versions), mandatoryCommonFlags, forbiddenCommonFlags)

omit same context grants

theorem deserializeFields_eq (target : (settingsTop : TopStruct P).type.Obj) :
    deserializeFields ctx target = (do
      let opening ← readOpening ctx target
      let interfaces ← deserializeTemplate ctx .vectorT (interfaceVersionTy : Ty P)
        (BodyProcessor.deserialize ctx (fun _ => interfaceVersionTy) .none
          interfaceVersionTy)
        target.1.2.2.2.2.2.2.2.1.1
      return (nofun, opening.1, nofun, opening.2.1, nofun, opening.2.2, nofun,
        interfaces, ())) := by
  simp only [readOpening, bind_assoc, pure_bind]
  rfl

/-- Nothing of the settings is copied whole or converted. -/
theorem deserializeBody_eq (latest : ctx.data.interfaceVersionsNotMatch = false)
    (target : (settingsTop : TopStruct P).type.Obj) (address : Nat) :
    deserializeBody ctx target address =
      readFields settingsDecl settingsFields target (deserializeFields ctx target) := by
  have start : deserializeCommon ctx .none settingsDecl settingsFields target address =
      pure none := by
    have untagged : deserializeAnySimplyAssignable ctx
        (.struct settingsDecl settingsFields) target = pure none := by
      rw [deserializeAnySimplyAssignable_eq]
      rfl
    unfold deserializeCommon
    rw [latest]
    exact untagged
  unfold deserializeBody readFieldsUnless
  rw [start, pure_bind]

include same context grants

theorem readCounted_reads (settings : CspPartySettings) (storage : Storage) {n : Nat}
    (sized : n = (countedVersions settings).length) :
    Reads ctx.data.platform (do
      let storage ← setSize ctx storage n
      let versions ← deserializeN ctx (StatusMessage.versionTy : Ty P)
        (BodyProcessor.deserialize ctx (fun _ => StatusMessage.versionTy) .none
          StatusMessage.versionTy)
        (List.replicate n (0 : Word .one)) n storage.data
      let mandatoryCommonFlags ← deserializeArithmetic ctx flagsType
      let forbiddenCommonFlags ← deserializeArithmetic ctx flagsType
      return ((storage, versions), mandatoryCommonFlags, forbiddenCommonFlags))
      (countedVersions settings ++
        (scalarOctets sender flagsType settings.mandatoryCommonFlags.flags ++
          scalarOctets sender flagsType settings.forbiddenCommonFlags.flags))
      (fun opening => opening.1.2.map versionOf = countedVersions settings ∧
        opening.2 = (settings.mandatoryCommonFlags.flags,
          settings.forbiddenCommonFlags.flags)) := by
  subst sized
  rw [← List.nil_append (countedVersions settings ++ _)]
  refine (setSize_reads grants _ _).bind fun storage _ => ?_
  refine (deserializeVersions_reads same context (countedVersions settings) _
    (List.length_replicate ..) _).bind fun versions counted => ?_
  refine (deserializeScalar_reads same flagsType _).bind ?_
  rintro _ rfl
  rw [← List.append_nil (scalarOctets _ flagsType settings.forbiddenCommonFlags.flags)]
  refine (deserializeScalar_reads same flagsType _).bind ?_
  rintro _ rfl
  exact .pure ⟨counted, rfl⟩

theorem readOpening_reads (settings : CspPartySettings)
    (target : (settingsTop : TopStruct P).type.Obj) :
    Reads ctx.data.platform (readOpening ctx target) (openingOctets sender settings)
      (fun opening => opening.1.2.map versionOf = countedVersions settings ∧
        opening.2 = (settings.mandatoryCommonFlags.flags,
          settings.forbiddenCommonFlags.flags)) := by
  refine (deserializeScalar_reads same _ _).bind ?_
  rintro _ rfl
  exact readCounted_reads same context grants settings _
    (length_countedVersions settings).symm

theorem deserializeBody_starves (latest : ctx.data.interfaceVersionsNotMatch = false)
    (settings : CspPartySettings) (target : (settingsTop : TopStruct P).type.Obj)
    (address : Nat) :
    Starves ctx.data.platform (deserializeBody ctx target address)
      (openingOctets sender settings) := by
  rw [deserializeBody_eq latest, deserializeFields_eq]
  refine Starves.bind_first ?_ _
  rw [← List.append_nil (openingOctets sender settings)]
  refine .bind_next (readOpening_reads same context grants settings target) fun _ _ => ?_
  unfold deserializeTemplate
  exact ((deserializeSizeT_starves ctx).bind_first _).bind_first _

theorem deserializeBody_reads (latest : ctx.data.interfaceVersionsNotMatch = false)
    (settings : CspPartySettings)
    (fit : ElementsFit ctx.data.platform (interfaceVersionTy : Ty P)
      settings.interfaces.length)
    (short : sender.bitness32 → settings.interfaces.length < 2 ^ 32)
    (sameOrder : sender.endiannessDifference = false →
      ctx.data.platform.isBigEndianPlatform = sender.platform.isBigEndianPlatform)
    (target : (settingsTop : TopStruct P).type.Obj) (address : Nat) :
    Reads ctx.data.platform (deserializeBody ctx target address)
      (openingOctets sender settings ++
        (sizeTOctets sender settings.interfaces.length ++ elementsOctets sender settings))
      (fun object => settingsOf object = received ctx sender settings) := by
  have flags (word : Context.CommonFlags) :
      (Context.FlagWord.ofUInt32 word.flags : Context.CommonFlags) = word :=
    Context.FlagWord.ofUInt32_flags word
  rw [deserializeBody_eq latest, deserializeFields_eq]
  simp only [readFields, bind_assoc, pure_bind]
  refine (readOpening_reads same context grants settings target).bind
    fun opening ⟨counted, words⟩ => ?_
  rw [← List.append_nil (sizeTOctets _ _ ++ _)]
  refine (deserializeInterfaces_reads same context grants settings fit short sameOrder
    _).bind fun interfaces arrived => .pure ?_
  simp only [settingsOf, received, counted, arrived, words, flags]

end Opening

end Deserialize

end CspPartySettings

end CommonSerialization.Csp.Messaging
