import CommonSerialization.Csp.Processing.IntegerSizes

namespace CommonSerialization.Csp.BodyProcessor

open Chunks FixedWidthInteger StateExcept

/-! A message with integers between parties that have other sizes for them. -/

/-- The places an integer type is used in: a field, a fixed array, a vector. -/
inductive IntegerUse
  | field
  | array (length : Nat)
  | vectorT
  deriving DecidableEq, Repr

namespace IntegerUse

@[reducible] def ty (type : ScalarType) (sizeOfVectorT : Nat) :
    IntegerUse → Ty Empty
  | field => .scalar type
  | array length => .array (.scalar type) length
  | vectorT => .container .vectorT sizeOfVectorT (.scalar type)

def words {type : ScalarType} {sizeOfVectorT : Nat} :
    (use : IntegerUse) → (use.ty type sizeOfVectorT).Obj →
      List (Word type.size)
  | field, value => [value]
  | array _, value => List.ofFn value
  | vectorT, value => value.2

end IntegerUse

/-- What is sent in such a place arrives or is refused as it should be. -/
def Handled {source : Width} (type : ScalarType)
    (endiannessDifference bigEndianFormat : Bool) :
    IntegerUse → List (Word source) → Prop
  | .field, sent => SignsHandled type sent
  | .array _, sent | .vectorT, sent =>
      ElementsHandled type endiannessDifference bigEndianFormat sent

/-- Both parties have accepted the flags of a message in which the sizes of
the integers are written, and the two types are one type of the interface. -/
structure Exchange (sender receiver : Context.Data)
    (senderType receiverType : ScalarType) : Prop where
  same : SameFormat sender receiver
  senderDeclared : Common.endiannessIsDeclared sender
  receiverDeclared : Common.endiannessIsDeclared receiver
  sizesMayDiffer : sender.sizeOfIntegersMayBeNotEqual
  senderVaries : sizeVaries senderType
  receiverVaries : sizeVaries receiverType
  isSigned : senderType.isSigned = receiverType.isSigned

theorem writesSize_of_sizeVaries {data : Context.Data}
    (mayDiffer : data.sizeOfIntegersMayBeNotEqual) {type : ScalarType}
    (varies : sizeVaries type) : writesSize data type := by
  simp only [sizeVaries, Bool.and_eq_true] at varies
  simp only [writesSize, Bool.and_eq_true]
  exact ⟨varies, mayDiffer⟩

namespace Exchange

variable {sender receiver : Context.Data} {senderType receiverType : ScalarType}
  (exchange : Exchange sender receiver senderType receiverType)

include exchange

theorem senderWrites : writesSize sender senderType :=
  writesSize_of_sizeVaries exchange.sizesMayDiffer exchange.senderVaries

theorem receiverWrites : writesSize receiver receiverType := by
  rw [exchange.same.writesSize]
  exact writesSize_of_sizeVaries exchange.sizesMayDiffer exchange.receiverVaries

theorem wireN_scalar (sent : List (Word senderType.size)) :
    wireN sender (.scalar senderType : Ty P) (wire sender (.scalar senderType))
        sent =
      if !sender.endiannessDifference || decide (senderType.size = .one) then
        formatOctets sender.bigEndianFormat .one (sizeOctet senderType.size) ++
          sent.flatMap (formatOctets sender.bigEndianFormat senderType.size)
      else
        loopOctets sender.bigEndianFormat sent := by
  have prefixed : sizeOctets sender senderType =
      formatOctets sender.bigEndianFormat .one (sizeOctet senderType.size) :=
    if_pos exchange.senderWrites
  rw [wireN, if_neg (by simp [Ty.emptyType, Ty.tags, Tags.none]),
    ← copiesArray_scalar (P := P) senderType]
  split
  · rename_i copies
    rw [arrayPrefix, prefixed]
    congr 1
    exact List.flatMap_congr fun word _ =>
      store_eq_of_copies senderType exchange.senderDeclared copies word
  · exact List.flatMap_congr fun word _ => by simp only [wire, prefixed]

end Exchange

theorem flatMap_unprefixed (bigEndianFormat : Bool) (source : Width)
    (count : Nat) (octets : List UInt8)
    (enough : source.bytes * count ≤ octets.length) :
    (unprefixed bigEndianFormat source count octets).flatMap
        (formatOctets bigEndianFormat source) =
      octets.take (source.bytes * count) := by
  have covers (window : List UInt8) (sized : source.bytes ≤ window.length) :
      formatOctets bigEndianFormat source
          ((Platform.mk bigEndianFormat false).load source
            (window.take source.bytes)) = window.take source.bytes := by
    apply Platform.store_load
    rw [List.length_take]
    omega
  exact flatMap_windows covers count octets enough

/-- Without the sizes between them the same number of values is over before
the octets are. -/
theorem loopOctets_cons_cons {source : Width} (bigEndianFormat : Bool)
    (first second : Word source) (rest : List (Word source)) :
    ∃ moreOctets, moreOctets ≠ [] ∧
      loopOctets bigEndianFormat (first :: second :: rest) =
        formatOctets bigEndianFormat .one (sizeOctet source) ++
          (unprefixed bigEndianFormat source (rest.length + 2)
            ((loopOctets bigEndianFormat (first :: second :: rest)).drop
              1)).flatMap (formatOctets bigEndianFormat source) ++
          moreOctets := by
  have total : (loopOctets bigEndianFormat (first :: second :: rest)).length =
      (1 + source.bytes) * (rest.length + 2) :=
    length_flatMap fun word _ => by simp [Width.bytes]
  have head : (loopOctets bigEndianFormat (first :: second :: rest)).take 1 =
      formatOctets bigEndianFormat .one (sizeOctet source) := by
    rw [loopOctets, List.flatMap_cons, List.append_assoc]
    exact List.take_left' (length_formatOctets _ _ _)
  have split : (1 + source.bytes) * (rest.length + 2) =
      1 + source.bytes * (rest.length + 2) + (rest.length + 1) := by
    rw [Nat.add_mul]
    omega
  generalize loopOctets bigEndianFormat (first :: second :: rest) = octets at *
  refine ⟨(octets.drop 1).drop (source.bytes * (rest.length + 2)), ?_, ?_⟩
  · apply List.ne_nil_of_length_pos
    rw [List.length_drop, List.length_drop]
    omega
  · rw [flatMap_unprefixed _ _ _ _ (by
        rw [List.length_drop]
        omega),
      ← head, List.append_assoc, List.take_append_drop, List.take_append_drop]

section Elements

variable {sender : Context.Data} (ctx : DContext P)
  {senderType receiverType : ScalarType}
  (exchange : Exchange sender ctx.data senderType receiverType)

include exchange

/-- Only the receiver's elements have one octet: it takes the size of the first
element for the size of all. -/
theorem deserializeArrayCopy_settlesIff (senderLoops : senderType.size ≠ .one)
    (copies : copiesArray ctx.data (.scalar receiverType : Ty P))
    (sent : List (Word senderType.size)) {room : Nat}
    (targets : List (Word receiverType.size))
    (lengths : targets.length = sent.length) (enough : sent.length ≤ room) :
    SettlesIff ctx.data.platform
      (deserializeArrayCopy ctx room (.scalar receiverType) targets :
        DProc P (List (Word receiverType.size)))
      (loopOctets sender.bigEndianFormat sent)
      (∀ word ∈ sent, Representable receiverType word)
      (fun received =>
        received.map (·.toInteger receiverType.isSigned) =
          sent.map (·.toInteger receiverType.isSigned))
      (MismatchHandled receiverType sender.bigEndianFormat sent) := by
  have copied (values : List (Word senderType.size))
      (sized : targets.length = values.length) (fits : values.length ≤ room) :=
    deserializeArrayCopy_resizes ctx receiverType exchange.receiverDeclared
      exchange.receiverWrites copies values targets sized fits
  rw [exchange.same.bigEndianFormat] at copied
  match sent with
  | [] =>
      have advances := deserializeArrayCopy_advances ctx receiverType
        exchange.receiverWrites room targets
      exact .of_advances advances (by simp [loopOctets]) (by simp)
  | [word] =>
      have resizes := copied [word] lengths enough
      simpa [loopOctets, MismatchHandled] using resizes.settlesIff
  | first :: second :: rest =>
      obtain ⟨moreOctets, more, octets⟩ :=
        loopOctets_cons_cons sender.bigEndianFormat first second rest
      have resizes := copied
        (unprefixed sender.bigEndianFormat senderType.size (rest.length + 2)
          ((loopOctets sender.bigEndianFormat (first :: second :: rest)).drop 1))
        (by simpa [unprefixed] using lengths)
        (by rw [unprefixed, List.length_map, List.length_range]; exact enough)
      have short := resizes.settlesIff_of_short more
        (∀ word ∈ first :: second :: rest, Representable receiverType word)
        (fun received =>
          received.map (·.toInteger receiverType.isSigned) =
            (first :: second :: rest).map (·.toInteger receiverType.isSigned))
      rw [← octets] at short
      simpa only [MismatchHandled, senderLoops, ne_eq, not_false_eq_true,
        true_and, not_forall, exists_prop] using short

/-- Only the sender's elements have one octet: the receiver takes every other
element for a size. -/
theorem deserializeElements_settlesIff (senderCopies : senderType.size = .one)
    {each : Word receiverType.size → Nat → DProc P (Word receiverType.size)}
    (eachReads : ∀ target address,
      each target address = deserializeArithmetic ctx receiverType)
    (sent : List (Word senderType.size)) (address : Nat) :
    SettlesIff ctx.data.platform
      (deserializeElements ctx (.scalar receiverType) each sent.length address :
        DProc P (List (Word receiverType.size)))
      (formatOctets sender.bigEndianFormat .one (sizeOctet senderType.size) ++
        sent.flatMap (formatOctets sender.bigEndianFormat senderType.size))
      (∀ word ∈ sent, Representable receiverType word)
      (fun received =>
        received.map (·.toInteger receiverType.isSigned) =
          sent.map (·.toInteger receiverType.isSigned))
      (MismatchHandled receiverType sender.bigEndianFormat sent) := by
  have fit (word : Word senderType.size) : Representable receiverType word := by
    apply fits_of_le (Word.fits _ word)
    rw [senderCopies]
    exact receiverType.size.bytes_pos
  match sent with
  | [] =>
      have resizes := deserializeElements_resizes ctx receiverType eachReads
        exchange.receiverWrites ([] : List (Word senderType.size)) address
      have more : formatOctets sender.bigEndianFormat .one
          (sizeOctet senderType.size) ≠ [] :=
        List.ne_nil_of_length_pos (by simp [Width.bytes])
      have short := resizes.settlesIff_of_short more
        (∀ word ∈ ([] : List (Word senderType.size)),
          Representable receiverType word)
        (fun received =>
          received.map (·.toInteger receiverType.isSigned) =
            ([] : List (Word senderType.size)).map
              (·.toInteger receiverType.isSigned))
      simpa [MismatchHandled, loopOctets] using short
  | [word] =>
      have resizes := deserializeElements_resizes ctx receiverType eachReads
        exchange.receiverWrites [word] address
      rw [exchange.same.bigEndianFormat] at resizes
      simpa [loopOctets, MismatchHandled] using resizes.settlesIff
  | first :: second :: rest =>
      have advances := deserializeElements_advances ctx receiverType eachReads
        exchange.receiverWrites (rest.length + 2) address
      have octets : (formatOctets sender.bigEndianFormat .one
            (sizeOctet senderType.size) ++
          (first :: second :: rest).flatMap
            (formatOctets sender.bigEndianFormat senderType.size)).length =
          rest.length + 3 := by
        have single : senderType.size.bytes = 1 := by
          rw [senderCopies]
          rfl
        rw [List.length_append, length_formatOctets,
          length_flatMap fun word _ => length_formatOctets _ _ word, single]
        simp only [Width.bytes, List.length_cons]
        omega
      have never : MismatchHandled receiverType sender.bigEndianFormat
          (first :: second :: rest) = False := by
        simp only [MismatchHandled, senderCopies, ne_eq, not_true, false_and]
      rw [never]
      exact .of_advances advances (by rw [octets]; omega) fun word _ => fit word

theorem deserializeN_settlesIff
    {each : Word receiverType.size → Nat → DProc P (Word receiverType.size)}
    (eachReads : ∀ target address,
      each target address = deserializeArithmetic ctx receiverType)
    (sent : List (Word senderType.size)) {room : Nat}
    (targets : List (Word receiverType.size))
    (lengths : targets.length = sent.length) (enough : sent.length ≤ room)
    (address : Nat) :
    SettlesIff ctx.data.platform
      (deserializeN ctx (.scalar receiverType) each targets room address :
        DProc P (List (Word receiverType.size)))
      (wireN sender (.scalar senderType : Ty P)
        (wire sender (.scalar senderType)) sent)
      (∀ word ∈ sent, Representable receiverType word)
      (fun received =>
        received.map (·.toInteger receiverType.isSigned) =
          sent.map (·.toInteger receiverType.isSigned))
      (ElementsHandled receiverType sender.endiannessDifference
        sender.bigEndianFormat sent) := by
  have copies : copiesArray ctx.data (.scalar receiverType : Ty P) =
      (!sender.endiannessDifference || decide (receiverType.size = .one)) := by
    rw [exchange.same.copiesArray, copiesArray_scalar]
  have inhabited : ¬(Ty.scalar receiverType : Ty P).emptyType = true := by
    simp [Ty.emptyType, Ty.tags, Tags.none]
  have copied (receiverCopies :
        copiesArray ctx.data (.scalar receiverType : Ty P)) :=
    deserializeArrayCopy_resizes ctx receiverType exchange.receiverDeclared
      exchange.receiverWrites receiverCopies sent targets lengths enough
  have looped := deserializeElements_resizes ctx receiverType eachReads
    exchange.receiverWrites sent address
  rw [exchange.same.bigEndianFormat] at looped copied
  have apart : (sender.endiannessDifference = true ∧
        ¬(senderType.size = .one ↔ receiverType.size = .one)) ↔
      (!sender.endiannessDifference || decide (senderType.size = .one)) ≠
        (!sender.endiannessDifference || decide (receiverType.size = .one)) := by
    cases sender.endiannessDifference <;> simp [decide_eq_decide]
  rw [exchange.wireN_scalar, deserializeN, if_neg inhabited, copies, lengths,
    withinRoom_of_le enough, ElementsHandled, if_congr apart rfl rfl]
  cases senderCopies :
      !sender.endiannessDifference || decide (senderType.size = .one) <;>
    cases receiverCopies :
      !sender.endiannessDifference || decide (receiverType.size = .one)
  · exact looped.settlesIff
  · have senderLoops : senderType.size ≠ .one := by
      intro single
      simp [single] at senderCopies
    exact deserializeArrayCopy_settlesIff ctx exchange senderLoops
      (copies.trans receiverCopies) sent targets lengths enough
  · have single : senderType.size = .one := by
      cases declared : sender.endiannessDifference <;>
        simp_all
    exact deserializeElements_settlesIff ctx exchange single eachReads sent
      address
  · exact (copied (copies.trans receiverCopies)).settlesIff

end Elements

section Uses

variable {sender : Context.Data} (ctx : DContext Empty)
  {senderType receiverType : ScalarType}
  (exchange : Exchange sender ctx.data senderType receiverType)
  (grants : HeapGrants ctx) (pointeeType : Empty → Ty Empty)
  (handlers : DHandlers Empty)

theorem deserialize_scalar (type : ScalarType)
    (target : (Ty.scalar type : Ty Empty).Obj) (address : Nat) :
    deserialize ctx pointeeType handlers (.scalar type) target address =
      deserializeArithmetic ctx type := by
  simp only [deserialize]

include exchange

theorem field_settlesIff (sent : Word senderType.size)
    (target : Word receiverType.size) (address : Nat) :
    SettlesIff ctx.data.platform
      (deserialize ctx pointeeType handlers (.scalar receiverType) target
        address : DProc Empty (Word receiverType.size))
      (wire sender (.scalar senderType : Ty Empty) sent)
      (∀ word ∈ [sent], Representable receiverType word)
      (fun received =>
        [received].map (·.toInteger receiverType.isSigned) =
          [sent].map (·.toInteger receiverType.isSigned))
      (SignsHandled receiverType [sent]) := by
  have resizes := deserializeArithmetic_resizes ctx receiverType
    exchange.receiverWrites sent
  rw [exchange.same.bigEndianFormat] at resizes
  simp only [deserialize_scalar, wire, sizeOctets, if_pos exchange.senderWrites]
  exact resizes.settlesIff

theorem array_settlesIff {length : Nat}
    (sent : Fin length → Word senderType.size)
    (target : Fin length → Word receiverType.size) (address : Nat) :
    SettlesIff ctx.data.platform
      (deserialize ctx pointeeType handlers (.array (.scalar receiverType) length)
        target address : DProc Empty (Fin length → Word receiverType.size))
      (wire sender (.array (.scalar senderType) length : Ty Empty) sent)
      (∀ word ∈ List.ofFn sent, Representable receiverType word)
      (fun received =>
        (List.ofFn received).map (·.toInteger receiverType.isSigned) =
          (List.ofFn sent).map (·.toInteger receiverType.isSigned))
      (ElementsHandled receiverType sender.endiannessDifference
        sender.bigEndianFormat (List.ofFn sent)) := by
  simp only [deserialize, wire]
  refine SettlesIff.map
    (deserializeN_settlesIff ctx exchange (deserialize_scalar ctx pointeeType handlers _)
      (List.ofFn sent) (List.ofFn target) (by simp) (by simp) address)
    fun before objects after ran => ?_
  have count := deserializeN_length ctx ran
  rw [List.length_ofFn] at count
  rw [ofFn_getD objects target count]

include grants

theorem vectorT_settlesIff (senderSize receiverSize : Nat)
    (sent : Storage × List (Word senderType.size))
    (target : Storage × List (Word receiverType.size)) (address : Nat)
    (fit : ElementsFit ctx.data.platform (.scalar receiverType : Ty Empty)
      sent.2.length)
    (short : sender.bitness32 → sent.2.length < 2 ^ 32) :
    SettlesIff ctx.data.platform
      (deserialize ctx pointeeType handlers
        (.container .vectorT receiverSize (.scalar receiverType)) target
        address : DProc Empty (Storage × List (Word receiverType.size)))
      (wire sender
        (.container .vectorT senderSize (.scalar senderType) : Ty Empty) sent)
      (∀ word ∈ sent.2, Representable receiverType word)
      (fun received =>
        received.2.map (·.toInteger receiverType.isSigned) =
          sent.2.map (·.toInteger receiverType.isSigned))
      (ElementsHandled receiverType sender.endiannessDifference
        sender.bigEndianFormat sent.2) := by
  have sized : sizeTOctets sender sent.2.length =
      sizeTOctets ctx.data sent.2.length := by
    simp only [sizeTOctets, exchange.same.bitness32,
      exchange.same.bigEndianFormat]
  simp only [deserialize, deserializeTemplate, wire, wireTemplate]
  rw [sized]
  refine .bind_first (deserializeSizeT_reads ctx sent.2.length fit.1
    (by rwa [exchange.same.bitness32])) fun size equality => ?_
  subst equality
  rw [← List.nil_append (wireN sender _ _ _)]
  refine .bind_first (reserve_reads ctx grants _ target.1 _ fit)
    fun reserved enough => ?_
  exact SettlesIff.map
    (deserializeN_settlesIff ctx exchange (deserialize_scalar ctx pointeeType handlers _) sent.2
      (List.replicate _ _) (by simp) enough _)
    fun _ _ _ _ => Iff.rfl

end Uses

theorem integers_appends (ctx : SContext) (handlers : SHandlers Empty)
    {type : ScalarType} {sizeOfVectorT : Nat} (use : IntegerUse)
    (sent : (use.ty type sizeOfVectorT).Obj)
    (fit : ElementsFit ctx.data.platform (.scalar type : Ty Empty)
      (use.words sent).length) (address : Nat) :
    Appends (serialize ctx handlers (use.ty type sizeOfVectorT) sent address)
      (wire ctx.data (use.ty type sizeOfVectorT) sent)
      (fun _ => use = .vectorT → ctx.data.bitness32 →
        (use.words sent).length < 2 ^ 32) := by
  have each (word : Word type.size) (address : Nat) :
      Appends (serialize ctx handlers (.scalar type) word address)
        (wire ctx.data (.scalar type : Ty Empty) word) (fun _ => True) := by
    simp only [serialize, wire]
    exact serializeArithmetic_appends ctx type word
  cases use with
  | field => exact (each sent address).weaken fun _ _ => nofun
  | array length =>
      simp only [serialize, wire]
      exact (serializeN_appends ctx (.scalar type) _ (fun word _ => each word)
        address).weaken fun _ _ => nofun
  | vectorT =>
      simp only [serialize, wire]
      exact (serializeTemplate_appends ctx .vectorT (.scalar type) sent fit.1
        (fun word _ => each word)).weaken fun _ sized _ => sized.1

/-- Integers of any size: the receiver gets the numbers that were sent, or an
overflow error when one of them is no value of its type, exactly when the signs
and the paths of both parties are such that this is handled. -/
theorem deserialize_settled_iff (use : IntegerUse)
    (senderType receiverType : ScalarType) (senderSize receiverSize : Nat)
    (sctx : SContext) (dctx headerContext : DContext Empty)
    {headerBefore headerAfter : SState}
    (headerSent : Common.serialize sctx headerBefore = .ok () headerAfter)
    {headerStart headerEnd : DState Empty}
    (headerReceived : Common.deserialize headerContext headerStart =
      .ok dctx.data headerEnd)
    (same : SameFormat sctx.data dctx.data)
    (sizesMayDiffer : sctx.data.sizeOfIntegersMayBeNotEqual)
    (senderVaries : sizeVaries senderType)
    (receiverVaries : sizeVaries receiverType)
    (isSigned : senderType.isSigned = receiverType.isSigned)
    (grants : HeapGrants dctx) (shandlers : SHandlers Empty)
    (dhandlers : DHandlers Empty) (pointeeType : Empty → Ty Empty)
    (sent : (use.ty senderType senderSize).Obj)
    (target : (use.ty receiverType receiverSize).Obj)
    (senderFits : ElementsFit sctx.data.platform
      (.scalar senderType : Ty Empty) (use.words sent).length)
    (receiverFits : ElementsFit dctx.data.platform
      (.scalar receiverType : Ty Empty) (use.words sent).length)
    (sourceAddress targetAddress : Nat) (before after : SState)
    (ran : serialize sctx shandlers (use.ty senderType senderSize) sent
      sourceAddress before = .ok () after) :
    ∃ octets, after.binaryData = before.binaryData ++ octets ∧
      ∀ (start : DState Empty) (suffix : List UInt8),
        start.binaryData.vector.drop start.binaryData.offset =
            octets ++ suffix →
        start.binaryData.offset ≤ start.binaryData.vector.length →
        start.binaryData.vector.length <
            2 ^ dctx.data.platform.addressBits →
        (Settled start.binaryData octets.length
            (∀ word ∈ use.words sent, Representable receiverType word)
            (fun received =>
              (use.words received).map (·.toInteger receiverType.isSigned) =
                (use.words sent).map (·.toInteger senderType.isSigned))
            (deserialize dctx pointeeType dhandlers
              (use.ty receiverType receiverSize) target targetAddress start) ↔
          Handled receiverType sctx.data.endiannessDifference
            sctx.data.bigEndianFormat use (use.words sent)) := by
  obtain ⟨appended, short⟩ := integers_appends sctx shandlers use sent senderFits
    sourceAddress before () after ran
  refine ⟨_, appended, ?_⟩
  have exchange : Exchange sctx.data dctx.data senderType receiverType :=
    { same := same
      senderDeclared := Common.endiannessIsDeclared_of_serialize headerSent
      receiverDeclared :=
        (Common.endiannessIsDeclared_of_deserialize headerReceived).1
      sizesMayDiffer := sizesMayDiffer
      senderVaries := senderVaries
      receiverVaries := receiverVaries
      isSigned := isSigned }
  rw [isSigned]
  cases use with
  | field =>
      exact field_settlesIff dctx exchange pointeeType dhandlers sent target
        targetAddress
  | array length =>
      exact array_settlesIff dctx exchange pointeeType dhandlers sent target
        targetAddress
  | vectorT =>
      exact vectorT_settlesIff dctx exchange grants pointeeType dhandlers
        senderSize receiverSize sent target targetAddress receiverFits
        (short rfl)

section Longs

private def longsContext : Context.Data where
  platform := ⟨false, false⟩
  protocolVersion := 1
  messageType := .data
  commonFlags := .ofUInt32 0
  dataFlags := .ofUInt32 2
  interfaceVersion := 1
  interfaceVersionsNotMatch := false
  isHeapUsedForTemp := true

private def longsHeader : List UInt8 := [1, 0, 1, 0, 0, 0, 0, 0]

private abbrev long (size : Width) (isConst : Bool) : ScalarType :=
  .integral .long size isConst

/-- A negative `long` of four octets arrives in one of eight. -/
theorem deserialize_settled_long :
    Settled ⟨[4, 254, 255, 255, 255], 0⟩ 5
      (∀ word ∈ [(-2 : Word .four)], Representable (long .eight false) word)
      (fun received : BitVec 64 => [received].map BitVec.toInt = [-2])
      (deserialize (.unbounded longsContext) Empty.elim .none
        (.scalar (long .eight false)) (0 : BitVec 64) 0
        (.start [4, 254, 255, 255, 255])) := by
  have headerSent : Common.serialize (.unbounded longsContext) .empty =
      .ok () ⟨longsHeader, fun _ => none⟩ := rfl
  have headerReceived :
      Common.deserialize (.unbounded longsContext : DContext Empty)
        (.start longsHeader) = .ok longsContext
          { DState.start longsHeader with
            binaryData := ⟨longsHeader, 8⟩ } := rfl
  have ran : serialize (.unbounded longsContext) .none
      (.scalar (long .four false) : Ty Empty) (-2 : BitVec 32) 0 .empty =
        .ok () ⟨[4, 254, 255, 255, 255], fun _ => none⟩ := rfl
  obtain ⟨octets, written, settles⟩ :=
    deserialize_settled_iff .field (long .four false) (long .eight false) 0 0 _
      (.unbounded longsContext) _ headerSent headerReceived ⟨rfl, rfl, rfl⟩ rfl
      rfl rfl rfl (heapGrants_unbounded _) .none .none Empty.elim
      (-2 : BitVec 32) (0 : BitVec 64) ⟨by decide, by decide⟩
      ⟨by decide, by decide⟩ 0 0 _ _ ran
  obtain rfl : [4, 254, 255, 255, 255] = octets := written
  exact (settles (.start [4, 254, 255, 255, 255]) [] rfl (by decide)
    (by decide)).mpr (.inl rfl)

/-- The negative `const long` arrives as a large positive number. -/
theorem deserialize_unsettled_const_long :
    Common.endiannessIsDeclared longsContext ∧
      serialize (.unbounded longsContext) .none
          (.scalar (long .four true) : Ty Empty) (-2 : BitVec 32) 0 .empty =
        .ok () ⟨[4, 254, 255, 255, 255], fun _ => none⟩ ∧
      ¬Settled ⟨[4, 254, 255, 255, 255], 0⟩ 5
        (∀ word ∈ [(-2 : Word .four)], Representable (long .eight true) word)
        (fun received : BitVec 64 => [received].map BitVec.toInt = [-2])
        (deserialize (.unbounded longsContext) Empty.elim .none
          (.scalar (long .eight true)) (0 : BitVec 64) 0
          (.start [4, 254, 255, 255, 255])) := by
  have ran : deserialize (.unbounded longsContext : DContext Empty) Empty.elim
      .none (.scalar (long .eight true)) (0 : BitVec 64) 0
      (.start [4, 254, 255, 255, 255]) =
        .ok (0xfffffffe : BitVec 64)
          { DState.start [4, 254, 255, 255, 255] with
            binaryData := ⟨[4, 254, 255, 255, 255], 5⟩ } := rfl
  refine ⟨rfl, rfl, ?_⟩
  rw [ran]
  rintro ⟨_, arrived, _⟩
  exact absurd arrived (by decide)

end Longs

end CommonSerialization.Csp.BodyProcessor
