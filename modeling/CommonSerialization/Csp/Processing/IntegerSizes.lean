import CommonSerialization.Common.AssumedSign
import CommonSerialization.Csp.Processing.CommonContext
import CommonSerialization.Csp.Processing.Delivery

namespace CommonSerialization.Csp.BodyProcessor

open Chunks FixedWidthInteger StateExcept

/-! Integers whose type has one size for the sender and another one for the
receiver. -/

def sizeVaries (type : ScalarType) : Bool :=
  !type.fixSizedArithmeticOrEnumType && !type.isFloatingPoint

section Specification

variable {source : Width} (type : ScalarType)

/-- The number that was sent is a value of the receiver's type. -/
def Representable (word : Word source) : Prop :=
  Fits type.size type.isSigned (word.toInteger type.isSigned)

/-- The conversion lets the number pass: it is a value of the receiver's type
under the sign that the concept `Signed` gives this type. -/
def Passes (word : Word source) : Prop :=
  Fits type.size type.signed (word.toInteger type.signed)

instance (word : Word source) : Decidable (Representable type word) := by
  unfold Representable
  infer_instance

instance (word : Word source) : Decidable (Passes type word) := by
  unfold Passes
  infer_instance

/-- The concept `Signed` is right about the type, or the numbers are such that
its mistake does not show. -/
def SignsHandled (sent : List (Word source)) : Prop :=
  type.signed = type.isSigned ∨ source = type.size ∨
    if ∀ word ∈ sent, Representable type word then
      ∀ word ∈ sent,
        InCommonRange source type.size (word.toInteger type.isSigned)
    else
      ∃ word ∈ sent, ¬Passes type word

def loopOctets (bigEndianFormat : Bool) (sent : List (Word source)) :
    List UInt8 :=
  sent.flatMap fun word =>
    formatOctets bigEndianFormat .one (sizeOctet source) ++
      formatOctets bigEndianFormat source word

/-- Values read one after another without the sizes between them. -/
def unprefixed (bigEndianFormat : Bool) (source : Width) (count : Nat)
    (octets : List UInt8) : List (Word source) :=
  (List.range count).map fun index =>
    (Platform.mk bigEndianFormat false).load source
      ((octets.drop (source.bytes * index)).take source.bytes)

/-- When only one party loops over the elements, the parties take different
octets for sizes: what is left is the single element, and the accident that a
misread number is refused in place of another one. -/
def MismatchHandled (bigEndianFormat : Bool) : List (Word source) → Prop
  | [] => False
  | [word] => SignsHandled type [word]
  | first :: second :: rest =>
      source ≠ .one ∧
        (∃ word ∈ first :: second :: rest, ¬Representable type word) ∧
        ∃ word ∈ unprefixed bigEndianFormat source (rest.length + 2)
            ((loopOctets bigEndianFormat (first :: second :: rest)).drop 1),
          ¬Passes type word

def ElementsHandled (endiannessDifference bigEndianFormat : Bool)
    (sent : List (Word source)) : Prop :=
  if endiannessDifference ∧ ¬(source = .one ↔ type.size = .one) then
    MismatchHandled type bigEndianFormat sent
  else
    SignsHandled type sent

/-- The end of a deserialization that started at a walker: the numbers arrive
and the cursor stands behind the sender's octets, or there is an overflow
error because one of them does not fit. -/
def Settled (before : Walker) (count : Nat) (fit : Prop) (arrived : α → Prop) :
    EStateM.Result Fault (DState P) α → Prop
  | .ok value after =>
      fit ∧ arrived value ∧
        after.binaryData = { before with offset := before.offset + count }
  | .error fault _ => ¬fit ∧ fault = .status .errorValueOverflow

end Specification

/-- On an input that goes on with `octets` the computation settles exactly
under the condition. -/
def SettlesIff (platform : Platform) (proc : DProc P α) (octets : List UInt8)
    (fit : Prop) (arrived : α → Prop) (condition : Prop) : Prop :=
  ∀ before rest,
    before.binaryData.vector.drop before.binaryData.offset = octets ++ rest →
    before.binaryData.offset ≤ before.binaryData.vector.length →
    before.binaryData.vector.length < 2 ^ platform.addressBits →
    (Settled before.binaryData octets.length fit arrived (proc before) ↔
      condition)

namespace SettlesIff

theorem bind_first {first : DProc P α} {next : α → DProc P β}
    (reads : Reads platform first octets middle)
    (settles : ∀ value, middle value →
      SettlesIff platform (next value) moreOctets fit arrived condition) :
    SettlesIff platform (first >>= next) (octets ++ moreOctets) fit arrived
      condition := by
  intro before rest input inside bounded
  rw [List.append_assoc] at input
  obtain ⟨value, state, ran, holds, walker⟩ :=
    reads before (moreOctets ++ rest) input inside bounded
  obtain ⟨moreInput, moreInside, moreBounded⟩ :=
    Reads.advance input bounded walker inside
  rw [bind_of_ok ran,
    ← settles value holds state rest moreInput moreInside moreBounded]
  cases next value state <;>
    simp [Settled, walker, List.length_append, Nat.add_assoc]

theorem map {proc : DProc P α} {change : α → β} {arrived : α → Prop}
    {changedArrived : β → Prop}
    (settles : SettlesIff platform proc octets fit arrived condition)
    (keeps : ∀ before value after, proc before = .ok value after →
      (changedArrived (change value) ↔ arrived value)) :
    SettlesIff platform (do let value ← proc; return change value) octets fit
      changedArrived condition := by
  intro before rest input inside bounded
  rw [← settles before rest input inside bounded]
  cases ran : proc before with
  | ok value after =>
      rw [bind_of_ok ran]
      simp only [Settled, pure_apply, keeps before value after ran]
  | error fault after =>
      rw [bind_of_error ran]
      rfl

theorem of_advances {proc : DProc P α} (advances : Advances proc count)
    (short : octets.length < count) (fits : fit) :
    SettlesIff platform proc octets fit arrived False := by
  intro before rest input inside bounded
  simp only [iff_false]
  cases ran : proc before with
  | ok value after =>
      have moved := advances before value after ran
      rintro ⟨_, _, walker⟩
      rw [walker] at moved
      simp only at moved
      omega
  | error fault after => exact fun settled => settled.1 fits

end SettlesIff

section Resized

variable {source : Width}

/-- The computation converts the values that `octets` stand for, or refuses
one of them. -/
structure Resizes (platform : Platform) (proc : DProc P α)
    (octets : List UInt8) (type : ScalarType) (sent : List (Word source))
    (view : α → List (Word type.size)) : Prop where
  reads : (∀ word ∈ sent, Passes type word) →
    Reads platform proc octets fun value =>
      List.Forall₂ (fun word result =>
          result.toInteger type.signed = word.toInteger type.signed)
        sent (view value)
  refuses : (∃ word ∈ sent, ¬Passes type word) →
    Refuses platform proc octets (.status .errorValueOverflow)

variable {type : ScalarType} {sent : List (Word source)}

theorem passes_of_same_sign (right : type.signed = type.isSigned)
    (word : Word source) : Passes type word ↔ Representable type word := by
  rw [Passes, Representable, right]

theorem passes_of_same_size {type : ScalarType} (word : Word type.size) :
    Passes type word ∧ Representable type word :=
  ⟨Word.fits _ word, Word.fits _ word⟩

/-- The conversions settle the matter exactly when the signs are handled. -/
theorem settled_iff_of_resized {view : List (Word type.size)}
    (resized : List.Forall₂ (fun word result =>
      result.toInteger type.signed = word.toInteger type.signed) sent view)
    (passed : ∀ word ∈ sent, Passes type word) :
    ((∀ word ∈ sent, Representable type word) ∧
        view.map (·.toInteger type.isSigned) =
          sent.map (·.toInteger type.isSigned)) ↔
      SignsHandled type sent := by
  by_cases right : type.signed = type.isSigned
  · have equal : view.map (·.toInteger type.isSigned) =
        sent.map (·.toInteger type.isSigned) :=
      map_eq_map_of_forall₂ resized fun _ _ same => by rwa [right] at same
    simp only [SignsHandled, right, true_or, iff_true]
    exact ⟨fun word member =>
      (passes_of_same_sign right word).mp (passed word member), equal⟩
  · by_cases size : source = type.size
    · subst size
      have equal : view = sent := by
        have pattern (word : Word type.size) :
            BitVec.ofInt _ (word.toInteger type.signed) = word :=
          Word.ofInt_toInteger _ word
        have equality : view.map id = sent.map id :=
          map_eq_map_of_forall₂ resized fun word result same => by
            rw [id, id, ← pattern result, same, pattern word]
        simpa using equality
      simp only [SignsHandled, true_or, or_true, iff_true]
      exact ⟨fun word _ => (passes_of_same_size word).2, by rw [equal]⟩
    · have elementwise :
          view.map (·.toInteger type.isSigned) =
              sent.map (·.toInteger type.isSigned) ↔
            ∀ word ∈ sent,
              InCommonRange source type.size (word.toInteger type.isSigned) := by
        clear passed
        induction resized with
        | nil => simp
        | cons same _ induction =>
            simp [toInteger_eq_iff right size same, induction]
      have noRefusal : ¬∃ word ∈ sent, ¬Passes type word := by
        simpa using passed
      simp only [SignsHandled, right, size, false_or, elementwise]
      split
      · rename_i fit
        exact ⟨And.right, fun small => ⟨fit, small⟩⟩
      · rename_i unfit
        simp [unfit, noRefusal]

theorem signsHandled_of_refused (refused : ∃ word ∈ sent, ¬Passes type word) :
    ¬(∀ word ∈ sent, Representable type word) ↔ SignsHandled type sent := by
  obtain ⟨word, member, exceeds⟩ := refused
  by_cases right : type.signed = type.isSigned
  · simp only [SignsHandled, right, true_or, iff_true]
    intro fit
    exact exceeds ((passes_of_same_sign right word).mpr (fit word member))
  · by_cases size : source = type.size
    · subst size
      exact absurd (passes_of_same_size word).1 exceeds
    · simp only [SignsHandled, right, size, false_or]
      split
      · rename_i fit
        refine iff_of_false (not_not_intro fit) fun small => ?_
        apply exceeds
        have inRange := small word member
        rw [Passes, toInteger_of_inCommonRange type.signed inRange]
        exact fits_of_inCommonRange inRange
      · rename_i unfit
        exact iff_of_true unfit ⟨word, member, exceeds⟩

theorem Resizes.settlesIff {proc : DProc P α} {view : α → List (Word type.size)}
    (resizes : Resizes platform proc octets type sent view) :
    SettlesIff platform proc octets (∀ word ∈ sent, Representable type word)
      (fun value => (view value).map (·.toInteger type.isSigned) =
        sent.map (·.toInteger type.isSigned))
      (SignsHandled type sent) := by
  intro before rest input inside bounded
  by_cases passed : ∀ word ∈ sent, Passes type word
  · obtain ⟨value, after, ran, resized, walker⟩ :=
      resizes.reads passed before rest input inside bounded
    rw [ran, ← settled_iff_of_resized resized passed]
    simp [Settled, walker]
  · have refused : ∃ word ∈ sent, ¬Passes type word := by simpa using passed
    obtain ⟨after, ran⟩ :=
      resizes.refuses refused before rest input inside bounded
    rw [ran, ← signsHandled_of_refused refused]
    simp [Settled]

/-- A reader that stops before the end of what was sent is right only when it
refuses something. -/
theorem Resizes.settlesIff_of_short {proc : DProc P α}
    {view : α → List (Word type.size)}
    (resizes : Resizes platform proc octets type sent view)
    (more : moreOctets ≠ []) (fit : Prop) (arrived : α → Prop) :
    SettlesIff platform proc (octets ++ moreOctets) fit arrived
      (¬fit ∧ ∃ word ∈ sent, ¬Passes type word) := by
  intro before rest input inside bounded
  by_cases passed : ∀ word ∈ sent, Passes type word
  · rw [List.append_assoc] at input
    obtain ⟨value, after, ran, _, walker⟩ :=
      resizes.reads passed before _ input inside bounded
    have stopped : ¬∃ word ∈ sent, ¬Passes type word := by simpa using passed
    have left := List.length_pos_iff.mpr more
    simp only [ran, Settled, walker, stopped, and_false, iff_false]
    rintro ⟨_, _, equality⟩
    have offsets := congrArg Walker.offset equality
    simp only [List.length_append] at offsets
    omega
  · have refused : ∃ word ∈ sent, ¬Passes type word := by simpa using passed
    obtain ⟨after, ran⟩ :=
      (resizes.refuses refused).extend moreOctets before rest input inside
        bounded
    rw [ran]
    simp [Settled, refused]

namespace Resizes

theorem bind_first {first : DProc P α} {next : α → DProc P β}
    {view : β → List (Word type.size)}
    (reads : Reads platform first octets middle)
    (resizes : ∀ value, middle value →
      Resizes platform (next value) moreOctets type sent view) :
    Resizes platform (first >>= next) (octets ++ moreOctets) type sent view where
  reads passed := reads.bind fun value holds => (resizes value holds).reads passed
  refuses refused :=
    .bind_next reads fun value holds => (resizes value holds).refuses refused

theorem nil : Resizes platform (return [] : DProc P (List (Word type.size)))
    [] type ([] : List (Word source)) id where
  reads _ := .pure .nil
  refuses refused := by simp at refused

theorem cons {head : DProc P (Word type.size)}
    {tail : DProc P (List (Word type.size))} {word : Word source}
    {rest : List (Word source)}
    (headResizes : Resizes platform head octets type [word] fun result => [result])
    (tailResizes : Resizes platform tail moreOctets type rest id) :
    Resizes platform
      (do
        let result ← head
        let results ← tail
        return result :: results)
      (octets ++ moreOctets) type (word :: rest) id where
  reads passed := by
    simp only [List.forall_mem_cons] at passed
    refine (headResizes.reads (by simpa using passed.1)).bind
      fun result same => ?_
    rw [← List.append_nil moreOctets]
    refine (tailResizes.reads passed.2).bind fun results others => ?_
    cases same with
    | cons equal _ => exact .pure (.cons equal others)
  refuses refused := by
    by_cases passed : Passes type word
    · have others : ∃ other ∈ rest, ¬Passes type other := by
        simpa [passed] using refused
      refine .bind_next (headResizes.reads (by simpa using passed))
        fun result _ => ?_
      exact (tailResizes.refuses others).bind_first _
    · exact ((headResizes.refuses (by simpa using passed)).extend _).bind_first _

end Resizes

end Resized

section Deserialize

variable (ctx : DContext P) {source : Width} (type : ScalarType)

theorem deserializeFromAnotherSize_resizes (word : Word source) :
    Resizes ctx.data.platform
      (deserializeFromAnotherSize ctx source.bytes type)
      (formatOctets ctx.data.bigEndianFormat source word) type [word]
      (fun result => [result]) where
  reads passed :=
    (deserializeFromAnotherSize_reads ctx source type word
      (passed word (by simp))).weaken fun _ same => .cons same .nil
  refuses refused := by
    have exceeds : ¬Passes type word := by simpa using refused
    simp only [deserializeFromAnotherSize, Width.ofBytes_bytes]
    split
    · rename_i equality
      subst equality
      exact absurd (passes_of_same_size word).1 exceeds
    · rw [← List.append_nil (formatOctets _ _ _)]
      refine .bind_next (readOriginalValue_reads ctx source word)
        fun result same => ?_
      subst same
      split
      · rw [castToSmallerType_of_not_fits exceeds]
        exact .fail _
      · rename_i narrower
        exact absurd (fits_of_le (Word.fits _ result) (by omega)) exceeds

theorem deserializeEachFromAnotherSize_resizes (sent : List (Word source)) :
    Resizes ctx.data.platform
      (deserializeEachFromAnotherSize ctx source.bytes type sent.length)
      (sent.flatMap (formatOctets ctx.data.bigEndianFormat source)) type sent
      id := by
  induction sent with
  | nil => exact .nil
  | cons word rest induction =>
      exact .cons (deserializeFromAnotherSize_resizes ctx type word) induction

theorem deserializeArithmetic_resizes
    (varies : writesSize ctx.data type) (word : Word source) :
    Resizes ctx.data.platform (deserializeArithmetic ctx type)
      (formatOctets ctx.data.bigEndianFormat .one (sizeOctet source) ++
        formatOctets ctx.data.bigEndianFormat source word)
      type [word] (fun result => [result]) := by
  rw [deserializeArithmetic, if_pos varies]
  refine .bind_first (readPrimitive_reads ctx .one _) fun result equality => ?_
  rw [equality, toNat_sizeOctet]
  exact deserializeFromAnotherSize_resizes ctx type word

theorem deserializeElements_resizes {each : Word type.size → Nat →
      DProc P (Word type.size)}
    (eachReads : ∀ target address,
      each target address = deserializeArithmetic ctx type)
    (varies : writesSize ctx.data type) (sent : List (Word source))
    (address : Nat) :
    Resizes ctx.data.platform
      (deserializeElements ctx (.scalar type) each sent.length address)
      (loopOctets ctx.data.bigEndianFormat sent) type sent id := by
  induction sent generalizing address with
  | nil => exact .nil
  | cons word rest induction =>
      simp only [List.length_cons, deserializeElements, eachReads]
      rw [← List.nil_append (loopOctets _ _)]
      refine .bind_first (registerObject_reads ctx _ address) fun _ _ => ?_
      exact .cons (deserializeArithmetic_resizes ctx type varies word)
        (induction _)

theorem copiesArray_scalar (data : Context.Data) :
    copiesArray data (.scalar type : Ty P) =
      (!data.endiannessDifference || decide (type.size = .one)) := by
  have single : (type.size.bytes == 1) = decide (type.size = .one) := by
    cases type.size <;> rfl
  simp [copiesArray, Ty.endiannessTolerant, Ty.tags, Tags.none,
    Ty.isArithmeticOrEnum, Ty.sizeof, single]

/-- Raw numbers are copied only when the format has the platform's order. -/
theorem store_eq_of_copies {data : Context.Data}
    (declared : Common.endiannessIsDeclared data)
    (copies : copiesArray data (.scalar type : Ty P)) (value : Word type.size) :
    data.platform.store type.size value =
      formatOctets data.bigEndianFormat type.size value := by
  rw [store_eq_formatOctets]
  rw [copiesArray_scalar] at copies
  by_cases single : type.size = .one
  · apply formatOctets_of_not_reversable
    rw [single]
    rfl
  · have order : data.bigEndianFormat = data.platform.isBigEndianPlatform := by
      have undeclared : data.endiannessDifference = false := by
        simpa [single] using copies
      simpa [Common.endiannessIsDeclared, undeclared,
        Context.Data.endiannessNotMatch] using declared
    rw [order]

theorem readRawData_resizes (declared : Common.endiannessIsDeclared ctx.data)
    (copies : copiesArray ctx.data (.scalar type : Ty P))
    (sent targets : List (Word type.size))
    (lengths : targets.length = sent.length) :
    Resizes ctx.data.platform
      (readRawData ctx (.scalar type) targets :
        DProc P (List (Word type.size)))
      (sent.flatMap (formatOctets ctx.data.bigEndianFormat type.size)) type sent
      id where
  reads _ := by
    have stored := store_eq_of_copies type declared copies
    have images : sent.flatMap
          (formatOctets ctx.data.bigEndianFormat type.size) =
        sent.flatMap ((Ty.scalar type : Ty P).image ctx.data.platform) :=
      List.flatMap_congr fun word _ => (stored word).symm
    rw [images]
    refine (readRawData_reads_copied ctx (.scalar type) rfl ctx.data sent targets
      lengths).weaken fun received copied => copied.imp fun word result same => ?_
    have equal : formatOctets ctx.data.platform.isBigEndianPlatform _ result =
        formatOctets _ _ word := same
    rw [formatOctets_injective equal]
  refuses refused := by
    obtain ⟨word, _, exceeds⟩ := refused
    exact absurd (passes_of_same_size word).1 exceeds

theorem deserializeArrayCopy_resizes
    (declared : Common.endiannessIsDeclared ctx.data)
    (varies : writesSize ctx.data type)
    (copies : copiesArray ctx.data (.scalar type : Ty P)) {room : Nat}
    (sent : List (Word source)) (targets : List (Word type.size))
    (lengths : targets.length = sent.length) (enough : sent.length ≤ room) :
    Resizes ctx.data.platform
      (deserializeArrayCopy ctx room (.scalar type) targets :
        DProc P (List (Word type.size)))
      (formatOctets ctx.data.bigEndianFormat .one (sizeOctet source) ++
        sent.flatMap (formatOctets ctx.data.bigEndianFormat source))
      type sent id := by
  rw [deserializeArrayCopy, if_pos varies]
  refine .bind_first (readPrimitive_reads ctx .one _) fun result equality => ?_
  subst equality
  by_cases resized : source = type.size
  · subst resized
    rw [if_neg (by simp)]
    exact readRawData_resizes ctx type declared copies sent targets lengths
  · have differ : sizeOctet source ≠ sizeOctet type.size := by
      intro equality
      have bytes := congrArg BitVec.toNat equality
      simp only [toNat_sizeOctet] at bytes
      exact resized (Width.bytes_injective bytes)
    rw [if_pos differ, toNat_sizeOctet, lengths, withinRoom_of_le enough]
    exact deserializeEachFromAnotherSize_resizes ctx type sent

section Advances

omit type in
theorem readPrimitive_advances (size : Width) :
    Advances (readPrimitive ctx size) size.bytes := by
  intro before value after ran
  obtain ⟨loaded, middle, loadedRan, returned⟩ := bind_eq_ok ran
  have unchanged : after = middle := by
    split at returned <;> cases returned <;> rfl
  subst unchanged
  simp only [readArithmeticValue, bind, EStateM.bind, get_apply] at loadedRan
  split at loadedRan
  · cases loadedRan
    exact Nat.le_refl _
  · cases loadedRan

omit type in
theorem readRawData_advances (type : Ty P) (targets : List type.Obj) :
    Advances (readRawData ctx type targets) 0 := by
  have copied (n : Nat) : Advances (read ctx n) 0 := by
    intro before value after ran
    simp only [read, bind, EStateM.bind, get_apply] at ran
    split at ran
    · cases ran
    · split at ran
      · cases ran
      · cases ran
        exact Nat.le_add_right _ _
  unfold readRawData
  split
  · refine ((copied _).bind fun octets => (?_ : Advances _ 0)).weaken
      (Nat.zero_le _)
    split
    · exact .pure _
    · exact .fail _ _
  · exact .throw _ _

theorem deserializeFromAnotherSize_advances (originalTypeSize : Nat) :
    Advances (deserializeFromAnotherSize ctx originalTypeSize type) 1 := by
  unfold deserializeFromAnotherSize
  split
  · exact .fail _ _
  · rename_i original _
    split
    · exact (readPrimitive_advances ctx _).weaken type.size.bytes_pos
    · have original_advances : Advances (readOriginalValue ctx original) 1 := by
        intro before value after ran
        unfold readOriginalValue at ran
        split at ran
        · cases ran
        · have moved := readPrimitive_advances ctx original _ _ _ ran
          have := original.bytes_pos
          omega
      refine original_advances.bind fun value => (?_ : Advances _ 0)
      split
      · split
        · exact .pure _
        · exact .fail _ _
      · exact .pure _

theorem deserializeArithmetic_advances (varies : writesSize ctx.data type) :
    Advances (deserializeArithmetic ctx type) 2 := by
  rw [deserializeArithmetic, if_pos varies]
  exact (readPrimitive_advances ctx .one).bind fun _ =>
    deserializeFromAnotherSize_advances ctx type _

theorem deserializeElements_advances {each : Word type.size → Nat →
      DProc P (Word type.size)}
    (eachReads : ∀ target address,
      each target address = deserializeArithmetic ctx type)
    (varies : writesSize ctx.data type) (count address : Nat) :
    Advances (deserializeElements ctx (.scalar type) each count address)
      (2 * count) := by
  induction count generalizing address with
  | zero => exact .pure _
  | succ count induction =>
      simp only [deserializeElements, eachReads]
      have registered : Advances
          (registerObject ctx (.scalar type : Ty P) address) 0 :=
        .modify _ fun _ => rfl
      refine (registered.bind fun _ =>
        (deserializeArithmetic_advances ctx type varies).bind fun _ =>
          (induction _).bind fun _ => .pure _).weaken ?_
      omega

theorem deserializeEachFromAnotherSize_advances (originalTypeSize count : Nat) :
    Advances (deserializeEachFromAnotherSize ctx originalTypeSize type count)
      0 := by
  induction count with
  | zero => exact .pure _
  | succ count induction =>
      refine ((deserializeFromAnotherSize_advances ctx type _).bind fun _ =>
        induction.bind fun _ => .pure _).weaken ?_
      omega

theorem deserializeArrayCopy_advances (varies : writesSize ctx.data type)
    (room : Nat) (targets : List (Word type.size)) :
    Advances (deserializeArrayCopy ctx room (.scalar type) targets :
      DProc P (List (Word type.size))) 1 := by
  rw [deserializeArrayCopy, if_pos varies]
  refine (readPrimitive_advances ctx .one).bind fun _ => (?_ : Advances _ 0)
  split
  · refine ((deserializeEachFromAnotherSize_advances ctx type _ _).bind
      fun _ => (?_ : Advances _ 0)).weaken (Nat.zero_le _)
    split
    · exact .throw _ _
    · exact .pure _
  · exact readRawData_advances ctx _ _

end Advances

end Deserialize

end CommonSerialization.Csp.BodyProcessor
