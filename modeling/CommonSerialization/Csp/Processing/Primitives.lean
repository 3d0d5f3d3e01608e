import CommonSerialization.Csp.Processing.BodyProcessor
import CommonSerialization.Csp.Processing.Streams

namespace CommonSerialization.Csp

open ByteOrder StateExcept

/-! Primitive values and raw data in the message. -/

/-- A value in a message of the given byte order. -/
def formatOctets (bigEndianFormat : Bool) (size : Width) (value : Word size) :
    List UInt8 :=
  (Platform.mk bigEndianFormat false).store size value

@[simp] theorem length_formatOctets (bigEndianFormat : Bool) (size : Width)
    (value : Word size) :
    (formatOctets bigEndianFormat size value).length = size.bytes := by
  simp [formatOctets]

theorem store_eq_formatOctets (platform : Platform) (size : Width)
    (value : Word size) :
    platform.store size value =
      formatOctets platform.isBigEndianPlatform size value := rfl

/-- Values of one octet look alike in both byte orders. -/
theorem formatOctets_of_not_reversable {size : Width}
    (single : size.endiannessReversable = false) (first second : Bool)
    (value : Word size) :
    formatOctets first size value = formatOctets second size value := by
  cases size with
  | one =>
      cases first <;> cases second <;>
        simp [formatOctets, Platform.store, Width.bytes, toOctets]
  | two | four | eight => simp [Width.endiannessReversable, Width.bytes] at single

theorem formatOctets_not (bigEndianFormat : Bool) (size : Width)
    (value : Word size) :
    formatOctets (!bigEndianFormat) size value =
      (formatOctets bigEndianFormat size value).reverse := by
  cases bigEndianFormat <;> simp [formatOctets, Platform.store]

theorem formatOctets_reverseEndianess (bigEndianFormat : Bool) (size : Width)
    (value : Word size) :
    formatOctets bigEndianFormat size (reverseEndianess size value) =
      formatOctets (!bigEndianFormat) size value := by
  rw [formatOctets_not]
  exact Platform.store_reverseEndianess _ _ _

theorem formatOctets_injective {bigEndianFormat : Bool} {size : Width}
    {first second : Word size}
    (equality : formatOctets bigEndianFormat size first =
      formatOctets bigEndianFormat size second) : first = second := by
  have loaded := congrArg ((Platform.mk bigEndianFormat false).load size) equality
  simpa only [formatOctets, Platform.load_store] using loaded

section Serialize

variable (ctx : SContext)

theorem addSpaceIfNeed_appends (n : Nat) :
    Appends (addSpaceIfNeed ctx n) [] (fun _ => True) := by
  intro before value after ran
  simp only [addSpaceIfNeed, bind, EStateM.bind, get_apply] at ran
  split at ran
  · cases ran
  · split at ran
    · cases ran
      exact ⟨(List.append_nil _).symm, trivial⟩
    · cases ran

theorem pushBackN_appends (octets : List UInt8) :
    Appends (pushBackN ctx octets) octets (fun _ => True) := by
  intro before value after ran
  obtain ⟨_, middle, spaced, pushed⟩ := bind_eq_ok ran
  obtain ⟨unchanged, _⟩ := addSpaceIfNeed_appends ctx _ _ _ _ spaced
  cases pushed
  simp [unchanged]

theorem writePrimitive_eq (size : Width) (value : Word size) :
    writePrimitive ctx size value =
      pushBackN ctx (formatOctets ctx.data.bigEndianFormat size value) := by
  unfold writePrimitive pushBackArithmeticValue
  simp only [store_eq_formatOctets]
  split
  · rename_i reversed
    rw [Bool.and_eq_true] at reversed
    have differs := reversed.2
    rw [formatOctets_reverseEndianess]
    have order : (!ctx.data.platform.isBigEndianPlatform) =
        ctx.data.bigEndianFormat := by
      simp only [Context.Data.endiannessNotMatch] at differs
      cases big : ctx.data.bigEndianFormat <;>
        cases native : ctx.data.platform.isBigEndianPlatform <;>
        simp_all
    rw [order]
  · rename_i direct
    have same : formatOctets ctx.data.platform.isBigEndianPlatform size value =
        formatOctets ctx.data.bigEndianFormat size value := by
      by_cases single : size.endiannessReversable = false
      · exact formatOctets_of_not_reversable single _ _ _
      · have matching : ctx.data.bigEndianFormat =
            ctx.data.platform.isBigEndianPlatform := by
          simpa [Context.Data.endiannessNotMatch, single] using direct
        rw [matching]
    rw [same]

theorem writePrimitive_appends (size : Width) (value : Word size) :
    Appends (writePrimitive ctx size value)
      (formatOctets ctx.data.bigEndianFormat size value) (fun _ => True) := by
  rw [writePrimitive_eq]
  exact pushBackN_appends ctx _

/-- The output vector always gets more room. -/
def Unbounded : Prop := ∀ size n, ctx.grants size n = true

theorem pushBackN_writes (unbounded : Unbounded ctx) (octets : List UInt8) :
    Writes ctx.data.platform (pushBackN ctx octets) octets (fun _ => True) := by
  intro before room
  have spaced : addSpaceIfNeed ctx octets.length before = .ok () before := by
    have exact : wrap ctx.data.platform
        (before.binaryData.length + octets.length) =
          before.binaryData.length + octets.length := Nat.mod_eq_of_lt room
    simp only [addSpaceIfNeed, bind, EStateM.bind, get_apply, exact]
    rw [if_neg (by omega), if_pos (.inr (unbounded _ _))]
    rfl
  refine ⟨(), { before with binaryData := before.binaryData ++ octets }, ?_,
    trivial, rfl⟩
  rw [pushBackN, bind_of_ok spaced, modify_apply]

theorem writePrimitive_writes (unbounded : Unbounded ctx) (size : Width)
    (value : Word size) :
    Writes ctx.data.platform (writePrimitive ctx size value)
      (formatOctets ctx.data.bigEndianFormat size value) (fun _ => True) := by
  rw [writePrimitive_eq]
  exact pushBackN_writes ctx unbounded _

theorem writeRawData_appends (type : Ty P) (objects : List type.Obj) :
    Appends (writeRawData ctx type objects)
      (objects.flatMap (type.image ctx.data.platform))
      (fun _ => type.plain) := by
  intro before value after ran
  unfold writeRawData at ran
  split at ran
  · rename_i plain
    exact ⟨(pushBackN_appends ctx _ _ _ _ ran).1, plain⟩
  · cases ran

end Serialize

section Deserialize

variable (ctx : DContext P)

theorem readArithmeticValue_reads (size : Width) (value : Word size) :
    Reads ctx.data.platform (readArithmeticValue ctx size)
      (ctx.data.platform.store size value) (fun result => result = value) := by
  intro before rest input inside _
  have length := congrArg List.length input
  simp only [List.length_drop, List.length_append, Platform.length_store]
    at length
  have room : size.bytes + before.binaryData.offset ≤
      before.binaryData.vector.length := by omega
  refine ⟨value, { before with binaryData := _ }, ?_, rfl, rfl⟩
  simp only [readArithmeticValue, bind, EStateM.bind, get_apply, if_pos room]
  have slice :
      ((before.binaryData.vector.drop before.binaryData.offset).take size.bytes) =
        ctx.data.platform.store size value := by
    rw [input, List.take_left' (by simp)]
  simp only [slice, Platform.load_store, modify_apply, pure_apply,
    Platform.length_store]

theorem readPrimitive_reads (size : Width) (value : Word size) :
    Reads ctx.data.platform (readPrimitive ctx size)
      (formatOctets ctx.data.bigEndianFormat size value)
      (fun result => result = value) := by
  unfold readPrimitive
  by_cases reversed :
      (size.endiannessReversable && ctx.data.endiannessNotMatch) = true
  · have differs := (Bool.and_eq_true_iff.mp reversed).2
    have order : (!ctx.data.platform.isBigEndianPlatform) =
        ctx.data.bigEndianFormat := by
      simp only [Context.Data.endiannessNotMatch] at differs
      cases big : ctx.data.bigEndianFormat <;>
        cases native : ctx.data.platform.isBigEndianPlatform <;>
        simp_all
    rw [← order, ← formatOctets_reverseEndianess, ← store_eq_formatOctets,
      ← List.append_nil (Platform.store _ _ _)]
    refine (readArithmeticValue_reads ctx size _).bind fun result equality => ?_
    rw [if_pos reversed, equality, Platform.reverseEndianess_involutive]
    exact .pure rfl
  · have same : formatOctets ctx.data.bigEndianFormat size value =
        ctx.data.platform.store size value := by
      rw [store_eq_formatOctets]
      by_cases single : size.endiannessReversable = false
      · exact formatOctets_of_not_reversable single _ _ _
      · have matching : ctx.data.bigEndianFormat =
            ctx.data.platform.isBigEndianPlatform := by
          simpa [Context.Data.endiannessNotMatch, single] using reversed
        rw [matching]
    rw [same, ← List.append_nil (Platform.store _ _ _)]
    refine (readArithmeticValue_reads ctx size _).bind fun result equality => ?_
    rw [if_neg reversed]
    exact .pure equality

theorem read_reads (octets : List UInt8) :
    Reads ctx.data.platform (read ctx octets.length) octets
      (fun result => result = octets) := by
  intro before rest input inside bounded
  have length := congrArg List.length input
  simp only [List.length_drop, List.length_append] at length
  have real : nReal ctx before.binaryData octets.length = octets.length := by
    have unwrapped :
        wrap ctx.data.platform (before.binaryData.offset + octets.length) =
          before.binaryData.offset + octets.length :=
      Nat.mod_eq_of_lt (by omega)
    rw [nReal, unwrapped, if_neg (by omega)]
  refine ⟨octets, { before with binaryData := _ }, ?_, rfl, rfl⟩
  have valid : ¬(before.binaryData.vector.length < before.binaryData.offset ∨
      before.binaryData.offset = before.binaryData.vector.length ∧
        octets.length ≠ 0) := by omega
  have within : ¬before.binaryData.vector.length <
      before.binaryData.offset + octets.length := by omega
  simp only [read, bind, EStateM.bind, get_apply, real, if_neg valid,
    if_neg within, modify_apply, pure_apply, input, List.take_left']

theorem readArithmeticValue_takes (size : Width) :
    Takes (readArithmeticValue ctx size) size.bytes := by
  intro before _
  simp only [readArithmeticValue, bind, EStateM.bind, get_apply]
  split
  · exact .inl ⟨_, rfl, by omega⟩
  · exact .inr ⟨_, _, rfl⟩

theorem readPrimitive_takes (size : Width) :
    Takes (readPrimitive ctx size) size.bytes := by
  rw [readPrimitive, ← Nat.add_zero size.bytes]
  refine (readArithmeticValue_takes ctx size).bind fun value => ?_
  split <;> exact .pure _

theorem readPrimitive_consumes (size : Width) :
    Consumes (readPrimitive ctx size) size.bytes :=
  (readPrimitive_takes ctx size).consumes

theorem readPrimitive_onlyReads (size : Width) : OnlyReads (readPrimitive ctx size) := by
  refine OnlyReads.bind ?_ fun value => ?_
  · intro before value after ran
    simp only [readArithmeticValue, bind, EStateM.bind, get_apply] at ran
    split at ran
    · cases ran
      rfl
    · cases ran
  · split <;> exact .pure _

theorem readPrimitive_starves (size : Width) :
    Starves ctx.data.platform (readPrimitive ctx size) [] := by
  have value : Starves ctx.data.platform (readArithmeticValue ctx size) [] := by
    intro before input _ _
    have ended := List.drop_eq_nil_iff.mp input
    have positive := size.bytes_pos
    refine ⟨.status .errorOverflow, before, ?_⟩
    unfold readArithmeticValue
    rw [bind_of_ok (get_apply before), if_neg (by omega)]
    rfl
  exact value.bind_first _

end Deserialize

end CommonSerialization.Csp
