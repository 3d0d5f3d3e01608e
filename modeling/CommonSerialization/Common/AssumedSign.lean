import CommonSerialization.Common.Helpers

namespace CommonSerialization

open FixedWidthInteger

/-! Bit patterns of two widths that are compared under a sign that need not be
the sign of their type. -/

def signBit (width : Width) : Int :=
  2 ^ (8 * width.bytes - 1)

theorem two_mul_signBit (width : Width) :
    2 * signBit width = 2 ^ (8 * width.bytes) := by
  cases width <;> rfl

theorem two_mul_signBit_le {narrow wide : Width}
    (narrower : narrow.bytes < wide.bytes) :
    2 * signBit narrow ≤ signBit wide := by
  cases narrow <;> cases wide <;>
    first
    | (simp only [Width.bytes] at narrower; omega)
    | decide

theorem signBit_pos (width : Width) : 0 < signBit width := by
  cases width <;> decide

theorem fits_iff {width : Width} {isSigned : Bool} {value : Int} :
    Fits width isSigned value ↔
      if isSigned then -signBit width ≤ value ∧ value < signBit width
      else 0 ≤ value ∧ value < 2 * signBit width := by
  rw [two_mul_signBit, signBit]
  cases isSigned <;>
    simp only [Fits, FixedWidthInteger.min, FixedWidthInteger.max,
      Bool.false_eq_true, if_false, if_true] <;>
    omega

theorem toInteger_true (word : Word width) :
    word.toInteger true =
      if word.toInteger false < signBit width then word.toInteger false
      else word.toInteger false - 2 * signBit width := by
  have modulus : ((2 ^ (8 * width.bytes) : Nat) : Int) = 2 * signBit width := by
    rw [two_mul_signBit]
    push_cast
    rfl
  simp only [Word.toInteger, Bool.false_eq_true, if_false, if_true,
    BitVec.toInt_eq_toNat_cond, modulus]
  split <;> split <;> omega

/-- The numbers that are non-negative in either width whatever the sign. -/
def InCommonRange (first second : Width) (value : Int) : Prop :=
  0 ≤ value ∧ value < signBit first ∧ value < signBit second

instance : Decidable (InCommonRange first second value) := by
  unfold InCommonRange
  infer_instance

theorem fits_of_le {source target : Width} {isSigned : Bool} {value : Int}
    (fits : Fits source isSigned value) (wider : source.bytes ≤ target.bytes) :
    Fits target isSigned value := by
  rcases Nat.eq_or_lt_of_le wider with equal | narrower
  · rwa [← Width.bytes_injective equal]
  · have doubled := two_mul_signBit_le narrower
    have positive := signBit_pos source
    rw [fits_iff] at fits ⊢
    split at fits <;> split <;> first | contradiction | omega

theorem fits_of_inCommonRange {source target : Width} {isSigned : Bool}
    {value : Int} (small : InCommonRange source target value) :
    Fits target isSigned value := by
  obtain ⟨low, _, high⟩ := small
  rw [fits_iff]
  split <;> omega

theorem toInteger_of_inCommonRange {source target : Width} {word : Word source}
    {isSigned : Bool} (assumed : Bool)
    (small : InCommonRange source target (word.toInteger isSigned)) :
    word.toInteger assumed = word.toInteger isSigned := by
  obtain ⟨low, high, _⟩ := small
  have range := fits_iff.mp (word.fits false)
  have reading := toInteger_true word
  cases isSigned <;> cases assumed <;> first | rfl | skip
  · rw [reading, if_pos high]
  · split at reading <;> simp only [Bool.false_eq_true, if_false] at range <;>
      omega

/-- Two patterns that are one number under the wrong sign are one number under
the right sign only in the common range. -/
theorem toInteger_eq_iff {source target : Width} {sent : Word source}
    {received : Word target} {isSigned assumed : Bool}
    (wrong : assumed ≠ isSigned) (resized : source ≠ target)
    (same : received.toInteger assumed = sent.toInteger assumed) :
    received.toInteger isSigned = sent.toInteger isSigned ↔
      InCommonRange source target (sent.toInteger isSigned) := by
  have apart : 2 * signBit source ≤ signBit target ∨
      2 * signBit target ≤ signBit source := by
    rcases Nat.lt_or_gt_of_ne (Width.bytes_injective.ne resized) with
      widening | narrowing
    · exact .inl (two_mul_signBit_le widening)
    · exact .inr (two_mul_signBit_le narrowing)
  have sentReading := toInteger_true sent
  have receivedReading := toInteger_true received
  have sentRange := fits_iff.mp (sent.fits false)
  have receivedRange := fits_iff.mp (received.fits false)
  have sourcePositive := signBit_pos source
  have targetPositive := signBit_pos target
  simp only [Bool.false_eq_true, if_false] at sentRange receivedRange
  unfold InCommonRange
  cases isSigned <;> cases assumed <;> first | exact absurd rfl wrong | skip
  all_goals split at sentReading <;> split at receivedReading <;> omega

end CommonSerialization
