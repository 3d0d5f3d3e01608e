import CommonSerialization.Common.Platform
import CommonSerialization.Common.Status

namespace CommonSerialization

/-! The fixed width integers and the conversions between them. -/

namespace Word

def toInteger (isSigned : Bool) (word : Word width) : Int :=
  if isSigned then word.toInt else word.toNat

end Word

namespace FixedWidthInteger

def min (width : Width) (isSigned : Bool) : Int :=
  if isSigned then -2 ^ (8 * width.bytes - 1) else 0

def max (width : Width) (isSigned : Bool) : Int :=
  if isSigned then 2 ^ (8 * width.bytes - 1) - 1 else 2 ^ (8 * width.bytes) - 1

def Fits (width : Width) (isSigned : Bool) (value : Int) : Prop :=
  min width isSigned ≤ value ∧ value ≤ max width isSigned

instance : Decidable (Fits width isSigned value) := by
  unfold Fits
  infer_instance

end FixedWidthInteger

open FixedWidthInteger

theorem Word.toInteger_ofInt {width : Width} {isSigned : Bool} {value : Int}
    (fits : Fits width isSigned value) :
    Word.toInteger isSigned (BitVec.ofInt _ value : Word width) = value := by
  have positive : 0 < 8 * width.bytes := by
    have := width.bytes_pos
    omega
  obtain ⟨low, high⟩ := fits
  cases isSigned with
  | false =>
      simp only [FixedWidthInteger.min, FixedWidthInteger.max, Bool.false_eq_true, if_false] at low high
      simp only [Word.toInteger, Bool.false_eq_true, if_false,
        BitVec.toNat_ofInt]
      have exact : value % (2 ^ (8 * width.bytes) : Nat) = value :=
        Int.emod_eq_of_lt low (by push_cast; omega)
      rw [exact, Int.toNat_of_nonneg low]
  | true =>
      simp only [FixedWidthInteger.min, FixedWidthInteger.max, if_true] at low high
      simp only [Word.toInteger, if_true]
      exact BitVec.toInt_ofInt_eq_self positive low (by omega)

theorem Word.toInteger_ofNat {width : Width} {value : Nat}
    (bounded : value < 2 ^ (8 * width.bytes)) :
    Word.toInteger false (BitVec.ofNat _ value : Word width) = value := by
  simp [Word.toInteger, Nat.mod_eq_of_lt bounded]

theorem fits_natCast {width : Width} {value : Nat} :
    Fits width false (value : Int) ↔ value < 2 ^ (8 * width.bytes) := by
  have cast : ((2 ^ (8 * width.bytes) : Nat) : Int) = 2 ^ (8 * width.bytes) := by
    push_cast
    rfl
  simp only [Fits, FixedWidthInteger.min, FixedWidthInteger.max,
    Bool.false_eq_true, if_false]
  omega

theorem Word.fits (isSigned : Bool) (word : Word width) :
    Fits width isSigned (word.toInteger isSigned) := by
  cases isSigned with
  | false =>
      have bound := word.isLt
      simp only [Fits, FixedWidthInteger.min, FixedWidthInteger.max, Word.toInteger, Bool.false_eq_true, if_false]
      have : ((2 ^ (8 * width.bytes) : Nat) : Int) = 2 ^ (8 * width.bytes) := by push_cast; rfl
      omega
  | true =>
      have low := BitVec.le_toInt word
      have high := @BitVec.toInt_lt _ word
      simp only [Fits, FixedWidthInteger.min, FixedWidthInteger.max, Word.toInteger, if_true]
      omega

theorem Word.ofInt_toInteger (isSigned : Bool) (word : Word width) :
    BitVec.ofInt _ (word.toInteger isSigned) = word := by
  cases isSigned with
  | false => simp [Word.toInteger]
  | true => simp [Word.toInteger]
def castToSmallerType (isSigned : Bool) (input : Word source) (target : Width) :
    Except Status (Word target) :=
  if FixedWidthInteger.max target isSigned < input.toInteger isSigned ∨
      input.toInteger isSigned < FixedWidthInteger.min target isSigned then
    .error .errorValueOverflow
  else
    .ok (BitVec.ofInt _ (input.toInteger isSigned))

theorem castToSmallerType_of_fits {isSigned : Bool} {input : Word source}
    {target : Width} (fits : Fits target isSigned (input.toInteger isSigned)) :
    castToSmallerType isSigned input target =
      .ok (BitVec.ofInt _ (input.toInteger isSigned)) := by
  unfold Fits at fits
  exact if_neg (by omega)

theorem castToSmallerType_of_not_fits {isSigned : Bool} {input : Word source}
    {target : Width} (exceeds : ¬Fits target isSigned (input.toInteger isSigned)) :
    castToSmallerType isSigned input target = .error .errorValueOverflow := by
  unfold Fits at exceeds
  exact if_pos (by omega)

def castToBiggerType (isSigned : Bool) (input : Word source) (target : Width) :
    Word target :=
  BitVec.ofInt _ (input.toInteger isSigned)

end CommonSerialization
