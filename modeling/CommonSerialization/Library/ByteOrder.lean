import Mathlib.Data.Nat.ModEq

namespace CommonSerialization.ByteOrder

/-! Positional numerals over octets.  The least significant octet comes first;
the opposite order is the reversed list. -/

def toOctets : Nat → Nat → List UInt8
  | 0, _ => []
  | width + 1, value => UInt8.ofNat value :: toOctets width (value / 256)

def ofOctets : List UInt8 → Nat
  | [] => 0
  | octet :: rest => octet.toNat + 256 * ofOctets rest

@[simp] theorem length_toOctets (width value : Nat) :
    (toOctets width value).length = width := by
  induction width generalizing value with
  | zero => rfl
  | succ width induction => simp [toOctets, induction]

theorem ofOctets_lt (octets : List UInt8) :
    ofOctets octets < 256 ^ octets.length := by
  induction octets with
  | nil => simp [ofOctets]
  | cons octet rest induction =>
      have octetBound : octet.toNat < 256 := octet.toNat_lt
      simp only [ofOctets, List.length_cons, Nat.pow_succ]
      omega

theorem ofOctets_toOctets (width value : Nat) :
    ofOctets (toOctets width value) = value % 256 ^ width := by
  induction width generalizing value with
  | zero => simp [toOctets, ofOctets, Nat.mod_one]
  | succ width induction =>
      simp only [toOctets, ofOctets, induction]
      have headOctet : (UInt8.ofNat value).toNat = value % 256 := by
        simp [UInt8.toNat_ofNat']
      rw [headOctet, Nat.pow_succ, Nat.mul_comm (256 ^ width) 256,
        Nat.mod_mul]

theorem ofOctets_toOctets_of_lt {width value : Nat}
    (bound : value < 256 ^ width) :
    ofOctets (toOctets width value) = value := by
  rw [ofOctets_toOctets, Nat.mod_eq_of_lt bound]

theorem toOctets_ofOctets (octets : List UInt8) :
    toOctets octets.length (ofOctets octets) = octets := by
  induction octets with
  | nil => rfl
  | cons octet rest induction =>
      have octetBound : octet.toNat < 256 := octet.toNat_lt
      have head : UInt8.ofNat (octet.toNat + 256 * ofOctets rest) = octet := by
        apply UInt8.toNat_inj.mp
        rw [UInt8.toNat_ofNat']
        omega
      have tail : (octet.toNat + 256 * ofOctets rest) / 256 = ofOctets rest := by
        omega
      simp only [ofOctets, List.length_cons, toOctets, head, tail, induction]

theorem getElem_toOctets (width value index : Nat)
    (bound : index < (toOctets width value).length) :
    (toOctets width value)[index] = UInt8.ofNat (value / 256 ^ index) := by
  induction width generalizing value index with
  | zero => simp [toOctets] at bound
  | succ width induction =>
      cases index with
      | zero => simp [toOctets]
      | succ index =>
          simp only [toOctets, List.getElem_cons_succ, induction]
          rw [Nat.div_div_eq_div_mul, Nat.pow_succ, Nat.mul_comm 256]

theorem toOctets_eq_reverse {bits width : Nat} {first second : BitVec bits}
    (mirrored : ∀ index, index < width →
      first.extractLsb' (8 * index) 8 =
        second.extractLsb' (8 * (width - 1 - index)) 8) :
    toOctets width first.toNat = (toOctets width second.toNat).reverse := by
  have octet (value : BitVec bits) (index : Nat) :
      UInt8.ofNat (value.toNat / 256 ^ index) =
        UInt8.ofBitVec (value.extractLsb' (8 * index) 8) := by
    apply UInt8.toNat_inj.mp
    simp [BitVec.extractLsb'_toNat, Nat.shiftRight_eq_div_pow,
      UInt8.toNat_ofNat', Nat.pow_mul]
  apply List.ext_getElem
  · simp
  · intro index firstBound secondBound
    have bound : index < width := by simpa using firstBound
    rw [List.getElem_reverse, getElem_toOctets, getElem_toOctets, octet, octet,
      mirrored index bound, length_toOctets]

end CommonSerialization.ByteOrder
