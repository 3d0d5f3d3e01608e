import CommonSerialization.Library.ByteOrder

namespace CommonSerialization

open ByteOrder

inductive Width
  | one
  | two
  | four
  | eight
  deriving DecidableEq, Repr

namespace Width

def bytes : Width → Nat
  | one => 1
  | two => 2
  | four => 4
  | eight => 8

theorem bytes_pos (width : Width) : 0 < width.bytes := by
  cases width <;> decide

def endiannessReversable (width : Width) : Bool :=
  decide (1 < width.bytes) && decide (width.bytes ≤ 8)

def ofBytes : Nat → Option Width
  | 8 => some eight
  | 4 => some four
  | 2 => some two
  | 1 => some one
  | _ => none

@[simp] theorem ofBytes_bytes (width : Width) : ofBytes width.bytes = width := by
  cases width <;> rfl

theorem bytes_injective : Function.Injective bytes := by
  intro first second equality
  cases first <;> cases second <;> first | rfl | cases equality

end Width

abbrev Word (width : Width) := BitVec (8 * width.bytes)

theorem word_lt (value : Word width) : value.toNat < 256 ^ width.bytes := by
  have bound := value.isLt
  rwa [Nat.pow_mul] at bound

structure Platform where
  isBigEndianPlatform : Bool
  isBitness32 : Bool
  deriving DecidableEq, Repr

def reverseEndianessUInt64 (input : BitVec 64) : BitVec 64 :=
  input >>> 56
    ||| (input >>> 40 &&& 0x000000000000ff00#64)
    ||| (input >>> 24 &&& 0x0000000000ff0000#64)
    ||| (input >>> 8 &&& 0x00000000ff000000#64)
    ||| (input <<< 8 &&& 0x000000ff00000000#64)
    ||| (input <<< 24 &&& 0x0000ff0000000000#64)
    ||| (input <<< 40 &&& 0x00ff000000000000#64)
    ||| input <<< 56

def reverseEndianessUInt32 (input : BitVec 32) : BitVec 32 :=
  input >>> 24
    ||| (input >>> 8 &&& 0x0000ff00#32)
    ||| (input <<< 8 &&& 0x00ff0000#32)
    ||| input <<< 24

def reverseEndianessUInt16 (input : BitVec 16) : BitVec 16 :=
  input >>> 8 ||| input <<< 8

/-- One-octet types are not `EndiannessReversable`; the function is never
instantiated for them. -/
def reverseEndianess : (width : Width) → Word width → Word width
  | .one, input => input
  | .two, input => reverseEndianessUInt16 input
  | .four, input => reverseEndianessUInt32 input
  | .eight, input => reverseEndianessUInt64 input

private theorem extractLsb'_reverseEndianessUInt16 (input : BitVec 16)
    (index : Nat) (bound : index < 2) :
    (reverseEndianessUInt16 input).extractLsb' (8 * index) 8 =
      input.extractLsb' (8 * (2 - 1 - index)) 8 := by
  ext bit bitBound
  match index, bound with
  | 0, _ | 1, _ =>
    match bit, bitBound with
    | 0, _ | 1, _ | 2, _ | 3, _ | 4, _ | 5, _ | 6, _ | 7, _ =>
      simp [reverseEndianessUInt16]

private theorem extractLsb'_reverseEndianessUInt32 (input : BitVec 32)
    (index : Nat) (bound : index < 4) :
    (reverseEndianessUInt32 input).extractLsb' (8 * index) 8 =
      input.extractLsb' (8 * (4 - 1 - index)) 8 := by
  ext bit bitBound
  match index, bound with
  | 0, _ | 1, _ | 2, _ | 3, _ =>
    match bit, bitBound with
    | 0, _ | 1, _ | 2, _ | 3, _ | 4, _ | 5, _ | 6, _ | 7, _ =>
      simp [reverseEndianessUInt32]

private theorem extractLsb'_reverseEndianessUInt64 (input : BitVec 64)
    (index : Nat) (bound : index < 8) :
    (reverseEndianessUInt64 input).extractLsb' (8 * index) 8 =
      input.extractLsb' (8 * (8 - 1 - index)) 8 := by
  ext bit bitBound
  match index, bound with
  | 0, _ | 1, _ | 2, _ | 3, _ | 4, _ | 5, _ | 6, _ | 7, _ =>
    match bit, bitBound with
    | 0, _ | 1, _ | 2, _ | 3, _ | 4, _ | 5, _ | 6, _ | 7, _ =>
      simp [reverseEndianessUInt64]

theorem toOctets_reverseEndianess (width : Width) (input : Word width) :
    toOctets width.bytes (reverseEndianess width input).toNat =
      (toOctets width.bytes input.toNat).reverse := by
  apply toOctets_eq_reverse
  cases width with
  | one =>
      intro index bound
      match index, bound with
      | 0, _ => rfl
  | two => exact extractLsb'_reverseEndianessUInt16 input
  | four => exact extractLsb'_reverseEndianessUInt32 input
  | eight => exact extractLsb'_reverseEndianessUInt64 input

namespace Platform

/-- The range of `size_t` is `2 ^ addressBits`. -/
def addressBits (platform : Platform) : Nat :=
  if platform.isBitness32 then 32 else 64

def sizeOfSizeT (platform : Platform) : Width :=
  if platform.isBitness32 then .four else .eight

def store (platform : Platform) (width : Width) (value : Word width) :
    List UInt8 :=
  if platform.isBigEndianPlatform then
    (toOctets width.bytes value.toNat).reverse
  else
    toOctets width.bytes value.toNat

def load (platform : Platform) (width : Width) (octets : List UInt8) :
    Word width :=
  BitVec.ofNat _ <| ofOctets <|
    if platform.isBigEndianPlatform then octets.reverse else octets

@[simp] theorem length_store (platform : Platform) (width : Width)
    (value : Word width) :
    (platform.store width value).length = width.bytes := by
  unfold store
  split <;> simp

@[simp] theorem load_store (platform : Platform) (width : Width)
    (value : Word width) :
    platform.load width (platform.store width value) = value := by
  apply BitVec.eq_of_toNat_eq
  unfold load store
  split <;>
    simp [ofOctets_toOctets_of_lt (word_lt value)]

theorem store_load (platform : Platform) (width : Width)
    (octets : List UInt8) (sized : octets.length = width.bytes) :
    platform.store width (platform.load width octets) = octets := by
  have loaded (reading : List UInt8) (readingSized : reading.length = width.bytes) :
      toOctets width.bytes
        (BitVec.ofNat (8 * width.bytes) (ofOctets reading)).toNat = reading := by
    have bound := ofOctets_lt reading
    rw [readingSized] at bound
    rw [BitVec.toNat_ofNat, Nat.mod_eq_of_lt (by rwa [Nat.pow_mul]),
      ← readingSized, toOctets_ofOctets]
  unfold store load
  split
  · rw [loaded _ (by simpa using sized), List.reverse_reverse]
  · exact loaded _ sized

theorem store_reverseEndianess (platform : Platform) (width : Width)
    (value : Word width) :
    platform.store width (reverseEndianess width value) =
      (platform.store width value).reverse := by
  unfold store
  split <;> rw [toOctets_reverseEndianess]

theorem reverseEndianess_involutive (width : Width) (value : Word width) :
    reverseEndianess width (reverseEndianess width value) = value := by
  have stored :
      (Platform.mk false false).store width
          (reverseEndianess width (reverseEndianess width value)) =
        (Platform.mk false false).store width value := by
    rw [store_reverseEndianess, store_reverseEndianess, List.reverse_reverse]
  have loaded := congrArg ((Platform.mk false false).load width) stored
  simpa only [load_store] using loaded

end Platform

end CommonSerialization
