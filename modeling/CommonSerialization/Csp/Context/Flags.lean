import CommonSerialization.Common.Platform

namespace CommonSerialization.Context

/-! The flag words of a message.  A word never holds a bit outside
`kValidFlagsMask`: every constructor and assignment of the source masks its
argument. -/

/-- A flag word that keeps to the bits of `mask`. -/
structure FlagWord (mask : BitVec 32) where
  flags : BitVec 32
  valid : flags &&& mask = flags
  deriving DecidableEq

namespace FlagWord

def ofUInt32 (value : BitVec 32) : FlagWord mask where
  flags := value &&& mask
  valid := by rw [BitVec.and_assoc, BitVec.and_self]

def test (word : FlagWord mask) (flag : BitVec 32) : Bool :=
  word.flags &&& flag != 0

def union (first second : FlagWord mask) : FlagWord mask :=
  ofUInt32 (first.flags ||| second.flags)

def inter (first second : FlagWord mask) : FlagWord mask :=
  ofUInt32 (first.flags &&& second.flags)

def isSet (word : FlagWord mask) : Bool :=
  word.flags != 0

@[ext] theorem ext {first second : FlagWord mask}
    (equality : first.flags = second.flags) : first = second := by
  cases first
  cases second
  cases equality
  rfl

@[simp] theorem ofUInt32_flags (word : FlagWord mask) :
    (ofUInt32 word.flags : FlagWord mask) = word :=
  ext word.valid

def has (word : FlagWord mask) (bit : Nat) : Bool :=
  word.flags.getLsbD bit

theorem has_mask {word : FlagWord mask} {bit : Nat} (present : word.has bit) :
    mask.getLsbD bit := by
  have masked : (word.flags &&& mask).getLsbD bit := by
    rw [word.valid]
    exact present
  rw [BitVec.getLsbD_and, Bool.and_eq_true] at masked
  exact masked.2

@[simp] theorem has_union (first second : FlagWord mask) (bit : Nat) :
    (first.union second).has bit = (first.has bit || second.has bit) := by
  have masked (word : FlagWord mask) :
      (word.has bit && mask.getLsbD bit) = word.has bit := by
    cases present : word.has bit with
    | false => rfl
    | true => rw [has_mask present, Bool.and_self]
  show ((first.flags ||| second.flags) &&& mask).getLsbD bit = _
  rw [BitVec.getLsbD_and, BitVec.getLsbD_or, Bool.and_or_distrib_right]
  exact congrArg₂ (· || ·) (masked first) (masked second)

@[simp] theorem has_inter (first second : FlagWord mask) (bit : Nat) :
    (first.inter second).has bit = (first.has bit && second.has bit) := by
  show ((first.flags &&& second.flags) &&& mask).getLsbD bit = _
  rw [BitVec.and_assoc, second.valid, BitVec.getLsbD_and]
  rfl

theorem isSet_inter (first second : FlagWord mask) :
    (first.inter second).isSet ↔ ∃ bit, first.has bit ∧ second.has bit := by
  have bits (bit : Nat) : (first.inter second).flags.getLsbD bit =
      (first.has bit && second.has bit) := has_inter first second bit
  simp only [isSet, bne_iff_ne, ne_eq]
  constructor
  · intro differs
    by_contra none
    apply differs
    apply BitVec.eq_of_getLsbD_eq
    intro bit _
    have absent : (0 : BitVec 32).getLsbD bit = false := BitVec.getLsbD_zero
    rw [bits, absent, Bool.eq_false_iff]
    intro both
    rw [Bool.and_eq_true] at both
    exact none ⟨bit, both⟩
  · rintro ⟨bit, firstHas, secondHas⟩ zero
    have absent : (0 : BitVec 32).getLsbD bit = false := BitVec.getLsbD_zero
    have present := bits bit
    rw [zero, absent, firstHas, secondHas] at present
    cases present

theorem ext_has {first second : FlagWord mask}
    (same : ∀ bit, first.has bit = second.has bit) : first = second :=
  ext (BitVec.eq_of_getLsbD_eq fun bit _ => same bit)

end FlagWord

namespace CommonFlags

def kBitness32 : BitVec 32 := 0x1
def kBigEndianFormat : BitVec 32 := 0x2
def kEndiannessDifference : BitVec 32 := 0x4
def kValidFlagsMask : BitVec 32 := 0x7

end CommonFlags

abbrev CommonFlags := FlagWord CommonFlags.kValidFlagsMask

namespace CommonFlags

def bitness32 (flags : CommonFlags) : Bool :=
  flags.test kBitness32

def bigEndianFormat (flags : CommonFlags) : Bool :=
  flags.test kBigEndianFormat

def endiannessDifference (flags : CommonFlags) : Bool :=
  flags.test kEndiannessDifference

end CommonFlags

namespace DataFlags

def kAlignmentMayBeNotEqual : BitVec 32 := 0x1
def kSizeOfIntegersMayBeNotEqual : BitVec 32 := 0x2
def kAllowUnmanagedPointers : BitVec 32 := 0x4
def kCheckRecursivePointers : BitVec 32 := 0x8
def kSimplyAssignableTagsOptimizationsAreTurnedOff : BitVec 32 := 0x10
def kValidFlagsMask : BitVec 32 := 0x1f

end DataFlags

abbrev DataFlags := FlagWord DataFlags.kValidFlagsMask

namespace DataFlags

def alignmentMayBeNotEqual (flags : DataFlags) : Bool :=
  flags.test kAlignmentMayBeNotEqual

def sizeOfIntegersMayBeNotEqual (flags : DataFlags) : Bool :=
  flags.test kSizeOfIntegersMayBeNotEqual

def allowUnmanagedPointers (flags : DataFlags) : Bool :=
  flags.test kAllowUnmanagedPointers

def checkRecursivePointers (flags : DataFlags) : Bool :=
  flags.test kCheckRecursivePointers

def simplyAssignableTagsOptimizationsAreTurnedOff (flags : DataFlags) : Bool :=
  flags.test kSimplyAssignableTagsOptimizationsAreTurnedOff

end DataFlags

end CommonSerialization.Context
