import CommonSerialization.Containers.VectorEquality
import CommonSerialization.Csp.Messaging.Settings
import CommonSerialization.Csp.Processing.DataContext
import Mathlib.Algebra.Ring.Parity

namespace CommonSerialization

/-! The comparisons of the identifiers of the protocol. -/

/-- What an order and an equality owe each other at three values. -/
structure ComparisonLaws (less equal : α → α → Bool) (first second third : α) :
    Prop where
  equal_iff : equal first second ↔ first = second
  irreflexive : ¬less first first
  transitive : less first second → less second third → less first third
  exactlyOne :
    [less first second, equal first second, less second first].count true = 1

theorem count_eq_one (first second third : Bool) :
    [first, second, third].count true = 1 ↔
      first ∧ ¬second ∧ ¬third ∨ ¬first ∧ second ∧ ¬third ∨
        ¬first ∧ ¬second ∧ third := by
  cases first <;> cases second <;> cases third <;> decide

/-- Comparing numbers that tell the values apart. -/
theorem ComparisonLaws.of_number {less equal : α → α → Bool} (number : α → Nat)
    (distinct : Function.Injective number)
    (less_iff : ∀ first second, less first second ↔ number first < number second)
    (equal_iff : ∀ first second, equal first second ↔ number first = number second)
    (first second third : α) : ComparisonLaws less equal first second third where
  equal_iff := (equal_iff first second).trans distinct.eq_iff
  irreflexive := by
    rw [less_iff]
    exact Nat.lt_irrefl _
  transitive := by
    rw [less_iff, less_iff, less_iff]
    exact Nat.lt_trans
  exactlyOne := by
    rw [count_eq_one, less_iff, equal_iff, less_iff]
    omega

namespace Uuid

def mHigh (platform : Platform) (id : Uuid) : Word .eight :=
  platform.load .eight (id.octets.take 8)

def mLow (platform : Platform) (id : Uuid) : Word .eight :=
  platform.load .eight (id.octets.drop 8)

def less (platform : Platform) (id rhs : Uuid) : Bool :=
  if platform.isBigEndianPlatform then
    decide (id.mHigh platform < rhs.mHigh platform) ||
      id.mHigh platform == rhs.mHigh platform &&
        decide (id.mLow platform < rhs.mLow platform)
  else
    decide (id.mLow platform < rhs.mLow platform) ||
      id.mLow platform == rhs.mLow platform &&
        decide (id.mHigh platform < rhs.mHigh platform)

def equal (platform : Platform) (id rhs : Uuid) : Bool :=
  id.mLow platform == rhs.mLow platform && id.mHigh platform == rhs.mHigh platform

theorem ext_words (platform : Platform) {id rhs : Uuid}
    (high : id.mHigh platform = rhs.mHigh platform)
    (low : id.mLow platform = rhs.mLow platform) : id = rhs := by
  have loaded {first second : List UInt8} (firstSized : first.length = 8)
      (secondSized : second.length = 8)
      (same : platform.load .eight first = platform.load .eight second) :
      first = second := by
    rw [← platform.store_load .eight first firstSized, same,
      platform.store_load .eight second secondSized]
  apply Uuid.ext
  rw [← List.take_append_drop 8 id.octets, ← List.take_append_drop 8 rhs.octets,
    loaded (by simp [id.sized]) (by simp [rhs.sized]) high,
    loaded (by simp [id.sized]) (by simp [rhs.sized]) low]

private theorem mHigh_lt (platform : Platform) (id : Uuid) :
    (id.mHigh platform).toNat < 2 ^ 64 := (id.mHigh platform).isLt

private theorem mLow_lt (platform : Platform) (id : Uuid) :
    (id.mLow platform).toNat < 2 ^ 64 := (id.mLow platform).isLt

def number (platform : Platform) (id : Uuid) : Nat :=
  if platform.isBigEndianPlatform then
    (id.mHigh platform).toNat * 2 ^ 64 + (id.mLow platform).toNat
  else
    (id.mLow platform).toNat * 2 ^ 64 + (id.mHigh platform).toNat

theorem less_iff (platform : Platform) (id rhs : Uuid) :
    id.less platform rhs ↔ id.number platform < rhs.number platform := by
  have idHigh := mHigh_lt platform id
  have idLow := mLow_lt platform id
  have rhsHigh := mHigh_lt platform rhs
  have rhsLow := mLow_lt platform rhs
  unfold less number
  split <;>
    rw [Bool.or_eq_true, Bool.and_eq_true, decide_eq_true_eq, decide_eq_true_eq,
      beq_iff_eq, BitVec.lt_def, BitVec.lt_def, ← BitVec.toNat_inj] <;>
    omega

theorem number_injective (platform : Platform) :
    Function.Injective (number platform) := by
  intro id rhs same
  have idHigh := mHigh_lt platform id
  have idLow := mLow_lt platform id
  have rhsHigh := mHigh_lt platform rhs
  have rhsLow := mLow_lt platform rhs
  have words : (id.mHigh platform).toNat = (rhs.mHigh platform).toNat ∧
      (id.mLow platform).toNat = (rhs.mLow platform).toNat := by
    revert same
    unfold number
    split <;> omega
  apply ext_words platform
  · exact BitVec.eq_of_toNat_eq words.1
  · exact BitVec.eq_of_toNat_eq words.2

theorem equal_iff (platform : Platform) (id rhs : Uuid) :
    id.equal platform rhs ↔ id = rhs := by
  constructor
  · intro equality
    simp only [equal, Bool.and_eq_true, beq_iff_eq] at equality
    exact ext_words platform equality.2 equality.1
  · intro equality
    cases equality
    simp [equal]

theorem comparisonLaws (platform : Platform) (first second third : Uuid) :
    ComparisonLaws (less platform) (equal platform) first second third := by
  apply ComparisonLaws.of_number (number platform) (number_injective platform)
  · exact less_iff platform
  · intro id rhs
    rw [equal_iff, (number_injective platform).eq_iff]

end Uuid

namespace Csp.Messaging.InterfaceVersion

def less (platform : Platform) (version rhs : InterfaceVersion) : Bool :=
  version.id.less platform rhs.id || decide (version.version < rhs.version)

def equal (platform : Platform) (version rhs : InterfaceVersion) : Bool :=
  version.id.equal platform rhs.id && version.version == rhs.version

/-- One identifier is the lesser one and its version the greater. -/
def Opposite (platform : Platform) (first second : InterfaceVersion) : Prop :=
  first.id.less platform second.id ∧ second.version < first.version ∨
    second.id.less platform first.id ∧ first.version < second.version

theorem equal_iff (platform : Platform) (version rhs : InterfaceVersion) :
    version.equal platform rhs ↔ version = rhs := by
  rw [equal, Bool.and_eq_true, Uuid.equal_iff, beq_iff_eq]
  cases version
  cases rhs
  simp

theorem less_iff (platform : Platform) (version rhs : InterfaceVersion) :
    version.less platform rhs ↔
      version.id.number platform < rhs.id.number platform ∨
        version.version.toNat < rhs.version.toNat := by
  rw [less, Bool.or_eq_true, Uuid.less_iff, decide_eq_true_eq]
  rfl

theorem equal_iff_number (platform : Platform) (version rhs : InterfaceVersion) :
    version.equal platform rhs ↔
      version.id.number platform = rhs.id.number platform ∧
        version.version.toNat = rhs.version.toNat := by
  rw [equal, Bool.and_eq_true, Uuid.equal_iff, beq_iff_eq,
    (Uuid.number_injective platform).eq_iff, UInt32.toNat_inj]

theorem comparisonLaws_iff (platform : Platform)
    (first second third : InterfaceVersion) :
    ComparisonLaws (less platform) (equal platform) first second third ↔
      ¬Opposite platform first second := by
  have opposite_iff : Opposite platform first second ↔
      first.id.number platform < second.id.number platform ∧
          second.version.toNat < first.version.toNat ∨
        second.id.number platform < first.id.number platform ∧
          first.version.toNat < second.version.toNat := by
    rw [Opposite, Uuid.less_iff, Uuid.less_iff]
    rfl
  constructor
  · intro laws opposite
    have one := laws.exactlyOne
    rw [count_eq_one, less_iff, less_iff] at one
    rw [opposite_iff] at opposite
    omega
  · intro ordered
    rw [opposite_iff] at ordered
    refine ⟨equal_iff platform first second, ?_, ?_, ?_⟩
    · rw [less_iff]
      omega
    · rw [less_iff, less_iff, less_iff]
      omega
    · rw [count_eq_one, less_iff, equal_iff_number, less_iff]
      omega

end Csp.Messaging.InterfaceVersion

namespace Csp.Messaging.CspPartySettings

open Containers.VectorEquality

def equal (platform : Platform) (settings rhs : CspPartySettings) : Bool :=
  compareVectors (compareValues (· == ·)) settings.protocolVersions
      rhs.protocolVersions &&
    settings.mandatoryCommonFlags.flags == rhs.mandatoryCommonFlags.flags &&
    settings.forbiddenCommonFlags.flags == rhs.forbiddenCommonFlags.flags &&
    compareVectors (compareValues (InterfaceVersion.equal platform))
      settings.interfaces rhs.interfaces

theorem equal_iff (platform : Platform) (settings rhs : CspPartySettings) :
    settings.equal platform rhs ↔ settings = rhs := by
  have lawful (lhs rhs : UInt8) : (lhs == rhs) = true ↔ lhs = rhs := beq_iff_eq
  have versions :=
    compareVectors_values_eq lawful settings.protocolVersions rhs.protocolVersions
  have interfaces := compareVectors_values_eq (InterfaceVersion.equal_iff platform)
    settings.interfaces rhs.interfaces
  rw [equal, Bool.and_eq_true, Bool.and_eq_true, Bool.and_eq_true, beq_iff_eq,
    beq_iff_eq, versions, interfaces]
  constructor
  · intro same
    obtain ⟨⟨⟨versions, mandatory⟩, forbidden⟩, interfaces⟩ := same
    cases settings
    cases rhs
    simp_all [Context.FlagWord.ext_iff]
  · intro same
    cases same
    exact ⟨⟨⟨rfl, rfl⟩, rfl⟩, rfl⟩

end Csp.Messaging.CspPartySettings

namespace Csp.Interface

def lessFields (platform : Platform) (interface rhs : Interface) : List Bool :=
  [interface.id.less platform rhs.id,
    decide (interface.version < rhs.version),
    decide (interface.mandatoryDataFlags.flags < rhs.mandatoryDataFlags.flags),
    decide (interface.forbiddenDataFlags.flags < rhs.forbiddenDataFlags.flags)]

def less (platform : Platform) (interface rhs : Interface) : Bool :=
  interface.id.less platform rhs.id &&
    decide (interface.version < rhs.version) &&
    decide (interface.mandatoryDataFlags.flags < rhs.mandatoryDataFlags.flags) &&
    decide (interface.forbiddenDataFlags.flags < rhs.forbiddenDataFlags.flags)

/-- `operator==`: `<` binds stronger than `==`. -/
def equal (platform : Platform) (interface rhs : Interface) : Bool :=
  ((interface.id.less platform rhs.id ==
        decide (interface.version < rhs.version)) ==
      decide (interface.mandatoryDataFlags.flags < rhs.mandatoryDataFlags.flags)) ==
    decide (interface.forbiddenDataFlags.flags < rhs.forbiddenDataFlags.flags)

theorem equal_iff_even (platform : Platform) (interface rhs : Interface) :
    interface.equal platform rhs ↔
      Even ((lessFields platform interface rhs).count true) := by
  unfold equal lessFields
  generalize interface.id.less platform rhs.id = first
  generalize decide (interface.version < rhs.version) = second
  generalize decide (_ < rhs.mandatoryDataFlags.flags) = third
  generalize decide (_ < rhs.forbiddenDataFlags.flags) = fourth
  cases first <;> cases second <;> cases third <;> cases fourth <;> decide

@[simp] theorem lessFields_self (platform : Platform) (interface : Interface) :
    lessFields platform interface interface = [false, false, false, false] := by
  have same : interface.id.less platform interface.id = false := by
    rw [Bool.eq_false_iff, ne_eq, Uuid.less_iff]
    exact Nat.lt_irrefl _
  simp [lessFields, same]

theorem less_iff (platform : Platform) (interface rhs : Interface) :
    interface.less platform rhs ↔
      (lessFields platform interface rhs).count true = 4 := by
  unfold less lessFields
  generalize interface.id.less platform rhs.id = first
  generalize decide (interface.version < rhs.version) = second
  generalize decide (_ < rhs.mandatoryDataFlags.flags) = third
  generalize decide (_ < rhs.forbiddenDataFlags.flags) = fourth
  cases first <;> cases second <;> cases third <;> cases fourth <;> decide

theorem equal_self (platform : Platform) (interface : Interface) :
    interface.equal platform interface := by
  rw [equal_iff_even, lessFields_self]
  decide

theorem less_irrefl (platform : Platform) (interface : Interface) :
    ¬interface.less platform interface := by
  rw [less_iff, lessFields_self]
  decide

theorem equal_of_less (platform : Platform) {interface rhs : Interface}
    (less : interface.less platform rhs) : interface.equal platform rhs := by
  rw [equal_iff_even, (less_iff platform interface rhs).mp less]
  decide

theorem equal_of_greater (platform : Platform) {interface rhs : Interface}
    (greater : rhs.less platform interface) : interface.equal platform rhs := by
  simp only [less, Bool.and_eq_true, decide_eq_true_eq] at greater
  obtain ⟨⟨⟨ids, versions⟩, mandatory⟩, forbidden⟩ := greater
  have idsFalse : interface.id.less platform rhs.id = false := by
    rw [Bool.eq_false_iff, ne_eq, Uuid.less_iff]
    rw [Uuid.less_iff] at ids
    omega
  have versionsFalse : ¬interface.version < rhs.version := by omega
  have mandatoryFalse := BitVec.not_lt.mpr (BitVec.le_of_lt mandatory)
  have forbiddenFalse := BitVec.not_lt.mpr (BitVec.le_of_lt forbidden)
  simp [equal, idsFalse, versionsFalse, mandatoryFalse, forbiddenFalse]

/-- Two different interfaces always break a law: where one is less than the other
it is equal to it too, and where neither is less one of the laws needs them to be
equal. -/
theorem comparisonLaws_iff (platform : Platform) (first second third : Interface) :
    ComparisonLaws (less platform) (equal platform) first second third ↔
      first = second := by
  constructor
  · intro laws
    have one := laws.exactlyOne
    rw [count_eq_one] at one
    obtain ⟨lower, unequal, -⟩ | ⟨-, same, -⟩ | ⟨-, unequal, upper⟩ := one
    · exact absurd (equal_of_less platform lower) unequal
    · exact laws.equal_iff.mp same
    · exact absurd (equal_of_greater platform upper) unequal
  · intro same
    cases same
    refine ⟨by simp [equal_self], less_irrefl platform first, fun _ later => later, ?_⟩
    rw [count_eq_one]
    exact .inr (.inl ⟨less_irrefl platform first, equal_self platform first,
      less_irrefl platform first⟩)

/-- The static assertion of `handleData`: an output of `ISerializableDummy` has no
interface of its own. -/
def acceptedTogether (platform : Platform) (input : Interface) :
    (output : Option Interface) → Bool
  | none => true
  | some output => input.equal platform output

end Csp.Interface

namespace Csp.Messaging

/-- Which values of the three types keep to the laws, and which pairs of
interfaces a client takes for one interface without their being one. -/
theorem identifiers_compare (platform : Platform) :
    (∀ first second third : Uuid,
      ComparisonLaws (Uuid.less platform) (Uuid.equal platform)
        first second third) ∧
    (∀ first second third : InterfaceVersion,
      ComparisonLaws (InterfaceVersion.less platform)
          (InterfaceVersion.equal platform) first second third ↔
        ¬InterfaceVersion.Opposite platform first second) ∧
    (∀ first second third : Interface,
      ComparisonLaws (Interface.less platform) (Interface.equal platform)
          first second third ↔
        first = second) ∧
    ∀ input output : Interface,
      (input.acceptedTogether platform output → input = output) ↔
        input = output ∨
          Odd ((Interface.lessFields platform input output).count true) := by
  refine ⟨Uuid.comparisonLaws platform, InterfaceVersion.comparisonLaws_iff platform,
    Interface.comparisonLaws_iff platform, ?_⟩
  intro input output
  rw [Interface.acceptedTogether, Interface.equal_iff_even, ← Nat.not_even_iff_odd]
  tauto

private def interfaceOf (number : Nat) : Interface :=
  ⟨.ofNat number, 1, .ofUInt32 0, .ofUInt32 0⟩

/-- Two interfaces of which only the identifiers differ, the greater one first. -/
theorem interfaces_accepted_apart :
    (interfaceOf 2).acceptedTogether ⟨false, false⟩ (interfaceOf 1) = true ∧
      interfaceOf 2 ≠ interfaceOf 1 ∧
      (interfaceOf 1).less ⟨false, false⟩ (interfaceOf 2) = false ∧
      (interfaceOf 2).less ⟨false, false⟩ (interfaceOf 1) = false ∧
      InterfaceVersion.less ⟨false, false⟩ ⟨.ofNat 1, 2⟩ ⟨.ofNat 2, 1⟩ = true ∧
      InterfaceVersion.less ⟨false, false⟩ ⟨.ofNat 2, 1⟩ ⟨.ofNat 1, 2⟩ = true := by
  decide +kernel

end Csp.Messaging

end CommonSerialization
