import Mathlib.Data.List.Basic
import Mathlib.Logic.Function.Basic

namespace CommonSerialization.Storage

/-! Storage as slots of one size, what happens to a slot, and ranges of slots. -/

/-- What an address is good for: it belongs to no storage, to storage without an
object, or to an object. -/
inductive Slot (α : Type)
  | unmapped
  | vacant
  | object (value : α)
  deriving DecidableEq

namespace Slot

def mapped : Slot α → Bool
  | unmapped => false
  | _ => true

def holds : Slot α → Bool
  | object _ => true
  | _ => false

def value? : Slot α → Option α
  | object value => some value
  | _ => none

def ofValue : Option α → Slot α
  | some value => object value
  | none => vacant

def map (change : α → α) : Slot α → Slot α
  | object value => object (change value)
  | slot => slot

@[simp] theorem ofValue_some (value : α) : ofValue (some value) = object value := rfl

@[simp] theorem mapped_object (value : α) : (object value).mapped = true := rfl

@[simp] theorem mapped_vacant : (vacant : Slot α).mapped = true := rfl

@[simp] theorem mapped_unmapped : (unmapped : Slot α).mapped = false := rfl

@[simp] theorem holds_object (value : α) : (object value).holds = true := rfl

@[simp] theorem holds_vacant : (vacant : Slot α).holds = false := rfl

theorem vacant_of_free {slot : Slot α} (mapped : slot.mapped) (free : slot.holds = false) :
    slot = vacant := by
  cases slot with
  | unmapped => cases mapped
  | vacant => rfl
  | object value => cases free

@[simp] theorem value?_object (value : α) : (object value).value? = some value := rfl

@[simp] theorem mapped_ofValue (value : Option α) : (ofValue value).mapped = true := by
  cases value <;> rfl

@[simp] theorem mapped_map (change : α → α) (slot : Slot α) :
    (slot.map change).mapped = slot.mapped := by
  cases slot <;> rfl

@[simp] theorem holds_map (change : α → α) (slot : Slot α) :
    (slot.map change).holds = slot.holds := by
  cases slot <;> rfl

theorem mapped_of_holds {slot : Slot α} (holds : slot.holds) : slot.mapped := by
  cases slot <;> first | rfl | cases holds

theorem exists_of_holds {slot : Slot α} (holds : slot.holds) :
    ∃ value, slot = object value := by
  cases slot with
  | object value => exact ⟨value, rfl⟩
  | unmapped => cases holds
  | vacant => cases holds

end Slot

/-- The first two are of octets, the others of objects. -/
inductive Action
  | read
  | written
  | taken
  | constructed
  | refused
  | destroyed
  | forgotten
  deriving DecidableEq

/-- An action on a slot, and whether the slot held an object then. -/
structure Event where
  action : Action
  address : Nat
  held : Bool
  deriving DecidableEq

/-- Objects are made where none is, used and destroyed where one is, and never lost
with their storage. -/
def Event.proper (event : Event) : Bool :=
  match event.action with
  | .read | .written => true
  | .taken | .destroyed => event.held
  | .constructed | .refused => !event.held
  | .forgotten => false

def Within (base n address : Nat) : Prop :=
  base ≤ address ∧ address < base + n

instance (base n address : Nat) : Decidable (Within base n address) :=
  inferInstanceAs (Decidable (_ ∧ _))

def Apart (first firstN second secondN : Nat) : Prop :=
  ∀ address, Within first firstN address → ¬Within second secondN address

section Addresses

variable {first firstN second secondN m k p q : Nat}

theorem Apart.within
    (apart : Apart first firstN second secondN)
    (inside : ∀ address, Within p m address → Within first firstN address)
    (insideOther : ∀ address, Within q k address → Within second secondN address) :
    Apart p m q k :=
  fun address within other =>
    apart address (inside address within) (insideOther address other)

theorem Apart.sides (apart : Apart p k q k) : p < q ∨ q + k ≤ p := by
  by_cases none : k = 0
  · omega
  · have first := apart p
    have second := apart q
    unfold Within at first second
    omega

theorem within_offset {base offset m room address : Nat} (bound : offset + m ≤ room)
    (inside : Within (base + offset) m address) : Within base room address := by
  unfold Within at inside ⊢
  omega

end Addresses

theorem within_one {base address : Nat} : Within base 1 address ↔ address = base := by
  unfold Within
  omega

section Ranges

variable (slots : Nat → Slot α) (base n : Nat)

def Holds (values : List α) : Prop :=
  ∀ index (bound : index < values.length), slots (base + index) = .object values[index]

def Objects : Prop := ∀ index < n, (slots (base + index)).holds

def Vacant : Prop := ∀ index < n, slots (base + index) = .vacant

def Mapped : Prop := ∀ index < n, (slots (base + index)).mapped

end Ranges

variable {slots after : Nat → Slot α} {base n : Nat}

theorem Objects.mapped (objects : Objects slots base n) : Mapped slots base n :=
  fun index bound => Slot.mapped_of_holds (objects index bound)

theorem Vacant.mapped (vacant : Vacant slots base n) : Mapped slots base n := by
  intro index bound
  rw [vacant index bound]
  rfl

theorem Holds.nil : Holds slots base ([] : List α) := by
  intro index bound
  exact absurd bound (Nat.not_lt_zero index)

section Stretches

variable {slots after : Nat → Slot α} {base other offset n m k : Nat}

def stretch (slots : Nat → Slot α) (base n : Nat) : List (Slot α) :=
  (List.range n).map fun index => slots (base + index)

@[simp] theorem length_stretch : (stretch slots base n).length = n := by
  simp [stretch]

theorem getElem_stretch {index : Nat} (bound : index < (stretch slots base n).length) :
    (stretch slots base n)[index] = slots (base + index) := by
  simp [stretch]

theorem getElem_of_stretch {list : List (Slot α)}
    (same : stretch slots base list.length = list) {index : Nat}
    (inside : index < list.length) : slots (base + index) = list[index] := by
  have bound : index < (stretch slots base list.length).length := by rwa [length_stretch]
  rw [← getElem_stretch bound]
  exact List.getElem_of_eq same bound

theorem stretch_eq_iff :
    stretch after base n = stretch slots other n ↔
      ∀ index < n, after (base + index) = slots (other + index) := by
  unfold stretch
  rw [List.map_inj_left]
  simp only [List.mem_range]

theorem stretch_add :
    stretch slots base (n + m) = stretch slots base n ++ stretch slots (base + n) m := by
  unfold stretch
  rw [List.range_add, List.map_append, List.map_map]
  congr 1
  apply List.map_congr_left
  intro index _
  exact congrArg slots (Nat.add_assoc base n index).symm

theorem take_stretch (bound : k ≤ n) :
    (stretch slots base n).take k = stretch slots base k := by
  obtain ⟨rest, rfl⟩ := Nat.exists_eq_add_of_le bound
  rw [stretch_add]
  exact List.take_left' length_stretch

theorem drop_stretch (bound : k ≤ n) :
    (stretch slots base n).drop k = stretch slots (base + k) (n - k) := by
  obtain ⟨rest, rfl⟩ := Nat.exists_eq_add_of_le bound
  rw [stretch_add, Nat.add_sub_cancel_left]
  exact List.drop_left' length_stretch

theorem drop_stretch_of_le (bound : n ≤ k) : (stretch slots base n).drop k = [] :=
  List.drop_eq_nil_of_le (by rwa [length_stretch])

theorem holds_of_mem_stretch (objects : Objects slots base n) :
    ∀ slot ∈ stretch slots base n, slot.holds := by
  intro slot member
  obtain ⟨index, inside, same⟩ := List.mem_map.mp member
  rw [← same]
  exact objects index (List.mem_range.mp inside)

/-- A range in which something has taken the place of the elements from an offset to
another one. -/
theorem stretch_splice {size k : Nat} {middle : List (Slot α)} (bound : offset ≤ size)
    (first : ∀ index < offset, after (base + index) = slots (base + index))
    (inserted : stretch after (base + offset) n = middle)
    (rest : ∀ index < size - k,
      after (base + (offset + n) + index) = slots (base + k + index)) :
    stretch after base (offset + n + (size - k)) =
      (stretch slots base size).take offset ++ middle ++ (stretch slots base size).drop k := by
  rw [stretch_add, stretch_add, take_stretch bound, inserted, stretch_eq_iff.mpr first,
    stretch_eq_iff.mpr rest]
  congr 1
  obtain inside | past := Nat.le_total k size
  · exact (drop_stretch inside).symm
  · rw [drop_stretch_of_le past, Nat.sub_eq_zero_of_le past]
    rfl

theorem Holds.stretch {values : List α} (holds : Holds slots base values) :
    stretch slots base values.length = values.map Slot.object := by
  apply List.ext_getElem
  · rw [length_stretch, List.length_map]
  · intro index bound _
    rw [getElem_stretch, List.getElem_map]
    exact holds index (by rwa [length_stretch] at bound)

end Stretches

/-- A log has grown by entries that are all allowed; the latest is in front. -/
def Grown (allowed : ε → Prop) (before after : List ε) : Prop :=
  ∃ entries, after = entries ++ before ∧ ∀ entry ∈ entries, allowed entry

namespace Grown

variable {allowed weaker : ε → Prop} {first second third : List ε}

theorem refl (log : List ε) : Grown allowed log log :=
  ⟨[], rfl, fun _ none => absurd none List.not_mem_nil⟩

theorem trans (grown : Grown allowed first second) (grownAgain : Grown allowed second third) :
    Grown allowed first third := by
  obtain ⟨early, same, fine⟩ := grown
  obtain ⟨late, sameLater, fineLater⟩ := grownAgain
  refine ⟨late ++ early, by rw [sameLater, same, List.append_assoc], ?_⟩
  intro entry member
  obtain inLate | inEarly := List.mem_append.mp member
  · exact fineLater entry inLate
  · exact fine entry inEarly

theorem weaken (grown : Grown allowed first second)
    (implies : ∀ entry, allowed entry → weaker entry) : Grown weaker first second := by
  obtain ⟨entries, same, fine⟩ := grown
  exact ⟨entries, same, fun entry member => implies entry (fine entry member)⟩

theorem cons (log : List ε) {entry : ε} (fine : allowed entry) :
    Grown allowed log (entry :: log) := by
  refine ⟨[entry], rfl, ?_⟩
  intro other member
  rw [List.mem_singleton] at member
  rw [member]
  exact fine

end Grown

end CommonSerialization.Storage
