import Mathlib.Data.List.Forall2
import Mathlib.Data.Option.Basic

namespace CommonSerialization.Containers.VectorEquality

/-! `Vector::operator==`.  One turn of its loop either ends the call with an answer
or goes on to the next index. -/

def compareValues (equal : α → α → Bool) (lhs rhs : α) : Option Bool :=
  if !equal lhs rhs then some false else none

/-- A turn over pointers; only a null pointer is its own value here, the others
count by what they point to. -/
def comparePointers (equal : α → α → Bool) : Option α → Option α → Option Bool
  | some lhs, some rhs => if !equal lhs rhs then some false else none
  | lhs, rhs => some (lhs.isNone && rhs.isNone)

def compareElements (compare : β → β → Option Bool) : List β → List β → Bool
  | lhs :: lhsRest, rhs :: rhsRest =>
      match compare lhs rhs with
      | some answer => answer
      | none => compareElements compare lhsRest rhsRest
  | _, _ => true

def compareVectors (compare : β → β → Option Bool) (lhs rhs : List β) : Bool :=
  if lhs.length ≠ rhs.length then false
  else compareElements compare lhs rhs

variable {equal : α → α → Bool}

abbrev SamePointers (equal : α → α → Bool) : Option α → Option α → Prop :=
  Option.Rel fun lhs rhs => equal lhs rhs

theorem compareVectors_nil (compare : β → β → Option Bool) :
    compareVectors compare [] [] = true := rfl

theorem compareVectors_cons (compare : β → β → Option Bool)
    (lhs rhs : β) (lhsRest rhsRest : List β) :
    compareVectors compare (lhs :: lhsRest) (rhs :: rhsRest) =
      if lhsRest.length ≠ rhsRest.length then false
      else (compare lhs rhs).getD (compareVectors compare lhsRest rhsRest) := by
  by_cases sized : lhsRest.length = rhsRest.length
  · rw [compareVectors, if_neg (by simp [sized]), if_neg (by simp [sized]),
      compareElements, compareVectors, if_neg (by simp [sized])]
    cases compare lhs rhs <;> rfl
  · rw [compareVectors, if_pos (by simp [sized]), if_pos sized]

theorem compareVectors_lengths {compare : β → β → Option Bool} {lhs rhs : List β}
    (same : compareVectors compare lhs rhs) : lhs.length = rhs.length := by
  by_contra different
  rw [compareVectors, if_pos different] at same
  cases same

theorem compareVectors_values (lhs rhs : List α) :
    compareVectors (compareValues equal) lhs rhs ↔
      List.Forall₂ (fun lhs rhs => equal lhs rhs = true) lhs rhs := by
  induction lhs generalizing rhs with
  | nil =>
      cases rhs with
      | nil => simp [compareVectors_nil]
      | cons rhs rest => simp [compareVectors]
  | cons lhs lhsRest hypothesis =>
      cases rhs with
      | nil => simp [compareVectors]
      | cons rhs rhsRest =>
          rw [compareVectors_cons, List.forall₂_cons, ← hypothesis]
          by_cases sized : lhsRest.length = rhsRest.length
          · cases same : equal lhs rhs <;> simp [sized, compareValues, same]
          · have different : ¬compareVectors (compareValues equal) lhsRest rhsRest :=
              fun same => sized (compareVectors_lengths same)
            simp [sized, different]

theorem compareVectors_values_eq (lawful : ∀ lhs rhs, equal lhs rhs ↔ lhs = rhs)
    (lhs rhs : List α) :
    compareVectors (compareValues equal) lhs rhs ↔ lhs = rhs := by
  have equalities :
      (fun lhs rhs => equal lhs rhs = true) = (Eq : α → α → Prop) := by
    funext lhs rhs
    exact propext (lawful lhs rhs)
  rw [compareVectors_values, equalities, List.forall₂_eq_eq_eq]

/-- A pair of null pointers at one index, nothing different before it and something
different after it. -/
inductive NullsHideDifference (equal : α → α → Bool) :
    List (Option α) → List (Option α) → Prop
  | nulls {lhsRest rhsRest : List (Option α)}
      (sized : lhsRest.length = rhsRest.length)
      (different : ¬List.Forall₂ (SamePointers equal) lhsRest rhsRest) :
      NullsHideDifference equal (none :: lhsRest) (none :: rhsRest)
  | later {lhs rhs : α} {lhsRest rhsRest : List (Option α)}
      (same : equal lhs rhs)
      (hidden : NullsHideDifference equal lhsRest rhsRest) :
      NullsHideDifference equal (some lhs :: lhsRest) (some rhs :: rhsRest)

theorem NullsHideDifference.different {lhs rhs : List (Option α)}
    (hidden : NullsHideDifference equal lhs rhs) :
    ¬List.Forall₂ (SamePointers equal) lhs rhs := by
  induction hidden with
  | nulls _ different =>
      intro same
      exact different (List.forall₂_cons.mp same).2
  | later _ _ hypothesis =>
      intro same
      exact hypothesis (List.forall₂_cons.mp same).2

section Pointers

variable {lhsRest rhsRest : List (Option α)}

@[simp] theorem compare_null_null :
    compareVectors (comparePointers equal) (none :: lhsRest) (none :: rhsRest) =
      decide (lhsRest.length = rhsRest.length) := by
  rw [compareVectors_cons]
  by_cases sized : lhsRest.length = rhsRest.length <;> simp [sized, comparePointers]

@[simp] theorem compare_null_value (rhs : α) :
    compareVectors (comparePointers equal) (none :: lhsRest) (some rhs :: rhsRest) =
      false := by
  rw [compareVectors_cons]
  simp [comparePointers]

@[simp] theorem compare_value_null (lhs : α) :
    compareVectors (comparePointers equal) (some lhs :: lhsRest) (none :: rhsRest) =
      false := by
  rw [compareVectors_cons]
  simp [comparePointers]

@[simp] theorem compare_value_value (lhs rhs : α) :
    compareVectors (comparePointers equal) (some lhs :: lhsRest)
        (some rhs :: rhsRest) =
      (equal lhs rhs && compareVectors (comparePointers equal) lhsRest rhsRest) := by
  rw [compareVectors_cons]
  by_cases sized : lhsRest.length = rhsRest.length
  · cases same : equal lhs rhs <;> simp [sized, comparePointers, same]
  · have different :
        compareVectors (comparePointers equal) lhsRest rhsRest = false := by
      rw [Bool.eq_false_iff]
      intro same
      exact sized (compareVectors_lengths same)
    simp [sized, different]

end Pointers

/-- What the loop over pointers answers. -/
theorem compareVectors_pointers (lhs rhs : List (Option α)) :
    compareVectors (comparePointers equal) lhs rhs ↔
      List.Forall₂ (SamePointers equal) lhs rhs ∨
        NullsHideDifference equal lhs rhs := by
  constructor
  · intro same
    induction lhs generalizing rhs with
    | nil =>
        cases rhs with
        | nil => exact .inl .nil
        | cons rhs rest => cases compareVectors_lengths same
    | cons lhs lhsRest hypothesis =>
        cases rhs with
        | nil => cases compareVectors_lengths same
        | cons rhs rhsRest =>
            match lhs, rhs with
            | none, none =>
                simp only [compare_null_null, decide_eq_true_eq] at same
                by_cases rest : List.Forall₂ (SamePointers equal) lhsRest rhsRest
                · exact .inl (.cons .none rest)
                · exact .inr (.nulls same rest)
            | none, some rhs =>
                rw [compare_null_value] at same
                cases same
            | some lhs, none =>
                rw [compare_value_null] at same
                cases same
            | some lhs, some rhs =>
                rw [compare_value_value, Bool.and_eq_true] at same
                obtain rest | hidden := hypothesis rhsRest same.2
                · exact .inl (.cons (.some same.1) rest)
                · exact .inr (.later same.1 hidden)
  · intro same
    obtain same | hidden := same
    · induction same with
      | nil => rfl
      | cons head rest hypothesis =>
          cases head with
          | none => simpa using rest.length_eq
          | some equality => simp [equality, hypothesis]
    · induction hidden with
      | nulls sized _ => simpa using sized
      | later equality _ hypothesis => simp [equality, hypothesis]

theorem compareVectors_refl (reflexive : ∀ value, equal value value)
    (lhs : List (Option α)) :
    compareVectors (comparePointers equal) lhs lhs := by
  induction lhs with
  | nil => rfl
  | cons head rest hypothesis => cases head <;> simp [reflexive, hypothesis]

theorem compareVectors_symm
    (symmetric : ∀ first second, equal first second → equal second first) :
    ∀ {lhs rhs : List (Option α)},
      compareVectors (comparePointers equal) lhs rhs →
        compareVectors (comparePointers equal) rhs lhs
  | [], [], _ => rfl
  | [], _ :: _, same => nomatch compareVectors_lengths same
  | _ :: _, [], same => nomatch compareVectors_lengths same
  | none :: _, none :: _, same => by
      rw [compare_null_null, decide_eq_true_eq] at same ⊢
      exact same.symm
  | none :: _, some _ :: _, same => by
      rw [compare_null_value] at same
      cases same
  | some _ :: _, none :: _, same => by
      rw [compare_value_null] at same
      cases same
  | some _ :: _, some _ :: _, same => by
      rw [compare_value_value, Bool.and_eq_true] at same ⊢
      exact ⟨symmetric _ _ same.1, compareVectors_symm symmetric same.2⟩

/-- The first null pointers of equal vectors stand at one index, so what they hide is
hidden in all of them. -/
theorem compareVectors_trans
    (transitive : ∀ first second third,
      equal first second → equal second third → equal first third) :
    ∀ {first second third : List (Option α)},
      compareVectors (comparePointers equal) first second →
        compareVectors (comparePointers equal) second third →
          compareVectors (comparePointers equal) first third
  | [], [], _, _, later => later
  | [], _ :: _, _, same, _ => nomatch compareVectors_lengths same
  | _ :: _, [], _, same, _ => nomatch compareVectors_lengths same
  | _ :: _, _ :: _, [], _, later => nomatch compareVectors_lengths later
  | none :: _, none :: _, none :: _, same, later => by
      rw [compare_null_null, decide_eq_true_eq] at same later ⊢
      exact same.trans later
  | none :: _, some _ :: _, _, same, _ => by
      rw [compare_null_value] at same
      cases same
  | some _ :: _, none :: _, _, same, _ => by
      rw [compare_value_null] at same
      cases same
  | _, none :: _, some _ :: _, _, later => by
      rw [compare_null_value] at later
      cases later
  | _, some _ :: _, none :: _, _, later => by
      rw [compare_value_null] at later
      cases later
  | some _ :: _, some _ :: _, some _ :: _, same, later => by
      rw [compare_value_value, Bool.and_eq_true] at same later ⊢
      exact ⟨transitive _ _ _ same.1 later.1,
        compareVectors_trans transitive same.2 later.2⟩

/-- The operator is right about values, and about pointers unless two nulls stand
before the first difference; an equality of the values makes it an equality of pointers. -/
theorem compareVectors_correct (equal : α → α → Bool) :
    (∀ lhs rhs : List α,
      compareVectors (compareValues equal) lhs rhs ↔
        List.Forall₂ (fun lhs rhs => equal lhs rhs = true) lhs rhs) ∧
    (∀ lhs rhs : List (Option α),
      (compareVectors (comparePointers equal) lhs rhs ↔
          List.Forall₂ (SamePointers equal) lhs rhs) ↔
        ¬NullsHideDifference equal lhs rhs) ∧
    (Equivalence (fun first second => equal first second = true) →
      Equivalence (fun lhs rhs : List (Option α) =>
        compareVectors (comparePointers equal) lhs rhs = true)) := by
  refine ⟨compareVectors_values, ?_, ?_⟩
  · intro lhs rhs
    rw [compareVectors_pointers]
    constructor
    · intro right hidden
      exact hidden.different (right.mp (.inr hidden))
    · intro visible
      exact or_iff_left visible
  · intro equality
    refine ⟨compareVectors_refl equality.refl,
      compareVectors_symm fun _ _ => equality.symm, ?_⟩
    have transitive (first second third : α) (same : equal first second)
        (later : equal second third) : equal first third :=
      equality.trans same later
    intro first second third same later
    exact compareVectors_trans transitive same later

/-- Two vectors of pointers to octets that differ behind a null. -/
theorem compareVectors_misled :
    compareVectors (comparePointers fun first second : UInt8 => first == second)
        [none, some 1] [none, some 2] = true ∧
      ¬List.Forall₂ (SamePointers fun first second : UInt8 => first == second)
        [none, some 1] [none, some 2] := by
  refine ⟨by decide, ?_⟩
  intro same
  cases same with
  | cons _ rest =>
      cases rest with
      | cons head _ =>
          cases head with
          | some equality => exact absurd equality (by decide)

end CommonSerialization.Containers.VectorEquality
