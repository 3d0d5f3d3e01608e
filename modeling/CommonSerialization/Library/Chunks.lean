import Mathlib.Data.List.Forall2

namespace CommonSerialization.Chunks

/-! Lists that are put together from pieces of one length. -/

theorem length_flatMap {pieces : List α} {piece : α → List β} {size : Nat}
    (sized : ∀ element ∈ pieces, (piece element).length = size) :
    (pieces.flatMap piece).length = size * pieces.length := by
  induction pieces with
  | nil => simp
  | cons element rest induction =>
      have tail := induction fun other member => sized other (by simp [member])
      simp only [List.flatMap_cons, List.length_append, List.length_cons, tail,
        sized element (by simp), Nat.mul_succ]
      omega

theorem map_eq_map_of_forall₂ {relation : α → β → Prop} {first : List α}
    {second : List β} {left : α → γ} {right : β → γ}
    (related : List.Forall₂ relation first second)
    (equal : ∀ one other, relation one other → right other = left one) :
    second.map right = first.map left := by
  induction related with
  | nil => rfl
  | cons head _ induction =>
      rw [List.map_cons, List.map_cons, equal _ _ head, induction]

/-- The list is determined piece by piece. -/
theorem forall₂_of_flatMap_eq {first : List α} {second : List β}
    {firstPiece : α → List γ} {secondPiece : β → List γ} {size : Nat}
    (firstSized : ∀ element, (firstPiece element).length = size)
    (secondSized : ∀ element, (secondPiece element).length = size)
    (lengths : first.length = second.length)
    (equality : first.flatMap firstPiece = second.flatMap secondPiece) :
    List.Forall₂ (fun left right => firstPiece left = secondPiece right)
      first second := by
  induction first generalizing second with
  | nil =>
      cases second with
      | nil => exact .nil
      | cons => cases lengths
  | cons left rest induction =>
      cases second with
      | nil => cases lengths
      | cons right others =>
          have parts := List.append_inj equality
            (by rw [firstSized, secondSized])
          exact .cons parts.1
            (induction (by simpa using lengths) parts.2)

/-- Consecutive windows cover the beginning of the list. -/
theorem flatMap_windows {window : List γ → α} {piece : α → List γ} {size : Nat}
    (covers : ∀ octets : List γ, size ≤ octets.length →
      piece (window octets) = octets.take size)
    (count : Nat) (octets : List γ) (enough : size * count ≤ octets.length) :
    ((List.range count).map fun index =>
      window (octets.drop (size * index))).flatMap piece =
        octets.take (size * count) := by
  induction count generalizing octets with
  | zero => simp
  | succ count induction =>
      have split : size * (count + 1) = size + size * count := by
        rw [Nat.mul_succ, Nat.add_comm]
      have tail := induction (octets.drop size) (by
        rw [List.length_drop]
        omega)
      rw [List.range_succ_eq_map, List.map_cons, List.flatMap_cons,
        Nat.mul_zero, List.drop_zero, covers octets (by omega), List.map_map,
        split, List.take_add]
      congr 1
      rw [← tail]
      congr 1
      apply List.map_congr_left
      intro index _
      simp only [Function.comp, List.drop_drop, Nat.mul_succ, Nat.add_comm]

end CommonSerialization.Chunks
