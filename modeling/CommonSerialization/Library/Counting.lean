import Mathlib.Algebra.BigOperators.Group.List.Basic
import Mathlib.Algebra.GroupWithZero.Nat
import Mathlib.Data.List.Count

namespace CommonSerialization.Counting

/-! Occurrences in a list: the first one, and sums over the values that are
counted. -/

theorem find?_filter_of_kept {list : List α} {chosen kept : α → Bool}
    {element : α} (found : list.find? chosen = some element)
    (isKept : kept element) : (list.filter kept).find? chosen = some element := by
  obtain ⟨isChosen, earlier, later, rfl, others⟩ :=
    List.find?_eq_some_iff_append.mp found
  have none : (earlier.filter kept).find? chosen = none := by
    rw [List.find?_eq_none]
    intro other member
    simpa using others other (List.mem_of_mem_filter member)
  rw [List.filter_append, List.filter_cons_of_pos isKept, List.find?_append, none,
    List.find?_cons_of_pos isChosen, Option.none_or]

variable [DecidableEq α]

theorem countP_contains_cons {value : α} {values : List α}
    (fresh : value ∉ values) (list : List α) :
    list.countP (fun element => (value :: values).contains element) =
      list.count value + list.countP fun element => values.contains element := by
  induction list with
  | nil => rfl
  | cons element rest induction =>
      simp only [List.countP_cons, List.count_cons, induction]
      by_cases same : element = value
      · subst same
        simp [fresh]
        omega
      · by_cases member : element ∈ values <;> simp [same, member]
        omega

theorem sum_map_count {values : List α} (distinct : values.Nodup)
    (list : List α) :
    (values.map fun value => list.count value).sum =
      list.countP fun element => values.contains element := by
  induction values with
  | nil => simp
  | cons value rest induction =>
      obtain ⟨fresh, distinct⟩ := List.nodup_cons.mp distinct
      rw [countP_contains_cons fresh, List.map_cons, List.sum_cons,
        induction distinct]

theorem countP_erase_add {element : α} {list : List α} (member : element ∈ list)
    (chosen : α → Bool) :
    (list.erase element).countP chosen + (if chosen element then 1 else 0) =
      list.countP chosen := by
  rw [(List.perm_cons_erase member).countP_eq chosen, List.countP_cons]

end CommonSerialization.Counting
