import Mathlib.Data.List.Basic

namespace CommonSerialization.Sequences

/-! What a growable array is for: a sequence that is changed in a few ways. -/

/-- The ways.  After `resize` the new elements can be any, and after `cut` so can be all
that follows. -/
inductive Action (β : Type)
  | keep
  | clear
  | resize (n : Nat)
  | assign (values : List β)
  | append (values : List β)
  | splice (offset n : Nat) (values : List β)
  | cut (k : Nat)

variable {β : Type} {list after values rest : List β} {action : Action β} {offset n k : Nat}

inductive Step : List β → Action β → List β → Prop
  | keep {list : List β} : Step list .keep list
  | clear {list : List β} : Step list .clear []
  | resize {list more : List β} {n : Nat} (length : more.length = n - list.length) :
      Step list (.resize n) (list.take n ++ more)
  | assign {list values : List β} : Step list (.assign values) values
  | append {list values : List β} : Step list (.append values) (list ++ values)
  | splice {list values : List β} {offset n : Nat} :
      Step list (.splice offset n values) (list.take offset ++ values ++ list.drop (offset + n))
  | cut {list rest : List β} {k : Nat} : Step list (.cut k) (list.take k ++ rest)

theorem Step.cut_keep : Step list (.cut k) list := by
  have step : Step list (.cut k) (list.take k ++ list.drop k) := .cut
  rwa [List.take_append_drop] at step

end CommonSerialization.Sequences
