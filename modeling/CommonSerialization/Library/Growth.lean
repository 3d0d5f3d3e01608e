import Mathlib.Data.List.Basic

namespace CommonSerialization.Growth

/-! An array that takes one element after another and asks for more space when it is full. -/

section Requests

variable (granted : Nat → Nat)

/-- What is asked for until some more elements have come, if every request is granted. -/
def requests : Nat → Nat → Nat → List Nat
  | 0, _, _ => []
  | rest + 1, size, capacity =>
      if size < capacity then
        requests rest (size + 1) capacity
      else
        (size + 1) :: requests rest (size + 1) (granted (size + 1))

def capacityAfter : Nat → Nat → Nat → Nat
  | 0, _, capacity => capacity
  | rest + 1, size, capacity =>
      if size < capacity then
        capacityAfter rest (size + 1) capacity
      else
        capacityAfter rest (size + 1) (granted (size + 1))

end Requests

section Supplied

/-- A request for room, or none where there is enough. -/
structure Regrown (grows : Nat → Prop) (needed capacity after : Nat) : Prop where
  asked : capacity < needed → grows after
  enough : needed ≤ capacity → after = capacity

/-- Whatever an answer allows, the requests until some more elements have come fit, and
something holds of the capacity then. -/
def Supplied (fits : Nat → Prop) (grows : Nat → Nat → Prop) (last : Nat → Prop) :
    Nat → Nat → Nat → Prop
  | 0, _, capacity => last capacity
  | rest + 1, size, capacity =>
      (size < capacity → Supplied fits grows last rest (size + 1) capacity) ∧
        (capacity ≤ size → fits (size + 1) ∧ ∀ n, grows (size + 1) n → size + 1 ≤ n →
          Supplied fits grows last rest (size + 1) n)

variable {fits : Nat → Prop} {grows : Nat → Nat → Prop} {last : Nat → Prop}
  {granted : Nat → Nat} {rest size capacity : Nat}

theorem Supplied.request (supplied : Supplied fits grows last (rest + 1) size capacity)
    (full : capacity < size + 1) : fits (size + 1) :=
  (supplied.2 (Nat.le_of_lt_succ full)).1

theorem Supplied.step {after : Nat}
    (supplied : Supplied fits grows last (rest + 1) size capacity)
    (regrown : Regrown (grows (size + 1)) (size + 1) capacity after) (enough : size + 1 ≤ after) :
    Supplied fits grows last rest (size + 1) after := by
  by_cases room : size < capacity
  · rw [regrown.enough room]
    exact supplied.1 room
  · exact (supplied.2 (Nat.not_lt.mp room)).2 after (regrown.asked (by omega)) enough

theorem Supplied.grown {n : Nat}
    (supplied : Supplied fits grows last (rest + 1) size capacity) (full : capacity ≤ size)
    (grown : grows (size + 1) n) (enough : size + 1 ≤ n) :
    Supplied fits grows last (rest + 1) size n := by
  have next := (supplied.2 full).2 n grown enough
  exact ⟨fun _ => next, fun short => absurd enough (by omega)⟩

theorem Supplied.of_all
    (all : ∀ needed, capacity < needed → needed ≤ size + rest → fits needed)
    (ends : ∀ n, capacity ≤ n → last n) : Supplied fits grows last rest size capacity := by
  induction rest generalizing size capacity with
  | zero => exact ends capacity (Nat.le_refl capacity)
  | succ rest hypothesis =>
      constructor
      · intro _
        apply hypothesis _ ends
        intro needed lower upper
        exact all needed lower (by omega)
      · intro full
        refine ⟨all _ (by omega) (by omega), fun n _ enough => ?_⟩
        apply hypothesis
        · intro needed lower upper
          exact all needed (by omega) (by omega)
        · exact fun n more => ends n (by omega)

theorem Supplied.of_requests
    (all : ∀ needed ∈ requests granted rest size capacity, fits needed)
    (exactly : ∀ needed n, grows needed n → n = granted needed)
    (ends : last (capacityAfter granted rest size capacity)) :
    Supplied fits grows last rest size capacity := by
  induction rest generalizing size capacity with
  | zero => exact ends
  | succ rest hypothesis =>
      unfold requests at all
      unfold capacityAfter at ends
      constructor
      · intro room
        rw [if_pos room] at all ends
        exact hypothesis all ends
      · intro full
        rw [if_neg (Nat.not_lt.mpr full)] at all ends
        refine ⟨all _ List.mem_cons_self, fun n grown _ => ?_⟩
        rw [exactly _ n grown]
        exact hypothesis (fun needed member => all needed (List.mem_cons_of_mem _ member)) ends

end Supplied

section Met

/-- All requests fit that are made until some more elements have come, and this is the
capacity they lead to. -/
structure Met (granted : Nat → Nat) (fits : Nat → Prop) (rest size capacity last : Nat) :
    Prop where
  fit : ∀ needed ∈ requests granted rest size capacity, fits needed
  capacity : last = capacityAfter granted rest size capacity

variable {granted : Nat → Nat} {fits : Nat → Prop} {rest size capacity last : Nat}

theorem Met.nothing : Met granted fits 0 size capacity capacity :=
  ⟨fun _ none => absurd none List.not_mem_nil, rfl⟩

theorem Met.room (room : size < capacity)
    (later : Met granted fits rest (size + 1) capacity last) :
    Met granted fits (rest + 1) size capacity last := by
  constructor
  · rw [requests, if_pos room]
    exact later.fit
  · rw [capacityAfter, if_pos room]
    exact later.capacity

theorem Met.full (full : capacity ≤ size) (fit : fits (size + 1))
    (later : Met granted fits rest (size + 1) (granted (size + 1)) last) :
    Met granted fits (rest + 1) size capacity last := by
  constructor
  · rw [requests, if_neg (Nat.not_lt.mpr full)]
    intro needed member
    obtain same | member := List.mem_cons.mp member
    · rw [same]
      exact fit
    · exact later.fit needed member
  · rw [capacityAfter, if_neg (Nat.not_lt.mpr full)]
    exact later.capacity

theorem Met.step {after : Nat}
    (regrown : Regrown (fun n => fits (size + 1) ∧ n = granted (size + 1)) (size + 1)
      capacity after)
    (later : Met granted fits rest (size + 1) after last) :
    Met granted fits (rest + 1) size capacity last := by
  obtain room | full := Nat.lt_or_ge size capacity
  · rw [regrown.enough room] at later
    exact later.room room
  · obtain ⟨fit, isGranted⟩ := regrown.asked (Nat.lt_succ_of_le full)
    rw [isGranted] at later
    exact later.full full fit

theorem Met.grown (full : capacity ≤ size) (fit : fits (size + 1))
    (enough : size < granted (size + 1))
    (later : Met granted fits (rest + 1) size (granted (size + 1)) last) :
    Met granted fits (rest + 1) size capacity last := by
  obtain ⟨fitLater, isLast⟩ := later
  rw [requests, if_pos enough] at fitLater
  rw [capacityAfter, if_pos enough] at isLast
  exact Met.full full fit ⟨fitLater, isLast⟩

end Met

end CommonSerialization.Growth
