import Mathlib.Logic.Basic

namespace CommonSerialization.Transitions

/-! Runs of a transition system whose steps meet a condition. -/

variable {σ τ α : Type} (step : σ → α → σ → Prop)

/-- The states of the runs from `start` each of whose steps meets the
condition on the state before it and the action. -/
inductive Reaches (meets : σ → α → Prop) (start : σ) : σ → Prop
  | start : Reaches meets start start
  | next {state next : σ} {action : α} (reached : Reaches meets start state)
      (met : meets state action) (stepped : step state action next) :
      Reaches meets start next

variable {step}

/-- What holds at the start and is kept by every such step holds in every
state that is reached. -/
theorem Reaches.invariant {meets : σ → α → Prop} {start : σ}
    {holds : σ → Prop} (initially : holds start)
    (kept : ∀ {state action next}, holds state → meets state action →
      step state action next → holds next)
    {state : σ} (reached : Reaches step meets start state) : holds state := by
  induction reached with
  | start => exact initially
  | next _ met stepped induction => exact kept induction met stepped

/-- An invariant whose steps rest on another one. -/
theorem Reaches.invariant_of_known {meets : σ → α → Prop} {start : σ}
    {known holds : σ → Prop}
    (always : ∀ {state}, Reaches step meets start state → known state)
    (initially : holds start)
    (kept : ∀ {state action next}, known state → holds state →
      meets state action → step state action next → holds next)
    {state : σ} (reached : Reaches step meets start state) : holds state := by
  induction reached with
  | start => exact initially
  | next reached met stepped induction =>
      exact kept (always reached) induction met stepped

theorem Reaches.weaken {meets weaker : σ → α → Prop} {start state : σ}
    (reached : Reaches step meets start state)
    (implies : ∀ state action, meets state action → weaker state action) :
    Reaches step weaker start state := by
  induction reached with
  | start => exact .start
  | next _ met stepped induction =>
      exact .next induction (implies _ _ met) stepped

/-- Runs, with what has been done in them. -/
inductive Runs (step : σ → α → σ → Prop) (start : σ) : List α → σ → Prop
  | start : Runs step start [] start
  | next {actions : List α} {state next : σ} {action : α}
      (ran : Runs step start actions state) (stepped : step state action next) :
      Runs step start (actions ++ [action]) next

/-- If every step is one of a specification, by what the states stand for, then every
run is one of it. -/
theorem Runs.simulated {spec : τ → α → τ → Prop} {holds : σ → Prop} (meaning : σ → τ)
    {start state : σ} {actions : List α} (initially : holds start)
    (simulates : ∀ {state action next}, holds state → step state action next →
      holds next ∧ spec (meaning state) action (meaning next))
    (ran : Runs step start actions state) :
    holds state ∧ Runs spec (meaning start) actions (meaning state) := by
  induction ran with
  | start => exact ⟨initially, .start⟩
  | next _ stepped induction =>
      obtain ⟨known, before⟩ := induction
      obtain ⟨kept, last⟩ := simulates known stepped
      exact ⟨kept, before.next last⟩

end CommonSerialization.Transitions
