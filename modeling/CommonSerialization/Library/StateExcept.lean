import Mathlib.Logic.Basic

namespace CommonSerialization.StateExcept

/-! Inversion and evaluation of computations that keep their state when they
fail. -/

theorem bind_of_ok {first : EStateM ε σ α} {next : α → EStateM ε σ β}
    {state middle : σ} {value : α} (ran : first state = .ok value middle) :
    (first >>= next) state = next value middle := by
  simp only [bind, EStateM.bind, ran]

theorem bind_of_error {first : EStateM ε σ α} {next : α → EStateM ε σ β}
    {state middle : σ} {fault : ε} (ran : first state = .error fault middle) :
    (first >>= next) state = .error fault middle := by
  simp only [bind, EStateM.bind, ran]

theorem bind_eq_ok {first : EStateM ε σ α} {next : α → EStateM ε σ β}
    {state final : σ} {result : β}
    (ran : (first >>= next) state = .ok result final) :
    ∃ value middle, first state = .ok value middle ∧
      next value middle = .ok result final := by
  simp only [bind, EStateM.bind] at ran
  cases outcome : first state with
  | ok value middle =>
      rw [outcome] at ran
      exact ⟨value, middle, rfl, ran⟩
  | error fault middle =>
      rw [outcome] at ran
      cases ran

theorem except_bind_eq_ok {first : Except ε α} {next : α → Except ε β} {result : β} :
    (first >>= next) = .ok result ↔ ∃ value, first = .ok value ∧ next value = .ok result := by
  cases first with
  | ok value =>
      constructor
      · intro ran
        exact ⟨value, rfl, ran⟩
      · rintro ⟨_, same, ran⟩
        cases same
        exact ran
  | error fault =>
      constructor
      · intro ran
        cases ran
      · rintro ⟨_, same, _⟩
        cases same

@[simp] theorem pure_apply (value : α) (state : σ) :
    (pure value : EStateM ε σ α) state = .ok value state := rfl

@[simp] theorem throw_apply (fault : ε) (state : σ) :
    (throw fault : EStateM ε σ α) state = .error fault state := rfl

@[simp] theorem get_apply (state : σ) :
    (get : EStateM ε σ σ) state = .ok state state := rfl

@[simp] theorem set_apply (next state : σ) :
    (set next : EStateM ε σ PUnit) state = .ok PUnit.unit next := rfl

@[simp] theorem modify_apply (change : σ → σ) (state : σ) :
    (modify change : EStateM ε σ PUnit) state =
      .ok PUnit.unit (change state) := rfl

section Final

/-- The state in which a computation ends, whether it fails or not. -/
def final : EStateM.Result ε σ α → σ
  | .ok _ state => state
  | .error _ state => state

@[simp] theorem final_ok (value : α) (state : σ) :
    final (.ok value state : EStateM.Result ε σ α) = state := rfl

@[simp] theorem final_error (fault : ε) (state : σ) :
    final (.error fault state : EStateM.Result ε σ α) = state := rfl

end Final

section Ended

/-- Where a computation may end: with a value, or with a fault. -/
def Ended (good : α → σ → Prop) (bad : ε → σ → Prop) : EStateM.Result ε σ α → Prop
  | .ok value after => good value after
  | .error fault after => bad fault after

namespace Ended

variable {good weaker : α → σ → Prop} {bad worse : ε → σ → Prop}

theorem weaken {result : EStateM.Result ε σ α} (ended : Ended good bad result)
    (implies : ∀ value after, good value after → weaker value after)
    (impliesBad : ∀ fault after, bad fault after → worse fault after) :
    Ended weaker worse result := by
  cases result with
  | ok value after => exact implies value after ended
  | error fault after => exact impliesBad fault after ended

theorem bind {first : EStateM ε σ α} {next : α → EStateM ε σ β} {state : σ}
    {last : β → σ → Prop} (ended : Ended good bad (first state))
    (nextEnded : ∀ value middle, good value middle →
      Ended last bad (next value middle)) :
    Ended last bad ((first >>= next) state) := by
  cases ran : first state with
  | ok value middle =>
      rw [bind_of_ok ran]
      rw [ran] at ended
      exact nextEnded value middle ended
  | error fault middle =>
      rw [bind_of_error ran]
      rw [ran] at ended
      exact ended

theorem both {other : α → σ → Prop} {otherBad : ε → σ → Prop}
    {result : EStateM.Result ε σ α} (first : Ended good bad result)
    (second : Ended other otherBad result) :
    Ended (fun value after => good value after ∧ other value after)
      (fun fault after => bad fault after ∧ otherBad fault after) result := by
  cases result with
  | ok value after => exact ⟨first, second⟩
  | error fault after => exact ⟨first, second⟩

/-- What is known of the run itself may be used too. -/
theorem ran {result : EStateM.Result ε σ α} (ended : Ended good bad result) :
    Ended (fun value after => good value after ∧ result = .ok value after)
      (fun fault after => bad fault after ∧ result = .error fault after) result := by
  cases result with
  | ok value after => exact ⟨ended, rfl⟩
  | error fault after => exact ⟨ended, rfl⟩

end Ended

end Ended

section Conditions

/-- A statement of a sequence that is made under a condition. -/
def onlyIf (condition : Prop) [Decidable condition] (proc : EStateM ε σ Unit) :
    EStateM ε σ Unit :=
  if condition then proc else return ()

variable {condition : Prop} [Decidable condition] {proc : EStateM ε σ Unit}

theorem onlyIf_pos (holds : condition) : onlyIf condition proc = proc :=
  if_pos holds

theorem onlyIf_neg (fails : ¬condition) : onlyIf condition proc = return () :=
  if_neg fails

theorem Ended.onlyIf {good : Unit → σ → Prop} {bad : ε → σ → Prop} {state : σ}
    (ended : condition → Ended good bad (proc state))
    (skipped : ¬condition → good () state) :
    Ended good bad (onlyIf condition proc state) := by
  by_cases holds : condition
  · rw [onlyIf_pos holds]
    exact ended holds
  · rw [onlyIf_neg holds]
    exact skipped holds

end Conditions

section Parts

def onPart (part : σ → τ) (update : τ → σ → σ) (proc : EStateM ε τ α) :
    EStateM ε σ α := fun state =>
  match proc (part state) with
  | .ok value after => .ok value (update after state)
  | .error fault after => .error fault (update after state)

variable {part : σ → τ} {update : τ → σ → σ} {proc : EStateM ε τ α} {state : σ}
  {after : τ}

theorem onPart_of_ok {value : α} (ran : proc (part state) = .ok value after) :
    onPart part update proc state = .ok value (update after state) := by
  unfold onPart
  rw [ran]

theorem onPart_of_error {fault : ε} (ran : proc (part state) = .error fault after) :
    onPart part update proc state = .error fault (update after state) := by
  unfold onPart
  rw [ran]

theorem onPart_eq_ok {value : α} {last : σ}
    (ran : onPart part update proc state = .ok value last) :
    ∃ after, proc (part state) = .ok value after ∧ last = update after state := by
  unfold onPart at ran
  split at ran
  · rename_i ranPart
    cases ran
    exact ⟨_, ranPart, rfl⟩
  · cases ran

theorem Ended.onPart {good : α → τ → Prop} {bad : ε → τ → Prop}
    {goodAfter : α → σ → Prop} {badAfter : ε → σ → Prop}
    (ended : Ended good bad (proc (part state)))
    (implies : ∀ value after, good value after → goodAfter value (update after state))
    (impliesBad : ∀ fault after, bad fault after → badAfter fault (update after state)) :
    Ended goodAfter badAfter (onPart part update proc state) := by
  cases ran : proc (part state) with
  | ok value after =>
      rw [onPart_of_ok ran]
      rw [ran] at ended
      exact implies value after ended
  | error fault after =>
      rw [onPart_of_error ran]
      rw [ran] at ended
      exact impliesBad fault after ended

end Parts

section Moved

/-- However the computation ends, its state is related to the one before. -/
def Moves (related : σ → σ → Prop) (proc : EStateM ε σ α) : Prop :=
  ∀ state, related state (final (proc state))

namespace Moves

variable {related : σ → σ → Prop}

theorem pure (refl : ∀ state, related state state) (value : α) :
    Moves related (Pure.pure value : EStateM ε σ α) := refl

theorem throw (refl : ∀ state, related state state) (fault : ε) :
    Moves related (throw fault : EStateM ε σ α) := refl

theorem modify {change : σ → σ} (moved : ∀ state, related state (change state)) :
    Moves related (modify change : EStateM ε σ PUnit) := moved

/-- What comes next may rely on what has been kept. -/
theorem bind_at
    (trans : ∀ before middle after, related before middle → related middle after →
      related before after)
    {first : EStateM ε σ α} {next : α → EStateM ε σ β} {state : σ}
    (moved : related state (final (first state)))
    (later : ∀ value middle, related state middle → related middle (final (next value middle))) :
    related state (final ((first >>= next) state)) := by
  cases ran : first state with
  | ok value middle =>
      rw [ran] at moved
      rw [bind_of_ok ran]
      exact trans _ _ _ moved (later value middle moved)
  | error fault middle =>
      rw [ran] at moved
      rw [bind_of_error ran]
      exact moved

theorem bind_final (refl : ∀ state, related state state)
    {first : EStateM ε σ α} {next : α → EStateM ε σ β} {state : σ}
    (later : ∀ value, Moves related (next value)) :
    related (final (first state)) (final ((first >>= next) state)) := by
  cases ran : first state with
  | ok value middle =>
      rw [bind_of_ok ran]
      exact later value middle
  | error fault middle =>
      rw [bind_of_error ran]
      exact refl middle

theorem bind
    (trans : ∀ before middle after, related before middle → related middle after →
      related before after)
    {first : EStateM ε σ α} {next : α → EStateM ε σ β}
    (moves : Moves related first) (later : ∀ value, Moves related (next value)) :
    Moves related (first >>= next) :=
  fun state => bind_at trans (moves state) fun value middle _ => later value middle

theorem get_bind {next : σ → EStateM ε σ β}
    (later : ∀ state, related state (final (next state state))) :
    Moves related (get >>= next) := later

theorem ite {condition : Prop} [Decidable condition] {first second : EStateM ε σ α}
    (yes : condition → Moves related first) (no : ¬condition → Moves related second) :
    Moves related (if condition then first else second) := by
  by_cases holds : condition
  · rw [if_pos holds]
    exact yes holds
  · rw [if_neg holds]
    exact no holds

theorem onlyIf (refl : ∀ state, related state state) {condition : Prop}
    [Decidable condition] {proc : EStateM ε σ Unit} (moves : condition → Moves related proc) :
    Moves related (onlyIf condition proc) :=
  ite moves fun _ => pure refl ()

theorem onPart {part : σ → ρ} {update : ρ → σ → σ} {proc : EStateM ε ρ α}
    (moved : ∀ state, related state (update (final (proc (part state))) state)) :
    Moves related (onPart part update proc) := by
  intro state
  have after := moved state
  cases ran : proc (part state) with
  | ok value last =>
      rw [ran] at after
      rw [onPart_of_ok ran]
      exact after
  | error fault last =>
      rw [ran] at after
      rw [onPart_of_error ran]
      exact after

theorem ended {proc : EStateM ε σ α} (moves : Moves related proc) (state : σ) :
    Ended (fun _ after => related state after) (fun _ after => related state after)
      (proc state) := by
  have moved := moves state
  cases ran : proc state with
  | ok value after =>
      rw [ran] at moved
      exact moved
  | error fault after =>
      rw [ran] at moved
      exact moved

end Moves

end Moved

section Preserved

/-- A view of the state is the same afterwards, however the computation ends. -/
def Preserves (view : σ → τ) (proc : EStateM ε σ α) : Prop :=
  Moves (fun before after => view after = view before) proc

namespace Preserves

variable {view : σ → τ}

theorem pure (value : α) : Preserves view (Pure.pure value : EStateM ε σ α) :=
  Moves.pure (fun state => Eq.refl (view state)) value

theorem throw (fault : ε) : Preserves view (throw fault : EStateM ε σ α) :=
  Moves.throw (fun state => Eq.refl (view state)) fault

theorem modify {change : σ → σ} (same : ∀ state, view (change state) = view state) :
    Preserves view (modify change : EStateM ε σ PUnit) :=
  Moves.modify same

theorem bind {first : EStateM ε σ α} {next : α → EStateM ε σ β}
    (preserved : Preserves view first) (later : ∀ value, Preserves view (next value)) :
    Preserves view (first >>= next) :=
  Moves.bind (fun _ _ _ first second => second.trans first) preserved later

theorem get_bind {next : σ → EStateM ε σ β} (later : ∀ state, Preserves view (next state)) :
    Preserves view (get >>= next) :=
  Moves.get_bind fun state => later state state

theorem ite {condition : Prop} [Decidable condition] {first second : EStateM ε σ α}
    (yes : condition → Preserves view first) (no : ¬condition → Preserves view second) :
    Preserves view (if condition then first else second) :=
  Moves.ite yes no

theorem onlyIf {condition : Prop} [Decidable condition] {proc : EStateM ε σ Unit}
    (preserved : condition → Preserves view proc) : Preserves view (onlyIf condition proc) :=
  Moves.onlyIf (fun state => Eq.refl (view state)) preserved

theorem onPart {part : σ → ρ} {update : ρ → σ → σ} {proc : EStateM ε ρ α}
    (same : ∀ state, view (update (final (proc (part state))) state) = view state) :
    Preserves view (onPart part update proc) :=
  Moves.onPart same

theorem ended {proc : EStateM ε σ α} (preserved : Preserves view proc) (state : σ) :
    Ended (fun _ after => view after = view state) (fun _ after => view after = view state)
      (proc state) :=
  Moves.ended preserved state

end Preserves

end Preserved

section Counted

/-- Where a computation ends, unless a count has gone up on the way. -/
def EndedBut (count : σ → Nat) (good : α → σ → Prop) (bad : ε → σ → Prop) (state : σ)
    (result : EStateM.Result ε σ α) : Prop :=
  count state < count (final result) ∨ Ended good bad result

namespace EndedBut

variable {count : σ → Nat} {good weaker : α → σ → Prop} {bad worse : ε → σ → Prop}
  {state : σ}

theorem of_ended {result : EStateM.Result ε σ α}
    (ended : Ended (fun value after => count state < count after ∨ good value after) bad
      result) : EndedBut count good bad state result := by
  cases result with
  | ok value after => exact ended
  | error fault after => exact .inr ended

theorem weaken {result : EStateM.Result ε σ α} (ended : EndedBut count good bad state result)
    (implies : ∀ value after, good value after → weaker value after)
    (impliesBad : ∀ fault after, bad fault after → worse fault after) :
    EndedBut count weaker worse state result :=
  ended.imp_right fun holds => holds.weaken implies impliesBad

theorem bind {first : EStateM ε σ α} {next : α → EStateM ε σ β} {last : β → σ → Prop}
    (ended : EndedBut count good bad state (first state))
    (climbs : Moves (fun before after => count before ≤ count after) first)
    (climbsNext : ∀ value, Moves (fun before after => count before ≤ count after) (next value))
    (nextEnded : ∀ value middle, good value middle →
      EndedBut count last bad middle (next value middle)) :
    EndedBut count last bad state ((first >>= next) state) := by
  have climbed := climbs state
  cases ran : first state with
  | ok value middle =>
      rw [ran] at ended climbed
      rw [bind_of_ok ran]
      obtain counted | holds := ended
      · exact .inl (Nat.lt_of_lt_of_le counted (climbsNext value middle))
      · exact (nextEnded value middle holds).imp_left (Nat.lt_of_le_of_lt climbed)
  | error fault middle =>
      rw [ran] at ended
      rw [bind_of_error ran]
      exact ended

theorem onlyIf {condition : Prop} [Decidable condition] {proc : EStateM ε σ Unit}
    {good : Unit → σ → Prop}
    (ended : condition → EndedBut count good bad state (proc state))
    (skipped : ¬condition → good () state) :
    EndedBut count good bad state (onlyIf condition proc state) := by
  by_cases holds : condition
  · rw [onlyIf_pos holds]
    exact ended holds
  · rw [onlyIf_neg holds]
    exact .inr (skipped holds)

end EndedBut

end Counted

section Logged

/-- A computation has ended in a state that keeps an invariant, with new entries
in front of a log, and its value is related to them.  Only some of the faults
are looked at. -/
def Logged (counts : ε → Prop) (keeps : σ → Prop) (log : σ → List ω)
    (post : α → List ω → Prop) (before : σ) : EStateM.Result ε σ α → Prop
  | .ok value after => keeps after ∧ ∃ new, log after = new ++ log before ∧ post value new
  | .error fault after => counts fault → keeps after ∧ ∃ new, log after = new ++ log before

def Logs (counts : ε → Prop) (keeps : σ → Prop) (log : σ → List ω)
    (proc : EStateM ε σ α) (post : α → List ω → Prop) : Prop :=
  ∀ before, keeps before → Logged counts keeps log post before (proc before)

namespace Logs

variable {counts : ε → Prop} {keeps : σ → Prop} {log : σ → List ω}

theorem pure {value : α} {post : α → List ω → Prop} (holds : post value []) :
    Logs counts keeps log (Pure.pure value : EStateM ε σ α) post :=
  fun _ kept => ⟨kept, [], rfl, holds⟩

theorem throw (fault : ε) (post : α → List ω → Prop) :
    Logs counts keeps log (throw fault : EStateM ε σ α) post :=
  fun _ kept _ => ⟨kept, [], rfl⟩

theorem weaken {proc : EStateM ε σ α} {post weaker : α → List ω → Prop}
    (logs : Logs counts keeps log proc post)
    (implies : ∀ value new, post value new → weaker value new) :
    Logs counts keeps log proc weaker := by
  intro before kept
  have ended := logs before kept
  cases ran : proc before with
  | ok value after =>
      rw [ran] at ended
      obtain ⟨keptAfter, new, grown, holds⟩ := ended
      exact ⟨keptAfter, new, grown, implies value new holds⟩
  | error fault after =>
      rw [ran] at ended
      exact ended

theorem bind {first : EStateM ε σ α} {next : α → EStateM ε σ β}
    {middle : α → List ω → Prop} {post : β → List ω → Prop}
    (firstLogs : Logs counts keeps log first middle)
    (nextLogs : ∀ value early, middle value early →
      Logs counts keeps log (next value) fun result late => post result (late ++ early)) :
    Logs counts keeps log (first >>= next) post := by
  intro before kept
  have ended := firstLogs before kept
  cases ran : first before with
  | error fault after =>
      rw [ran] at ended
      rw [bind_of_error ran]
      exact ended
  | ok value between =>
      rw [ran] at ended
      rw [bind_of_ok ran]
      obtain ⟨keptBetween, early, grown, holds⟩ := ended
      have rest := nextLogs value early holds between keptBetween
      cases nextRan : next value between with
      | ok result after =>
          rw [nextRan] at rest
          obtain ⟨keptAfter, late, grownAgain, last⟩ := rest
          refine ⟨keptAfter, late ++ early, ?_, last⟩
          rw [grownAgain, grown, List.append_assoc]
      | error fault after =>
          rw [nextRan] at rest
          intro counted
          obtain ⟨keptAfter, late, grownAgain⟩ := rest counted
          refine ⟨keptAfter, late ++ early, ?_⟩
          rw [grownAgain, grown, List.append_assoc]

theorem get_bind {next : σ → EStateM ε σ β} {post : β → List ω → Prop}
    (nextLogs : ∀ state, keeps state →
      Logged counts keeps log post state (next state state)) :
    Logs counts keeps log (get >>= next) post :=
  fun before kept => nextLogs before kept

theorem modify {change : σ → σ} (keepsOn : ∀ state, keeps state → keeps (change state))
    (silent : ∀ state, log (change state) = log state) :
    Logs counts keeps log (modify change : EStateM ε σ PUnit) fun _ new => new = [] :=
  fun before kept => ⟨keepsOn before kept, [], silent before, rfl⟩

theorem ite {condition : Prop} [Decidable condition] {first second : EStateM ε σ α}
    {post : α → List ω → Prop}
    (yes : condition → Logs counts keeps log first post)
    (no : ¬condition → Logs counts keeps log second post) :
    Logs counts keeps log (if condition then first else second) post := by
  by_cases holds : condition
  · rw [if_pos holds]
    exact yes holds
  · rw [if_neg holds]
    exact no holds

end Logs

end Logged

section Paired

/-- Two computations have ended alike, in related states. -/
inductive Alike (related : σ → τ → Prop) :
    EStateM.Result ε σ α → EStateM.Result ε τ α → Prop
  | ok (value : α) {state : σ} {other : τ} (after : related state other) :
      Alike related (.ok value state) (.ok value other)
  | error (fault : ε) {state : σ} {other : τ} (after : related state other) :
      Alike related (.error fault state) (.error fault other)

def Matches (related : σ → τ → Prop) (first : EStateM ε σ α) (second : EStateM ε τ α) :
    Prop :=
  ∀ state other, related state other → Alike related (first state) (second other)

namespace Matches

variable {related : σ → τ → Prop}

theorem pure (value : α) :
    Matches related (Pure.pure value : EStateM ε σ α) (Pure.pure value) :=
  fun _ _ before => .ok value before

theorem throw (fault : ε) :
    Matches related (throw fault : EStateM ε σ α) (throw fault) :=
  fun _ _ before => .error fault before

theorem modify {change : σ → σ} {otherChange : τ → τ}
    (keeps : ∀ state other, related state other →
      related (change state) (otherChange other)) :
    Matches related (modify change : EStateM ε σ PUnit) (modify otherChange) :=
  fun state other before => .ok PUnit.unit (keeps state other before)

theorem bind {first : EStateM ε σ α} {second : EStateM ε τ α} {next : α → EStateM ε σ β}
    {otherNext : α → EStateM ε τ β} (firstMatches : Matches related first second)
    (nextMatches : ∀ value, Matches related (next value) (otherNext value)) :
    Matches related (first >>= next) (second >>= otherNext) := by
  intro state other before
  have ended := firstMatches state other before
  revert ended
  cases ran : first state with
  | ok value middle =>
      intro ended
      rw [bind_of_ok ran]
      cases otherRan : second other with
      | ok otherValue otherMiddle =>
          rw [otherRan] at ended
          cases ended with
          | ok _ after =>
              rw [bind_of_ok otherRan]
              exact nextMatches value middle otherMiddle after
      | error fault otherMiddle =>
          rw [otherRan] at ended
          cases ended
  | error fault middle =>
      intro ended
      rw [bind_of_error ran]
      cases otherRan : second other with
      | ok otherValue otherMiddle =>
          rw [otherRan] at ended
          cases ended
      | error otherFault otherMiddle =>
          rw [otherRan] at ended
          cases ended with
          | error _ after =>
              rw [bind_of_error otherRan]
              exact .error fault after

theorem get_bind {next : σ → EStateM ε σ β} {otherNext : τ → EStateM ε τ β}
    (nextMatches : ∀ state other, related state other →
      Alike related (next state state) (otherNext other other)) :
    Matches related (get >>= next) (get >>= otherNext) :=
  fun state other before => nextMatches state other before

theorem ite {condition : Prop} [Decidable condition] {first first' : EStateM ε σ α}
    {second second' : EStateM ε τ α}
    (yes : condition → Matches related first second)
    (no : ¬condition → Matches related first' second') :
    Matches related (if condition then first else first')
      (if condition then second else second') := by
  by_cases holds : condition
  · rw [if_pos holds, if_pos holds]
    exact yes holds
  · rw [if_neg holds, if_neg holds]
    exact no holds

end Matches

end Paired

end CommonSerialization.StateExcept
