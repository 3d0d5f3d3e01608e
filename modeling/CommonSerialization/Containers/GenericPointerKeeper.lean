import CommonSerialization.Common.Status
import CommonSerialization.Library.Transitions
import Mathlib.Logic.Function.Basic

namespace CommonSerialization

/-! `GenericPointerKeeper`, wherever keepers live. -/

inductive BlockEvent (M : Type)
  | created (manager : M) (n : Nat)
  | destroyed (manager : M) (n : Nat)
  | released

/-- A pointer is the number of the allocation that returned it; `M` names the
types of the allocation managers, each of which has a deleter of its own. -/
structure GenericPointerKeeper (M : Type) where
  m_p : Option Nat
  m_size : Nat
  m_destroyAndDeallocate : Option M

def GenericPointerKeeper.empty : GenericPointerKeeper M := ⟨none, 0, none⟩

inductive Place
  | object (name : Nat)
  | element (block index : Nat)
  deriving DecidableEq

/-- `VectorT<GenericPointerKeeperT>`; the null pointer is block `0`. -/
structure KeeperVector where
  m_p : Nat
  m_dataSize : Nat
  m_allocatedSize : Nat

/-- The keepers that are alive, the vector, and what was allocated so far: the
blocks of the vector and those the keepers asked for. -/
structure Keepers (M : Type) where
  keepers : Place → Option (GenericPointerKeeper M)
  vector : KeeperVector
  blocks : Nat
  allocations : Nat
  history : Nat → List (BlockEvent M)

def Keepers.start : Keepers M where
  keepers _ := none
  vector := ⟨0, 0, 0⟩
  blocks := 0
  allocations := 0
  history _ := []

namespace Keepers

def put (state : Keepers M) (place : Place)
    (keeper : Option (GenericPointerKeeper M)) : Keepers M :=
  { state with keepers := Function.update state.keepers place keeper }

def note (state : Keepers M) (p : Nat) (event : BlockEvent M) : Keepers M :=
  { state with history := Function.update state.history p (event :: state.history p) }

end Keepers

abbrev KProc (M : Type) := Proc (Keepers M)

namespace GenericPointerKeeper

section Keeper

def keeperAt (place : Place) : KProc M (GenericPointerKeeper M) := do
  match (← get).keepers place with
  | some keeper => return keeper
  | none => throw .undefinedBehaviour

def store (place : Place) (keeper : Option (GenericPointerKeeper M)) : KProc M Unit :=
  modify fun state => state.put place keeper

/-- The saved deleter is called with the saved count; it is not forgotten. -/
def destroyAndDeallocate (place : Place) : KProc M Unit := do
  let keeper ← keeperAt place
  match keeper.m_p, keeper.m_destroyAndDeallocate with
  | none, _ => return ()
  | some _, none => throw .undefinedBehaviour
  | some p, some manager =>
      modify fun state => state.note p (.destroyed manager keeper.m_size)
      store place (some { keeper with m_p := none, m_size := 0 })

def constructByMove (place rhs : Place) : KProc M Unit := do
  let keeper ← keeperAt rhs
  store place (some keeper)
  store rhs (some .empty)

/-- `operator=(GenericPointerKeeper&&)`, which ends without a return statement
unless it is called for one object. -/
def assignByMove (place rhs : Place) : KProc M Unit := do
  if place = rhs then
    return ()
  else
    destroyAndDeallocate place
    let keeper ← keeperAt rhs
    store place (some keeper)
    store rhs (some .empty)
    throw .undefinedBehaviour

def destruct (place : Place) : KProc M Unit := do
  destroyAndDeallocate place
  store place none

/-- `answer` is what the manager says to the request: how many objects it has
allocated and constructed. -/
def allocateAndConstruct (max_size : M → Nat) (place : Place) (manager : M) (n : Nat)
    (answer : Option Nat) : KProc M (Option Nat) := do
  destroyAndDeallocate place
  if max_size manager < n then
    return none
  else
    match answer with
    | none => return none
    | some allocatedN =>
        let p := (← get).allocations
        modify fun state =>
          { state.note p (.created manager allocatedN) with allocations := p + 1 }
        store place (some ⟨some p, allocatedN, some manager⟩)
        return some p

def release (place : Place) : KProc M (Option Nat) := do
  let keeper ← keeperAt place
  modify fun state =>
    match keeper.m_p with
    | none => state
    | some p => state.note p .released
  store place (some .empty)
  return keeper.m_p

end Keeper

end GenericPointerKeeper

namespace Keepers

open GenericPointerKeeper StateExcept

def Holds (state : Keepers M) (place : Place) (p : Nat) : Prop :=
  ∃ keeper, state.keepers place = some keeper ∧ keeper.m_p = some p

/-- The life of a pointer so far: as long as its block is neither destroyed nor
released, one keeper holds it, with the count and the deleter it was created
with. -/
inductive Settled (state : Keepers M) (p : Nat) : Prop
  | unborn (events : state.history p = []) (free : ∀ place, ¬state.Holds place p)
  | held {manager : M} {n : Nat} (place : Place)
      (events : state.history p = [.created manager n])
      (keeper : state.keepers place = some ⟨some p, n, some manager⟩)
      (only : ∀ other, state.Holds other p → other = place)
  | destroyed {manager : M} {n : Nat}
      (events : state.history p = [.destroyed manager n, .created manager n])
      (free : ∀ place, ¬state.Holds place p)
  | released {manager : M} {n : Nat}
      (events : state.history p = [.released, .created manager n])
      (free : ∀ place, ¬state.Holds place p)

/-- Every pointer is settled, and later allocations return new ones. -/
structure Owned (state : Keepers M) : Prop where
  settled : ∀ p, state.Settled p
  fresh : ∀ p, state.allocations ≤ p → state.history p = []

section Places

variable {state : Keepers M} {place : Place}

@[simp] theorem put_keepers_self (keeper : Option (GenericPointerKeeper M)) :
    (state.put place keeper).keepers place = keeper :=
  Function.update_self ..

theorem put_keepers_of_ne {other : Place} (apart : other ≠ place)
    (keeper : Option (GenericPointerKeeper M)) :
    (state.put place keeper).keepers other = state.keepers other :=
  Function.update_of_ne apart ..

@[simp] theorem note_history_self (p : Nat) (event : BlockEvent M) :
    (state.note p event).history p = event :: state.history p :=
  Function.update_self ..

theorem note_history_of_ne {p other : Nat} (apart : other ≠ p) (event : BlockEvent M) :
    (state.note p event).history other = state.history other :=
  Function.update_of_ne apart ..

theorem holds_put_self {keeper : GenericPointerKeeper M} {p : Nat} :
    (state.put place (some keeper)).Holds place p ↔ keeper.m_p = some p := by
  constructor
  · rintro ⟨stored, same, holds⟩
    rw [put_keepers_self] at same
    cases same
    exact holds
  · exact fun holds => ⟨keeper, put_keepers_self _, holds⟩

theorem holds_put_of_ne {other : Place} (apart : other ≠ place)
    {keeper : Option (GenericPointerKeeper M)} {p : Nat} :
    (state.put place keeper).Holds other p ↔ state.Holds other p := by
  unfold Holds
  rw [put_keepers_of_ne apart]

theorem Settled.congr {next : Keepers M} {p : Nat} (settled : state.Settled p)
    (events : next.history p = state.history p)
    (keepers : ∀ place keeper, keeper.m_p = some p →
      (next.keepers place = some keeper ↔ state.keepers place = some keeper)) :
    next.Settled p := by
  have holds (place : Place) : next.Holds place p ↔ state.Holds place p := by
    constructor
    · rintro ⟨keeper, stored, holds⟩
      exact ⟨keeper, (keepers place keeper holds).mp stored, holds⟩
    · rintro ⟨keeper, stored, holds⟩
      exact ⟨keeper, (keepers place keeper holds).mpr stored, holds⟩
  cases settled with
  | unborn known free =>
      exact .unborn (events.trans known) fun place => (holds place).not.mpr (free place)
  | held place known keeper only =>
      refine .held place (events.trans known) ((keepers place _ rfl).mpr keeper) ?_
      exact fun other held => only other ((holds other).mp held)
  | destroyed known free =>
      exact .destroyed (events.trans known) fun place =>
        (holds place).not.mpr (free place)
  | released known free =>
      exact .released (events.trans known) fun place =>
        (holds place).not.mpr (free place)

theorem Owned.of_same {next : Keepers M} (owned : state.Owned)
    (keepers : next.keepers = state.keepers) (history : next.history = state.history)
    (allocations : next.allocations = state.allocations) : next.Owned := by
  refine ⟨fun p => (owned.settled p).congr (congrFun history p) fun place _ _ => ?_,
    fun p later => ?_⟩
  · rw [keepers]
  · rw [history]
    exact owned.fresh p (by rwa [← allocations])

theorem Owned.put {keeper : Option (GenericPointerKeeper M)} (owned : state.Owned)
    (before : ∀ p, ¬state.Holds place p) (after : ∀ kept, keeper = some kept → kept.m_p = none) :
    (state.put place keeper).Owned := by
  refine ⟨fun p => (owned.settled p).congr rfl ?_, owned.fresh⟩
  intro other kept holds
  by_cases same : other = place
  · subst same
    rw [put_keepers_self]
    constructor
    · intro stored
      rw [after kept stored] at holds
      cases holds
    · intro stored
      exact absurd ⟨kept, stored, holds⟩ (before p)
  · rw [put_keepers_of_ne same]

theorem Owned.of_holds {p : Nat} (owned : state.Owned) (holder : state.Holds place p) :
    ∃ manager n, state.history p = [.created manager n] ∧
      state.keepers place = some ⟨some p, n, some manager⟩ ∧
      ∀ other, state.Holds other p → other = place := by
  cases owned.settled p with
  | unborn _ free | destroyed _ free | released _ free => exact absurd holder (free place)
  | held keeping events created only =>
      obtain rfl := only place holder
      exact ⟨_, _, events, created, only⟩

theorem Owned.lose {keeper kept : GenericPointerKeeper M} {p : Nat} {event : BlockEvent M}
    (owned : state.Owned) (stored : state.keepers place = some keeper)
    (holds : keeper.m_p = some p) (after : kept.m_p = none)
    (ends : ∀ manager n, keeper = ⟨some p, n, some manager⟩ →
      event = .destroyed manager n ∨ event = .released) :
    ((state.note p event).put place (some kept)).Owned := by
  obtain ⟨manager, n, events, created, only⟩ := owned.of_holds ⟨keeper, stored, holds⟩
  have gone (other : Place) :
      ¬((state.note p event).put place (some kept)).Holds other p := by
    intro held
    by_cases same : other = place
    · subst same
      rw [holds_put_self, after] at held
      cases held
    · exact same (only other ((holds_put_of_ne same).mp held))
  refine ⟨fun q => ?_, fun q later => ?_⟩
  · by_cases same : q = p
    · subst same
      rw [stored] at created
      have noted : ((state.note q event).put place (some kept)).history q =
          event :: state.history q := note_history_self ..
      rw [events] at noted
      rcases ends _ _ (Option.some.inj created) with rfl | rfl
      · exact .destroyed noted gone
      · exact .released noted gone
    · refine (owned.settled q).congr (note_history_of_ne same event) ?_
      intro other kept' holds'
      by_cases here : other = place
      · subst here
        rw [put_keepers_self, stored]
        constructor
        · intro equal
          cases equal
          rw [after] at holds'
          cases holds'
        · intro equal
          cases equal
          rw [holds] at holds'
          exact absurd (Option.some.inj holds').symm same
      · rw [put_keepers_of_ne here]
        rfl
  · have unborn := owned.fresh q later
    have apart : q ≠ p := by
      rintro rfl
      rw [unborn] at events
      cases events
    exact (note_history_of_ne apart event).trans unborn

theorem Owned.move {rhs : Place} {keeper : GenericPointerKeeper M} (owned : state.Owned)
    (apart : place ≠ rhs) (stored : state.keepers rhs = some keeper)
    (free : ∀ p, ¬state.Holds place p) :
    ((state.put place (some keeper)).put rhs (some .empty)).Owned := by
  refine ⟨fun p => ?_, owned.fresh⟩
  by_cases holds : keeper.m_p = some p
  · obtain ⟨manager, n, events, created, only⟩ := owned.of_holds ⟨keeper, stored, holds⟩
    refine .held place events ?_ fun other held => ?_
    · rw [put_keepers_of_ne apart, put_keepers_self, ← stored, created]
    · by_contra elsewhere
      by_cases here : other = rhs
      · subst here
        rw [holds_put_self] at held
        cases held
      · rw [holds_put_of_ne here, holds_put_of_ne elsewhere] at held
        exact here (only other held)
  · refine (owned.settled p).congr rfl ?_
    intro other kept holds'
    by_cases here : other = rhs
    · subst here
      rw [put_keepers_self, stored]
      constructor
      · intro equal
        cases equal
        cases holds'
      · intro equal
        cases equal
        exact absurd holds' holds
    · rw [put_keepers_of_ne here]
      by_cases there : other = place
      · subst there
        rw [put_keepers_self]
        constructor
        · intro equal
          cases equal
          exact absurd holds' holds
        · exact fun equal => absurd ⟨kept, equal, holds'⟩ (free p)
      · rw [put_keepers_of_ne there]

theorem Owned.create (owned : state.Owned) (free : ∀ p, ¬state.Holds place p) (manager : M)
    (n : Nat) :
    ({ state.note state.allocations (.created manager n) with
        allocations := state.allocations + 1 }.put place
      (some ⟨some state.allocations, n, some manager⟩)).Owned := by
  have unborn := owned.fresh state.allocations (Nat.le_refl _)
  have nowhere (other : Place) : ¬state.Holds other state.allocations := by
    intro holder
    obtain ⟨_, _, events, _⟩ := owned.of_holds holder
    rw [unborn] at events
    cases events
  refine ⟨fun p => ?_, fun p later => ?_⟩
  · by_cases same : p = state.allocations
    · subst same
      refine .held place ?_ (put_keepers_self _) fun other held => ?_
      · refine (note_history_self ..).trans ?_
        rw [unborn]
      · by_contra elsewhere
        rw [holds_put_of_ne elsewhere] at held
        exact nowhere other held
    · refine (owned.settled p).congr (note_history_of_ne same _) ?_
      intro other kept holds
      by_cases here : other = place
      · subst here
        rw [put_keepers_self]
        constructor
        · intro equal
          cases equal
          exact absurd (Option.some.inj holds).symm same
        · exact fun equal => absurd ⟨kept, equal, holds⟩ (free p)
      · rw [put_keepers_of_ne here]
        rfl
  · refine (note_history_of_ne ?_ _).trans (owned.fresh p (Nat.le_of_succ_le later))
    exact (Nat.ne_of_lt later).symm

end Places

section Calls

variable {state : Keepers M} {place : Place}

structure Frame (place : Place) (state after : Keepers M) : Prop where
  keepers : ∀ other, other ≠ place → after.keepers other = state.keepers other
  vector : after.vector = state.vector
  blocks : after.blocks = state.blocks

theorem Frame.trans {first second third : Keepers M} (earlier : Frame place first second)
    (later : Frame place second third) : Frame place first third where
  keepers other apart := (later.keepers other apart).trans (earlier.keepers other apart)
  vector := later.vector.trans earlier.vector
  blocks := later.blocks.trans earlier.blocks

theorem Frame.put (keeper : Option (GenericPointerKeeper M)) :
    Frame place state (state.put place keeper) where
  keepers _ apart := put_keepers_of_ne apart keeper
  vector := rfl
  blocks := rfl

theorem store_ok (keeper : Option (GenericPointerKeeper M)) (state : Keepers M) :
    store place keeper state = .ok () (state.put place keeper) := rfl

theorem keeperAt_ok {keeper : GenericPointerKeeper M}
    (stored : state.keepers place = some keeper) :
    keeperAt place state = .ok keeper state := by
  simp only [keeperAt, bind, EStateM.bind, get_apply, stored]
  rfl

theorem not_holds_of_stored {keeper : GenericPointerKeeper M}
    (stored : state.keepers place = some keeper) (free : keeper.m_p = none) (p : Nat) :
    ¬state.Holds place p := by
  rintro ⟨kept, same, holds⟩
  rw [stored] at same
  cases same
  rw [free] at holds
  cases holds

theorem not_holds_of_dead (dead : state.keepers place = none) (p : Nat) :
    ¬state.Holds place p := by
  rintro ⟨kept, same, _⟩
  rw [dead] at same
  cases same

def Empties (place : Place) (state after : Keepers M) : Prop :=
  after.Owned ∧ Frame place state after ∧
    ∃ kept, after.keepers place = some kept ∧ kept.m_p = none

theorem destroyAndDeallocate_ok (owned : state.Owned) {keeper : GenericPointerKeeper M}
    (stored : state.keepers place = some keeper) :
    ∃ after, destroyAndDeallocate place state = .ok () after ∧ Empties place state after := by
  cases holds : keeper.m_p with
  | none =>
      refine ⟨state, ?_, owned, ⟨fun _ _ => rfl, rfl, rfl⟩, keeper, stored, holds⟩
      rw [destroyAndDeallocate, bind_of_ok (keeperAt_ok stored), holds]
      rfl
  | some p =>
      obtain ⟨manager, n, _, created, _⟩ := owned.of_holds ⟨keeper, stored, holds⟩
      rw [stored] at created
      cases created
      refine ⟨(state.note p (.destroyed manager n)).put place
          (some ⟨none, 0, some manager⟩), ?_, ?_, ?_, _, put_keepers_self _, rfl⟩
      · rw [destroyAndDeallocate, bind_of_ok (keeperAt_ok stored)]
        rfl
      · refine owned.lose stored rfl rfl fun manager' n' same => ?_
        cases same
        exact .inl rfl
      · exact ⟨fun _ apart => put_keepers_of_ne apart _, rfl, rfl⟩

theorem destruct_ok (owned : state.Owned) {keeper : GenericPointerKeeper M}
    (stored : state.keepers place = some keeper) :
    ∃ after, destruct place state = .ok () after ∧ after.Owned ∧ Frame place state after ∧
      after.keepers place = none := by
  obtain ⟨middle, ran, kept, frame, _, there, free⟩ := destroyAndDeallocate_ok owned stored
  refine ⟨middle.put place none, ?_, ?_, frame.trans (Frame.put none),
    put_keepers_self none⟩
  · rw [destruct, bind_of_ok ran]
    rfl
  · exact kept.put (not_holds_of_stored there free) nofun

theorem constructByMove_ok {rhs : Place} {keeper : GenericPointerKeeper M}
    (stored : state.keepers rhs = some keeper) :
    constructByMove place rhs state =
      .ok () ((state.put place (some keeper)).put rhs (some .empty)) := by
  rw [constructByMove, bind_of_ok (keeperAt_ok stored)]
  rfl

/-- The call of `operator=` for two keepers has no defined end. -/
theorem assignByMove_undefined {rhs : Place} (apart : place ≠ rhs) (after : Keepers M) :
    assignByMove place rhs state ≠ .ok () after := by
  intro ran
  rw [assignByMove, if_neg apart] at ran
  obtain ⟨_, _, _, ran⟩ := bind_eq_ok ran
  obtain ⟨_, _, _, ran⟩ := bind_eq_ok ran
  obtain ⟨_, _, _, ran⟩ := bind_eq_ok ran
  obtain ⟨_, _, _, ran⟩ := bind_eq_ok ran
  cases ran

theorem allocateAndConstruct_ok (max_size : M → Nat) (owned : state.Owned)
    {keeper : GenericPointerKeeper M} (stored : state.keepers place = some keeper)
    (manager : M) (n : Nat) (answer : Option Nat) :
    ∃ p after, allocateAndConstruct max_size place manager n answer state = .ok p after ∧
      after.Owned ∧ Frame place state after ∧
      ∃ kept, after.keepers place = some kept ∧ kept.m_p = p ∧
        ∀ q, p = some q → answer = some kept.m_size ∧
          kept.m_destroyAndDeallocate = some manager := by
  obtain ⟨middle, ran, kept, frame, old, there, free⟩ := destroyAndDeallocate_ok owned stored
  have nothing : allocateAndConstruct max_size place manager n answer state =
        .ok none middle →
      ∃ p after, allocateAndConstruct max_size place manager n answer state = .ok p after ∧
        after.Owned ∧ Frame place state after ∧
        ∃ kept, after.keepers place = some kept ∧ kept.m_p = p ∧
          ∀ q, p = some q → answer = some kept.m_size ∧
            kept.m_destroyAndDeallocate = some manager :=
    fun returned => ⟨none, middle, returned, kept, frame, old, there, free, nofun⟩
  by_cases big : max_size manager < n
  · apply nothing
    unfold allocateAndConstruct
    rw [bind_of_ok ran, if_pos big]
    rfl
  · cases answer with
    | none =>
        apply nothing
        unfold allocateAndConstruct
        rw [bind_of_ok ran, if_neg big]
        rfl
    | some allocatedN =>
        refine ⟨some middle.allocations, _, ?_,
          kept.create (not_holds_of_stored there free) manager allocatedN, ?_, _,
          put_keepers_self _, rfl, fun _ _ => ⟨rfl, rfl⟩⟩
        · unfold allocateAndConstruct
          rw [bind_of_ok ran, if_neg big]
          rfl
        · refine frame.trans ⟨fun other apart => ?_, rfl, rfl⟩
          rw [put_keepers_of_ne apart]
          rfl

theorem release_ok (owned : state.Owned) {keeper : GenericPointerKeeper M}
    (stored : state.keepers place = some keeper) :
    ∃ after, release place state = .ok keeper.m_p after ∧ after.Owned ∧
      Frame place state after ∧ after.keepers place = some .empty := by
  cases holds : keeper.m_p with
  | none =>
      refine ⟨state.put place (some .empty), ?_, ?_, Frame.put _, put_keepers_self _⟩
      · rw [release, bind_of_ok (keeperAt_ok stored), holds]
        rfl
      · refine owned.put (not_holds_of_stored stored holds) fun kept same => ?_
        cases same
        rfl
  | some p =>
      refine ⟨(state.note p .released).put place (some .empty), ?_, ?_, ?_,
        put_keepers_self _⟩
      · rw [release, bind_of_ok (keeperAt_ok stored), holds]
        rfl
      · exact owned.lose stored holds rfl fun _ _ _ => .inr rfl
      · exact ⟨fun _ apart => put_keepers_of_ne apart _, rfl, rfl⟩

end Calls

end Keepers

end CommonSerialization
