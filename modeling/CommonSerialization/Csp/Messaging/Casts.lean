import CommonSerialization.Csp.Messaging.Accounts

namespace CommonSerialization.Csp.Messaging.Registrar

open Transitions

/-! Unicast and multicast handlers of one id. -/

/-- A handler that was registered as the only one for its id. -/
structure Registration where
  id : Nat
  pService : Nat
  handler : Nat
  deriving DecidableEq, Repr

/-- The registrar, which does not remember how a handler was registered, with
the unicast handlers that are not unregistered yet. -/
structure CastState where
  registrar : State
  unicast : List Registration
  deriving DecidableEq, Repr

def CastState.empty : CastState := ⟨State.empty, []⟩

def registered (s : State) : Action → List Registration
  | .registerHandler id false pService handler position =>
      if (registerHandler id false pService handler position s).1 = .noError then
        [⟨id, pService, handler⟩]
      else []
  | _ => []

/-- The step is the last one of a call that unregisters the handler or its
service. -/
def unregistered (s next : State) (registration : Registration) :
    Action → Bool
  | .unregisterHandler id handler =>
      next.unregisterHandlerList = s.unregisterHandlerList &&
        registration.id = id && registration.handler = handler
  | .finishUnregisterHandler entry =>
      registration.id = entry.id && registration.handler = entry.handler
  | .unregisterService pService =>
      next.unregisterServiceList = s.unregisterServiceList &&
        registration.pService = pService
  | .finishUnregisterService entry => registration.pService = entry.pService
  | _ => false

def CastStep (s : CastState) (action : Action) (next : CastState) : Prop :=
  Enabled s.registrar action ∧
    perform s.registrar action = some next.registrar ∧
      next.unicast = registered s.registrar action ++
        s.unicast.filter fun registration =>
          !unregistered s.registrar next.registrar registration action

/-- No multicast handler is registered for the id of a unicast handler. -/
def RegistersApart (s : CastState) : Action → Prop
  | .registerHandler id true _ _ _ =>
      ∀ registration ∈ s.unicast, registration.id ≠ id
  | _ => True

def State.servers (s : State) (id : Nat) : List (Nat × Nat) :=
  (s.equalRange id).map fun handle => (handle.pService, handle.handler)

/-- A unicast handler is the only one for its id. -/
def UnicastAlone (s : CastState) : Prop :=
  ∀ registration ∈ s.unicast, s.registrar.servers registration.id =
    [(registration.pService, registration.handler)]

/-- The addresses of the handles are distinct and were given out. -/
structure Addressed (s : State) : Prop where
  distinct : (s.handlerMap.map (·.address)).Nodup
  fresh : ∀ handle ∈ s.handlerMap, handle.address < s.nextAddress

structure Keeps (change : SdhHandle → SdhHandle) : Prop where
  address : ∀ handle, (change handle).address = handle.address
  id : ∀ handle, (change handle).id = handle.id
  pService : ∀ handle, (change handle).pService = handle.pService
  handler : ∀ handle, (change handle).handler = handle.handler

section Map

variable {s next : State}

theorem Keeps.ite {change : SdhHandle → SdhHandle} (keeps : Keeps change)
    (selected : SdhHandle → Bool) :
    Keeps fun handle => if selected handle then change handle else handle := by
  constructor <;> intro handle <;> split <;>
    first
      | rfl
      | exact keeps.address handle
      | exact keeps.id handle
      | exact keeps.pService handle
      | exact keeps.handler handle

structure Changed (s next : State) : Prop where
  handles : ∃ change, Keeps change ∧ next.handlerMap = s.handlerMap.map change
  nextAddress : s.nextAddress ≤ next.nextAddress

theorem Changed.of_eq (same : next.handlerMap = s.handlerMap)
    (bigger : s.nextAddress ≤ next.nextAddress) : Changed s next :=
  ⟨⟨id, ⟨fun _ => rfl, fun _ => rfl, fun _ => rfl, fun _ => rfl⟩, by simp [same]⟩,
    bigger⟩

theorem changed_changeHandles {change : SdhHandle → SdhHandle}
    (keeps : Keeps change) (selected : SdhHandle → Bool)
    (same : next.handlerMap = (s.changeHandles selected change).handlerMap)
    (bigger : s.nextAddress ≤ next.nextAddress) : Changed s next :=
  ⟨⟨_, keeps.ite selected, same⟩, bigger⟩

theorem Changed.servers (changed : Changed s next) (id : Nat) :
    next.servers id = s.servers id := by
  obtain ⟨change, keeps, map⟩ := changed.handles
  have chosen : ((fun handle : SdhHandle => decide (handle.id = id)) ∘ change) =
      fun handle => decide (handle.id = id) := by
    funext handle
    simp [keeps.id]
  simp only [State.servers, State.equalRange, map, List.filter_map, chosen,
    List.map_map]
  apply List.map_congr_left
  intro handle _
  simp [keeps.pService, keeps.handler]

theorem Changed.addressed (changed : Changed s next) (addressed : Addressed s) :
    Addressed next := by
  obtain ⟨change, keeps, map⟩ := changed.handles
  constructor
  · rw [map, List.map_map]
    have same : ((·.address) ∘ change) = (·.address) := by
      funext handle
      exact keeps.address handle
    rw [same]
    exact addressed.distinct
  · intro handle member
    rw [map] at member
    obtain ⟨before, beforeMember, rfl⟩ := List.mem_map.mp member
    rw [keeps.address]
    exact Nat.lt_of_lt_of_le (addressed.fresh before beforeMember) changed.nextAddress

theorem keeps_state (state : HandleState) :
    Keeps fun handle => { handle with state := state } :=
  ⟨fun _ => rfl, fun _ => rfl, fun _ => rfl, fun _ => rfl⟩

theorem keeps_inUseCounter (count : Nat → Nat) :
    Keeps fun handle =>
      { handle with inUseCounter := count handle.inUseCounter } :=
  ⟨fun _ => rfl, fun _ => rfl, fun _ => rfl, fun _ => rfl⟩

theorem addressed_eraseHandles (addressed : Addressed s)
    (selected : SdhHandle → Bool)
    (map : next.handlerMap = (s.eraseHandles selected).handlerMap)
    (same : next.nextAddress = s.nextAddress) : Addressed next where
  distinct := by
    rw [map]
    exact (List.filter_sublist.map _).nodup addressed.distinct
  fresh handle member := by
    rw [map] at member
    rw [same]
    exact addressed.fresh handle (mem_eraseHandles.mp member).1

theorem servers_eraseHandles {selected : SdhHandle → Bool} {id : Nat}
    (map : next.handlerMap = (s.eraseHandles selected).handlerMap)
    (spared : ∀ handle ∈ s.equalRange id, selected handle = false) :
    next.servers id = s.servers id := by
  have kept : next.equalRange id = s.equalRange id := by
    simp only [State.equalRange, map, State.eraseHandles, List.filter_filter]
    apply List.filter_congr
    intro handle member
    by_cases own : handle.id = id
    · have := spared handle (List.mem_filter.mpr ⟨member, by simpa using own⟩)
      simp [own, this]
    · simp [own]
  rw [State.servers, kept, State.servers]

theorem mem_servers {handle : SdhHandle} (member : handle ∈ s.handlerMap) :
    (handle.pService, handle.handler) ∈ s.servers handle.id :=
  List.mem_map.mpr ⟨handle, List.mem_filter.mpr ⟨member, by simp⟩, rfl⟩

theorem Addressed.eq_of_address (addressed : Addressed s)
    {first second : SdhHandle} (firstMember : first ∈ s.handlerMap)
    (secondMember : second ∈ s.handlerMap)
    (same : first.address = second.address) : first = second :=
  List.inj_on_of_nodup_map addressed.distinct firstMember secondMember same

theorem changed_releaseHandler {address : Nat}
    (performed : releaseHandler address s = some next) : Changed s next := by
  have released (same : next.handlerMap = (s.release address).handlerMap)
      (bigger : s.nextAddress ≤ next.nextAddress) : Changed s next :=
    changed_changeHandles (keeps_inUseCounter fetchSub) _ same bigger
  have ended {handle : SdhHandle} {before : State}
      (same : before.handlerMap = (s.release address).handlerMap)
      (bigger : s.nextAddress ≤ before.nextAddress)
      (ends : releaseOfHandler handle before = some next) : Changed s next := by
    obtain ⟨releasing, rfl⟩ := releaseOfHandler_releasing ends
    exact released same bigger
  unfold releaseHandler at performed
  split at performed
  · cases performed
  · simp only at performed
    split at performed
    · cases performed
      exact released rfl (Nat.le_refl _)
    · refine ended ?_ ?_ performed
      · rfl
      · exact Nat.le_refl _
    · split at performed
      · refine ended ?_ ?_ performed
        · rfl
        · exact Nat.le_refl _
      · split at performed
        · cases performed
          exact released rfl (Nat.le_refl _)
        · refine ended ?_ ?_ performed
          · rfl
          · exact Nat.le_refl _

theorem changed_continueRelease {thread : Releasing}
    (performed : continueRelease thread s = some next) : Changed s next := by
  unfold continueRelease at performed
  split at performed
  · split at performed <;> cases performed
    exact .of_eq rfl (Nat.le_refl _)
  · simp only at performed
    split at performed
    · split at performed <;> cases performed <;>
        exact .of_eq rfl (Nat.le_refl _)
    · cases performed
  · split at performed
    · cases performed
      exact .of_eq rfl (Nat.le_refl _)
    · split at performed
      · cases performed
      · obtain ⟨releasing, rfl⟩ := wakeHandler_releasing performed
        exact .of_eq rfl (Nat.le_refl _)

theorem changed_aquireHandlers (id room : Nat) :
    Changed s (aquireHandlers id room s).2 := by
  unfold aquireHandlers
  split
  · exact .of_eq rfl (Nat.le_refl _)
  · split
    · exact changed_changeHandles (keeps_inUseCounter fetchAdd) _ rfl
        (Nat.le_refl _)
    · split <;> exact .of_eq rfl (Nat.le_refl _)

theorem changed_aquireHandler (id : Nat) : Changed s (aquireHandler id s).2 := by
  unfold aquireHandler
  split
  · exact .of_eq rfl (Nat.le_refl _)
  · split
    · exact .of_eq rfl (Nat.le_refl _)
    · exact changed_changeHandles (keeps_inUseCounter fetchAdd) _ rfl
        (Nat.le_refl _)
  · exact .of_eq rfl (Nat.le_refl _)

theorem addressed_registerHandler (addressed : Addressed s) (id : Nat)
    (kMulticast : Bool) (pService handler position : Nat) :
    Addressed (registerHandler id kMulticast pService handler position s).2 := by
  unfold registerHandler
  split
  · exact addressed
  · constructor
    · simp only [List.map_append, List.map_cons]
      rw [List.nodup_middle, ← List.map_append, List.take_append_drop,
        List.nodup_cons]
      refine ⟨fun member => ?_, addressed.distinct⟩
      obtain ⟨handle, handleMember, same⟩ := List.mem_map.mp member
      have := addressed.fresh handle handleMember
      omega
    · intro handle member
      simp only [List.mem_append, List.mem_cons] at member
      rcases member with earlier | rfl | later
      · exact Nat.lt_succ_of_lt
          (addressed.fresh handle (List.mem_of_mem_take earlier))
      · exact Nat.lt_succ_self _
      · exact Nat.lt_succ_of_lt
          (addressed.fresh handle (List.mem_of_mem_drop later))

theorem servers_registerHandler (id : Nat) (kMulticast : Bool)
    (pService handler position other : Nat) :
    (registerHandler id kMulticast pService handler position s).1 = .noError ∧
        (∃ before after, s.servers other = before ++ after ∧
          (registerHandler id kMulticast pService handler position s).2.servers
              other =
            before ++ (if other = id then [(pService, handler)] else []) ++
              after) ∧
        (kMulticast = false → s.servers id = []) ∨
      (registerHandler id kMulticast pService handler position s).1 ≠ .noError ∧
        (registerHandler id kMulticast pService handler position s).2 = s := by
  unfold registerHandler
  split
  · exact .inr ⟨nofun, rfl⟩
  · rename_i accepted
    refine .inl ⟨rfl, ⟨((s.handlerMap.take position).filter fun handle =>
      handle.id = other).map fun handle => (handle.pService, handle.handler),
      ((s.handlerMap.drop position).filter fun handle =>
      handle.id = other).map fun handle => (handle.pService, handle.handler),
      ?_, ?_⟩, ?_⟩
    · rw [← List.map_append, ← List.filter_append, List.take_append_drop]
      rfl
    · simp only [State.servers, State.equalRange, List.filter_append,
        List.filter_cons, List.map_append, List.append_assoc]
      by_cases own : id = other
      · simp [own]
      · simp [own, Ne.symm own]
    · intro unicast
      simp only [unicast, Bool.not_false, Bool.true_and, Bool.not_eq_true',
        Bool.not_eq_false, List.isEmpty_iff] at accepted
      simp [State.servers, accepted]

/-- The handles that an action erases, or the action only changes handles. -/
theorem changed_or_erased {action : Action}
    (performed : perform s action = some next)
    (others : ∀ id kMulticast pService handler position,
      action ≠ .registerHandler id kMulticast pService handler position) :
    Changed s next ∨ ∃ selected,
      next.handlerMap = (s.eraseHandles selected).handlerMap ∧
        next.nextAddress = s.nextAddress ∧
          ((∃ handle ∈ s.handlerMap,
              (∀ other, selected other = decide (other.address = handle.address)) ∧
                ∀ registration : Registration, registration.id = handle.id →
                  registration.handler = handle.handler →
                    unregistered s next registration action) ∨
            ∀ handle, selected handle → ∀ registration : Registration,
              registration.pService = handle.pService →
                unregistered s next registration action) := by
  cases action with
  | registerHandler id kMulticast pService handler position =>
      exact absurd rfl (others id kMulticast pService handler position)
  | unregisterHandler id handler =>
      cases performed
      unfold unregisterHandler
      split
      · exact .inl (.of_eq rfl (Nat.le_refl _))
      · rename_i handle found
        obtain ⟨member, ownId, ownHandler⟩ := findHandle_eq_some found
        split
        · exact .inl (changed_changeHandles (keeps_state .handlerRemove) _ rfl
            (Nat.le_succ _))
        · refine .inr ⟨_, rfl, rfl, .inl ⟨handle, member, fun _ => rfl, ?_⟩⟩
          intro registration sameId sameHandler
          simp [unregistered, State.eraseHandle, State.eraseHandles, sameId,
            sameHandler, ownId, ownHandler]
  | finishUnregisterHandler entry =>
      cases performed
      unfold finishUnregisterHandler
      simp only
      split
      · exact .inl (.of_eq rfl (Nat.le_refl _))
      · rename_i handle found
        obtain ⟨member, ownId, ownHandler⟩ := findHandle_eq_some found
        refine .inr ⟨_, rfl, rfl, .inl ⟨handle, member, fun _ => rfl, ?_⟩⟩
        intro registration sameId sameHandler
        simp [unregistered, sameId, sameHandler, ownId, ownHandler]
  | unregisterService pService =>
      cases performed
      unfold unregisterService
      simp only
      split
      · exact .inl (changed_changeHandles (keeps_state .serviceRemove) _ rfl
          (Nat.le_succ _))
      · rw [eraseHandles_changeHandles (by exact fun _ selected => selected)]
        refine .inr ⟨_, rfl, rfl, .inr fun handle selected registration same => ?_⟩
        have own : handle.pService = pService := by
          simpa [ofService] using selected
        simp [unregistered, State.eraseHandles, same, own]
  | finishUnregisterService entry =>
      cases performed
      refine .inr ⟨_, rfl, rfl, .inr fun handle selected registration same => ?_⟩
      have own : handle.pService = entry.pService := by
        simpa [ofService] using selected
      simp [unregistered, same, own]
  | aquireHandlers id room =>
      cases performed
      exact .inl (changed_aquireHandlers id room)
  | aquireHandler id =>
      cases performed
      exact .inl (changed_aquireHandler id)
  | releaseHandler address => exact .inl (changed_releaseHandler performed)
  | continueRelease thread => exact .inl (changed_continueRelease performed)

end Map

theorem addressed_of_step {s next : CastState} {action : Action}
    (addressed : Addressed s.registrar) (stepped : CastStep s action next) :
    Addressed next.registrar := by
  obtain ⟨_, performed, _⟩ := stepped
  by_cases registers : ∃ id kMulticast pService handler position,
      action = .registerHandler id kMulticast pService handler position
  · obtain ⟨id, kMulticast, pService, handler, position, rfl⟩ := registers
    rw [← Option.some.inj performed]
    exact addressed_registerHandler addressed id kMulticast pService handler
      position
  · rcases changed_or_erased performed (fun id kMulticast pService handler
        position same => registers ⟨id, kMulticast, pService, handler, position,
          same⟩) with
      changed | ⟨selected, map, same, _⟩
    · exact changed.addressed addressed
    · exact addressed_eraseHandles addressed selected map same

theorem unicastAlone_of_registerHandler {s : State} {unicast : List Registration}
    (alone : UnicastAlone ⟨s, unicast⟩) (id : Nat) (kMulticast : Bool)
    (pService handler position : Nat)
    (apart : RegistersApart ⟨s, unicast⟩
      (.registerHandler id kMulticast pService handler position)) :
    UnicastAlone
      ⟨(registerHandler id kMulticast pService handler position s).2,
        registered s (.registerHandler id kMulticast pService handler position) ++
          unicast⟩ := by
  intro registration member
  rcases servers_registerHandler id kMulticast pService handler position
      registration.id with
    ⟨accepted, ⟨before, after, parts, whole⟩, empty⟩ | ⟨refused, same⟩
  · rw [whole]
    rcases List.mem_append.mp member with new | old
    · cases kMulticast with
      | true => cases new
      | false =>
          simp only [registered, accepted, if_true, List.mem_singleton] at new
          subst new
          rw [empty rfl] at parts
          obtain ⟨rfl, rfl⟩ := List.append_eq_nil_iff.mp parts.symm
          simp
    · have single : s.servers registration.id = _ := alone registration old
      have elsewhere : registration.id ≠ id := by
        intro own
        cases kMulticast with
        | true => exact apart registration old own
        | false => simp [own, empty rfl] at single
      rw [if_neg elsewhere, List.append_nil, ← parts]
      exact single
  · rcases List.mem_append.mp member with new | old
    · cases kMulticast with
      | true => cases new
      | false => simp [registered, refused] at new
    · rw [same]
      exact alone registration old

theorem unicastAlone_of_step {s next : CastState} {action : Action}
    (addressed : Addressed s.registrar) (alone : UnicastAlone s)
    (apart : RegistersApart s action) (stepped : CastStep s action next) :
    UnicastAlone next := by
  obtain ⟨_, performed, unicast⟩ := stepped
  by_cases registers : ∃ id kMulticast pService handler position,
      action = .registerHandler id kMulticast pService handler position
  · obtain ⟨id, kMulticast, pService, handler, position, rfl⟩ := registers
    have outcome : (registerHandler id kMulticast pService handler position
        s.registrar).2 = next.registrar := Option.some.inj performed
    have all := unicastAlone_of_registerHandler alone id kMulticast pService
      handler position apart
    intro registration member
    rw [← outcome]
    rw [unicast] at member
    apply all registration
    simpa [unregistered] using member
  · have others (id : Nat) (kMulticast : Bool) (pService handler position : Nat)
        (same : action =
          .registerHandler id kMulticast pService handler position) : False :=
      registers ⟨id, kMulticast, pService, handler, position, same⟩
    intro registration member
    have none : registered s.registrar action = [] := by
      cases action with
      | registerHandler id kMulticast pService handler position =>
          exact absurd rfl (others id kMulticast pService handler position)
      | _ => rfl
    rw [unicast, none, List.nil_append, List.mem_filter] at member
    obtain ⟨old, stays⟩ := member
    have single := alone registration old
    rcases changed_or_erased performed others with
      changed | ⟨selected, map, _, erases⟩
    · rw [changed.servers]
      exact single
    · rw [servers_eraseHandles map]
      · exact single
      · intro handle inRange
        obtain ⟨handleMember, own⟩ := List.mem_filter.mp inRange
        have sameId : handle.id = registration.id := by simpa using own
        have pair := mem_servers handleMember
        rw [sameId, single, List.mem_singleton, Prod.mk.injEq] at pair
        by_contra chosen
        have isSelected : selected handle = true := by simpa using chosen
        rcases erases with ⟨erased, erasedMember, only, gone⟩ | gone
        · rw [only, decide_eq_true_eq] at isSelected
          obtain rfl :=
            addressed.eq_of_address handleMember erasedMember isSelected
          have finished := gone registration sameId.symm pair.2.symm
          simp [finished] at stays
        · have finished := gone handle isSelected registration pair.1.symm
          simp [finished] at stays

/-- A multicast handler is registered beside a unicast one. -/
theorem not_unicastAlone_of_registerHandler {s next : CastState}
    {action : Action} (alone : UnicastAlone s)
    (together : ¬RegistersApart s action) (stepped : CastStep s action next) :
    ¬UnicastAlone next := by
  obtain ⟨_, performed, unicast⟩ := stepped
  unfold RegistersApart at together
  split at together
  · rename_i id pService handler position enabled
    simp only [not_forall, Decidable.not_not] at together
    obtain ⟨registration, old, rfl⟩ := together
    have outcome : (registerHandler registration.id true pService handler position
        s.registrar).2 = next.registrar := Option.some.inj performed
    have single := alone registration old
    intro nextAlone
    have nextSingle := nextAlone registration (by simp [unicast, unregistered, old])
    rw [← outcome] at nextSingle
    rcases servers_registerHandler registration.id true pService
        handler position registration.id with
      ⟨_, ⟨before, after, parts, whole⟩, _⟩ | ⟨refused, _⟩
    · have length := congrArg List.length parts
      have nextLength := congrArg List.length whole
      rw [single] at length
      rw [nextSingle] at nextLength
      simp only [if_true, List.length_append, List.length_singleton] at length nextLength
      omega
    · exact refused rfl
  · exact absurd trivial together

theorem addressed_of_reaches {s : CastState}
    (reached : Reaches CastStep RegistersApart CastState.empty s) :
    Addressed s.registrar := by
  have initially : Addressed CastState.empty.registrar := ⟨.nil, nofun⟩
  induction reached with
  | start => exact initially
  | next _ _ stepped induction => exact addressed_of_step induction stepped

/-- In every run that registers no multicast handler under the id of a unicast
one, a unicast handler is the one that its id gives, until it is unregistered;
and only such a registration puts another one beside it. -/
theorem unicastAlone_of_reaches {s : CastState}
    (reached : Reaches CastStep RegistersApart CastState.empty s) :
    (∀ registration ∈ s.unicast, ∃ handle,
      s.registrar.equalRange registration.id = [handle] ∧
        handle.pService = registration.pService ∧
        handle.handler = registration.handler ∧
        aquireHandler registration.id s.registrar =
          if handle.state = .active then
            (.noError, s.registrar.acquire [handle.address])
          else (.errorNotAvailible, s.registrar)) ∧
      ∀ action next, CastStep s action next →
        (UnicastAlone next ↔ RegistersApart s action) := by
  have alone : UnicastAlone s := by
    have initially : UnicastAlone CastState.empty := nofun
    exact Reaches.invariant_of_known addressed_of_reaches initially
      unicastAlone_of_step reached
  constructor
  · intro registration member
    obtain ⟨handle, range, same⟩ := List.map_eq_singleton_iff.mp
      (alone registration member)
    rw [Prod.mk.injEq] at same
    refine ⟨handle, range, same.1, same.2, ?_⟩
    rw [aquireHandler, range]
    simp only [ite_not]
  · intro action next stepped
    constructor
    · intro nextAlone
      by_contra together
      exact not_unicastAlone_of_registerHandler alone together stepped nextAlone
    · exact fun apart =>
        unicastAlone_of_step (addressed_of_reaches reached) alone apart stepped

private def oneUnicast : CastState :=
  ⟨⟨[⟨0, 1, 5, 7, 0, .active⟩], [], [], [], [], 1⟩, [⟨1, 5, 7⟩]⟩

private theorem reaches_oneUnicast
    {meets : CastState → Action → Prop}
    (met : meets .empty (.registerHandler 1 false 5 7 0)) :
    Reaches CastStep meets .empty oneUnicast :=
  .next .start met ⟨trivial, rfl, rfl⟩

/-- A unicast handler that is unregistered while it is in use. -/
theorem unicastAlone_removed :
    ∃ s, Reaches CastStep RegistersApart .empty s ∧ s.unicast = [⟨1, 5, 7⟩] ∧
      aquireHandler 1 s.registrar = (.errorNotAvailible, s.registrar) := by
  have acquired : Reaches CastStep RegistersApart .empty
      ⟨⟨[⟨0, 1, 5, 7, 1, .active⟩], [], [], [], [0], 1⟩, [⟨1, 5, 7⟩]⟩ :=
    .next (reaches_oneUnicast trivial)
      (show RegistersApart _ (.aquireHandler 1) from trivial)
      ⟨trivial, rfl, rfl⟩
  have removing : Reaches CastStep RegistersApart .empty
      ⟨⟨[⟨0, 1, 5, 7, 1, .handlerRemove⟩], [], [⟨1, 1, 7, 0, 0⟩], [], [0], 2⟩,
        [⟨1, 5, 7⟩]⟩ :=
    .next acquired (show RegistersApart _ (.unregisterHandler 1 7) from trivial)
      ⟨trivial, rfl, rfl⟩
  obtain ⟨handle, range, _, _, answer⟩ :=
    (unicastAlone_of_reaches removing).1 ⟨1, 5, 7⟩ (by decide)
  cases range
  exact ⟨_, removing, rfl, answer⟩

/-- A multicast handler is registered under the id of a unicast one. -/
theorem not_unicastAlone_joined :
    ∃ s, Reaches CastStep (fun _ _ => True) .empty s ∧ ¬UnicastAlone s ∧
      aquireHandler 1 s.registrar = (.errorMoreEntires, s.registrar) := by
  have joined : Reaches CastStep (fun _ _ => True) .empty
      ⟨⟨[⟨1, 1, 6, 8, 0, .active⟩, ⟨0, 1, 5, 7, 0, .active⟩], [], [], [], [], 2⟩,
        [⟨1, 5, 7⟩]⟩ :=
    .next (reaches_oneUnicast trivial) trivial
      (show CastStep oneUnicast (.registerHandler 1 true 6 8 0) _ from
        ⟨trivial, rfl, rfl⟩)
  refine ⟨_, joined, fun alone => ?_, rfl⟩
  exact absurd (alone ⟨1, 5, 7⟩ (by decide)) (by decide)

end CommonSerialization.Csp.Messaging.Registrar
