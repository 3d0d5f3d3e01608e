import CommonSerialization.Csp.Messaging.HandlersInUse

namespace CommonSerialization.Csp.Messaging.Registrar

open Transitions

/-! The counters of the waiting calls, and who wakes them. -/

/-- The careful steps in which no call takes a handle over that another call
waits for. -/
def Exclusive (s : State) (action : Action) : Prop :=
  Careful s action ∧
    match action with
    | .unregisterHandler id handler =>
        ∀ handle ∈ s.findHandle id handler,
          handle.inUseCounter = 0 ∨ handle.state = .active
    | .unregisterService pService =>
        (∀ entry ∈ s.unregisterServiceList, entry.pService = pService →
          entry.inUseCounter = 0) ∨
        ∀ handle ∈ s.handlerMap, handle.pService = pService →
          handle.inUseCounter = 0
    | _ => True

structure ServiceExact (s : State) : Prop where
  counters : ∀ entry ∈ s.unregisterServiceList,
    entry.inUseCounter = marksInUse s entry
  marks : ∀ entry ∈ s.unregisterServiceList, ∀ handle ∈ s.handlerMap,
    handle.address ∈ entry.marked → handle.pService = entry.pService ∧
      (handle.address ∈ s.acquired → handle.state = .serviceRemove)
  single : ∀ entry ∈ s.unregisterServiceList, entry.inUseCounter ≠ 0 →
    s.firstOfService entry.pService = some entry

structure HandlerExact (s : State) : Prop where
  distinct : (s.unregisterHandlerList.map (·.handle)).Nodup
  awake : ∀ entry ∈ s.unregisterHandlerList, entry.handle ∉ s.acquired →
    wakeUpsOfHandler s entry = 1

section Exact

variable {s next : State}

theorem ServiceExact.stay (exact : ServiceExact s)
    (list : next.unregisterServiceList = s.unregisterServiceList)
    (same : ∀ entry ∈ s.unregisterServiceList,
      marksInUse next entry = marksInUse s entry)
    (handles : ∀ entry ∈ s.unregisterServiceList, ∀ handle ∈ next.handlerMap,
      handle.address ∈ entry.marked → ∃ before ∈ s.handlerMap,
        before.address = handle.address ∧ before.pService = handle.pService ∧
          (handle.address ∈ next.acquired → handle.address ∈ s.acquired ∧
            (before.state = .serviceRemove → handle.state = .serviceRemove))) :
    ServiceExact next where
  counters entry member := by
    rw [list] at member
    rw [same entry member]
    exact exact.counters entry member
  marks entry member handle handleMember marked := by
    rw [list] at member
    obtain ⟨before, beforeMember, address, service, used⟩ :=
      handles entry member handle handleMember marked
    obtain ⟨own, state⟩ :=
      exact.marks entry member before beforeMember (address ▸ marked)
    refine ⟨service.symm.trans own, fun acquired => ?_⟩
    obtain ⟨old, keeps⟩ := used acquired
    exact keeps (state (address ▸ old))
  single entry member used := by
    rw [list] at member
    rw [State.firstOfService, list]
    exact exact.single entry member used

theorem ServiceExact.congr (exact : ServiceExact s)
    (list : next.unregisterServiceList = s.unregisterServiceList)
    (map : next.handlerMap = s.handlerMap)
    (acquired : next.acquired = s.acquired) : ServiceExact next := by
  refine exact.stay list (fun entry _ => by rw [marksInUse, acquired, marksInUse])
    ?_
  intro entry _ handle member _
  rw [map] at member
  exact ⟨handle, member, rfl, rfl, fun used => ⟨acquired ▸ used, id⟩⟩

theorem ServiceExact.eraseHandles (exact : ServiceExact s)
    (selected : SdhHandle → Bool) : ServiceExact (s.eraseHandles selected) := by
  refine exact.stay rfl (fun _ _ => rfl) fun entry _ handle member _ => ?_
  exact ⟨handle, (mem_eraseHandles.mp member).1, rfl, rfl, fun used => ⟨used, id⟩⟩

theorem ServiceExact.finish (exact : ServiceExact s) (waits : ServiceWaits s)
    {entry : ToUnregisterService} (member : entry ∈ s.unregisterServiceList)
    (woken : entry.countedDown ≠ 0) :
    ServiceExact
      { s with
        unregisterServiceList :=
          s.unregisterServiceList.filter fun other =>
            other.call ≠ entry.call } where
  counters other otherMember :=
    exact.counters other (List.mem_of_mem_filter otherMember)
  marks other otherMember :=
    exact.marks other (List.mem_of_mem_filter otherMember)
  single other otherMember used := by
    have old := List.mem_of_mem_filter otherMember
    apply Counting.find?_filter_of_kept (exact.single other old used)
    simp only [decide_eq_true_eq]
    intro same
    -- the call has been woken, so nobody it waits for is in use
    have once := waits.woken entry member
    rw [List.inj_on_of_nodup_map waits.distinct old member same] at used
    rw [if_neg used, wakeUpsOfService] at once
    omega

theorem HandlerExact.stay (exact : HandlerExact s)
    (list : next.unregisterHandlerList = s.unregisterHandlerList)
    (acquired : ∀ entry ∈ s.unregisterHandlerList,
      entry.handle ∉ next.acquired → entry.handle ∉ s.acquired)
    (same : ∀ entry ∈ s.unregisterHandlerList,
      wakeUpsOfHandler next entry = wakeUpsOfHandler s entry) :
    HandlerExact next where
  distinct := by
    rw [list]
    exact exact.distinct
  awake entry member unused := by
    rw [list] at member
    rw [same entry member]
    exact exact.awake entry member (acquired entry member unused)

theorem HandlerExact.finish (exact : HandlerExact s)
    (kept : ToUnregisterHandler → Bool) :
    HandlerExact
      { s with
        unregisterHandlerList := s.unregisterHandlerList.filter kept } where
  distinct := (List.filter_sublist.map _).nodup exact.distinct
  awake entry member := exact.awake entry (List.mem_of_mem_filter member)

/-- A loop that finds nothing has passed the handlers of all waiting calls. -/
theorem searchHandler_absent {handler : Nat} {list : List ToUnregisterHandler}
    (absent : s.searchHandler handler list = .absent) :
    ∀ entry ∈ list, ∀ handle, s.handleAt entry.handle = some handle →
      handle.handler ≠ handler := by
  induction list with
  | nil => nofun
  | cons first rest induction =>
      simp only [State.searchHandler] at absent
      split at absent
      · cases absent
      · rename_i firstHandle found
        split at absent
        · cases absent
        · rename_i passed
          intro entry member handle there
          rcases List.mem_cons.mp member with rfl | old
          · rw [found] at there
            rwa [← Option.some.inj there]
          · exact induction absent entry old handle there

/-- The thread of the last user of a handle wakes the call that waits for it. -/
theorem HandlerExact.wake
    (calls : (s.unregisterHandlerList.map (·.call)).Nodup)
    (distinct : (s.unregisterHandlerList.map (·.handle)).Nodup)
    {handle : SdhHandle}
    (there : (s.handleAt handle.address).map (·.handler) = some handle.handler)
    (own : WakesOwn s handle)
    (asleep : ∀ entry ∈ s.unregisterHandlerList,
      entry.handle = handle.address → wakeUpsOfHandler s entry = 0)
    (others : ∀ entry ∈ s.unregisterHandlerList, entry.handle ≠ handle.address →
      entry.handle ∉ s.acquired → wakeUpsOfHandler s entry = 1)
    (performed : wakeHandler handle.handler s = some next) :
    HandlerExact next := by
  obtain ⟨found, atAddress, sameHandler⟩ := Option.map_eq_some_iff.mp there
  unfold wakeHandler at performed
  rcases own with absent | ⟨entry, member, search, same⟩
  · rw [absent] at performed
    cases performed
    refine ⟨distinct, fun entry member => others entry member fun same => ?_⟩
    exact searchHandler_absent absent entry member found (same ▸ atAddress)
      sameHandler
  · rw [search] at performed
    cases performed
    refine ⟨distinct, fun other otherMember unused => ?_⟩
    rw [wakeUpsOfHandler, List.countP_cons]
    simp only [wakesHandler, decide_eq_true_eq]
    by_cases equal : other.handle = handle.address
    · have own : other = entry :=
        List.inj_on_of_nodup_map distinct otherMember member (equal.trans same.symm)
      have none := asleep other otherMember equal
      rw [wakeUpsOfHandler] at none
      rw [own] at none ⊢
      rw [if_pos rfl]
      omega
    · have once := others other otherMember equal unused
      have apart : ¬entry.call = other.call := by
        intro sameCall
        rw [List.inj_on_of_nodup_map calls member otherMember sameCall] at same
        exact equal same
      rw [if_neg apart]
      exact once

theorem ServiceExact.release (exact : ServiceExact s) {address : Nat}
    (unmarked : ∀ entry ∈ s.unregisterServiceList, address ∉ entry.marked) :
    ServiceExact (s.release address) := by
  refine exact.stay rfl (fun entry member => ?_) ?_
  · simp [marksInUse, State.release, List.countP_erase, unmarked entry member]
  · intro entry _ handle member _
    obtain ⟨before, beforeMember, rfl⟩ := mem_changeHandles.mp member
    refine ⟨before, beforeMember, ?_⟩
    split <;>
      exact ⟨rfl, rfl, fun used => ⟨List.mem_of_mem_erase used, fun state => state⟩⟩

theorem ServiceExact.countRelease (exact : ServiceExact s)
    (waits : ServiceWaits s) {entry : ToUnregisterService}
    (member : entry ∈ s.unregisterServiceList) {address : Nat}
    (used : address ∈ s.acquired) (marked : address ∈ entry.marked)
    (others : ∀ other ∈ s.unregisterServiceList, address ∈ other.marked →
      other = entry)
    (changed : ToUnregisterService → ToUnregisterService)
    (keeps : ∀ other, (changed other).pService = other.pService ∧
      (changed other).marked = other.marked)
    (less : (changed entry).inUseCounter = entry.inUseCounter - 1) :
    ServiceExact ((s.release address).changeService entry.call changed) := by
  have counter := exact.counters entry member
  have positive : 0 < marksInUse s entry :=
    List.countP_pos_iff.mpr ⟨address, used, by simpa using marked⟩
  have cases (other : ToUnregisterService) (otherMember : other ∈
        ((s.release address).changeService entry.call
          changed).unregisterServiceList) :
      other = changed entry ∨
        other ∈ s.unregisterServiceList ∧ other.call ≠ entry.call := by
    obtain ⟨before, beforeMember, rfl⟩ := List.mem_map.mp otherMember
    by_cases same : before.call = entry.call
    · left
      rw [if_pos same, List.inj_on_of_nodup_map waits.distinct beforeMember
        member same]
    · right
      rw [if_neg same]
      exact ⟨beforeMember, same⟩
  constructor
  · intro other otherMember
    simp only [marksInUse, State.changeService, State.release, List.countP_erase]
    rcases cases other otherMember with rfl | ⟨old, distinct⟩
    · rw [less, counter, (keeps entry).2]
      simp [marksInUse, used, marked]
    · have spared : address ∉ other.marked := fun marks =>
        distinct (by rw [others other old marks])
      rw [exact.counters other old]
      simp [marksInUse, spared]
  · intro other otherMember handle handleMember marks
    obtain ⟨before, beforeMember, rfl⟩ := mem_changeHandles.mp handleMember
    have known : ∃ old ∈ s.unregisterServiceList,
        other.pService = old.pService ∧ other.marked = old.marked := by
      rcases cases other otherMember with rfl | ⟨old, _⟩
      · exact ⟨entry, member, keeps entry⟩
      · exact ⟨other, old, rfl, rfl⟩
    obtain ⟨old, oldMember, service, sameMarks⟩ := known
    obtain ⟨own, state⟩ := exact.marks old oldMember before beforeMember
      (by rw [← sameMarks]; split at marks <;> exact marks)
    rw [service]
    split <;> exact ⟨own, fun stays => state (List.mem_of_mem_erase stays)⟩
  · intro other otherMember waiting
    rcases cases other otherMember with rfl | ⟨old, distinct⟩
    · have first : (s.release address).firstOfService entry.pService =
          some entry := exact.single entry member (by omega)
      rw [(keeps entry).1,
        firstOfService_changeService (by exact fun other => (keeps other).1) first,
        if_pos rfl]
    · have first : (s.release address).firstOfService other.pService =
          some other := exact.single other old waiting
      rw [firstOfService_changeService (by exact fun other => (keeps other).1)
        first, if_neg distinct]

theorem HandlerExact.releaseOfHandler (exact : HandlerExact s) (inUse : InUse s)
    {handle : SdhHandle} (member : handle ∈ s.handlerMap)
    (used : handle.address ∈ s.acquired) {released : State}
    (map : released.handlerMap = (s.release handle.address).handlerMap)
    (acquired : released.acquired = s.acquired.erase handle.address)
    (list : released.unregisterHandlerList = s.unregisterHandlerList)
    (releasing : released.releasing = s.releasing)
    (own : handle.inUseCounter = 1 → WakesOwn s handle)
    (performed : Registrar.releaseOfHandler handle released = some next) :
    HandlerExact next := by
  have handlers (address : Nat) :
      (released.handleAt address).map (·.handler) =
        (s.handleAt address).map (·.handler) := by
    refine Eq.trans ?_ (handlers_release handle.address address)
    simp only [State.handleAt, map]
  have sameWakeUps (entry : ToUnregisterHandler) :
      wakeUpsOfHandler released entry = wakeUpsOfHandler s entry := by
    rw [wakeUpsOfHandler, releasing, wakeUpsOfHandler]
  have unused (entry : ToUnregisterHandler) (apart : entry.handle ≠ handle.address)
      (gone : entry.handle ∉ released.acquired) : entry.handle ∉ s.acquired := by
    rw [acquired] at gone
    exact fun old => gone ((List.mem_erase_of_ne apart).mpr old)
  unfold Registrar.releaseOfHandler at performed
  split at performed
  · rename_i single
    refine HandlerExact.wake (by rw [list]; exact inUse.handlers.distinct)
      (by rw [list]; exact exact.distinct) ?_ ?_ ?_ ?_ performed
    · rw [handlers, inUse.accounted.handleAt member]
      rfl
    · have search := searchHandler_congr handlers handle.handler
        s.unregisterHandlerList
      simpa only [WakesOwn, list, search] using own single
    · intro entry entryMember same
      rw [list] at entryMember
      rw [sameWakeUps]
      by_contra wakeUps
      exact inUse.handlers.settled entry entryMember wakeUps (same ▸ used)
    · intro entry entryMember apart gone
      rw [list] at entryMember
      rw [sameWakeUps]
      exact exact.awake entry entryMember (unused entry apart gone)
  · rename_i several
    cases performed
    refine exact.stay list (fun entry _ gone => ?_) fun entry _ => sameWakeUps entry
    by_cases same : entry.handle = handle.address
    · -- another acquisition of the handle is left
      have counted := inUse.accounted.counted handle member
      have positive := List.count_pos_iff.mpr used
      rw [same, acquired, ← List.count_eq_zero, List.count_erase_self] at gone
      omega
    · exact unused entry same gone

end Exact

structure Exact (s : State) : Prop where
  services : ServiceExact s
  handlers : HandlerExact s

namespace Exact

variable {s : State}

theorem empty : Exact State.empty := ⟨⟨nofun, nofun, nofun⟩, ⟨.nil, nofun⟩⟩

theorem eraseHandles (exact : Exact s) (selected : SdhHandle → Bool) :
    Exact (s.eraseHandles selected) :=
  ⟨exact.services.eraseHandles selected,
    exact.handlers.stay rfl (fun _ _ => id) fun _ _ => rfl⟩

theorem registerHandler (exact : Exact s) (inUse : InUse s) (id : Nat)
    (kMulticast : Bool) (pService handler position : Nat) :
    Exact (Registrar.registerHandler id kMulticast pService handler position
      s).2 := by
  unfold Registrar.registerHandler
  split
  · exact exact
  · refine ⟨exact.services.stay rfl (fun _ _ => rfl) ?_,
      exact.handlers.stay rfl (fun _ _ unused => unused) fun _ _ => rfl⟩
    intro entry entryMember handle member marked
    simp only [List.mem_append, List.mem_cons] at member
    rcases member with earlier | rfl | later
    · exact ⟨handle, List.mem_of_mem_take earlier, rfl, rfl, fun used =>
        ⟨used, fun state => state⟩⟩
    · have old := (inUse.services.closed entry entryMember _ marked).1
      exact absurd old (Nat.lt_irrefl _)
    · exact ⟨handle, List.mem_of_mem_drop later, rfl, rfl, fun used =>
        ⟨used, fun state => state⟩⟩

theorem unregisterHandler (exact : Exact s) (inUse : InUse s) {id handler : Nat}
    (exclusive : Exclusive s (.unregisterHandler id handler)) :
    Exact (Registrar.unregisterHandler id handler s) := by
  unfold Registrar.unregisterHandler
  split
  · exact exact
  · rename_i handle found
    have member := (findHandle_eq_some found).1
    split
    · rename_i used
      have acquired : handle.address ∈ s.acquired := by
        by_contra unused
        exact used ((inUse.accounted.not_acquired member).mpr unused)
      have active := (exclusive.2 handle found).resolve_left used
      refine ⟨exact.services.stay rfl (fun _ _ => rfl) ?_, ?_, ?_⟩
      · intro entry entryMember other otherMember marked
        obtain ⟨before, beforeMember, rfl⟩ := mem_changeHandles.mp otherMember
        have apart : ¬before.address = handle.address := by
          intro same
          obtain rfl := inUse.accounted.eq_of_address beforeMember member same
          rw [if_pos (by simp)] at marked
          exact (inUse.services.closed entry entryMember _ marked).2 before member
            rfl active
        rw [if_neg (by simpa using apart)]
        exact ⟨before, beforeMember, rfl, rfl, fun used =>
          ⟨used, fun state => state⟩⟩
      · rw [List.map_cons, List.nodup_cons]
        refine ⟨fun known => ?_, exact.handlers.distinct⟩
        obtain ⟨entry, entryMember, same⟩ := List.mem_map.mp known
        exact (inUse.handlers.closed entry entryMember).2 handle member same.symm
          active
      · intro entry entryMember unused
        rcases List.mem_cons.mp entryMember with rfl | old
        · exact absurd acquired unused
        · exact exact.handlers.awake entry old unused
    · exact exact.eraseHandles _

theorem finishUnregisterHandler (exact : Exact s) (entry : ToUnregisterHandler) :
    Exact (Registrar.finishUnregisterHandler entry s) := by
  have finished : Exact
      { s with
        unregisterHandlerList :=
          s.unregisterHandlerList.filter fun other =>
            other.call ≠ entry.call } :=
    ⟨exact.services.congr rfl rfl rfl, exact.handlers.finish _⟩
  unfold Registrar.finishUnregisterHandler
  simp only
  split
  · exact finished
  · exact finished.eraseHandles _

theorem unregisterService (exact : Exact s) (inUse : InUse s) {pService : Nat}
    (exclusive : Exclusive s (.unregisterService pService)) :
    Exact (Registrar.unregisterService pService s) := by
  have sum := inUse.accounted.sum_inUseCounter (ofService pService)
  have few := inUse.accounted.few
  have fewer := List.countP_le_length (l := s.acquired)
    (p := fun address => ((s.handlerMap.filter (ofService pService)).map
      (·.address)).contains address)
  have small : ((s.handlerMap.filter (ofService pService)).map
      (·.inUseCounter)).sum < 2 ^ 32 := by omega
  unfold Registrar.unregisterService
  simp only [Nat.mod_eq_of_lt small]
  split
  · rename_i used
    refine ⟨⟨?_, ?_, ?_⟩, exact.handlers.stay rfl (fun _ _ => id) fun _ _ => rfl⟩
    · intro entry entryMember
      rcases List.mem_cons.mp entryMember with rfl | old
      · exact sum
      · exact exact.services.counters entry old
    · intro entry entryMember handle member marked
      obtain ⟨before, beforeMember, rfl⟩ := mem_changeHandles.mp member
      rcases List.mem_cons.mp entryMember with rfl | old
      · obtain ⟨known, knownMember, same⟩ := List.mem_map.mp marked
        obtain ⟨knownMember, selected⟩ := List.mem_filter.mp knownMember
        have equal : known = before := by
          apply inUse.accounted.eq_of_address knownMember beforeMember
          split at same <;> exact same
        rw [equal] at selected
        rw [if_pos selected]
        exact ⟨by simpa [ofService] using selected, fun _ => rfl⟩
      · obtain ⟨own, state⟩ := exact.services.marks entry old before beforeMember
          (by split at marked <;> exact marked)
        split
        · exact ⟨own, fun _ => rfl⟩
        · exact ⟨own, state⟩
    · intro entry entryMember waiting
      rw [State.firstOfService, List.find?_cons]
      rcases List.mem_cons.mp entryMember with rfl | old
      · simp
      · have apart : ¬pService = entry.pService := by
          intro same
          rcases exclusive.2 with finished | unused
          · exact waiting (finished entry old same.symm)
          · apply used
            apply List.sum_eq_zero
            intro counter known
            obtain ⟨handle, handleMember, rfl⟩ := List.mem_map.mp known
            obtain ⟨handleMember, selected⟩ := List.mem_filter.mp handleMember
            exact unused handle handleMember (by simpa [ofService] using selected)
        simp only [apart, decide_false]
        exact exact.services.single entry old waiting
  · rw [eraseHandles_changeHandles (by exact fun _ selected => selected)]
    exact exact.eraseHandles _

theorem finishUnregisterService (exact : Exact s) (inUse : InUse s)
    {entry : ToUnregisterService}
    (enabled : Enabled s (.finishUnregisterService entry)) :
    Exact (Registrar.finishUnregisterService entry s) := by
  have finished : Exact
      { s with
        unregisterServiceList :=
          s.unregisterServiceList.filter fun other =>
            other.call ≠ entry.call } :=
    ⟨exact.services.finish inUse.services enabled.1 enabled.2,
      exact.handlers.stay rfl (fun _ _ => id) fun _ _ => rfl⟩
  exact finished.eraseHandles _

theorem acquire (exact : Exact s) (inUse : InUse s) {addresses : List Nat}
    (active : ∀ address ∈ addresses, ∃ handle ∈ s.handlerMap,
      handle.address = address ∧ handle.state = .active) :
    Exact (s.acquire addresses) := by
  have opened (address : Nat) (member : address ∈ addresses) :
      ¬Closed s address := by
    intro closed
    obtain ⟨handle, handleMember, same, state⟩ := active address member
    exact closed.2 handle handleMember same state
  constructor
  · refine exact.services.stay rfl (fun entry member => ?_) ?_
    · have none : addresses.countP (fun address => entry.marked.contains address) =
          0 := by
        rw [List.countP_eq_zero]
        intro address chosen marked
        exact opened address chosen
          (inUse.services.closed entry member address (by simpa using marked))
      simp only [marksInUse, State.acquire, List.countP_append, none, Nat.add_zero]
    · intro entry entryMember handle member marked
      obtain ⟨before, beforeMember, rfl⟩ := mem_changeHandles.mp member
      have address : before.address ∈ entry.marked := by
        split at marked <;> exact marked
      have passed : before.address ∉ addresses := fun chosen =>
        opened _ chosen (inUse.services.closed entry entryMember _ address)
      rw [if_neg (by simpa using passed)]
      refine ⟨before, beforeMember, rfl, rfl, fun used => ⟨?_, fun state => state⟩⟩
      exact (List.mem_append.mp used).resolve_right passed
  · refine exact.handlers.stay rfl (fun entry _ unused used => ?_) fun _ _ => rfl
    exact unused (List.mem_append_left _ used)

theorem aquireHandlers (exact : Exact s) (inUse : InUse s) (id room : Nat) :
    Exact (Registrar.aquireHandlers id room s).2 := by
  unfold Registrar.aquireHandlers
  split
  · exact exact
  · split
    · refine exact.acquire inUse fun address member => ?_
      obtain ⟨handle, handleMember, rfl⟩ := List.mem_map.mp member
      obtain ⟨inRange, state⟩ := List.mem_filter.mp handleMember
      exact ⟨handle, List.mem_of_mem_filter inRange, rfl, by simpa using state⟩
    · split <;> exact exact

theorem aquireHandler (exact : Exact s) (inUse : InUse s) (id : Nat) :
    Exact (Registrar.aquireHandler id s).2 := by
  unfold Registrar.aquireHandler
  split
  · exact exact
  · rename_i handle range
    split
    · exact exact
    · rename_i state
      refine exact.acquire inUse fun address member => ?_
      obtain rfl := List.mem_singleton.mp member
      have member : handle ∈ s.equalRange id := by simp [range]
      exact ⟨handle, List.mem_of_mem_filter member, rfl, by simpa using state⟩
  · exact exact

section Release

variable {handle : SdhHandle} (exact : Exact s) (inUse : InUse s)
  (member : handle ∈ s.handlerMap) (used : handle.address ∈ s.acquired)

include exact used

theorem waits_of_marked {entry : ToUnregisterService}
    (entryMember : entry ∈ s.unregisterServiceList) (marked : handle.address ∈ entry.marked) :
    0 < entry.inUseCounter := by
  rw [exact.services.counters entry entryMember, marksInUse, List.countP_pos_iff]
  exact ⟨handle.address, used, by simpa using marked⟩

include member

theorem unmarked (state : handle.state ≠ .serviceRemove) :
    ∀ entry ∈ s.unregisterServiceList, handle.address ∉ entry.marked :=
  fun entry entryMember marked =>
    state ((exact.services.marks entry entryMember handle member marked).2 used)

/-- A handle in use is marked only by the first call that waits for its service. -/
theorem first_of_marked {entry other : ToUnregisterService}
    (first : s.firstOfService handle.pService = some entry)
    (otherMember : other ∈ s.unregisterServiceList)
    (marks : handle.address ∈ other.marked) : other = entry := by
  have service := (exact.services.marks other otherMember handle member marks).1
  have firstOther := exact.services.single other otherMember
    (Nat.pos_iff_ne_zero.mp (exact.waits_of_marked used otherMember marks))
  rw [← service, first] at firstOther
  exact (Option.some.inj firstOther).symm

include inUse

/-- The thread that goes on to the service will wake the call that waits for the handle
itself, if this was the last one that used it. -/
theorem awake_of_last {next : State} {call : Nat}
    (list : next.unregisterHandlerList = s.unregisterHandlerList)
    (acquired : next.acquired = s.acquired.erase handle.address)
    (releasing : next.releasing =
      .countDownService call handle.address handle.inUseCounter :: s.releasing) :
    HandlerExact next := by
  refine ⟨by rw [list]; exact exact.handlers.distinct, ?_⟩
  intro waiting waitingMember gone
  rw [list] at waitingMember
  rw [acquired] at gone
  rw [wakeUpsOfHandler, releasing, List.countP_cons]
  by_cases same : waiting.handle = handle.address
  · -- nobody has woken the call that waits for the handle itself
    have counted := inUse.accounted.counted handle member
    have remains : handle.address ∉ s.acquired.erase handle.address := same ▸ gone
    rw [← List.count_eq_zero, List.count_erase_self] at remains
    have occurs := List.count_pos_iff.mpr used
    have last : handle.inUseCounter = 1 := by omega
    have asleep : wakeUpsOfHandler s waiting = 0 := by
      by_contra wakeUps
      exact inUse.handlers.settled waiting waitingMember wakeUps (same ▸ used)
    rw [wakeUpsOfHandler] at asleep
    rw [if_pos (by simp [wakesHandler, same, last])]
    exact congrArg (· + 1) asleep
  · rw [if_neg (by simp [wakesHandler, Ne.symm same])]
    exact exact.handlers.awake waiting waitingMember fun old =>
      gone ((List.mem_erase_of_ne same).mpr old)

end Release

theorem releaseHandler (exact : Exact s) (inUse : InUse s) {address : Nat}
    (enabled : Enabled s (.releaseHandler address))
    (careful : Careful s (.releaseHandler address)) {next : State}
    (performed : Registrar.releaseHandler address s = some next) : Exact next := by
  have used : address ∈ s.acquired := enabled
  obtain ⟨handle, member, rfl⟩ := inUse.accounted.present address used
  have own (closed : handle.state ≠ .active)
      (waits : endsServiceWait s handle = false) (single : handle.inUseCounter = 1) :=
    careful handle member rfl closed single waits
  unfold Registrar.releaseHandler at performed
  simp only [inUse.accounted.handleAt member] at performed
  cases state : handle.state with
  | active =>
      rw [state] at performed
      cases performed
      refine ⟨exact.services.release (exact.unmarked member used (by simp [state])),
        exact.handlers.stay rfl (fun entry entryMember gone old => gone ?_)
          fun _ _ => rfl⟩
      have apart : entry.handle ≠ handle.address := fun same =>
        (inUse.handlers.closed entry entryMember).2 handle member same.symm state
      exact (List.mem_erase_of_ne apart).mpr old
  | handlerRemove =>
      rw [state] at performed
      obtain ⟨releasing, same⟩ := releaseOfHandler_releasing performed
      constructor
      · rw [same]
        exact (exact.services.release (exact.unmarked member used (by simp [state]))).congr
          rfl rfl rfl
      · exact exact.handlers.releaseOfHandler inUse member used rfl rfl rfl rfl
          (own (by simp [state]) (by simp [endsServiceWait, state])) performed
  | serviceRemove =>
      obtain ⟨entry, first, marked⟩ := inUse.services.first handle member state
      have entryMember := List.mem_of_find?_eq_some first
      have positive := exact.waits_of_marked used entryMember marked
      have bounded := (inUse.services.covered entry entryMember).2
      have services := exact.services.countRelease inUse.services entryMember used
        marked (fun _ => exact.first_of_marked member used first)
        (fun other => { other with inUseCounter := fetchSub other.inUseCounter })
        (fun _ => ⟨rfl, rfl⟩) (by exact fetchSub_of_pos positive bounded)
      simp only [state, first] at performed
      split at performed
      · cases performed
        exact ⟨services.congr rfl rfl rfl, exact.awake_of_last inUse member used rfl rfl rfl⟩
      · rename_i several
        obtain ⟨releasing, same⟩ := releaseOfHandler_releasing performed
        constructor
        · rw [same]
          exact services.congr rfl rfl rfl
        · have quiet : endsServiceWait s handle = false := by
            simp [endsServiceWait, state, first, several]
          refine exact.handlers.releaseOfHandler inUse member used ?_ ?_ ?_ ?_
            (own (by simp [state]) quiet) performed <;> rfl

theorem countDownHandler (exact : Exact s) {call : Nat}
    (enabled : Enabled s (.continueRelease (.countDownHandler call)))
    {next : State}
    (performed : Registrar.continueRelease (.countDownHandler call) s =
      some next) : Exact next := by
  have member : .countDownHandler call ∈ s.releasing := enabled
  simp only [Registrar.continueRelease] at performed
  split at performed
  · cases performed
    refine ⟨exact.services.congr rfl rfl rfl, ?_, ?_⟩
    · simp only [State.changeHandler, List.map_map]
      have same : ((·.handle) ∘ fun entry : ToUnregisterHandler =>
            if entry.call = call then
              { entry with countedDown := entry.countedDown + 1 }
            else entry) = (·.handle) := by
        funext entry
        simp only [Function.comp]
        split <;> rfl
      rw [same]
      exact exact.handlers.distinct
    · intro changed changedMember gone
      obtain ⟨entry, entryMember, rfl⟩ := List.mem_map.mp changedMember
      refine (wakeUpsOfHandler_countDown member entry).trans
        (exact.handlers.awake entry entryMember ?_)
      split at gone <;> exact gone
  · cases performed

theorem countDownService (exact : Exact s) {call handle prevUseCount : Nat}
    (enabled : Enabled s
      (.continueRelease (.countDownService call handle prevUseCount)))
    {next : State}
    (performed : Registrar.continueRelease
      (.countDownService call handle prevUseCount) s = some next) :
    Exact next := by
  have member : .countDownService call handle prevUseCount ∈ s.releasing :=
    enabled
  -- the latch and the threads do not enter into the counters
  have services (other : State) (list : other.unregisterServiceList =
        (s.changeService call fun entry =>
          { entry with countedDown := entry.countedDown + 1 }
        ).unregisterServiceList) (map : other.handlerMap = s.handlerMap)
      (acquired : other.acquired = s.acquired) : ServiceExact other := by
    constructor
    · intro changed changedMember
      rw [list] at changedMember
      obtain ⟨entry, entryMember, rfl⟩ := List.mem_map.mp changedMember
      rw [marksInUse, acquired]
      have counter := exact.services.counters entry entryMember
      split <;> exact counter
    · intro changed changedMember user userMember marks
      rw [list] at changedMember
      rw [map] at userMember
      rw [acquired]
      obtain ⟨entry, entryMember, rfl⟩ := List.mem_map.mp changedMember
      have before := exact.services.marks entry entryMember user userMember
      split at marks
      · rename_i same
        rw [if_pos same]
        exact before marks
      · rename_i distinct
        rw [if_neg distinct]
        exact before marks
    · intro changed changedMember waiting
      rw [list] at changedMember
      obtain ⟨entry, entryMember, rfl⟩ := List.mem_map.mp changedMember
      have first := exact.services.single entry entryMember
        (by split at waiting <;> exact waiting)
      have service : (if entry.call = call then
            { entry with countedDown := entry.countedDown + 1 }
          else entry).pService = entry.pService := by
        split <;> rfl
      rw [service, State.firstOfService, list]
      exact firstOfService_changeService (by exact fun _ => rfl) first
  have handlers (other : State) (releasing : other.releasing =
        if prevUseCount = 1 then
          .findHandler handle ::
            s.releasing.erase (.countDownService call handle prevUseCount)
        else s.releasing.erase (.countDownService call handle prevUseCount))
      (list : other.unregisterHandlerList = s.unregisterHandlerList)
      (acquired : other.acquired = s.acquired) : HandlerExact other :=
    exact.handlers.stay list (fun _ _ gone => acquired ▸ gone) fun entry _ =>
      wakeUpsOfHandler_countDownService member releasing entry
  simp only [Registrar.continueRelease] at performed
  split at performed
  · split at performed
    · rename_i single
      cases performed
      exact ⟨services _ rfl rfl rfl,
        handlers _ (by rw [if_pos single]; rfl) rfl rfl⟩
    · rename_i several
      cases performed
      exact ⟨services _ rfl rfl rfl,
        handlers _ (by rw [if_neg several]; rfl) rfl rfl⟩
  · cases performed

theorem findHandler (exact : Exact s) (inUse : InUse s) {address : Nat}
    (enabled : Enabled s (.continueRelease (.findHandler address)))
    (careful : Careful s (.continueRelease (.findHandler address)))
    {next : State}
    (performed : Registrar.continueRelease (.findHandler address) s =
      some next) : Exact next := by
  have member : .findHandler address ∈ s.releasing := enabled
  have count (entry : ToUnregisterHandler) := wakeUpsOfHandler_erase member entry
  by_cases nobody : s.unregisterHandlerList = []
  · rw [continueRelease_nobody nobody] at performed
    cases performed
    refine ⟨exact.services.congr rfl rfl rfl, exact.handlers.distinct, ?_⟩
    intro entry (entryMember : entry ∈ s.unregisterHandlerList)
    rw [nobody] at entryMember
    cases entryMember
  · obtain ⟨handle, handleMember, rfl, own⟩ := careful.resolve_left nobody
    rw [continueRelease_somebody nobody (inUse.accounted.handleAt handleMember)]
      at performed
    obtain ⟨releasing, same⟩ := wakeHandler_releasing performed
    constructor
    · rw [same]
      exact exact.services.congr rfl rfl rfl
    · refine HandlerExact.wake ?_ ?_ ?_ ?_ ?_ ?_ performed
      · exact inUse.handlers.distinct
      · exact exact.handlers.distinct
      · have found := inUse.accounted.handleAt handleMember
        rw [State.handleAt] at found ⊢
        rw [found]
        rfl
      · have search : State.searchHandler
              { s with
                releasing := s.releasing.erase (.findHandler handle.address) }
              handle.handler s.unregisterHandlerList =
            s.searchHandler handle.handler s.unregisterHandlerList :=
          searchHandler_congr (by exact fun _ => rfl) _ _
        simpa only [WakesOwn, search] using own
      · intro entry entryMember sameHandle
        have once := inUse.handlers.woken entry entryMember
        have counted := count entry
        simp only [wakesHandler, sameHandle, decide_true, if_true] at counted
        omega
      · intro entry entryMember apart gone
        have counted := count entry
        rw [exact.handlers.awake entry entryMember gone,
          if_neg (by simp [wakesHandler, Ne.symm apart])] at counted
        exact counted

end Exact

theorem Exact.step {s next : State} (exact : Exact s) (inUse : InUse s)
    {action : Action} (enabled : Enabled s action)
    (exclusive : Exclusive s action) (performed : perform s action = some next) :
    Exact next := by
  cases action with
  | registerHandler id kMulticast pService handler position =>
      cases performed
      exact exact.registerHandler inUse id kMulticast pService handler position
  | unregisterHandler id handler =>
      cases performed
      exact exact.unregisterHandler inUse exclusive
  | finishUnregisterHandler entry =>
      cases performed
      exact exact.finishUnregisterHandler entry
  | unregisterService pService =>
      cases performed
      exact exact.unregisterService inUse exclusive
  | finishUnregisterService entry =>
      cases performed
      exact exact.finishUnregisterService inUse enabled
  | aquireHandlers id room =>
      cases performed
      exact exact.aquireHandlers inUse id room
  | aquireHandler id =>
      cases performed
      exact exact.aquireHandler inUse id
  | releaseHandler address =>
      exact exact.releaseHandler inUse enabled exclusive.1 performed
  | continueRelease thread =>
      cases thread with
      | countDownHandler call => exact exact.countDownHandler enabled performed
      | countDownService call handle prevUseCount =>
          exact exact.countDownService enabled performed
      | findHandler address =>
          exact exact.findHandler inUse enabled exclusive.1 performed

theorem inUse_of_exclusive {s : State}
    (reached : Reaches Step Exclusive State.empty s) : InUse s :=
  inUse_of_reaches (reached.weaken fun _ _ exclusive => exclusive.1)

theorem exact_of_step {s next : State} {action : Action} (inUse : InUse s)
    (exact : Exact s) (exclusive : Exclusive s action)
    (stepped : Step s action next) : Exact next := by
  obtain ⟨enabled, outcomes⟩ := stepped
  obtain ⟨outcome, performed, _⟩ := inUse.step enabled exclusive.1
  rw [outcomes outcome performed]
  exact exact.step inUse enabled exclusive performed

theorem exact_of_reaches {s : State}
    (reached : Reaches Step Exclusive State.empty s) : Exact s :=
  Reaches.invariant_of_known inUse_of_exclusive Exact.empty exact_of_step reached

/-- The counter of every waiting `unregisterService` is the sum of the counters
of the handles that the call has marked. -/
def CountersExact (s : State) : Prop :=
  ∀ entry ∈ s.unregisterServiceList, entry.inUseCounter =
    ((s.handlerMap.filter fun handle =>
      entry.marked.contains handle.address).map (·.inUseCounter)).sum

/-- The latch of a waiting call is counted down exactly once, or a thread is
about to do it, when nobody uses the handles the call waits for any more. -/
def WokenOnce (s : State) : Prop :=
  (∀ entry ∈ s.unregisterServiceList,
    (∀ handle ∈ s.handlerMap, handle.address ∈ entry.marked →
      handle.inUseCounter = 0) → wakeUpsOfService s entry = 1) ∧
  ∀ entry ∈ s.unregisterHandlerList,
    (∀ handle ∈ s.handlerMap, handle.address = entry.handle →
      handle.inUseCounter = 0) → wakeUpsOfHandler s entry = 1

/-- No thread that has woken a call is going to read the handle and the lists. -/
def NothingReadAfterWaking (s : State) : Prop :=
  ∀ address, .findHandler address ∉ s.releasing

/-- The exclusive steps in which no release ends the wait of a service. -/
def Orderly (s : State) (action : Action) : Prop :=
  Exclusive s action ∧
    match action with
    | .releaseHandler address =>
        ∀ handle ∈ s.handlerMap, handle.address = address →
          endsServiceWait s handle = false
    | _ => True

/-- The marked handles that are gone have no acquisitions. -/
theorem marksInUse_eq_sum {s : State} (inUse : InUse s)
    (entry : ToUnregisterService) :
    marksInUse s entry =
      ((s.handlerMap.filter fun handle =>
        entry.marked.contains handle.address).map (·.inUseCounter)).sum := by
  rw [inUse.accounted.sum_inUseCounter, marksInUse]
  apply List.countP_congr
  intro address acquired
  obtain ⟨handle, member, rfl⟩ := inUse.accounted.present address acquired
  simp only [List.contains_iff_mem, List.mem_map, List.mem_filter]
  constructor
  · exact fun marked => ⟨handle, ⟨member, by simpa using marked⟩, rfl⟩
  · rintro ⟨other, ⟨_, marked⟩, same⟩
    simpa [same] using marked

theorem countersExact {s : State} (inUse : InUse s) (exact : Exact s) :
    CountersExact s := by
  intro entry member
  rw [← marksInUse_eq_sum inUse entry]
  exact exact.services.counters entry member

theorem wokenOnce {s : State} (inUse : InUse s) (exact : Exact s) :
    WokenOnce s := by
  constructor
  · intro entry member unused
    have none : entry.inUseCounter = 0 := by
      rw [countersExact inUse exact entry member]
      apply List.sum_eq_zero
      intro counter known
      obtain ⟨handle, handleMember, rfl⟩ := List.mem_map.mp known
      obtain ⟨handleMember, marked⟩ := List.mem_filter.mp handleMember
      exact unused handle handleMember (by simpa using marked)
    rw [inUse.services.woken entry member, if_pos none]
  · intro entry member unused
    apply exact.handlers.awake entry member
    intro acquired
    obtain ⟨handle, handleMember, same⟩ :=
      inUse.accounted.present entry.handle acquired
    have none := unused handle handleMember same
    exact (inUse.accounted.not_acquired handleMember).mp none (same ▸ acquired)

/-- Threads that look for a waiting call without the mutex have ended the wait
of a service before. -/
def EndsNoServiceWait (s : State) : Prop :=
  ∀ thread ∈ s.releasing, ∃ call, thread = .countDownHandler call

theorem EndsNoServiceWait.wake {s next : State} {handler : Nat}
    (ends : EndsNoServiceWait s) (performed : wakeHandler handler s = some next) :
    EndsNoServiceWait next := by
  unfold wakeHandler at performed
  split at performed <;> cases performed
  · exact ends
  · rename_i call _
    intro thread member
    rcases List.mem_cons.mp member with rfl | old
    · exact ⟨call, rfl⟩
    · exact ends thread old

theorem EndsNoServiceWait.releaseOfHandler {s next : State} {handle : SdhHandle}
    (ends : EndsNoServiceWait s)
    (performed : Registrar.releaseOfHandler handle s = some next) :
    EndsNoServiceWait next := by
  unfold Registrar.releaseOfHandler at performed
  split at performed
  · exact ends.wake performed
  · cases performed
    exact ends

theorem EndsNoServiceWait.step {s next : State} {action : Action}
    (inUse : InUse s) (ends : EndsNoServiceWait s) (enabled : Enabled s action)
    (orderly : Orderly s action) (performed : perform s action = some next) :
    EndsNoServiceWait next := by
  cases action with
  | registerHandler id kMulticast pService handler position =>
      cases performed
      unfold Registrar.registerHandler
      split <;> exact ends
  | unregisterHandler id handler =>
      cases performed
      unfold Registrar.unregisterHandler
      split
      · exact ends
      · split <;> exact ends
  | finishUnregisterHandler entry =>
      cases performed
      unfold Registrar.finishUnregisterHandler
      simp only
      split <;> exact ends
  | unregisterService pService =>
      cases performed
      unfold Registrar.unregisterService
      simp only
      split <;> exact ends
  | finishUnregisterService entry =>
      cases performed
      exact ends
  | aquireHandlers id room =>
      cases performed
      unfold Registrar.aquireHandlers
      split
      · exact ends
      · split
        · exact ends
        · split <;> exact ends
  | aquireHandler id =>
      cases performed
      unfold Registrar.aquireHandler
      split
      · exact ends
      · split <;> exact ends
      · exact ends
  | releaseHandler address =>
      obtain ⟨handle, member, rfl⟩ := inUse.accounted.present address enabled
      have quiet := orderly.2 handle member rfl
      simp only [perform, Registrar.releaseHandler,
        inUse.accounted.handleAt member] at performed
      split at performed
      · cases performed
        exact ends
      · exact EndsNoServiceWait.releaseOfHandler (by exact ends) performed
      · rename_i state
        split at performed
        · exact EndsNoServiceWait.releaseOfHandler (by exact ends) performed
        · rename_i entry first
          rw [if_neg (by simpa [endsServiceWait, state, first] using quiet)]
            at performed
          exact EndsNoServiceWait.releaseOfHandler (by exact ends) performed
  | continueRelease thread =>
      obtain ⟨call, rfl⟩ := ends thread enabled
      simp only [perform, continueRelease] at performed
      split at performed
      · cases performed
        exact fun other member => ends other (List.mem_of_mem_erase member)
      · cases performed

theorem endsNoServiceWait_of_reaches {s : State}
    (reached : Reaches Step Orderly State.empty s) : EndsNoServiceWait s := by
  have initially : EndsNoServiceWait State.empty := nofun
  refine Reaches.invariant_of_known (fun reached => inUse_of_exclusive
    (reached.weaken fun _ _ orderly => orderly.1)) initially ?_ reached
  rintro state action next inUse ends orderly ⟨enabled, outcomes⟩
  obtain ⟨outcome, performed, _⟩ := inUse.step enabled orderly.1.1
  rw [outcomes outcome performed]
  exact EndsNoServiceWait.step inUse ends enabled orderly performed

/-- In every run of exclusive steps the counters are exact and no wake-up is
lost or doubled; in every run of orderly steps no thread reads anything after
it has woken a call. -/
theorem wakeUps_of_reaches {s : State}
    (reached : Reaches Step Exclusive State.empty s) :
    CountersExact s ∧ WokenOnce s ∧
      (Reaches Step Orderly State.empty s → NothingReadAfterWaking s) := by
  have inUse := inUse_of_exclusive reached
  have exact := exact_of_reaches reached
  refine ⟨countersExact inUse exact, wokenOnce inUse exact, ?_⟩
  intro orderly address thread
  obtain ⟨call, same⟩ := endsNoServiceWait_of_reaches orderly _ thread
  cases same

instance (s : State) (action : Action) : Decidable (Exclusive s action) :=
  match action with
  | .registerHandler .. => inferInstanceAs (Decidable (Careful s _ ∧ True))
  | .unregisterHandler id handler =>
      inferInstanceAs (Decidable (Careful s _ ∧ ∀ handle ∈ s.findHandle id handler, _))
  | .finishUnregisterHandler _ => inferInstanceAs (Decidable (Careful s _ ∧ True))
  | .unregisterService _ =>
      inferInstanceAs (Decidable (Careful s _ ∧
        ((∀ entry ∈ s.unregisterServiceList, _) ∨ ∀ handle ∈ s.handlerMap, _)))
  | .finishUnregisterService _ => inferInstanceAs (Decidable (Careful s _ ∧ True))
  | .aquireHandlers .. => inferInstanceAs (Decidable (Careful s _ ∧ True))
  | .aquireHandler .. => inferInstanceAs (Decidable (Careful s _ ∧ True))
  | .releaseHandler _ => inferInstanceAs (Decidable (Careful s _ ∧ True))
  | .continueRelease _ => inferInstanceAs (Decidable (Careful s _ ∧ True))

instance (s : State) (action : Action) : Decidable (Orderly s action) :=
  match action with
  | .registerHandler .. => inferInstanceAs (Decidable (Exclusive s _ ∧ True))
  | .unregisterHandler .. => inferInstanceAs (Decidable (Exclusive s _ ∧ True))
  | .finishUnregisterHandler _ => inferInstanceAs (Decidable (Exclusive s _ ∧ True))
  | .unregisterService _ => inferInstanceAs (Decidable (Exclusive s _ ∧ True))
  | .finishUnregisterService _ => inferInstanceAs (Decidable (Exclusive s _ ∧ True))
  | .aquireHandlers .. => inferInstanceAs (Decidable (Exclusive s _ ∧ True))
  | .aquireHandler .. => inferInstanceAs (Decidable (Exclusive s _ ∧ True))
  | .releaseHandler _ =>
      inferInstanceAs (Decidable (Exclusive s _ ∧ ∀ handle ∈ s.handlerMap, _))
  | .continueRelease _ => inferInstanceAs (Decidable (Exclusive s _ ∧ True))

private def releasedOne : List Action :=
  [.registerHandler 1 false 5 7 0, .registerHandler 2 false 5 8 0,
    .aquireHandler 1, .aquireHandler 2, .unregisterService 5, .releaseHandler 0]

theorem wakeUps_releasedOne :
    ∃ s entry, run Orderly releasedOne .empty = some s ∧
      s.unregisterServiceList = [entry] ∧ entry.inUseCounter = 1 ∧
        CountersExact s ∧ WokenOnce s ∧ NothingReadAfterWaking s := by
  have ran : run Orderly releasedOne .empty = some
      { handlerMap :=
          [⟨1, 2, 5, 8, 1, .serviceRemove⟩, ⟨0, 1, 5, 7, 0, .serviceRemove⟩]
        unregisterServiceList := [⟨2, 5, 1, 0, [1, 0]⟩]
        unregisterHandlerList := []
        releasing := []
        acquired := [1]
        nextAddress := 3 } := by decide
  have reached := reaches_of_run .start ran
  obtain ⟨counters, woken, quiet⟩ := wakeUps_of_reaches
    (reached.weaken fun _ _ orderly => orderly.1)
  exact ⟨_, _, ran, rfl, rfl, counters, woken, quiet reached⟩

/-- Two calls unregister the same service while its handler is in use. -/
def unregisteredTwice : List Action :=
  [.registerHandler 1 false 5 7 0, .aquireHandler 1, .unregisterService 5,
    .unregisterService 5, .releaseHandler 0, .continueRelease
      (.countDownService 2 0 1)]

/-- The older call is never woken, and the thread goes on to read the handle
that the newer one is about to erase. -/
theorem not_wakeUps_unregisteredTwice :
    ∃ s, run (fun _ _ => True) unregisteredTwice .empty = some s ∧
      Reaches Step (fun _ _ => True) State.empty s ∧ ¬CountersExact s ∧
        ¬WokenOnce s ∧ ¬NothingReadAfterWaking s := by
  have ran : run (fun _ _ => True) unregisteredTwice .empty = some
      { handlerMap := [⟨0, 1, 5, 7, 0, .serviceRemove⟩]
        unregisterServiceList := [⟨2, 5, 0, 1, [0]⟩, ⟨1, 5, 1, 0, [0]⟩]
        unregisterHandlerList := []
        releasing := [.findHandler 0]
        acquired := []
        nextAddress := 3 } := by decide
  refine ⟨_, ran, reaches_of_run .start ran, ?_, ?_, ?_⟩
  · intro counters
    exact absurd (counters ⟨1, 5, 1, 0, [0]⟩ (by decide)) (by decide)
  · rintro ⟨woken, _⟩
    exact absurd (woken ⟨1, 5, 1, 0, [0]⟩ (by decide) (by decide)) (by decide)
  · exact fun quiet => quiet 0 (by decide)

end CommonSerialization.Csp.Messaging.Registrar
