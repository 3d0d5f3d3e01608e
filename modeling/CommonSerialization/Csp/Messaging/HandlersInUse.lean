import CommonSerialization.Csp.Messaging.Waits

namespace CommonSerialization.Csp.Messaging.Registrar

open Transitions

/-! No handler is erased while it is in use. -/

/-- The loop over the waiting calls meets one for the handle itself before any
other call for its handler object and before any handle that is gone. -/
def WakesOwn (s : State) (handle : SdhHandle) : Prop :=
  s.searchHandler handle.handler s.unregisterHandlerList = .absent ∨
    ∃ entry ∈ s.unregisterHandlerList,
      s.searchHandler handle.handler s.unregisterHandlerList =
          .found entry.call ∧
        entry.handle = handle.address

def endsServiceWait (s : State) (handle : SdhHandle) : Bool :=
  handle.state = .serviceRemove &&
    (s.firstOfService handle.pService).any (·.inUseCounter = 1)

/-- The steps that spoil nothing: fewer than `2 ^ 32` acquisitions are
outstanding, a thread wakes only a call that waits for the handle it releases,
and a call that has waited erases, besides the handles it has waited for, only
handles that are not in use. -/
def Careful (s : State) : Action → Prop
  | .aquireHandlers id _ =>
      s.acquired.length + (s.activeRange id).length < 2 ^ 32
  | .aquireHandler _ => s.acquired.length + 1 < 2 ^ 32
  | .releaseHandler address =>
      ∀ handle ∈ s.handlerMap, handle.address = address →
        handle.state ≠ .active → handle.inUseCounter = 1 →
          endsServiceWait s handle = false → WakesOwn s handle
  | .continueRelease (.findHandler address) =>
      s.unregisterHandlerList = [] ∨
        ∃ handle ∈ s.handlerMap, handle.address = address ∧ WakesOwn s handle
  | .finishUnregisterHandler entry =>
      ∀ handle ∈ s.findHandle entry.id entry.handler,
        handle.address = entry.handle ∨ handle.inUseCounter = 0
  | .finishUnregisterService entry =>
      ∀ handle ∈ s.handlerMap, handle.pService = entry.pService →
        handle.address ∈ entry.marked ∨ handle.inUseCounter = 0
  | _ => True

structure InUse (s : State) : Prop where
  accounted : Accounted s
  services : ServiceWaits s
  handlers : HandlerWaits s

namespace InUse

variable {s : State}

theorem empty : InUse State.empty where
  accounted := ⟨.nil, nofun, nofun, nofun, by decide⟩
  services := ⟨.nil, nofun, nofun, nofun, nofun, nofun, nofun⟩
  handlers := ⟨.nil, nofun, nofun, nofun, nofun, nofun, nofun⟩

theorem eraseHandles (inUse : InUse s) {selected : SdhHandle → Bool}
    (unused : ∀ handle ∈ s.handlerMap, selected handle →
      handle.address ∉ s.acquired) : InUse (s.eraseHandles selected) where
  accounted := accounted_eraseHandles inUse.accounted unused
  services :=
    inUse.services.evolve (evolves_eraseHandles selected) rfl rfl
      fun handle member state =>
        ⟨handle, (mem_eraseHandles.mp member).1, rfl, rfl, state⟩
  handlers := inUse.handlers.evolve (evolves_eraseHandles selected) rfl rfl

theorem eraseHandle (inUse : InUse s) {address : Nat}
    (unused : address ∉ s.acquired) : InUse (s.eraseHandle address) := by
  refine inUse.eraseHandles fun handle _ selected => ?_
  obtain rfl : handle.address = address := by simpa using selected
  exact unused

theorem registerHandler (inUse : InUse s) (id : Nat) (kMulticast : Bool)
    (pService handler position : Nat) :
    InUse (Registrar.registerHandler id kMulticast pService handler position
      s).2 := by
  have evolves := evolves_registerHandler (s := s) id kMulticast pService handler
    position
  refine ⟨accounted_registerHandler inUse.accounted id kMulticast pService
    handler position, inUse.services.evolve evolves ?_ ?_ ?_,
    inUse.handlers.evolve evolves ?_ ?_⟩
  all_goals unfold Registrar.registerHandler; split
  any_goals rfl
  · exact fun handle member state => ⟨handle, member, rfl, rfl, state⟩
  · intro handle member state
    simp only [List.mem_append, List.mem_cons] at member
    rcases member with earlier | rfl | later
    · exact ⟨handle, List.mem_of_mem_take earlier, rfl, rfl, state⟩
    · cases state
    · exact ⟨handle, List.mem_of_mem_drop later, rfl, rfl, state⟩

theorem unregisterHandler (inUse : InUse s) (id handler : Nat) :
    InUse (Registrar.unregisterHandler id handler s) := by
  unfold Registrar.unregisterHandler
  split
  · exact inUse
  · rename_i handle found
    have member := (findHandle_eq_some found).1
    split
    · rename_i used
      have acquired : handle.address ∈ s.acquired := by
        by_contra unused
        exact used ((inUse.accounted.not_acquired member).mpr unused)
      have marked := accounted_setState inUse.accounted
        (fun other => other.address = handle.address) .handlerRemove
      have evolves (next : State) (map : next.handlerMap =
            (s.changeHandles (fun other => other.address = handle.address)
              fun other => { other with state := .handlerRemove }).handlerMap)
          (same : next.acquired = s.acquired)
          (bigger : next.nextAddress = s.nextAddress + 1) : Evolves s next :=
        evolves_setState _ (by decide) next map same (by omega)
      refine ⟨marked.congr rfl rfl (Nat.le_succ _),
        inUse.services.evolve (evolves _ rfl rfl rfl) rfl rfl ?_,
        inUse.handlers.wait (evolves _ rfl rfl rfl) rfl rfl rfl
          (Nat.lt_succ_self _) ?_ rfl acquired⟩
      · intro other otherMember state
        obtain ⟨before, beforeMember, rfl⟩ := mem_changeHandles.mp otherMember
        split at state
        · cases state
        · rename_i apart
          rw [if_neg apart]
          exact ⟨before, beforeMember, rfl, rfl, state⟩
      · refine ⟨Nat.lt_succ_of_lt (inUse.accounted.fresh handle member), ?_⟩
        intro other otherMember same
        obtain ⟨before, beforeMember, rfl⟩ := mem_changeHandles.mp otherMember
        split at same
        · rename_i chosen
          rw [if_pos chosen]
          nofun
        · rename_i apart
          exact absurd (by simpa using same) apart
    · rename_i unused
      refine inUse.eraseHandle ((inUse.accounted.not_acquired member).mp ?_)
      simpa using unused

theorem finishUnregisterHandler (inUse : InUse s) {entry : ToUnregisterHandler}
    (enabled : Enabled s (.finishUnregisterHandler entry))
    (careful : Careful s (.finishUnregisterHandler entry)) :
    InUse (Registrar.finishUnregisterHandler entry s) := by
  obtain ⟨member, woken⟩ := enabled
  have finished : InUse
      { s with
        unregisterHandlerList :=
          s.unregisterHandlerList.filter fun other =>
            other.call ≠ entry.call } :=
    ⟨inUse.accounted.congr rfl rfl (Nat.le_refl _),
      inUse.services.reroute rfl rfl rfl rfl (fun _ => rfl) fun _ _ _ => id,
      inUse.handlers.finish member woken rfl rfl rfl rfl rfl⟩
  unfold Registrar.finishUnregisterHandler
  simp only
  split
  · exact finished
  · rename_i handle found
    apply finished.eraseHandle
    have handleMember := (findHandle_eq_some found).1
    rcases careful handle found with own | unused
    · rw [own]
      apply inUse.handlers.settled entry member
      unfold wakeUpsOfHandler
      omega
    · exact (inUse.accounted.not_acquired handleMember).mp unused

theorem unregisterService (inUse : InUse s) (pService : Nat) :
    InUse (Registrar.unregisterService pService s) := by
  have sum := inUse.accounted.sum_inUseCounter (ofService pService)
  have few := inUse.accounted.few
  have fewer := List.countP_le_length (l := s.acquired)
    (p := fun address => ((s.handlerMap.filter (ofService pService)).map
      (·.address)).contains address)
  have small : ((s.handlerMap.filter (ofService pService)).map
      (·.inUseCounter)).sum < 2 ^ 32 := by omega
  have evolves (next : State) (map : next.handlerMap =
        (s.changeHandles (ofService pService)
          fun handle => { handle with state := .serviceRemove }).handlerMap)
      (same : next.acquired = s.acquired)
      (bigger : s.nextAddress ≤ next.nextAddress) : Evolves s next :=
    evolves_setState _ (by decide) next map same bigger
  have marked := accounted_setState inUse.accounted (ofService pService)
    .serviceRemove
  unfold Registrar.unregisterService
  simp only [Nat.mod_eq_of_lt small]
  split
  · rename_i used
    refine ⟨marked.congr rfl rfl (Nat.le_succ _),
      inUse.services.wait (evolves _ rfl rfl (Nat.le_succ _)) rfl rfl rfl
        (Nat.lt_succ_self _) ?_ ⟨?_, small⟩ rfl used ?_ ?_,
      inUse.handlers.evolve (evolves _ rfl rfl (Nat.le_succ _)) rfl rfl⟩
    · intro address isMarked
      obtain ⟨handle, member, rfl⟩ := List.mem_map.mp isMarked
      obtain ⟨member, selected⟩ := List.mem_filter.mp member
      refine ⟨Nat.lt_succ_of_lt (inUse.accounted.fresh handle member), ?_⟩
      intro other otherMember same
      obtain ⟨before, beforeMember, rfl⟩ := mem_changeHandles.mp otherMember
      have equal : before = handle := by
        apply inUse.accounted.eq_of_address beforeMember member
        split at same <;> exact same
      rw [equal, if_pos selected]
      nofun
    · rw [sum]
      exact Nat.le_refl _
    · intro handle member service
      obtain ⟨before, beforeMember, rfl⟩ := mem_changeHandles.mp member
      split at service
      · rename_i selected
        rw [if_pos selected]
        exact List.mem_map.mpr
          ⟨before, List.mem_filter.mpr ⟨beforeMember, selected⟩, rfl⟩
      · rename_i foreign
        exact absurd (by simpa [ofService] using service) foreign
    · intro handle member service
      obtain ⟨before, beforeMember, rfl⟩ := mem_changeHandles.mp member
      split
      · rename_i selected
        rw [if_pos selected] at service
        exact absurd (by simpa [ofService] using selected) service
      · exact beforeMember
  · rename_i unused
    have none : ((s.handlerMap.filter (ofService pService)).map
        (·.inUseCounter)).sum = 0 := by simpa using unused
    rw [sum] at none
    rw [eraseHandles_changeHandles (by exact fun _ selected => selected)]
    refine inUse.eraseHandles fun handle member selected acquired => ?_
    apply List.countP_eq_zero.mp none handle.address acquired
    rw [List.contains_iff_mem]
    exact List.mem_map_of_mem (List.mem_filter.mpr ⟨member, selected⟩)

theorem finishUnregisterService (inUse : InUse s) {entry : ToUnregisterService}
    (enabled : Enabled s (.finishUnregisterService entry))
    (careful : Careful s (.finishUnregisterService entry)) :
    InUse (Registrar.finishUnregisterService entry s) := by
  obtain ⟨member, woken⟩ := enabled
  have settled : marksInUse s entry = 0 := by
    have once := inUse.services.woken entry member
    have covered := (inUse.services.covered entry member).1
    unfold wakeUpsOfService at once
    split at once <;> omega
  have unused (handle : SdhHandle) (handleMember : handle ∈ s.handlerMap)
      (selected : ofService entry.pService handle) :
      handle.address ∉ s.acquired := by
    rcases careful handle handleMember (by simpa [ofService] using selected) with
      marked | unused
    · intro acquired
      exact List.countP_eq_zero.mp settled handle.address acquired
        (by simpa using marked)
    · exact (inUse.accounted.not_acquired handleMember).mp unused
  have erased := accounted_eraseHandles inUse.accounted unused
  refine ⟨erased.congr rfl rfl (Nat.le_refl _),
    inUse.services.finish member woken rfl rfl (fun handle => ?_) rfl rfl,
    inUse.handlers.evolve
      ((evolves_eraseHandles (ofService entry.pService)).congr rfl rfl rfl) rfl
      rfl⟩
  exact mem_eraseHandles

theorem acquire (inUse : InUse s) {addresses : List Nat}
    (distinct : addresses.Nodup)
    (active : ∀ address ∈ addresses, ∃ handle ∈ s.handlerMap,
      handle.address = address ∧ handle.state = .active)
    (few : s.acquired.length + addresses.length < 2 ^ 32) :
    InUse (s.acquire addresses) := by
  have evolves : Evolves s (s.acquire addresses) := by
    refine evolves_acquire fun address member closed => ?_
    obtain ⟨handle, handleMember, same, state⟩ := active address member
    exact closed.2 handle handleMember same state
  refine ⟨accounted_acquire inUse.accounted distinct (fun address member => ?_)
    few, inUse.services.evolve evolves rfl rfl ?_,
    inUse.handlers.evolve evolves rfl rfl⟩
  · obtain ⟨handle, handleMember, same, _⟩ := active address member
    exact ⟨handle, handleMember, same⟩
  · intro handle member state
    obtain ⟨before, beforeMember, rfl⟩ := mem_changeHandles.mp member
    refine ⟨before, beforeMember, ?_⟩
    split at state <;> split <;> exact ⟨rfl, rfl, state⟩

theorem aquireHandlers (inUse : InUse s) {id room : Nat}
    (careful : Careful s (.aquireHandlers id room)) :
    InUse (Registrar.aquireHandlers id room s).2 := by
  unfold Registrar.aquireHandlers
  split
  · exact inUse
  · split
    · have sublist : (s.activeRange id).Sublist s.handlerMap :=
        List.filter_sublist.trans List.filter_sublist
      refine inUse.acquire ((sublist.map _).nodup inUse.accounted.distinct) ?_
        (by rw [List.length_map]; exact careful)
      intro address member
      obtain ⟨handle, handleMember, rfl⟩ := List.mem_map.mp member
      refine ⟨handle, sublist.mem handleMember, rfl, ?_⟩
      simpa using (List.mem_filter.mp handleMember).2
    · split <;> exact inUse

theorem aquireHandler (inUse : InUse s) {id : Nat}
    (careful : Careful s (.aquireHandler id)) :
    InUse (Registrar.aquireHandler id s).2 := by
  unfold Registrar.aquireHandler
  split
  · exact inUse
  · rename_i handle range
    split
    · exact inUse
    · rename_i state
      refine inUse.acquire (List.nodup_singleton _) ?_ careful
      intro address member
      obtain rfl := List.mem_singleton.mp member
      have member : handle ∈ s.equalRange id := by simp [range]
      exact ⟨handle, List.mem_of_mem_filter member, rfl, by simpa using state⟩
  · exact inUse

/-- The thread of the last user of a handle finds the call that waits for it,
which nobody has woken yet. -/
theorem wakeHandler (inUse : InUse s) {handle : SdhHandle}
    (own : WakesOwn s handle) (unused : handle.address ∉ s.acquired)
    (asleep : ∀ entry ∈ s.unregisterHandlerList,
      entry.handle = handle.address → wakeUpsOfHandler s entry = 0) :
    ∃ next, Registrar.wakeHandler handle.handler s = some next ∧ InUse next := by
  unfold Registrar.wakeHandler
  rcases own with absent | ⟨entry, member, found, same⟩
  · rw [absent]
    exact ⟨s, rfl, inUse⟩
  · rw [found]
    refine ⟨_, rfl, inUse.accounted.congr rfl rfl (Nat.le_refl _),
      inUse.services.reroute rfl rfl rfl rfl (fun call => ?_) ?_,
      inUse.handlers.push (.countDownHandler entry.call) rfl rfl rfl rfl rfl ?_
        ?_ nofun⟩
    · simp [wakesService]
    · intro call address prevUseCount thread
      simpa using thread
    · intro other otherMember wakes
      simp only [wakesHandler, decide_eq_true_eq] at wakes
      have equal : other = entry :=
        List.inj_on_of_nodup_map inUse.handlers.distinct otherMember member
          wakes.symm
      rw [equal, same]
      exact ⟨asleep entry member same, unused⟩
    · intro call equal
      cases equal
      exact ⟨entry, member, rfl⟩

end InUse

theorem searchHandler_congr {s next : State}
    (handlers : ∀ address, (next.handleAt address).map (·.handler) =
      (s.handleAt address).map (·.handler)) (handler : Nat)
    (list : List ToUnregisterHandler) :
    next.searchHandler handler list = s.searchHandler handler list := by
  induction list with
  | nil => rfl
  | cons entry rest induction =>
      have same := handlers entry.handle
      simp only [State.searchHandler]
      cases before : s.handleAt entry.handle <;>
        cases after : next.handleAt entry.handle <;>
        simp_all

theorem handlers_release {s : State} (address other : Nat) :
    ((s.release address).handleAt other).map (·.handler) =
      (s.handleAt other).map (·.handler) := by
  have kept : ((fun handle : SdhHandle => decide (handle.address = other)) ∘
        fun handle => if decide (handle.address = address) then
          { handle with inUseCounter := fetchSub handle.inUseCounter }
        else handle) =
      fun handle => decide (handle.address = other) := by
    funext handle
    simp only [Function.comp]
    split <;> rfl
  simp only [State.handleAt, State.release, State.changeHandles, List.find?_map,
    kept, Option.map_map]
  congr 1
  funext handle
  simp only [Function.comp]
  split <;> rfl

theorem wakeUpsOfHandler_erase {s : State} {thread : Releasing}
    (member : thread ∈ s.releasing) (entry : ToUnregisterHandler) :
    wakeUpsOfHandler { s with releasing := s.releasing.erase thread } entry +
        (if wakesHandler entry thread then 1 else 0) =
      wakeUpsOfHandler s entry := by
  rw [wakeUpsOfHandler, wakeUpsOfHandler, Nat.add_assoc,
    Counting.countP_erase_add member]

theorem wakeUpsOfHandler_countDown {s : State} {call : Nat}
    (member : .countDownHandler call ∈ s.releasing) (entry : ToUnregisterHandler) :
    wakeUpsOfHandler
        { s with releasing := s.releasing.erase (.countDownHandler call) }
        (if entry.call = call then
          { entry with countedDown := entry.countedDown + 1 }
        else entry) =
      wakeUpsOfHandler s entry := by
  have count := wakeUpsOfHandler_erase member entry
  simp only [wakeUpsOfHandler] at count ⊢
  split
  · rename_i own
    simp only [wakesHandler_countedDown]
    simp only [wakesHandler, own, decide_true, if_true] at count
    omega
  · rename_i foreign
    have spared : ¬call = entry.call := fun same => foreign same.symm
    simpa [wakesHandler, spared] using count

/-- A thread that has ended the wait of a service goes on to look for the call
that waits for its handle. -/
theorem wakeUpsOfHandler_countDownService {s next : State}
    {call handle prevUseCount : Nat}
    (member : .countDownService call handle prevUseCount ∈ s.releasing)
    (releasing : next.releasing =
      if prevUseCount = 1 then
        .findHandler handle ::
          s.releasing.erase (.countDownService call handle prevUseCount)
      else s.releasing.erase (.countDownService call handle prevUseCount))
    (entry : ToUnregisterHandler) :
    wakeUpsOfHandler next entry = wakeUpsOfHandler s entry := by
  rw [← wakeUpsOfHandler_erase member entry]
  simp only [wakeUpsOfHandler, releasing]
  split
  · rename_i single
    simp [wakesHandler, single, List.countP_cons, Nat.add_assoc]
  · rename_i several
    simp [wakesHandler, several]

namespace InUse

variable {s : State}

theorem release (inUse : InUse s) {address : Nat}
    (member : address ∈ s.acquired) : InUse (s.release address) where
  accounted := accounted_release inUse.accounted member
  services := by
    refine inUse.services.evolve (evolves_release address) rfl rfl ?_
    intro handle handleMember state
    obtain ⟨before, beforeMember, rfl⟩ := mem_changeHandles.mp handleMember
    refine ⟨before, beforeMember, ?_⟩
    split at state <;> split <;> exact ⟨rfl, rfl, state⟩
  handlers := inUse.handlers.evolve (evolves_release address) rfl rfl

theorem countRelease (inUse : InUse s) {entry : ToUnregisterService}
    (member : entry ∈ s.unregisterServiceList)
    (counts : marksInUse s entry + 1 ≤ entry.inUseCounter)
    {releasing : List Releasing}
    (threads : releasing = s.releasing ∧ entry.inUseCounter ≠ 1 ∨
      ∃ handle prevUseCount,
        releasing = .countDownService entry.call handle prevUseCount ::
            s.releasing ∧
          entry.inUseCounter = 1 ∧
          (prevUseCount = 1 → Closed s handle ∧ handle ∉ s.acquired ∧
            ∀ waiting ∈ s.unregisterHandlerList, waiting.handle = handle →
              wakeUpsOfHandler s waiting = 0)) :
    InUse { s.changeService entry.call fun other =>
      { other with inUseCounter := fetchSub other.inUseCounter } with
        releasing := releasing } := by
  have bounded := (inUse.services.covered entry member).2
  have asleep := inUse.services.woken entry member
  have less : fetchSub entry.inUseCounter = entry.inUseCounter - 1 :=
    fetchSub_of_pos (by omega) bounded
  rw [if_neg (by omega), wakeUpsOfService] at asleep
  have counted (next : State) (same : next.releasing = releasing)
      (list : next.unregisterServiceList =
        (s.changeService entry.call fun other =>
          { other with inUseCounter := fetchSub other.inUseCounter }
        ).unregisterServiceList) (map : next.handlerMap = s.handlerMap)
      (acquired : next.acquired = s.acquired)
      (nextAddress : next.nextAddress = s.nextAddress) : ServiceWaits next := by
    refine inUse.services.change member
      (fun other => { other with inUseCounter := fetchSub other.inUseCounter })
      (fun _ => ⟨rfl, rfl, rfl⟩) list map acquired nextAddress ⟨?_, ?_⟩ ?_ ?_ ?_
    · simp only [less]
      omega
    · simp only [less]
      omega
    · simp only [less, same]
      rcases threads with ⟨rfl, several⟩ | ⟨handle, prevUseCount, rfl, last, _⟩
      · rw [asleep, if_neg (by omega)]
      · rw [List.countP_cons, if_pos (by simp [wakesService]), ← Nat.add_assoc,
          asleep, if_pos (by omega)]
    · intro call other
      rw [same]
      rcases threads with ⟨rfl, _⟩ | ⟨handle, prevUseCount, rfl, _⟩
      · rfl
      · simp [wakesService, other.symm]
    · intro call address count thread
      rw [same] at thread
      rcases threads with ⟨rfl, _⟩ | ⟨handle, prevUseCount, rfl, _⟩
      · exact .inr thread
      · simpa [and_assoc] using (List.mem_cons.mp thread).imp_left fun equal => by
          cases equal
          rfl
  refine ⟨inUse.accounted.congr rfl rfl (Nat.le_refl _),
    counted _ rfl rfl rfl rfl rfl, ?_⟩
  rcases threads with ⟨rfl, _⟩ | ⟨handle, prevUseCount, rfl, _, last⟩
  · exact inUse.handlers.evolve ((Evolves.refl s).congr rfl rfl rfl) rfl rfl
  · refine inUse.handlers.push _ rfl rfl rfl rfl rfl ?_
      (fun _ same => Releasing.noConfusion same) ?_
    · intro waiting waitingMember wakes
      simp only [wakesHandler, Bool.and_eq_true, decide_eq_true_eq] at wakes
      obtain ⟨_, unused, quiet⟩ := last wakes.2
      exact ⟨quiet waiting waitingMember wakes.1.symm, wakes.1 ▸ unused⟩
    · intro address lastUser
      simp only [lastUserOf, Option.ite_none_right_eq_some,
        Option.some.injEq] at lastUser
      obtain ⟨single, rfl⟩ := lastUser
      obtain ⟨closed, unused, _⟩ := last single
      exact ⟨closed, unused⟩

theorem releaseOfHandler (inUse : InUse s) {handle : SdhHandle}
    (member : handle ∈ s.handlerMap) {next : State} (nextInUse : InUse next)
    (map : next.handlerMap = (s.release handle.address).handlerMap)
    (acquired : next.acquired = s.acquired.erase handle.address)
    (list : next.unregisterHandlerList = s.unregisterHandlerList)
    (releasing : next.releasing = s.releasing)
    (used : handle.address ∈ s.acquired)
    (own : handle.inUseCounter = 1 → WakesOwn s handle) :
    ∃ final, Registrar.releaseOfHandler handle next = some final ∧
      InUse final := by
  unfold Registrar.releaseOfHandler
  split
  · rename_i single
    have handlers (address : Nat) :
        (next.handleAt address).map (·.handler) =
          (s.handleAt address).map (·.handler) := by
      refine Eq.trans ?_ (handlers_release handle.address address)
      simp only [State.handleAt, map]
    apply nextInUse.wakeHandler
    · have search := searchHandler_congr handlers handle.handler
        s.unregisterHandlerList
      simpa only [WakesOwn, list, search] using own single
    · rw [acquired, ← List.count_eq_zero, List.count_erase_self,
        ← inUse.accounted.counted handle member, single]
    · intro entry entryMember same
      rw [list] at entryMember
      rw [wakeUpsOfHandler, releasing]
      by_contra wakeUps
      exact inUse.handlers.settled entry entryMember wakeUps (same ▸ used)
  · exact ⟨next, rfl, nextInUse⟩

theorem releaseHandler (inUse : InUse s) {address : Nat}
    (enabled : Enabled s (.releaseHandler address))
    (careful : Careful s (.releaseHandler address)) :
    ∃ next, Registrar.releaseHandler address s = some next ∧ InUse next := by
  have used : address ∈ s.acquired := enabled
  obtain ⟨handle, member, rfl⟩ := inUse.accounted.present address used
  have released := inUse.release used
  have own (closed : handle.state ≠ .active)
      (waits : endsServiceWait s handle = false) (single : handle.inUseCounter = 1) :=
    careful handle member rfl closed single waits
  unfold Registrar.releaseHandler
  simp only [inUse.accounted.handleAt member]
  cases state : handle.state with
  | active => exact ⟨_, rfl, released⟩
  | handlerRemove =>
      simp only
      refine inUse.releaseOfHandler member released rfl rfl rfl rfl used
        (own ?_ ?_)
      · rw [state]
        exact fun same => HandleState.noConfusion same
      · simp [endsServiceWait, state]
  | serviceRemove =>
      obtain ⟨entry, first, marked⟩ := inUse.services.first handle member state
      have entryMember := List.mem_of_find?_eq_some first
      have isClosed := inUse.services.closed entry entryMember _ marked
      -- the released handle is one of those the call has marked
      have counts : marksInUse (s.release handle.address) entry + 1 ≤
          entry.inUseCounter := by
        have covered := (inUse.services.covered entry entryMember).1
        have positive : 0 < marksInUse s entry :=
          List.countP_pos_iff.mpr ⟨handle.address, used, by simpa using marked⟩
        have less : marksInUse (s.release handle.address) entry =
            marksInUse s entry - 1 := by
          simp [marksInUse, State.release, List.countP_erase, used, marked]
        omega
      simp only [first]
      split
      · rename_i last
        refine ⟨_, rfl, released.countRelease entryMember counts (.inr
          ⟨handle.address, handle.inUseCounter, rfl, last, fun single => ?_⟩)⟩
        refine ⟨(evolves_release _).closed isClosed, ?_, ?_⟩
        · rw [State.release, ← List.count_eq_zero, List.count_erase_self,
            ← inUse.accounted.counted handle member, single]
        · intro waiting waitingMember same
          by_contra wakeUps
          exact inUse.handlers.settled waiting waitingMember wakeUps (same ▸ used)
      · rename_i several
        have counted := released.countRelease entryMember counts
          (.inl ⟨rfl, several⟩)
        refine inUse.releaseOfHandler member counted rfl rfl rfl rfl used
          (own ?_ ?_)
        · rw [state]
          exact fun same => HandleState.noConfusion same
        · simp [endsServiceWait, state, first, several]

theorem countDownHandler (inUse : InUse s) {call : Nat}
    (enabled : Enabled s (.continueRelease (.countDownHandler call))) :
    ∃ next, Registrar.continueRelease (.countDownHandler call) s = some next ∧
      InUse next := by
  have member : .countDownHandler call ∈ s.releasing := enabled
  obtain ⟨entry, entryMember, same⟩ := inUse.handlers.threads call member
  have present : (s.unregisterHandlerList.any (·.call = call)) = true := by
    simpa using ⟨entry, entryMember, same⟩
  simp only [Registrar.continueRelease, present, if_true]
  have counts := Counting.countP_erase_add member
  refine ⟨_, rfl, inUse.accounted.congr rfl rfl (Nat.le_refl _),
    inUse.services.reroute rfl rfl rfl rfl (fun other => ?_) ?_,
    inUse.handlers.change _ (fun other => ?_) rfl rfl rfl rfl ?_ ?_ ?_⟩
  · exact counts (wakesService other)
  · exact fun _ _ _ thread => List.mem_of_mem_erase thread
  · split <;> exact ⟨rfl, rfl⟩
  · exact fun other _ => Nat.le_of_eq (wakeUpsOfHandler_countDown member other)
  · intro other thread
    exact inUse.handlers.threads other (List.mem_of_mem_erase thread)
  · intro thread threadMember _ last
    exact ⟨thread, List.mem_of_mem_erase threadMember, last⟩

theorem countDownService (inUse : InUse s) {call handle prevUseCount : Nat}
    (enabled : Enabled s
      (.continueRelease (.countDownService call handle prevUseCount))) :
    ∃ next, Registrar.continueRelease
        (.countDownService call handle prevUseCount) s = some next ∧
      InUse next := by
  have member : .countDownService call handle prevUseCount ∈ s.releasing :=
    enabled
  obtain ⟨entry, entryMember, rfl⟩ :=
    inUse.services.threads call handle prevUseCount member
  have present :
      (s.unregisterServiceList.any (·.call = entry.call)) = true := by
    simpa using ⟨entry, entryMember, rfl⟩
  have counts := Counting.countP_erase_add member
  -- the thread goes on to look for a waiting call, or is done
  have counted (next : State) (follows : next.releasing =
        if prevUseCount = 1 then
          .findHandler handle :: s.releasing.erase
            (.countDownService entry.call handle prevUseCount)
        else
          s.releasing.erase (.countDownService entry.call handle prevUseCount))
      (services : next.unregisterServiceList =
        (s.changeService entry.call fun other =>
          { other with countedDown := other.countedDown + 1 }
        ).unregisterServiceList)
      (handlers : next.unregisterHandlerList = s.unregisterHandlerList)
      (map : next.handlerMap = s.handlerMap)
      (acquired : next.acquired = s.acquired)
      (nextAddress : next.nextAddress = s.nextAddress) : InUse next := by
    refine ⟨inUse.accounted.congr map acquired (Nat.le_of_eq nextAddress.symm),
      inUse.services.change entryMember
        (fun other => { other with countedDown := other.countedDown + 1 })
        (fun _ => ⟨rfl, rfl, rfl⟩) services map acquired nextAddress
        (inUse.services.covered entry entryMember) ?_ ?_ ?_,
      inUse.handlers.change id (fun _ => ⟨rfl, rfl⟩) (by simpa using handlers) map
        acquired nextAddress ?_ ?_ ?_⟩
    · have count := counts (wakesService entry.call)
      have woken := inUse.services.woken entry entryMember
      simp only [wakesService, decide_true, if_true] at count
      rw [wakeUpsOfService] at woken
      rw [← woken, follows, ← count]
      split <;> simp [wakesService] <;> omega
    · intro other distinct
      have count := counts (wakesService other)
      simp only [wakesService, distinct.symm, decide_false,
        Bool.false_eq_true, if_false] at count
      rw [follows, ← count]
      split <;> simp [wakesService]
    · intro other address count thread
      right
      rw [follows] at thread
      split at thread
      · simp only [List.mem_cons, reduceCtorEq, false_or] at thread
        exact List.mem_of_mem_erase thread
      · exact List.mem_of_mem_erase thread
    · exact fun waiting _ =>
        Nat.le_of_eq (wakeUpsOfHandler_countDownService member follows waiting)
    · intro other thread
      rw [follows] at thread
      apply inUse.handlers.threads other
      split at thread
      · simp only [List.mem_cons, reduceCtorEq, false_or] at thread
        exact List.mem_of_mem_erase thread
      · exact List.mem_of_mem_erase thread
    · intro thread threadMember address last
      rw [follows] at threadMember
      split at threadMember
      · rename_i single
        rcases List.mem_cons.mp threadMember with rfl | old
        · exact ⟨_, member, by simpa [lastUserOf, single] using last⟩
        · exact ⟨thread, List.mem_of_mem_erase old, last⟩
      · exact ⟨thread, List.mem_of_mem_erase threadMember, last⟩
  simp only [Registrar.continueRelease, present, if_true]
  split
  · rename_i single
    exact ⟨_, rfl, counted _ (by rw [if_pos single]; rfl) rfl rfl rfl rfl rfl⟩
  · rename_i several
    exact ⟨_, rfl, counted _ (by rw [if_neg several]; rfl) rfl rfl rfl rfl rfl⟩

theorem eraseFindHandler (inUse : InUse s) {address : Nat}
    (member : .findHandler address ∈ s.releasing) :
    InUse { s with releasing := s.releasing.erase (.findHandler address) } := by
  have counts := Counting.countP_erase_add member
  refine ⟨inUse.accounted.congr rfl rfl (Nat.le_refl _),
    inUse.services.reroute rfl rfl rfl rfl (fun call => ?_) ?_,
    inUse.handlers.change id (fun _ => ⟨rfl, rfl⟩) (List.map_id _).symm rfl rfl
      rfl ?_ ?_ ?_⟩
  · exact counts (wakesService call)
  · exact fun _ _ _ thread => List.mem_of_mem_erase thread
  · exact fun entry _ =>
      Nat.le_trans (Nat.le_add_right _ _)
        (Nat.le_of_eq (wakeUpsOfHandler_erase member entry))
  · intro call thread
    exact inUse.handlers.threads call (List.mem_of_mem_erase thread)
  · intro thread threadMember _ last
    exact ⟨thread, List.mem_of_mem_erase threadMember, last⟩

theorem findHandler (inUse : InUse s) {address : Nat}
    (enabled : Enabled s (.continueRelease (.findHandler address)))
    (careful : Careful s (.continueRelease (.findHandler address))) :
    ∃ next, Registrar.continueRelease (.findHandler address) s = some next ∧
      InUse next := by
  have member : .findHandler address ∈ s.releasing := enabled
  have rest := inUse.eraseFindHandler member
  by_cases nobody : s.unregisterHandlerList = []
  · exact ⟨_, continueRelease_nobody nobody, rest⟩
  · obtain ⟨handle, handleMember, rfl, own⟩ := careful.resolve_left nobody
    rw [continueRelease_somebody nobody (inUse.accounted.handleAt handleMember)]
    apply rest.wakeHandler _ (inUse.handlers.last _ member handle.address rfl).2
    · intro entry entryMember same
      have count := wakeUpsOfHandler_erase member entry
      have once := inUse.handlers.woken entry entryMember
      simp only [wakesHandler, same, decide_true, if_true] at count
      omega
    · have search : State.searchHandler
            { s with
              releasing := s.releasing.erase (.findHandler handle.address) }
            handle.handler s.unregisterHandlerList =
          s.searchHandler handle.handler s.unregisterHandlerList :=
        searchHandler_congr (by exact fun _ => rfl) _ _
      simpa only [WakesOwn, search] using own

end InUse

/-- Every careful step has a defined outcome and keeps the accounts. -/
theorem InUse.step {s : State} (inUse : InUse s) {action : Action}
    (enabled : Enabled s action) (careful : Careful s action) :
    ∃ next, perform s action = some next ∧ InUse next := by
  cases action with
  | registerHandler id kMulticast pService handler position =>
      exact ⟨_, rfl,
        inUse.registerHandler id kMulticast pService handler position⟩
  | unregisterHandler id handler =>
      exact ⟨_, rfl, inUse.unregisterHandler id handler⟩
  | finishUnregisterHandler entry =>
      exact ⟨_, rfl, inUse.finishUnregisterHandler enabled careful⟩
  | unregisterService pService =>
      exact ⟨_, rfl, inUse.unregisterService pService⟩
  | finishUnregisterService entry =>
      exact ⟨_, rfl, inUse.finishUnregisterService enabled careful⟩
  | aquireHandlers id room => exact ⟨_, rfl, inUse.aquireHandlers careful⟩
  | aquireHandler id => exact ⟨_, rfl, inUse.aquireHandler careful⟩
  | releaseHandler address => exact inUse.releaseHandler enabled careful
  | continueRelease thread =>
      cases thread with
      | countDownHandler call => exact inUse.countDownHandler enabled
      | countDownService call handle prevUseCount =>
          exact inUse.countDownService enabled
      | findHandler address => exact inUse.findHandler enabled careful

theorem inUse_of_step {s next : State} {action : Action} (inUse : InUse s)
    (careful : Careful s action) (stepped : Step s action next) : InUse next := by
  obtain ⟨enabled, outcomes⟩ := stepped
  obtain ⟨outcome, performed, outcomeInUse⟩ := inUse.step enabled careful
  rwa [outcomes outcome performed]

theorem inUse_of_reaches {s : State}
    (reached : Reaches Step Careful State.empty s) : InUse s :=
  reached.invariant InUse.empty inUse_of_step

/-- The handle of every acquisition that is not released is in the map. -/
def HandlesPresent (s : State) : Prop :=
  ∀ address ∈ s.acquired, ∃ handle ∈ s.handlerMap, handle.address = address

def unregisters : Action → Bool
  | .unregisterHandler _ _ | .finishUnregisterHandler _ | .unregisterService _
  | .finishUnregisterService _ => true
  | _ => false

/-- The handles that are gone after the step have no acquisition left. -/
def ErasesReleased (s next : State) : Prop :=
  ∀ handle ∈ s.handlerMap,
    (∀ other ∈ next.handlerMap, other.address ≠ handle.address) →
      handle.address ∉ s.acquired

theorem acquired_of_unregisters {s next : State} {action : Action}
    (unregistering : unregisters action)
    (performed : perform s action = some next) : next.acquired = s.acquired := by
  cases action with
  | unregisterHandler id handler =>
      obtain rfl := Option.some.inj performed
      unfold unregisterHandler
      split
      · rfl
      · split <;> rfl
  | finishUnregisterHandler entry =>
      obtain rfl := Option.some.inj performed
      unfold finishUnregisterHandler
      simp only
      split <;> rfl
  | unregisterService pService =>
      obtain rfl := Option.some.inj performed
      unfold unregisterService
      simp only
      split <;> rfl
  | finishUnregisterService entry =>
      obtain rfl := Option.some.inj performed
      rfl
  | registerHandler | aquireHandlers | aquireHandler | releaseHandler
  | continueRelease => cases unregistering

/-- In every run of careful steps the handle of every acquisition is in the
map, and the calls that unregister erase only handles without acquisitions. -/
theorem handlesPresent_of_reaches {s : State}
    (reached : Reaches Step Careful State.empty s) :
    HandlesPresent s ∧
      ∀ action next, unregisters action → Careful s action →
        Step s action next → ErasesReleased s next := by
  have inUse := inUse_of_reaches reached
  refine ⟨inUse.accounted.present, ?_⟩
  intro action next unregistering careful stepped handle member erased acquired
  have nextInUse := inUse_of_step inUse careful stepped
  obtain ⟨enabled, outcomes⟩ := stepped
  obtain ⟨outcome, performed, _⟩ := inUse.step enabled careful
  rw [outcomes outcome performed] at nextInUse erased
  rw [← acquired_of_unregisters unregistering performed] at acquired
  obtain ⟨other, otherMember, same⟩ :=
    nextInUse.accounted.present handle.address acquired
  exact erased other otherMember same

instance (s : State) (handle : SdhHandle) : Decidable (WakesOwn s handle) := by
  unfold WakesOwn
  infer_instance

instance (s : State) : (action : Action) → Decidable (Careful s action)
  | .registerHandler .. => inferInstanceAs (Decidable True)
  | .unregisterHandler .. => inferInstanceAs (Decidable True)
  | .finishUnregisterHandler entry =>
      inferInstanceAs (Decidable (∀ handle ∈ s.findHandle entry.id entry.handler, _))
  | .unregisterService .. => inferInstanceAs (Decidable True)
  | .finishUnregisterService _ =>
      inferInstanceAs (Decidable (∀ handle ∈ s.handlerMap, _))
  | .aquireHandlers .. => inferInstanceAs (Decidable (_ < _))
  | .aquireHandler .. => inferInstanceAs (Decidable (_ < _))
  | .releaseHandler _ => inferInstanceAs (Decidable (∀ handle ∈ s.handlerMap, _))
  | .continueRelease (.countDownService ..) => inferInstanceAs (Decidable True)
  | .continueRelease (.countDownHandler _) => inferInstanceAs (Decidable True)
  | .continueRelease (.findHandler _) =>
      inferInstanceAs (Decidable (_ ∨ ∃ handle ∈ s.handlerMap, _))

/-- A handler is released while a call waits to unregister it; another one
stays in use. -/
private def releasedInTime : List Action :=
  [.registerHandler 1 false 5 7 0, .registerHandler 2 false 5 8 0,
    .aquireHandler 1, .aquireHandler 2, .unregisterHandler 1 7,
    .releaseHandler 0, .continueRelease (.countDownHandler 2)]

theorem handlesPresent_released :
    ∃ s entry, run Careful releasedInTime .empty = some s ∧
      s.unregisterHandlerList = [entry] ∧ HandlesPresent s ∧
        ErasesReleased s (finishUnregisterHandler entry s) := by
  have ran : run Careful releasedInTime .empty = some
      { handlerMap :=
          [⟨1, 2, 5, 8, 1, .active⟩, ⟨0, 1, 5, 7, 0, .handlerRemove⟩]
        unregisterServiceList := []
        unregisterHandlerList := [⟨2, 1, 7, 0, 1⟩]
        releasing := []
        acquired := [1]
        nextAddress := 3 } := by decide
  obtain ⟨present, released⟩ :=
    handlesPresent_of_reaches (reaches_of_run .start ran)
  refine ⟨_, ⟨2, 1, 7, 0, 1⟩, ran, rfl, present, ?_⟩
  exact released (.finishUnregisterHandler ⟨2, 1, 7, 0, 1⟩) _ rfl (by decide)
    ⟨by decide, fun _ performed => Option.some.inj performed⟩

-- the thread that has woken the call may end after its handle is erased
example :
    (run Careful
      [.registerHandler 1 false 5 7 0, .aquireHandler 1, .unregisterService 5,
        .releaseHandler 0, .continueRelease (.countDownService 1 0 1),
        .finishUnregisterService ⟨1, 5, 0, 1, [0]⟩,
        .continueRelease (.findHandler 0)] .empty).isSome := by
  decide

/-- A handler is registered and acquired while its service is unregistered. -/
def registeredTooLate : List Action :=
  [.registerHandler 1 false 5 7 0, .aquireHandler 1, .unregisterService 5,
    .registerHandler 2 false 5 8 0, .aquireHandler 2, .releaseHandler 0,
    .continueRelease (.countDownService 1 0 1),
    .finishUnregisterService ⟨1, 5, 0, 1, [0]⟩]

/-- The handle of the later handler is erased while it is in use. -/
theorem not_handlesPresent_registered :
    ∃ s, run (fun _ _ => True) registeredTooLate .empty = some s ∧
      Reaches Step (fun _ _ => True) State.empty s ∧ ¬HandlesPresent s := by
  have ran : run (fun _ _ => True) registeredTooLate .empty = some
      { handlerMap := []
        unregisterServiceList := []
        unregisterHandlerList := []
        releasing := [.findHandler 0]
        acquired := [2]
        nextAddress := 3 } := by decide
  refine ⟨_, ran, reaches_of_run .start ran, ?_⟩
  intro present
  obtain ⟨handle, member, _⟩ := present 2 (by decide)
  cases member

end CommonSerialization.Csp.Messaging.Registrar
