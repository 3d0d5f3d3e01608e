import CommonSerialization.Csp.Messaging.Accounts

namespace CommonSerialization.Csp.Messaging.Registrar

/-! The calls that wait, and the threads that are to wake them. -/

def wakesService (call : Nat) : Releasing → Bool
  | .countDownService other _ _ => other = call
  | _ => false

/-- The thread is going to count down the latch of the entry, or another one
for the same handle. -/
def wakesHandler (entry : ToUnregisterHandler) : Releasing → Bool
  | .countDownHandler call => call = entry.call
  | .countDownService _ handle prevUseCount =>
      handle = entry.handle && prevUseCount = 1
  | .findHandler handle => handle = entry.handle

@[simp] theorem wakesHandler_countedDown (entry : ToUnregisterHandler)
    (count : Nat) :
    wakesHandler { entry with countedDown := count } = wakesHandler entry := by
  funext thread
  cases thread <;> rfl

def wakeUpsOfService (s : State) (entry : ToUnregisterService) : Nat :=
  entry.countedDown + s.releasing.countP (wakesService entry.call)

def wakeUpsOfHandler (s : State) (entry : ToUnregisterHandler) : Nat :=
  entry.countedDown + s.releasing.countP (wakesHandler entry)

def marksInUse (s : State) (entry : ToUnregisterService) : Nat :=
  s.acquired.countP fun address => entry.marked.contains address

structure ServiceWaits (s : State) : Prop where
  distinct : (s.unregisterServiceList.map (·.call)).Nodup
  fresh : ∀ entry ∈ s.unregisterServiceList, entry.call < s.nextAddress
  closed : ∀ entry ∈ s.unregisterServiceList, ∀ address ∈ entry.marked,
    Closed s address
  covered : ∀ entry ∈ s.unregisterServiceList,
    marksInUse s entry ≤ entry.inUseCounter ∧ entry.inUseCounter < 2 ^ 32
  woken : ∀ entry ∈ s.unregisterServiceList,
    wakeUpsOfService s entry = if entry.inUseCounter = 0 then 1 else 0
  first : ∀ handle ∈ s.handlerMap, handle.state = .serviceRemove →
    ∃ entry, s.firstOfService handle.pService = some entry ∧
      handle.address ∈ entry.marked
  threads : ∀ call handle prevUseCount,
    .countDownService call handle prevUseCount ∈ s.releasing →
      ∃ entry ∈ s.unregisterServiceList, entry.call = call

/-- The handle whose last user a thread was that still has to look for its
waiting `unregisterHandler`. -/
def lastUserOf : Releasing → Option Nat
  | .countDownHandler _ => none
  | .countDownService _ handle prevUseCount =>
      if prevUseCount = 1 then some handle else none
  | .findHandler handle => some handle

structure HandlerWaits (s : State) : Prop where
  distinct : (s.unregisterHandlerList.map (·.call)).Nodup
  fresh : ∀ entry ∈ s.unregisterHandlerList, entry.call < s.nextAddress
  closed : ∀ entry ∈ s.unregisterHandlerList, Closed s entry.handle
  woken : ∀ entry ∈ s.unregisterHandlerList, wakeUpsOfHandler s entry ≤ 1
  settled : ∀ entry ∈ s.unregisterHandlerList, wakeUpsOfHandler s entry ≠ 0 →
    entry.handle ∉ s.acquired
  threads : ∀ call, .countDownHandler call ∈ s.releasing →
    ∃ entry ∈ s.unregisterHandlerList, entry.call = call
  last : ∀ thread ∈ s.releasing, ∀ address, lastUserOf thread = some address →
    Closed s address ∧ address ∉ s.acquired

section Waits

variable {s next : State}

theorem Evolves.marksInUse_le (evolves : Evolves s next)
    (waits : ServiceWaits s) {entry : ToUnregisterService}
    (member : entry ∈ s.unregisterServiceList) :
    marksInUse next entry ≤ marksInUse s entry :=
  evolves.acquired _ fun address marked =>
    waits.closed entry member address (by simpa using marked)

theorem ServiceWaits.evolve (waits : ServiceWaits s) (evolves : Evolves s next)
    (list : next.unregisterServiceList = s.unregisterServiceList)
    (releasing : next.releasing = s.releasing)
    (states : ∀ handle ∈ next.handlerMap, handle.state = .serviceRemove →
      ∃ before ∈ s.handlerMap, before.address = handle.address ∧
        before.pService = handle.pService ∧ before.state = .serviceRemove) :
    ServiceWaits next where
  distinct := by
    rw [list]
    exact waits.distinct
  fresh entry member := by
    rw [list] at member
    exact Nat.lt_of_lt_of_le (waits.fresh entry member) evolves.nextAddress
  closed entry member address marked := by
    rw [list] at member
    exact evolves.closed (waits.closed entry member address marked)
  covered entry member := by
    rw [list] at member
    obtain ⟨covered, bounded⟩ := waits.covered entry member
    exact ⟨Nat.le_trans (evolves.marksInUse_le waits member) covered, bounded⟩
  woken entry member := by
    rw [list] at member
    simpa only [wakeUpsOfService, releasing] using waits.woken entry member
  first handle member state := by
    obtain ⟨before, beforeMember, address, service, beforeState⟩ :=
      states handle member state
    obtain ⟨entry, first, marked⟩ := waits.first before beforeMember beforeState
    refine ⟨entry, ?_, by rwa [← address]⟩
    rwa [State.firstOfService, list, ← service]
  threads call handle prevUseCount member := by
    rw [releasing] at member
    rw [list]
    exact waits.threads call handle prevUseCount member

theorem HandlerWaits.evolve (waits : HandlerWaits s) (evolves : Evolves s next)
    (list : next.unregisterHandlerList = s.unregisterHandlerList)
    (releasing : next.releasing = s.releasing) : HandlerWaits next where
  distinct := by
    rw [list]
    exact waits.distinct
  fresh entry member := by
    rw [list] at member
    exact Nat.lt_of_lt_of_le (waits.fresh entry member) evolves.nextAddress
  closed entry member := by
    rw [list] at member
    exact evolves.closed (waits.closed entry member)
  woken entry member := by
    rw [list] at member
    simpa only [wakeUpsOfHandler, releasing] using waits.woken entry member
  settled entry member wakeUps := by
    rw [list] at member
    rw [wakeUpsOfHandler, releasing] at wakeUps
    exact evolves.not_acquired (waits.closed entry member)
      (waits.settled entry member wakeUps)
  threads call member := by
    rw [releasing] at member
    rw [list]
    exact waits.threads call member
  last thread member address last := by
    rw [releasing] at member
    obtain ⟨closed, unused⟩ := waits.last thread member address last
    exact ⟨evolves.closed closed, evolves.not_acquired closed unused⟩

theorem HandlerWaits.push (waits : HandlerWaits s) (thread : Releasing)
    (list : next.unregisterHandlerList = s.unregisterHandlerList)
    (releasing : next.releasing = thread :: s.releasing)
    (map : next.handlerMap = s.handlerMap)
    (acquired : next.acquired = s.acquired)
    (nextAddress : next.nextAddress = s.nextAddress)
    (once : ∀ entry ∈ s.unregisterHandlerList, wakesHandler entry thread →
      wakeUpsOfHandler s entry = 0 ∧ entry.handle ∉ s.acquired)
    (handler : ∀ call, thread = .countDownHandler call →
      ∃ entry ∈ s.unregisterHandlerList, entry.call = call)
    (last : ∀ address, lastUserOf thread = some address →
      Closed s address ∧ address ∉ s.acquired) : HandlerWaits next where
  distinct := by
    rw [list]
    exact waits.distinct
  fresh := by
    rw [list, nextAddress]
    exact waits.fresh
  closed := by
    rw [list]
    simpa only [Closed, map, nextAddress] using waits.closed
  woken entry member := by
    rw [list] at member
    have before := waits.woken entry member
    have step := once entry member
    rw [wakeUpsOfHandler] at before step ⊢
    rw [releasing, List.countP_cons]
    split
    · rename_i wakes
      have := (step wakes).1
      omega
    · exact before
  settled entry member wakeUps := by
    rw [list] at member
    have before := waits.settled entry member
    have step := once entry member
    rw [wakeUpsOfHandler] at before
    rw [wakeUpsOfHandler, releasing, List.countP_cons] at wakeUps
    rw [acquired]
    split at wakeUps
    · rename_i wakes
      exact (step wakes).2
    · exact before wakeUps
  threads call member := by
    rw [releasing, List.mem_cons] at member
    rw [list]
    rcases member with new | old
    · exact handler call new.symm
    · exact waits.threads call old
  last other member address lastUser := by
    rw [releasing, List.mem_cons] at member
    simp only [Closed, map, nextAddress, acquired]
    rcases member with rfl | old
    · exact last address lastUser
    · exact waits.last other old address lastUser

theorem ServiceWaits.reroute (waits : ServiceWaits s)
    (list : next.unregisterServiceList = s.unregisterServiceList)
    (map : next.handlerMap = s.handlerMap)
    (acquired : next.acquired = s.acquired)
    (nextAddress : next.nextAddress = s.nextAddress)
    (counts : ∀ call, next.releasing.countP (wakesService call) =
      s.releasing.countP (wakesService call))
    (kept : ∀ call handle prevUseCount,
      .countDownService call handle prevUseCount ∈ next.releasing →
        .countDownService call handle prevUseCount ∈ s.releasing) :
    ServiceWaits next where
  distinct := by
    rw [list]
    exact waits.distinct
  fresh := by
    rw [list, nextAddress]
    exact waits.fresh
  closed := by
    rw [list]
    simpa only [Closed, map, nextAddress] using waits.closed
  covered := by
    rw [list]
    simpa only [marksInUse, acquired] using waits.covered
  woken := by
    rw [list]
    simpa only [wakeUpsOfService, counts] using waits.woken
  first := by
    rw [map]
    simpa only [State.firstOfService, list] using waits.first
  threads call handle prevUseCount member := by
    rw [list]
    exact waits.threads call handle prevUseCount (kept _ _ _ member)

theorem HandlerWaits.finish (waits : HandlerWaits s)
    {entry : ToUnregisterHandler} (member : entry ∈ s.unregisterHandlerList)
    (woken : entry.countedDown ≠ 0)
    (list : next.unregisterHandlerList =
      s.unregisterHandlerList.filter fun other => other.call ≠ entry.call)
    (releasing : next.releasing = s.releasing)
    (map : next.handlerMap = s.handlerMap)
    (acquired : next.acquired = s.acquired)
    (nextAddress : next.nextAddress = s.nextAddress) : HandlerWaits next where
  distinct := by
    rw [list]
    exact (List.filter_sublist.map _).nodup waits.distinct
  fresh other otherMember := by
    rw [list] at otherMember
    rw [nextAddress]
    exact waits.fresh other (List.mem_of_mem_filter otherMember)
  closed other otherMember := by
    rw [list] at otherMember
    simpa only [Closed, map, nextAddress] using
      waits.closed other (List.mem_of_mem_filter otherMember)
  woken other otherMember := by
    rw [list] at otherMember
    simpa only [wakeUpsOfHandler, releasing] using
      waits.woken other (List.mem_of_mem_filter otherMember)
  settled other otherMember wakeUps := by
    rw [list] at otherMember
    rw [acquired]
    rw [wakeUpsOfHandler, releasing] at wakeUps
    exact waits.settled other (List.mem_of_mem_filter otherMember) wakeUps
  threads call thread := by
    rw [releasing] at thread
    obtain ⟨other, otherMember, same⟩ := waits.threads call thread
    refine ⟨other, ?_, same⟩
    rw [list, List.mem_filter]
    refine ⟨otherMember, ?_⟩
    -- the latch is counted down only once, so the thread is for another entry
    have once := waits.woken entry member
    have none : s.releasing.countP (wakesHandler entry) = 0 := by
      unfold wakeUpsOfHandler at once
      omega
    have spared := List.countP_eq_zero.mp none _ thread
    simp only [wakesHandler, decide_eq_true_eq] at spared
    simpa [same] using spared
  last thread threadMember address last := by
    rw [releasing] at threadMember
    simpa only [Closed, map, nextAddress, acquired] using
      waits.last thread threadMember address last

theorem ServiceWaits.finish (waits : ServiceWaits s)
    {entry : ToUnregisterService} (member : entry ∈ s.unregisterServiceList)
    (woken : entry.countedDown ≠ 0)
    (list : next.unregisterServiceList =
      s.unregisterServiceList.filter fun other => other.call ≠ entry.call)
    (releasing : next.releasing = s.releasing)
    (map : ∀ handle, handle ∈ next.handlerMap ↔
      handle ∈ s.handlerMap ∧ ofService entry.pService handle = false)
    (acquired : next.acquired = s.acquired)
    (nextAddress : next.nextAddress = s.nextAddress) : ServiceWaits next where
  distinct := by
    rw [list]
    exact (List.filter_sublist.map _).nodup waits.distinct
  fresh other otherMember := by
    rw [list] at otherMember
    rw [nextAddress]
    exact waits.fresh other (List.mem_of_mem_filter otherMember)
  closed other otherMember address marked := by
    rw [list] at otherMember
    obtain ⟨old, shut⟩ :=
      waits.closed other (List.mem_of_mem_filter otherMember) address marked
    refine ⟨by rwa [nextAddress], fun handle handleMember => ?_⟩
    exact shut handle ((map handle).mp handleMember).1
  covered other otherMember := by
    rw [list] at otherMember
    simpa only [marksInUse, acquired] using
      waits.covered other (List.mem_of_mem_filter otherMember)
  woken other otherMember := by
    rw [list] at otherMember
    simpa only [wakeUpsOfService, releasing] using
      waits.woken other (List.mem_of_mem_filter otherMember)
  first handle handleMember state := by
    obtain ⟨old, foreign⟩ := (map handle).mp handleMember
    obtain ⟨other, first, marked⟩ := waits.first handle old state
    refine ⟨other, ?_, marked⟩
    rw [State.firstOfService, list]
    apply Counting.find?_filter_of_kept first
    have service : other.pService = handle.pService := by
      simpa using List.find?_some first
    have otherMember := List.mem_of_find?_eq_some first
    simp only [decide_eq_true_eq]
    intro same
    rw [List.inj_on_of_nodup_map waits.distinct otherMember member same] at service
    simp only [ofService, decide_eq_false_iff_not] at foreign
    exact foreign service.symm
  threads call handle prevUseCount thread := by
    rw [releasing] at thread
    obtain ⟨other, otherMember, same⟩ :=
      waits.threads call handle prevUseCount thread
    refine ⟨other, ?_, same⟩
    rw [list, List.mem_filter]
    refine ⟨otherMember, ?_⟩
    have once := waits.woken entry member
    have none : s.releasing.countP (wakesService entry.call) = 0 := by
      unfold wakeUpsOfService at once
      split at once <;> omega
    have spared := List.countP_eq_zero.mp none _ thread
    simp only [wakesService, decide_eq_true_eq] at spared
    simpa [same] using spared

/-- Nobody is going to wake a call that begins to wait for a handle in use. -/
theorem HandlerWaits.no_thread_wakes (waits : HandlerWaits s)
    {entry : ToUnregisterHandler} (call : entry.call = s.nextAddress)
    (used : entry.handle ∈ s.acquired) :
    s.releasing.countP (wakesHandler entry) = 0 := by
  rw [List.countP_eq_zero]
  intro thread member wakes
  cases thread with
  | countDownHandler other =>
      obtain ⟨known, knownMember, same⟩ := waits.threads other member
      have old := waits.fresh known knownMember
      simp only [wakesHandler, decide_eq_true_eq] at wakes
      omega
  | countDownService other handle prevUseCount =>
      simp only [wakesHandler, Bool.and_eq_true, decide_eq_true_eq] at wakes
      exact (waits.last _ member entry.handle
        (by simp [lastUserOf, wakes.1, wakes.2])).2 used
  | findHandler handle =>
      simp only [wakesHandler, decide_eq_true_eq] at wakes
      exact (waits.last _ member entry.handle (by simp [lastUserOf, wakes])).2
        used

theorem HandlerWaits.wait (waits : HandlerWaits s)
    (evolves : Evolves s next) {entry : ToUnregisterHandler}
    (list : next.unregisterHandlerList = entry :: s.unregisterHandlerList)
    (releasing : next.releasing = s.releasing)
    (call : entry.call = s.nextAddress) (bigger : s.nextAddress < next.nextAddress)
    (closed : Closed next entry.handle) (waiting : entry.countedDown = 0)
    (used : entry.handle ∈ s.acquired) : HandlerWaits next where
  distinct := by
    rw [list, List.map_cons, List.nodup_cons]
    refine ⟨fun member => ?_, waits.distinct⟩
    obtain ⟨other, otherMember, same⟩ := List.mem_map.mp member
    have := waits.fresh other otherMember
    omega
  fresh other member := by
    rw [list, List.mem_cons] at member
    rcases member with rfl | old
    · omega
    · have := waits.fresh other old
      omega
  closed other member := by
    rw [list, List.mem_cons] at member
    rcases member with rfl | old
    · exact closed
    · exact evolves.closed (waits.closed other old)
  woken other member := by
    rw [list, List.mem_cons] at member
    rcases member with rfl | old
    · rw [wakeUpsOfHandler, releasing, waiting,
        waits.no_thread_wakes call used]
      decide
    · simpa only [wakeUpsOfHandler, releasing] using waits.woken other old
  settled other member wakeUps := by
    rw [list, List.mem_cons] at member
    rw [wakeUpsOfHandler, releasing] at wakeUps
    rcases member with rfl | old
    · rw [waiting, waits.no_thread_wakes call used] at wakeUps
      exact absurd rfl wakeUps
    · exact evolves.not_acquired (waits.closed other old)
        (waits.settled other old wakeUps)
  threads call member := by
    rw [releasing] at member
    rw [list]
    obtain ⟨other, otherMember, same⟩ := waits.threads call member
    exact ⟨other, List.mem_cons_of_mem _ otherMember, same⟩
  last thread member address last := by
    rw [releasing] at member
    obtain ⟨closed, unused⟩ := waits.last thread member address last
    exact ⟨evolves.closed closed, evolves.not_acquired closed unused⟩

theorem ServiceWaits.wait (waits : ServiceWaits s)
    (evolves : Evolves s next) {entry : ToUnregisterService}
    (list : next.unregisterServiceList = entry :: s.unregisterServiceList)
    (releasing : next.releasing = s.releasing)
    (call : entry.call = s.nextAddress) (bigger : s.nextAddress < next.nextAddress)
    (closed : ∀ address ∈ entry.marked, Closed next address)
    (covered : marksInUse next entry ≤ entry.inUseCounter ∧
      entry.inUseCounter < 2 ^ 32)
    (waiting : entry.countedDown = 0) (used : entry.inUseCounter ≠ 0)
    (marked : ∀ handle ∈ next.handlerMap, handle.pService = entry.pService →
      handle.address ∈ entry.marked)
    (states : ∀ handle ∈ next.handlerMap, handle.pService ≠ entry.pService →
      handle ∈ s.handlerMap) :
    ServiceWaits next where
  distinct := by
    rw [list, List.map_cons, List.nodup_cons]
    refine ⟨fun member => ?_, waits.distinct⟩
    obtain ⟨other, otherMember, same⟩ := List.mem_map.mp member
    have := waits.fresh other otherMember
    omega
  fresh other member := by
    rw [list, List.mem_cons] at member
    rcases member with rfl | old
    · omega
    · have := waits.fresh other old
      omega
  closed other member address isMarked := by
    rw [list, List.mem_cons] at member
    rcases member with rfl | old
    · exact closed address isMarked
    · exact evolves.closed (waits.closed other old address isMarked)
  covered other member := by
    rw [list, List.mem_cons] at member
    rcases member with rfl | old
    · exact covered
    · obtain ⟨covered, bounded⟩ := waits.covered other old
      exact ⟨Nat.le_trans (evolves.marksInUse_le waits old) covered, bounded⟩
  woken other member := by
    rw [list, List.mem_cons] at member
    rcases member with rfl | old
    · rw [if_neg used, wakeUpsOfService, waiting, Nat.zero_add, releasing,
        List.countP_eq_zero]
      intro thread threadMember wakes
      cases thread with
      | countDownService call handle prevUseCount =>
          obtain ⟨known, knownMember, same⟩ :=
            waits.threads call handle prevUseCount threadMember
          have old := waits.fresh known knownMember
          simp only [wakesService, decide_eq_true_eq] at wakes
          omega
      | countDownHandler | findHandler => cases wakes
    · simpa only [wakeUpsOfService, releasing] using waits.woken other old
  first handle member state := by
    rw [State.firstOfService, list, List.find?_cons]
    by_cases service : handle.pService = entry.pService
    · exact ⟨entry, by simp [service], marked handle member service⟩
    · obtain ⟨other, first, isMarked⟩ :=
        waits.first handle (states handle member service) state
      refine ⟨other, ?_, isMarked⟩
      have elsewhere : ¬entry.pService = handle.pService := fun same =>
        service same.symm
      simp only [elsewhere, decide_false]
      exact first
  threads call handle prevUseCount member := by
    rw [releasing] at member
    rw [list]
    obtain ⟨other, otherMember, same⟩ :=
      waits.threads call handle prevUseCount member
    exact ⟨other, List.mem_cons_of_mem _ otherMember, same⟩

theorem firstOfService_changeService {call : Nat}
    {change : ToUnregisterService → ToUnregisterService}
    (keeps : ∀ entry, (change entry).pService = entry.pService)
    {pService : Nat} {entry : ToUnregisterService}
    (first : s.firstOfService pService = some entry) :
    (s.changeService call change).firstOfService pService =
      some (if entry.call = call then change entry else entry) := by
  have kept : ((fun entry : ToUnregisterService =>
        decide (entry.pService = pService)) ∘ fun entry =>
          if entry.call = call then change entry else entry) =
      fun entry => decide (entry.pService = pService) := by
    funext entry
    simp only [Function.comp]
    split <;> simp [keeps]
  simp only [State.firstOfService, State.changeService, List.find?_map, kept]
  rw [State.firstOfService] at first
  rw [first]
  rfl

theorem calls_changeService {call : Nat}
    {change : ToUnregisterService → ToUnregisterService}
    (keeps : ∀ entry, (change entry).call = entry.call) :
    (s.changeService call change).unregisterServiceList.map (·.call) =
      s.unregisterServiceList.map (·.call) := by
  simp only [State.changeService, List.map_map]
  apply List.map_congr_left
  intro entry _
  simp only [Function.comp]
  split <;> simp [keeps]

theorem ServiceWaits.change (waits : ServiceWaits s)
    {entry : ToUnregisterService} (member : entry ∈ s.unregisterServiceList)
    (changed : ToUnregisterService → ToUnregisterService)
    (keeps : ∀ other, (changed other).call = other.call ∧
      (changed other).pService = other.pService ∧
        (changed other).marked = other.marked)
    (list : next.unregisterServiceList =
      (s.changeService entry.call changed).unregisterServiceList)
    (map : next.handlerMap = s.handlerMap)
    (acquired : next.acquired = s.acquired)
    (nextAddress : next.nextAddress = s.nextAddress)
    (covered : marksInUse s entry ≤ (changed entry).inUseCounter ∧
      (changed entry).inUseCounter < 2 ^ 32)
    (woken : (changed entry).countedDown +
        next.releasing.countP (wakesService entry.call) =
      if (changed entry).inUseCounter = 0 then 1 else 0)
    (others : ∀ call, call ≠ entry.call →
      next.releasing.countP (wakesService call) =
        s.releasing.countP (wakesService call))
    (threads : ∀ call handle prevUseCount,
      .countDownService call handle prevUseCount ∈ next.releasing →
        call = entry.call ∨
          .countDownService call handle prevUseCount ∈ s.releasing) :
    ServiceWaits next := by
  have cases (other : ToUnregisterService)
      (otherMember : other ∈ next.unregisterServiceList) :
      other = changed entry ∨
        other ∈ s.unregisterServiceList ∧ other.call ≠ entry.call := by
    rw [list] at otherMember
    obtain ⟨before, beforeMember, rfl⟩ := List.mem_map.mp otherMember
    by_cases same : before.call = entry.call
    · left
      rw [if_pos same, List.inj_on_of_nodup_map waits.distinct beforeMember
        member same]
    · right
      rw [if_neg same]
      exact ⟨beforeMember, same⟩
  constructor
  · rw [list, calls_changeService fun other => (keeps other).1]
    exact waits.distinct
  · intro other otherMember
    rw [nextAddress]
    rcases cases other otherMember with rfl | ⟨old, _⟩
    · rw [(keeps entry).1]
      exact waits.fresh entry member
    · exact waits.fresh other old
  · intro other otherMember address marked
    simp only [Closed, map, nextAddress]
    rcases cases other otherMember with rfl | ⟨old, _⟩
    · rw [(keeps entry).2.2] at marked
      exact waits.closed entry member address marked
    · exact waits.closed other old address marked
  · intro other otherMember
    rw [marksInUse, acquired]
    rcases cases other otherMember with rfl | ⟨old, _⟩
    · rw [(keeps entry).2.2]
      exact covered
    · exact waits.covered other old
  · intro other otherMember
    rw [wakeUpsOfService]
    rcases cases other otherMember with rfl | ⟨old, distinct⟩
    · rw [(keeps entry).1]
      exact woken
    · rw [others _ distinct]
      exact waits.woken other old
  · intro handle handleMember state
    rw [map] at handleMember
    obtain ⟨other, first, marked⟩ := waits.first handle handleMember state
    refine ⟨if other.call = entry.call then changed other else other, ?_, ?_⟩
    · rw [State.firstOfService, list]
      exact firstOfService_changeService (fun other => (keeps other).2.1) first
    · split
      · rwa [(keeps other).2.2]
      · exact marked
  · intro call handle prevUseCount thread
    have known : ∃ old ∈ s.unregisterServiceList, old.call = call := by
      rcases threads call handle prevUseCount thread with rfl | old
      · exact ⟨entry, member, rfl⟩
      · exact waits.threads call handle prevUseCount old
    obtain ⟨old, oldMember, rfl⟩ := known
    refine ⟨if old.call = entry.call then changed old else old, ?_, ?_⟩
    · rw [list]
      exact List.mem_map_of_mem oldMember
    · split
      · exact (keeps old).1
      · rfl

theorem HandlerWaits.change (waits : HandlerWaits s)
    (changed : ToUnregisterHandler → ToUnregisterHandler)
    (keeps : ∀ entry, (changed entry).call = entry.call ∧
      (changed entry).handle = entry.handle)
    (list : next.unregisterHandlerList = s.unregisterHandlerList.map changed)
    (map : next.handlerMap = s.handlerMap)
    (acquired : next.acquired = s.acquired)
    (nextAddress : next.nextAddress = s.nextAddress)
    (fewer : ∀ entry ∈ s.unregisterHandlerList,
      wakeUpsOfHandler next (changed entry) ≤ wakeUpsOfHandler s entry)
    (threads : ∀ call, .countDownHandler call ∈ next.releasing →
      ∃ entry ∈ s.unregisterHandlerList, entry.call = call)
    (last : ∀ thread ∈ next.releasing, ∀ address,
      lastUserOf thread = some address →
        ∃ old ∈ s.releasing, lastUserOf old = some address) :
    HandlerWaits next where
  distinct := by
    have same : next.unregisterHandlerList.map (·.call) =
        s.unregisterHandlerList.map (·.call) := by
      rw [list, List.map_map]
      exact List.map_congr_left fun entry _ => (keeps entry).1
    rw [same]
    exact waits.distinct
  fresh other otherMember := by
    rw [list] at otherMember
    obtain ⟨entry, member, rfl⟩ := List.mem_map.mp otherMember
    rw [(keeps entry).1, nextAddress]
    exact waits.fresh entry member
  closed other otherMember := by
    rw [list] at otherMember
    obtain ⟨entry, member, rfl⟩ := List.mem_map.mp otherMember
    rw [(keeps entry).2]
    simpa only [Closed, map, nextAddress] using waits.closed entry member
  woken other otherMember := by
    rw [list] at otherMember
    obtain ⟨entry, member, rfl⟩ := List.mem_map.mp otherMember
    exact Nat.le_trans (fewer entry member) (waits.woken entry member)
  settled other otherMember wakeUps := by
    rw [list] at otherMember
    obtain ⟨entry, member, rfl⟩ := List.mem_map.mp otherMember
    have := fewer entry member
    rw [(keeps entry).2, acquired]
    exact waits.settled entry member (by omega)
  threads call thread := by
    obtain ⟨entry, member, same⟩ := threads call thread
    rw [list]
    exact ⟨_, List.mem_map_of_mem member, (keeps entry).1.trans same⟩
  last thread member address lastUser := by
    obtain ⟨old, oldMember, oldLast⟩ := last thread member address lastUser
    simpa only [Closed, map, nextAddress, acquired] using
      waits.last old oldMember address oldLast

end Waits

end CommonSerialization.Csp.Messaging.Registrar
