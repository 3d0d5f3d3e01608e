import CommonSerialization.Csp.Messaging.Registrar
import CommonSerialization.Library.Counting
import Mathlib.Data.List.Count
import Mathlib.Data.List.Find
import Mathlib.Data.List.Nodup

namespace CommonSerialization.Csp.Messaging.Registrar

/-! The counters of the handles, and what a step can do to the map. -/

def Closed (s : State) (address : Nat) : Prop :=
  address < s.nextAddress ∧
    ∀ handle ∈ s.handlerMap, handle.address = address → handle.state ≠ .active

/-- The counters count the acquisitions, and what is acquired is there. -/
structure Accounted (s : State) : Prop where
  distinct : (s.handlerMap.map (·.address)).Nodup
  fresh : ∀ handle ∈ s.handlerMap, handle.address < s.nextAddress
  counted : ∀ handle ∈ s.handlerMap,
    handle.inUseCounter = s.acquired.count handle.address
  present : ∀ address ∈ s.acquired, ∃ handle ∈ s.handlerMap,
    handle.address = address
  few : s.acquired.length < 2 ^ 32

theorem fetchAdd_of_lt {counter : Nat} (small : counter + 1 < 2 ^ 32) :
    fetchAdd counter = counter + 1 :=
  Nat.mod_eq_of_lt small

theorem fetchSub_of_pos {counter : Nat} (positive : 0 < counter)
    (small : counter < 2 ^ 32) : fetchSub counter = counter - 1 := by
  unfold fetchSub
  omega

section Map

variable {s : State}

theorem handleAt_eq_some {address : Nat} {handle : SdhHandle}
    (found : s.handleAt address = some handle) :
    handle ∈ s.handlerMap ∧ handle.address = address := by
  refine ⟨List.mem_of_find?_eq_some found, ?_⟩
  simpa using List.find?_some found

theorem findHandle_eq_some {id handler : Nat} {handle : SdhHandle}
    (found : s.findHandle id handler = some handle) :
    handle ∈ s.handlerMap ∧ handle.id = id ∧ handle.handler = handler := by
  refine ⟨List.mem_of_find?_eq_some found, ?_⟩
  simpa using List.find?_some found

theorem mem_changeHandles {selected : SdhHandle → Bool}
    {change : SdhHandle → SdhHandle} {handle : SdhHandle} :
    handle ∈ (s.changeHandles selected change).handlerMap ↔
      ∃ before ∈ s.handlerMap,
        (if selected before then change before else before) = handle := by
  simp [State.changeHandles]

theorem mem_eraseHandles {selected : SdhHandle → Bool} {handle : SdhHandle} :
    handle ∈ (s.eraseHandles selected).handlerMap ↔
      handle ∈ s.handlerMap ∧ selected handle = false := by
  simp [State.eraseHandles]

theorem eraseHandles_changeHandles {selected : SdhHandle → Bool}
    {change : SdhHandle → SdhHandle}
    (keeps : ∀ handle, selected handle → selected (change handle)) :
    (s.changeHandles selected change).eraseHandles selected =
      s.eraseHandles selected := by
  have filtered : ∀ map : List SdhHandle,
      ((map.map fun handle => if selected handle then change handle else handle
        ).filter fun handle => !selected handle) =
          map.filter fun handle => !selected handle := by
    intro map
    induction map with
    | nil => rfl
    | cons handle rest induction =>
        by_cases chosen : selected handle
        · simp [chosen, keeps handle chosen, induction]
        · simp [chosen, induction]
  simp only [State.changeHandles, State.eraseHandles, filtered]

theorem Accounted.eq_of_address (accounted : Accounted s)
    {first second : SdhHandle} (firstMember : first ∈ s.handlerMap)
    (secondMember : second ∈ s.handlerMap)
    (same : first.address = second.address) : first = second :=
  List.inj_on_of_nodup_map accounted.distinct firstMember secondMember same

theorem Accounted.handleAt (accounted : Accounted s) {handle : SdhHandle}
    (member : handle ∈ s.handlerMap) : s.handleAt handle.address = some handle := by
  cases found : s.handleAt handle.address with
  | none =>
      have absent := List.find?_eq_none.mp found handle member
      simp at absent
  | some other =>
      obtain ⟨otherMember, same⟩ := handleAt_eq_some found
      rw [accounted.eq_of_address otherMember member same]

theorem Accounted.not_acquired (accounted : Accounted s) {handle : SdhHandle}
    (member : handle ∈ s.handlerMap) :
    handle.inUseCounter = 0 ↔ handle.address ∉ s.acquired := by
  rw [accounted.counted handle member, List.count_eq_zero]

theorem Accounted.sum_inUseCounter (accounted : Accounted s)
    (selected : SdhHandle → Bool) :
    ((s.handlerMap.filter selected).map (·.inUseCounter)).sum =
      s.acquired.countP fun address =>
        ((s.handlerMap.filter selected).map (·.address)).contains address := by
  have distinct : ((s.handlerMap.filter selected).map (·.address)).Nodup :=
    (List.filter_sublist.map _).nodup accounted.distinct
  rw [← Counting.sum_map_count distinct, List.map_map]
  congr 1
  apply List.map_congr_left
  intro handle member
  exact accounted.counted handle (List.mem_of_mem_filter member)

/-- The loop over the waiting calls changes nothing but the threads. -/
theorem wakeHandler_releasing {next : State} {handler : Nat}
    (performed : wakeHandler handler s = some next) :
    ∃ releasing, next = { s with releasing := releasing } := by
  unfold wakeHandler at performed
  split at performed <;> cases performed
  · exact ⟨s.releasing, rfl⟩
  · exact ⟨_, rfl⟩

theorem releaseOfHandler_releasing {next : State} {handle : SdhHandle}
    (performed : releaseOfHandler handle s = some next) :
    ∃ releasing, next = { s with releasing := releasing } := by
  unfold releaseOfHandler at performed
  split at performed
  · exact wakeHandler_releasing performed
  · cases performed
    exact ⟨s.releasing, rfl⟩

end Map

section Accounting

variable {s : State}

theorem Accounted.distinct_changeHandles (accounted : Accounted s)
    {selected : SdhHandle → Bool} {change : SdhHandle → SdhHandle}
    (keeps : ∀ handle, (change handle).address = handle.address) :
    ((s.changeHandles selected change).handlerMap.map (·.address)).Nodup := by
  have same : (s.changeHandles selected change).handlerMap.map (·.address) =
      s.handlerMap.map (·.address) := by
    simp only [State.changeHandles, List.map_map]
    apply List.map_congr_left
    intro handle _
    simp only [Function.comp]
    split <;> simp [keeps]
  rw [same]
  exact accounted.distinct

/-- The fields of the invariant that speak of neither the lists nor the
threads carry over to every state with the same map and acquisitions. -/
theorem Accounted.congr (accounted : Accounted s) {other : State}
    (map : other.handlerMap = s.handlerMap)
    (acquired : other.acquired = s.acquired)
    (next : s.nextAddress ≤ other.nextAddress) : Accounted other where
  distinct := by
    rw [map]
    exact accounted.distinct
  fresh handle member := by
    rw [map] at member
    exact Nat.lt_of_lt_of_le (accounted.fresh handle member) next
  counted handle member := by
    rw [map] at member
    rw [acquired]
    exact accounted.counted handle member
  present address member := by
    rw [acquired] at member
    rw [map]
    exact accounted.present address member
  few := by
    rw [acquired]
    exact accounted.few

theorem accounted_setState (accounted : Accounted s)
    (selected : SdhHandle → Bool) (state : HandleState) :
    Accounted (s.changeHandles selected fun handle =>
      { handle with state := state }) where
  distinct := accounted.distinct_changeHandles fun _ => rfl
  fresh handle member := by
    obtain ⟨before, beforeMember, rfl⟩ := mem_changeHandles.mp member
    have := accounted.fresh before beforeMember
    split <;> exact this
  counted handle member := by
    obtain ⟨before, beforeMember, rfl⟩ := mem_changeHandles.mp member
    have := accounted.counted before beforeMember
    split <;> exact this
  present address member := by
    obtain ⟨handle, handleMember, same⟩ := accounted.present address member
    refine ⟨_, mem_changeHandles.mpr ⟨handle, handleMember, rfl⟩, ?_⟩
    split <;> exact same
  few := accounted.few

theorem accounted_eraseHandles (accounted : Accounted s)
    {selected : SdhHandle → Bool}
    (unused : ∀ handle ∈ s.handlerMap, selected handle →
      handle.address ∉ s.acquired) :
    Accounted (s.eraseHandles selected) where
  distinct := (List.filter_sublist.map _).nodup accounted.distinct
  fresh handle member := accounted.fresh handle (mem_eraseHandles.mp member).1
  counted handle member :=
    accounted.counted handle (mem_eraseHandles.mp member).1
  present address member := by
    obtain ⟨handle, handleMember, rfl⟩ := accounted.present address member
    refine ⟨handle, mem_eraseHandles.mpr ⟨handleMember, ?_⟩, rfl⟩
    by_contra erased
    exact unused handle handleMember (by simpa using erased) member
  few := accounted.few

theorem accounted_registerHandler (accounted : Accounted s) (id : Nat)
    (kMulticast : Bool) (pService handler position : Nat) :
    Accounted (registerHandler id kMulticast pService handler position s).2 := by
  unfold registerHandler
  split
  · exact accounted
  · have unused : s.nextAddress ∉ s.acquired := by
      intro member
      obtain ⟨handle, handleMember, same⟩ := accounted.present _ member
      have := accounted.fresh handle handleMember
      omega
    have split (handle : SdhHandle) :
        handle ∈ s.handlerMap ↔
          handle ∈ s.handlerMap.take position ∨
            handle ∈ s.handlerMap.drop position := by
      rw [← List.mem_append, List.take_append_drop]
    constructor
    · simp only [List.map_append, List.map_cons]
      rw [List.nodup_middle, ← List.map_append, List.take_append_drop,
        List.nodup_cons]
      refine ⟨?_, accounted.distinct⟩
      intro member
      obtain ⟨handle, handleMember, same⟩ := List.mem_map.mp member
      have := accounted.fresh handle handleMember
      omega
    · intro handle member
      simp only [List.mem_append, List.mem_cons] at member
      rcases member with earlier | rfl | later
      · have := accounted.fresh handle ((split handle).mpr (.inl earlier))
        simp only
        omega
      · exact Nat.lt_succ_self _
      · have := accounted.fresh handle ((split handle).mpr (.inr later))
        simp only
        omega
    · intro handle member
      simp only [List.mem_append, List.mem_cons] at member
      rcases member with earlier | rfl | later
      · exact accounted.counted handle ((split handle).mpr (.inl earlier))
      · exact (List.count_eq_zero.mpr unused).symm
      · exact accounted.counted handle ((split handle).mpr (.inr later))
    · intro address member
      obtain ⟨handle, handleMember, same⟩ := accounted.present address member
      refine ⟨handle, ?_, same⟩
      simp only [List.mem_append, List.mem_cons]
      rcases (split handle).mp handleMember with earlier | later
      · exact .inl earlier
      · exact .inr (.inr later)
    · exact accounted.few

theorem accounted_acquire (accounted : Accounted s) {addresses : List Nat}
    (distinct : addresses.Nodup)
    (there : ∀ address ∈ addresses, ∃ handle ∈ s.handlerMap,
      handle.address = address)
    (few : s.acquired.length + addresses.length < 2 ^ 32) :
    Accounted (s.acquire addresses) where
  distinct := accounted.distinct_changeHandles fun _ => rfl
  fresh handle member := by
    obtain ⟨before, beforeMember, rfl⟩ := mem_changeHandles.mp member
    have := accounted.fresh before beforeMember
    split <;> exact this
  counted handle member := by
    obtain ⟨before, beforeMember, rfl⟩ := mem_changeHandles.mp member
    have counted := accounted.counted before beforeMember
    have small := List.count_le_length (a := before.address) (l := s.acquired)
    simp only [State.acquire, List.contains_iff_mem, List.count_append]
    split
    · rename_i chosen
      rw [List.count_eq_one_of_mem distinct chosen]
      simp only [counted]
      apply fetchAdd_of_lt
      have := List.length_pos_of_mem chosen
      omega
    · rename_i passed
      rw [List.count_eq_zero.mpr passed, counted]
      rfl
  present address member := by
    have known : ∃ handle ∈ s.handlerMap, handle.address = address := by
      rcases List.mem_append.mp member with old | new
      · exact accounted.present address old
      · exact there address new
    obtain ⟨handle, handleMember, same⟩ := known
    refine ⟨_, mem_changeHandles.mpr ⟨handle, handleMember, rfl⟩, ?_⟩
    split <;> exact same
  few := by
    simpa [State.acquire] using few

theorem accounted_release (accounted : Accounted s) {address : Nat}
    (member : address ∈ s.acquired) : Accounted (s.release address) where
  distinct := accounted.distinct_changeHandles fun _ => rfl
  fresh handle member := by
    obtain ⟨before, beforeMember, rfl⟩ := mem_changeHandles.mp member
    have := accounted.fresh before beforeMember
    split <;> exact this
  counted handle handleMember := by
    obtain ⟨before, beforeMember, rfl⟩ := mem_changeHandles.mp handleMember
    have counted := accounted.counted before beforeMember
    have small := List.count_le_length (a := before.address) (l := s.acquired)
    have few := accounted.few
    simp only [State.release, decide_eq_true_eq]
    split
    · rename_i same
      have positive := List.count_pos_iff.mpr member
      subst same
      simp only [counted, List.count_erase_self]
      exact fetchSub_of_pos positive (by omega)
    · rename_i other
      rw [List.count_erase_of_ne other, counted]
  present other otherMember := by
    obtain ⟨handle, handleMember, same⟩ :=
      accounted.present other (List.mem_of_mem_erase otherMember)
    refine ⟨_, mem_changeHandles.mpr ⟨handle, handleMember, rfl⟩, ?_⟩
    split <;> exact same
  few := Nat.lt_of_le_of_lt List.length_erase_le accounted.few

end Accounting

/-- No step opens a closed handle again, and only open ones are acquired. -/
structure Evolves (s next : State) : Prop where
  nextAddress : s.nextAddress ≤ next.nextAddress
  handles : ∀ handle ∈ next.handlerMap, handle.address < s.nextAddress →
    ∃ before ∈ s.handlerMap, before.address = handle.address ∧
      (before.state ≠ .active → handle.state ≠ .active)
  acquired : ∀ chosen : Nat → Bool,
    (∀ address, chosen address → Closed s address) →
      next.acquired.countP chosen ≤ s.acquired.countP chosen

namespace Evolves

theorem refl (s : State) : Evolves s s where
  nextAddress := Nat.le_refl _
  handles handle member _ := ⟨handle, member, rfl, id⟩
  acquired _ _ := Nat.le_refl _

variable {s next : State} (evolves : Evolves s next)

include evolves

theorem congr {other : State} (map : other.handlerMap = next.handlerMap)
    (acquired : other.acquired = next.acquired)
    (nextAddress : other.nextAddress = next.nextAddress) : Evolves s other where
  nextAddress := by
    rw [nextAddress]
    exact evolves.nextAddress
  handles := by
    rw [map]
    exact evolves.handles
  acquired := by
    rw [acquired]
    exact evolves.acquired

theorem closed {address : Nat} (closed : Closed s address) :
    Closed next address := by
  refine ⟨Nat.lt_of_lt_of_le closed.1 evolves.nextAddress, ?_⟩
  rintro handle member rfl
  obtain ⟨before, beforeMember, same, stays⟩ :=
    evolves.handles handle member closed.1
  exact stays (closed.2 before beforeMember same)

theorem not_acquired {address : Nat} (closed : Closed s address)
    (unused : address ∉ s.acquired) : address ∉ next.acquired := by
  have fewer := evolves.acquired (fun other => other = address)
    (fun other same => by
      obtain rfl : other = address := by simpa using same
      exact closed)
  have none : s.acquired.countP (fun other => other = address) = 0 := by
    rw [List.countP_eq_zero]
    rintro other member same
    obtain rfl : other = address := by simpa using same
    exact unused member
  rw [none, Nat.le_zero, List.countP_eq_zero] at fewer
  intro member
  exact fewer address member (by simp)

end Evolves

section Evolving

variable {s : State}

theorem evolves_setState (selected : SdhHandle → Bool) {state : HandleState}
    (closing : state ≠ .active) (next : State)
    (map : next.handlerMap = (s.changeHandles selected fun handle =>
      { handle with state := state }).handlerMap)
    (acquired : next.acquired = s.acquired)
    (nextAddress : s.nextAddress ≤ next.nextAddress) : Evolves s next where
  nextAddress := nextAddress
  handles handle member _ := by
    rw [map] at member
    obtain ⟨before, beforeMember, rfl⟩ := mem_changeHandles.mp member
    refine ⟨before, beforeMember, ?_⟩
    split
    · exact ⟨rfl, fun _ => closing⟩
    · exact ⟨rfl, id⟩
  acquired _ _ := Nat.le_of_eq (by rw [acquired])

theorem evolves_eraseHandles (selected : SdhHandle → Bool) :
    Evolves s (s.eraseHandles selected) where
  nextAddress := Nat.le_refl _
  handles handle member _ :=
    ⟨handle, (mem_eraseHandles.mp member).1, rfl, id⟩
  acquired _ _ := Nat.le_refl _

theorem evolves_registerHandler (id : Nat) (kMulticast : Bool)
    (pService handler position : Nat) :
    Evolves s (registerHandler id kMulticast pService handler position s).2 := by
  unfold registerHandler
  split
  · exact ⟨Nat.le_refl _, fun handle member _ => ⟨handle, member, rfl, fun closed => closed⟩,
      fun _ _ => Nat.le_refl _⟩
  · refine ⟨Nat.le_succ _, fun handle member old => ?_, fun _ _ => Nat.le_refl _⟩
    simp only [List.mem_append, List.mem_cons] at member
    rcases member with earlier | rfl | later
    · exact ⟨handle, List.mem_of_mem_take earlier, rfl, fun closed => closed⟩
    · exact absurd old (Nat.lt_irrefl _)
    · exact ⟨handle, List.mem_of_mem_drop later, rfl, fun closed => closed⟩

theorem evolves_acquire {addresses : List Nat}
    (opened : ∀ address ∈ addresses, ¬Closed s address) :
    Evolves s (s.acquire addresses) where
  nextAddress := Nat.le_refl _
  handles handle member _ := by
    obtain ⟨before, beforeMember, rfl⟩ := mem_changeHandles.mp member
    refine ⟨before, beforeMember, ?_⟩
    split <;> exact ⟨rfl, fun closed => closed⟩
  acquired chosen closed := by
    have none : addresses.countP chosen = 0 :=
      List.countP_eq_zero.mpr fun address member isChosen =>
        opened address member (closed address isChosen)
    simp only [State.acquire, List.countP_append, none, Nat.add_zero,
      Nat.le_refl]

theorem evolves_release (address : Nat) : Evolves s (s.release address) where
  nextAddress := Nat.le_refl _
  handles handle member _ := by
    obtain ⟨before, beforeMember, rfl⟩ := mem_changeHandles.mp member
    refine ⟨before, beforeMember, ?_⟩
    split <;> exact ⟨rfl, fun closed => closed⟩
  acquired chosen _ := List.erase_sublist.countP_le

end Evolving

end CommonSerialization.Csp.Messaging.Registrar
