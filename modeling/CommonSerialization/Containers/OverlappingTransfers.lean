import CommonSerialization.Containers.ElementTransfers
import Mathlib.Data.List.Nodup

namespace CommonSerialization.Containers

open StateExcept Storage

/-! Transfers between ranges that may overlap, with an account of what happened to
each slot.  The events of an account are in the order in which they took place. -/

def tally (action : Action) (address : Nat) (events : List Event) : Nat :=
  events.countP fun event => event.action = action && event.address = address

section Tally

variable {action : Action} {address : Nat} {events : List Event}

@[simp] theorem tally_nil : tally action address [] = 0 := rfl

@[simp] theorem tally_cons (event : Event) :
    tally action address (event :: events) =
      tally action address events +
        if event.action = action ∧ event.address = address then 1 else 0 := by
  unfold tally
  rw [List.countP_cons]
  simp

@[simp] theorem tally_append (later : List Event) :
    tally action address (events ++ later) =
      tally action address events + tally action address later :=
  List.countP_append

end Tally

def uses (event : Event) : Prop := event.action = .taken ∨ event.action = .read

/-- Objects were made only where none was and used and destroyed only where one was,
no slot was used as a source after something else had happened to it, and nothing
happened outside of the two ranges. -/
structure Account (dest src n : Nat) (events : List Event) : Prop where
  proper : ∀ event ∈ events, event.proper
  unread : events.Pairwise fun earlier later =>
    uses later → earlier.address = later.address → uses earlier
  places : ∀ event ∈ events,
    Within dest n event.address ∨ uses event ∧ Within src n event.address

/-- Sources that are objects, and destinations that are objects exactly below
`dirtyMemoryFinish`; the size of an array fits into `size_t`. -/
structure Places (environment : Environment α) (memory : Memory α)
    (dest dirtyMemoryFinish src n : Nat) : Prop where
  nonnull : n ≠ 0 → dest ≠ 0
  objects : Objects memory.slots src n
  mapped : Mapped memory.slots dest n
  live : ∀ index < n,
    (memory.slots (dest + index)).holds ↔ dest + index < dirtyMemoryFinish
  fits : n * environment.elements.size < environment.elements.sizeRange

structure TransferDone (environment : Environment α) (transfer : Transfer)
    (memory : Memory α) (dest dirtyMemoryFinish src n : Nat) (after : Memory α) :
    Prop where
  values : ∀ index < n, after.slots (dest + index) = memory.slots (src + index)
  elsewhere : ∀ address, ¬Within dest n address → after.slots address =
    if environment.elements.constructorAllocator ∧ transfer = .move ∧
        Within src n address then
      (memory.slots address).map environment.afterMove
    else memory.slots address
  storage : SameStorage memory after
  events : ∃ events, after.log = events.reverse ++ memory.log ∧
    Account dest src n events ∧
    ∀ address,
      tally .constructed address events =
        (if environment.elements.constructorAllocator ∧ dest ≠ src ∧
            Within dest n address then 1 else 0) ∧
      tally .destroyed address events =
        if address < dirtyMemoryFinish then tally .constructed address events else 0

/-- A construction was refused, and what had been constructed before is destroyed
again. -/
structure TransferUndone (memory : Memory α) (dest dirtyMemoryFinish src n : Nat)
    (after : Memory α) : Prop where
  storage : SameStorage memory after
  events : ∃ events, after.log = events.reverse ++ memory.log ∧
    Account dest src n events ∧
    ∀ address,
      (tally .destroyed address events =
        tally .constructed address events +
          if address < dirtyMemoryFinish then
            tally .constructed address events + tally .refused address events
          else 0) ∧
      (tally .constructed address events ≠ 0 → after.slots address = .vacant)

section Accounts

variable {dest src n index : Nat} {clears : Nat → Bool} {order : List Nat}

/-- Indices in an order in which no element is written over before it is read. -/
structure Unhurried (dest src n : Nat) (order : List Nat) : Prop where
  distinct : dest ≠ src
  bounded : ∀ index ∈ order, index < n
  fresh : order.Nodup
  unread : order.Pairwise fun earlier index => src + index ≠ dest + earlier

theorem mem_elementEvents {event : Event} :
    event ∈ elementEvents clears dest src index ↔
      clears (dest + index) ∧ event = ⟨.destroyed, dest + index, true⟩ ∨
        event = ⟨.taken, src + index, true⟩ ∨
        event = ⟨.constructed, dest + index, false⟩ := by
  unfold elementEvents
  split <;> rename_i clear <;> simp [clear]

theorem elementEvents_proper (event : Event)
    (member : event ∈ elementEvents clears dest src index) : event.proper := by
  rw [mem_elementEvents] at member
  obtain ⟨_, same⟩ | same | same := member <;> cases same <;> rfl

theorem elementEvents_places (bound : index < n) (event : Event)
    (member : event ∈ elementEvents clears dest src index) :
    Within dest n event.address ∨ uses event ∧ Within src n event.address := by
  rw [mem_elementEvents] at member
  unfold Within
  obtain ⟨_, same⟩ | same | same := member <;> cases same
  · left
    dsimp only
    omega
  · right
    refine ⟨.inl rfl, ?_⟩
    dsimp only
    omega
  · left
    dsimp only
    omega

/-- A use comes before everything else of its turn, and never after something of an
earlier turn. -/
theorem elementEvents_unread (unhurried : Unhurried dest src n order) :
    (order.flatMap (elementEvents clears dest src)).Pairwise fun earlier later =>
      uses later → earlier.address = later.address → uses earlier := by
  have used {event : Event} {turn : Nat}
      (member : event ∈ elementEvents clears dest src turn) (use : uses event) :
      event = ⟨.taken, src + turn, true⟩ := by
    rw [mem_elementEvents] at member
    obtain ⟨_, same⟩ | same | same := member
    · cases same
      obtain taken | read := use
      · cases taken
      · cases read
    · exact same
    · cases same
      obtain taken | read := use
      · cases taken
      · cases read
  rw [List.pairwise_flatMap]
  constructor
  · intro turn _
    unfold elementEvents
    split <;> simp [uses, unhurried.distinct]
  · apply unhurried.unread.imp
    intro turn laterTurn unread earlier earlierMember later laterMember use same
    cases used laterMember use
    rw [mem_elementEvents] at earlierMember
    obtain ⟨_, event⟩ | event | event := earlierMember
    · cases event
      exact absurd same.symm unread
    · cases event
      exact .inl rfl
    · cases event
      exact absurd same.symm unread

theorem account_of_order (unhurried : Unhurried dest src n order) :
    Account dest src n (order.flatMap (elementEvents clears dest src)) where
  proper := by
    intro event member
    obtain ⟨turn, _, inTurn⟩ := List.mem_flatMap.mp member
    exact elementEvents_proper event inTurn
  unread := elementEvents_unread unhurried
  places := by
    intro event member
    obtain ⟨turn, turnMember, inTurn⟩ := List.mem_flatMap.mp member
    exact elementEvents_places (unhurried.bounded turn turnMember) event inTurn

variable {address : Nat}

theorem tally_constructed_elements (nodup : order.Nodup) :
    tally .constructed address (order.flatMap (elementEvents clears dest src)) =
      if Among dest order address then 1 else 0 := by
  induction order with
  | nil => rfl
  | cons turn order hypothesis =>
      rw [List.nodup_cons] at nodup
      rw [List.flatMap_cons, tally_append, hypothesis nodup.2]
      have one : tally .constructed address (elementEvents clears dest src turn) =
          if address = dest + turn then 1 else 0 := by
        unfold elementEvents
        split <;> simp [eq_comm]
      have among : Among dest (turn :: order) address ↔
          address = dest + turn ∨ Among dest order address := by
        simp [Among]
      rw [one]
      by_cases current : address = dest + turn
      · have others : ¬Among dest order address := by
          intro later
          obtain ⟨index, member, same⟩ := later
          exact nodup.1 (Nat.add_left_cancel (current.symm.trans same) ▸ member)
        rw [if_pos current, if_neg others, if_pos (among.mpr (.inl current))]
      · simp only [among, current, false_or, if_false, Nat.zero_add]

theorem tally_destroyed_elements :
    tally .destroyed address (order.flatMap (elementEvents clears dest src)) =
      if clears address then
        tally .constructed address (order.flatMap (elementEvents clears dest src))
      else 0 := by
  induction order with
  | nil => simp
  | cons turn order hypothesis =>
      rw [List.flatMap_cons, tally_append, tally_append, hypothesis]
      have one : tally .destroyed address (elementEvents clears dest src turn) =
          if clears address then
            tally .constructed address (elementEvents clears dest src turn)
          else 0 := by
        unfold elementEvents
        by_cases current : dest + turn = address
        · cases current
          split <;> simp
        · split <;> simp [current]
      rw [one]
      split <;> rfl

theorem tally_refused_elements :
    tally .refused address (order.flatMap (elementEvents clears dest src)) = 0 := by
  induction order with
  | nil => rfl
  | cons turn order hypothesis =>
      rw [List.flatMap_cons, tally_append, hypothesis]
      unfold elementEvents
      split <;> simp

theorem tally_emptied {p k : Nat} :
    tally .destroyed address
        ((List.range k).map fun index => ⟨.destroyed, p + index, true⟩) =
      if Within p k address then 1 else 0 := by
  induction k with
  | zero =>
      have outside : ¬Within p 0 address := by
        unfold Within
        omega
      rw [if_neg outside]
      rfl
  | succ k hypothesis =>
      rw [List.range_succ, List.map_append, tally_append, hypothesis]
      simp only [List.map_cons, List.map_nil, tally_cons, tally_nil, Nat.zero_add, true_and]
      by_cases last : p + k = address
      · have outside : ¬Within p k address := by
          unfold Within
          omega
        have inside : Within p (k + 1) address := by
          unfold Within
          omega
        rw [if_neg outside, if_pos last, if_pos inside]
      · have same : Within p (k + 1) address ↔ Within p k address := by
          unfold Within
          omega
        simp only [last, same, if_false, Nat.add_zero]

end Accounts

section Ends

variable {environment : Environment α} {memory after : Memory α} {transfer : Transfer}
  {dest dirtyMemoryFinish src n index p k : Nat} {order : List Nat}
  {clears : Nat → Bool}

theorem Places.transferable
    (places : Places environment memory dest dirtyMemoryFinish src n)
    (dirty : ∀ address, clears address ↔ address < dirtyMemoryFinish)
    (constructors : environment.elements.constructorAllocator = true) :
    Transferable environment memory clears dest src n where
  constructors := constructors
  objects := places.objects
  mapped := places.mapped
  held := by
    intro index bound
    rw [Bool.eq_iff_iff, places.live index bound, dirty]

theorem transferDone_of_order (dirty : ∀ address, clears address ↔ address < dirtyMemoryFinish)
    (constructors : environment.elements.constructorAllocator = true)
    (unhurried : Unhurried dest src n order)
    (complete : ∀ index, index ∈ order ↔ index < n)
    (ended : memory.transferred environment transfer clears dest src order = after)
    (storage : SameStorage memory after) :
    TransferDone environment transfer memory dest dirtyMemoryFinish src n after := by
  have among (base address : Nat) : Among base order address ↔ Within base n address := by
    rw [← among_range]
    unfold Among
    simp only [complete, List.mem_range]
  refine ⟨?_, ?_, storage, order.flatMap (elementEvents clears dest src), ?_,
    account_of_order unhurried, ?_⟩
  · intro index bound
    have written : Within dest n (dest + index) := by
      unfold Within
      omega
    rw [← ended]
    simp only [Memory.transferred, among, written, if_true, Nat.add_sub_cancel_left]
  · intro address outside
    rw [← ended]
    simp only [Memory.transferred, among, outside, if_false, constructors, true_and]
  · rw [← ended]
    rfl
  · intro address
    constructor
    · rw [tally_constructed_elements unhurried.fresh]
      simp only [among, constructors, unhurried.distinct, true_and, ne_eq,
        not_false_eq_true]
    · rw [tally_destroyed_elements]
      simp only [dirty]

def undoneEvents (clears : Nat → Bool) (dest src index p k : Nat) : List Event :=
  (if clears (dest + index) then [⟨.destroyed, dest + index, true⟩] else []) ++
    ⟨.taken, src + index, true⟩ :: ⟨.refused, dest + index, false⟩ ::
      (List.range k).map fun taken => ⟨.destroyed, p + taken, true⟩

theorem mem_undoneEvents {event : Event} :
    event ∈ undoneEvents clears dest src index p k ↔
      clears (dest + index) ∧ event = ⟨.destroyed, dest + index, true⟩ ∨
        event = ⟨.taken, src + index, true⟩ ∨
        event = ⟨.refused, dest + index, false⟩ ∨
        ∃ taken < k, event = ⟨.destroyed, p + taken, true⟩ := by
  unfold undoneEvents
  split <;> rename_i clear <;> simp [clear, eq_comm]

theorem account_of_refusal (unhurried : Unhurried dest src n order)
    (next : NextIndex dest src n order index)
    (taken : ∀ address, Within p k address ↔ Among dest order address) :
    Account dest src n (order.flatMap (elementEvents clears dest src) ++
      undoneEvents clears dest src index p k) := by
  have account : Account dest src n (order.flatMap (elementEvents clears dest src)) :=
    account_of_order unhurried
  have used {event : Event} (member : event ∈ undoneEvents clears dest src index p k)
      (use : uses event) : event = ⟨.taken, src + index, true⟩ := by
    rw [mem_undoneEvents] at member
    unfold uses at use
    obtain ⟨_, same⟩ | same | same | ⟨_, _, same⟩ := member
    · cases same
      simp at use
    · exact same
    · cases same
      simp at use
    · cases same
      simp at use
  constructor
  · intro event member
    obtain earlier | later := List.mem_append.mp member
    · exact account.proper event earlier
    · rw [mem_undoneEvents] at later
      obtain ⟨_, same⟩ | same | same | ⟨_, _, same⟩ := later <;> cases same <;> rfl
  · rw [List.pairwise_append]
    refine ⟨account.unread, ?_, ?_⟩
    · have rest : ((List.range k).map fun taken =>
          (⟨.destroyed, p + taken, true⟩ : Event)).Pairwise fun earlier later =>
            uses later → earlier.address = later.address → uses earlier := by
        rw [List.pairwise_map]
        apply List.pairwise_of_forall
        intro _ _ use
        simp [uses] at use
      unfold undoneEvents
      split <;> simp [uses, unhurried.distinct] <;> exact rest
    · intro earlier member later laterMember use same
      cases used laterMember use
      obtain ⟨turn, turnMember, inTurn⟩ := List.mem_flatMap.mp member
      rw [mem_elementEvents] at inTurn
      obtain ⟨_, event⟩ | event | event := inTurn
      · cases event
        exact absurd same.symm (next.unread turn turnMember)
      · cases event
        exact .inl rfl
      · cases event
        exact absurd same.symm (next.unread turn turnMember)
  · intro event member
    obtain earlier | later := List.mem_append.mp member
    · exact account.places event earlier
    · have bound := next.bound
      rw [mem_undoneEvents] at later
      obtain ⟨_, same⟩ | same | same | ⟨index, inside, same⟩ := later <;> cases same
      · left
        unfold Within
        dsimp only
        omega
      · right
        unfold Within
        dsimp only
        exact ⟨.inl rfl, by omega⟩
      · left
        unfold Within
        dsimp only
        omega
      · left
        obtain ⟨turn, member, same⟩ := (taken (p + index)).mp
          ⟨Nat.le_add_right p index, Nat.add_lt_add_left inside p⟩
        have turnBound := unhurried.bounded turn member
        unfold Within
        dsimp only
        omega

theorem tally_undoneEvents (action : Action) (address : Nat) :
    tally action address (undoneEvents clears dest src index p k) =
      (if clears (dest + index) ∧ action = .destroyed ∧ dest + index = address then 1
        else 0) +
      (if action = .taken ∧ src + index = address then 1 else 0) +
      (if action = .refused ∧ dest + index = address then 1 else 0) +
      tally action address
        ((List.range k).map fun taken => ⟨.destroyed, p + taken, true⟩) := by
  unfold undoneEvents
  split <;> rename_i clear <;>
    simp only [clear, tally_append, tally_cons, tally_nil, true_and, if_false,
      false_and, Nat.zero_add, eq_comm, Bool.false_eq_true] <;> omega

theorem tally_other_emptied {action : Action} (other : action ≠ .destroyed)
    (address : Nat) :
    tally action address ((List.range k).map fun taken => ⟨.destroyed, p + taken, true⟩) =
      0 := by
  unfold tally
  rw [List.countP_eq_zero]
  intro event member
  obtain ⟨_, _, same⟩ := List.mem_map.mp member
  cases same
  simp [other.symm]

theorem transferUndone_of_order (dirty : ∀ address, clears address ↔ address < dirtyMemoryFinish)
    (unhurried : Unhurried dest src n order) (next : NextIndex dest src n order index)
    (taken : ∀ address, Within p k address ↔ Among dest order address)
    {value : α} {left : Option α}
    (ended : (memory.stopped environment transfer clears dest src order index value
      left).emptied p k = after)
    (storage : SameStorage memory after) :
    TransferUndone memory dest dirtyMemoryFinish src n after := by
  refine ⟨storage, order.flatMap (elementEvents clears dest src) ++
    undoneEvents clears dest src index p k, ?_, account_of_refusal unhurried next taken, ?_⟩
  · rw [← ended]
    simp only [Memory.emptied, Memory.stopped, Memory.refused, Memory.cleared,
      Memory.transferred, undoneEvents]
    split <;> simp
  · intro address
    have constructed : tally .constructed address
        (order.flatMap (elementEvents clears dest src) ++
          undoneEvents clears dest src index p k) =
        if Within p k address then 1 else 0 := by
      rw [tally_append, tally_constructed_elements unhurried.fresh, tally_undoneEvents,
        tally_other_emptied (by decide)]
      simp [taken]
    constructor
    · rw [constructed, tally_append, tally_append, tally_destroyed_elements,
        tally_refused_elements, tally_undoneEvents, tally_undoneEvents, tally_emptied,
        tally_other_emptied (by decide), tally_constructed_elements unhurried.fresh]
      simp only [dirty, ← taken]
      by_cases current : dest + index = address
      · have others : ¬Within p k address := by
          rw [taken]
          intro among
          obtain ⟨earlier, member, same⟩ := among
          exact next.fresh (Nat.add_left_cancel (current.trans same) ▸ member)
        simp [current, others]
      · simp only [current, reduceCtorEq, false_and, and_false, if_false, Nat.add_zero,
          Nat.zero_add]
        split <;> omega
    · intro made
      rw [constructed] at made
      have inside : Within p k address := by
        by_contra outside
        exact made (if_neg outside)
      rw [← ended]
      exact if_pos inside

theorem transferDone_of_octets
    (places : Places environment memory dest dirtyMemoryFinish src n)
    (raw : environment.elements.constructorAllocator = false) :
    TransferDone environment transfer memory dest dirtyMemoryFinish src n
      (memory.copyOctets dest src n) := by
  let reads := (List.range n).map fun index =>
    (⟨.read, src + index, (memory.slots (src + index)).holds⟩ : Event)
  let writes := (List.range n).map fun index =>
    (⟨.written, dest + index, (memory.slots (dest + index)).holds⟩ : Event)
  refine ⟨?_, ?_, copyOctets_kept places.mapped places.objects.mapped, reads ++ writes,
    ?_, ⟨?_, ?_, ?_⟩, ?_⟩
  · intro index bound
    have inside : Within dest n (dest + index) := by
      unfold Within
      omega
    simp only [Memory.copyOctets, inside, if_true, Nat.add_sub_cancel_left]
  · intro address outside
    simp only [Memory.copyOctets, outside, if_false, raw, Bool.false_eq_true, false_and]
  · simp only [Memory.copyOctets, reads, writes, List.reverse_append, List.map_reverse,
      List.append_assoc]
  · intro event member
    obtain member | member := List.mem_append.mp member <;>
      obtain ⟨_, _, same⟩ := List.mem_map.mp member <;> cases same <;> rfl
  · rw [List.pairwise_append]
    refine ⟨?_, ?_, ?_⟩
    · rw [List.pairwise_map]
      apply List.pairwise_of_forall
      intro _ _ _ _
      exact .inr rfl
    · rw [List.pairwise_map]
      apply List.pairwise_of_forall
      intro _ _ use
      simp [uses] at use
    · intro earlier member _ _ _ _
      obtain ⟨_, _, same⟩ := List.mem_map.mp member
      cases same
      exact .inr rfl
  · intro event member
    obtain member | member := List.mem_append.mp member <;>
      obtain ⟨index, inside, same⟩ := List.mem_map.mp member <;> cases same <;>
      rw [List.mem_range] at inside <;> unfold Within <;> dsimp only
    · exact .inr ⟨.inr rfl, by omega⟩
    · exact .inl (by omega)
  · intro address
    have none (action : Action) (other : action ≠ .read ∧ action ≠ .written) :
        tally action address (reads ++ writes) = 0 := by
      unfold tally
      rw [List.countP_eq_zero]
      intro event member
      obtain member | member := List.mem_append.mp member <;>
        obtain ⟨_, _, same⟩ := List.mem_map.mp member <;> cases same <;>
        simp [other.1.symm, other.2.symm]
    rw [none .constructed (by decide), none .destroyed (by decide)]
    simp [raw]

theorem Unhurried.upward (distinct : dest ≠ src) (forward : dest < src ∨ src + n ≤ dest)
    {count : Nat} (bound : count ≤ n) : Unhurried dest src n (List.range count) where
  distinct := distinct
  bounded := by
    intro index member
    rw [List.mem_range] at member
    omega
  fresh := List.nodup_range
  unread := by
    apply List.pairwise_lt_range.imp_of_mem
    intro earlier index _ member before
    rw [List.mem_range] at member
    omega

theorem Unhurried.downward (backward : src < dest) {left : Nat} :
    Unhurried dest src n (descending left n) where
  distinct := by omega
  bounded := fun _ member => (mem_descending.mp member).2
  fresh := by
    unfold descending
    rw [List.nodup_reverse]
    exact List.nodup_range' 1
  unread := by
    unfold descending
    rw [List.pairwise_reverse]
    apply (List.pairwise_lt_range' 1).imp
    intro index earlier before
    omega

section Directions

variable (transfer)
  (places : Places environment memory dest dirtyMemoryFinish src n)
  (dirty : ∀ address, clears address ↔ address < dirtyMemoryFinish)
  (constructors : environment.elements.constructorAllocator = true)

include places dirty constructors

theorem transferUpward_correct (distinct : dest ≠ src)
    (forward : dest < src ∨ src + n ≤ dest) :
    (∃ after, transferUpward environment transfer clears dest src 0 n memory =
        .ok () after ∧
      TransferDone environment transfer memory dest dirtyMemoryFinish src n after) ∨
    ∃ index < n, ∃ refusal after,
      transferUpward environment transfer clears dest src 0 n memory =
        .error (.status refusal.status) after ∧
      FirstRefusal environment memory.constructions index refusal ∧
      TransferUndone memory dest dirtyMemoryFinish src n after := by
  have transferable := places.transferable dirty constructors
  have kept : KeptBy memory
      (transferUpward environment transfer clears dest src 0 n memory) :=
    transferUpward_kept transfer clears (by rw [Nat.zero_add]; exact places.mapped)
      (by rw [Nat.zero_add]; exact places.objects.mapped)
  obtain ⟨_, ran⟩ | ⟨index, bound, value, refusal, _, first, ran⟩ :=
    transferUpward_ends transfer transferable distinct places.nonnull forward
  · rw [ran] at kept
    refine .inl ⟨_, ran, transferDone_of_order dirty constructors
      (Unhurried.upward distinct forward (Nat.le_refl n)) ?_ rfl kept⟩
    intro index
    exact List.mem_range
  · rw [ran] at kept
    refine .inr ⟨index, bound, refusal, _, ran, first, transferUndone_of_order dirty
      (Unhurried.upward distinct forward (by omega)) ⟨bound, List.not_mem_range_self, ?_⟩
      ?_ rfl kept⟩
    · intro earlier member
      rw [List.mem_range] at member
      omega
    · intro address
      exact among_range.symm

theorem transferDownward_correct (backward : src < dest) :
    (∃ after, transferDownward environment transfer clears dest src n n memory =
        .ok () after ∧
      TransferDone environment transfer memory dest dirtyMemoryFinish src n after) ∨
    ∃ index < n, ∃ refusal after,
      transferDownward environment transfer clears dest src n n memory =
        .error (.status refusal.status) after ∧
      FirstRefusal environment memory.constructions index refusal ∧
      TransferUndone memory dest dirtyMemoryFinish src n after := by
  have transferable := places.transferable dirty constructors
  have kept : KeptBy memory
      (transferDownward environment transfer clears dest src n n memory) :=
    transferDownward_kept transfer clears (Nat.le_refl n) places.mapped
      places.objects.mapped
  obtain ⟨_, ran⟩ | ⟨index, bound, value, refusal, _, first, ran⟩ :=
    transferDownward_ends transfer transferable backward
  · rw [ran] at kept
    refine .inl ⟨_, ran, transferDone_of_order dirty constructors
      (Unhurried.downward backward) ?_ rfl kept⟩
    intro index
    rw [mem_descending]
    omega
  · rw [ran] at kept
    refine .inr ⟨n - (index + 1), by omega, refusal, _, ran, first,
      transferUndone_of_order dirty
      (Unhurried.downward backward) ⟨bound, ?_, ?_⟩ ?_ rfl kept⟩
    · rw [mem_descending]
      omega
    · intro earlier member
      rw [mem_descending] at member
      omega
    · intro address
      unfold Within Among
      constructor
      · intro inside
        refine ⟨address - dest, mem_descending.mpr ?_, ?_⟩ <;> omega
      · intro among
        obtain ⟨later, member, same⟩ := among
        rw [mem_descending] at member
        omega

end Directions

theorem apart_of_overlap (apart : areRegionsOverlap dest src n = false) :
    dest < src ∨ src + n ≤ dest := by
  simp only [areRegionsOverlap, Bool.or_eq_false_iff, Bool.and_eq_false_iff,
    decide_eq_false_iff_not] at apart
  omega

variable (environment transfer) in
/-- Whatever the distance between the ranges and wherever the construction fails. -/
theorem transferToDirty_correct
    (places : Places environment memory dest dirtyMemoryFinish src n) :
    (∃ after, transferToDirty environment transfer dest dirtyMemoryFinish src n memory =
        .ok () after ∧
      TransferDone environment transfer memory dest dirtyMemoryFinish src n after) ∨
    ∃ index < n, ∃ refusal after,
      transferToDirty environment transfer dest dirtyMemoryFinish src n memory =
        .error (.status refusal.status) after ∧
      FirstRefusal environment memory.constructions index refusal ∧
      TransferUndone memory dest dirtyMemoryFinish src n after := by
  unfold transferToDirty
  by_cases same : dest = src
  · rw [if_pos same]
    cases same
    refine .inl ⟨memory, rfl, ⟨fun _ _ => rfl, ?_, SameStorage.refl memory, [], rfl,
      ⟨by simp, List.Pairwise.nil, by simp⟩, ?_⟩⟩
    · intro address outside
      rw [if_neg (fun inside => outside inside.2.2)]
    · intro address
      simp
  · have dirty (address : Nat) : decide (address < dirtyMemoryFinish) = true ↔
        address < dirtyMemoryFinish := decide_eq_true_iff
    rw [if_neg same]
    cases overlap : areRegionsOverlap dest src n with
    | false =>
        have apart := apart_of_overlap overlap
        unfold transferToDirtyNoOverlap
        cases constructors : environment.elements.constructorAllocator with
        | true =>
            exact transferUpward_correct transfer places dirty constructors same apart
        | false =>
            have movable : OctetsMovable environment.elements dest src n :=
              ⟨places.fits, .inr overlap⟩
            exact .inl ⟨_, memcpy_of_movable movable places.mapped places.objects.mapped,
              transferDone_of_octets places constructors⟩
    | true =>
        cases constructors : environment.elements.constructorAllocator with
        | true =>
            rw [if_pos rfl, if_pos rfl]
            by_cases before : dest < src
            · rw [if_pos before]
              unfold transferToDirtyNoOverlap
              rw [if_pos constructors]
              exact transferUpward_correct transfer places dirty constructors same
                (.inl before)
            · rw [if_neg before]
              exact transferDownward_correct transfer places dirty constructors (by omega)
        | false =>
            exact .inl ⟨_, memmove_of_mapped places.fits places.mapped
              places.objects.mapped, transferDone_of_octets places constructors⟩

end Ends

private def strings : Environment String :=
  .exact ⟨⟨false, false⟩, 32, by decide, true⟩ (fun _ => 1) (fun _ => "")
    (fun _ => none)

private def twoStrings : Memory String :=
  { (Memory.empty : Memory String) with
    slots := fun address =>
      if address = 1 then .object "first" else if address = 2 then .object "second"
      else if address = 3 then .vacant else .unmapped }

theorem transferToDirty_correct_strings :
    (∃ after, transferToDirty strings .move 2 3 1 2 twoStrings = .ok () after ∧
      TransferDone strings .move twoStrings 2 3 1 2 after) ∨
    ∃ index < 2, ∃ refusal after,
      transferToDirty strings .move 2 3 1 2 twoStrings =
        .error (.status refusal.status) after ∧
      FirstRefusal strings twoStrings.constructions index refusal ∧
      TransferUndone twoStrings 2 3 1 2 after := by
  apply transferToDirty_correct
  refine ⟨fun _ => by decide, ?_, ?_, ?_, by decide⟩ <;> intro index bound <;>
    match index, bound with
    | 0, _ => decide
    | 1, _ => decide

end CommonSerialization.Containers
