import CommonSerialization.Containers.GrantedRequests

namespace CommonSerialization.Containers

open StateExcept Storage Growth

/-! A heap that never runs out.  What goes well with it has asked for nothing that wraps. -/

section Heap

variable (elements : Elements) (bound : Nat)

def edge (memory : Memory α) : Nat := bound + 1 + memory.requests * elements.sizeRange

def generous : Environment α := .exact elements (edge elements bound) id fun _ => none

def Ahead (memory : Memory α) : Prop :=
  ∀ address, edge elements bound memory ≤ address →
    (memory.slots address).mapped = false ∧ memory.blocks address = none

/-- All requests are granted, and what is not in use before the edge will never be. -/
structure Steady (before after : Memory α) : Prop where
  ahead : Ahead elements bound after
  ungranted : after.ungranted = before.ungranted
  denied : after.denied = before.denied
  forward : edge elements bound before ≤ edge elements bound after
  unmapped : ∀ address < edge elements bound before,
    (before.slots address).mapped = false → (after.slots address).mapped = false

end Heap

section Steadiness

variable {elements : Elements} {bound : Nat} {before middle after memory : Memory α}

theorem edge_mono (requests : before.requests ≤ after.requests) :
    edge elements bound before ≤ edge elements bound after :=
  Nat.add_le_add_left (Nat.mul_le_mul_right _ requests) _

theorem Steady.refl (ahead : Ahead elements bound memory) :
    Steady elements bound memory memory :=
  ⟨ahead, rfl, rfl, Nat.le_refl _, fun _ _ unmapped => unmapped⟩

theorem Steady.trans (first : Steady elements bound before middle)
    (second : Steady elements bound middle after) : Steady elements bound before after where
  ahead := second.ahead
  ungranted := second.ungranted.trans first.ungranted
  denied := second.denied.trans first.denied
  forward := Nat.le_trans first.forward second.forward
  unmapped := fun address inside unmapped =>
    second.unmapped address (Nat.lt_of_lt_of_le inside first.forward)
      (first.unmapped address inside unmapped)

theorem Steady.of_same (ahead : Ahead elements bound before) (same : SameStorage before after) :
    Steady elements bound before after where
  ahead := by
    intro address past
    have isEdge : edge elements bound after = edge elements bound before := by
      unfold edge
      rw [same.requests]
    rw [isEdge] at past
    rw [same.mapped, same.blocks]
    exact ahead address past
  ungranted := same.ungranted
  denied := same.denied
  forward := edge_mono (Nat.le_of_eq same.requests.symm)
  unmapped := by
    intro address _ unmapped
    rw [same.mapped]
    exact unmapped

theorem Steady.release (ahead : Ahead elements bound memory) (environment : Environment α)
    (p room : Nat) : Steady elements bound memory (memory.release environment p room) := by
  have unmapped {address : Nat} (unmapped : (memory.slots address).mapped = false) :
      ((memory.release environment p room).slots address).mapped = false := by
    show Slot.mapped (if _ then _ else _) = false
    split
    · rfl
    · exact unmapped
  refine ⟨?_, rfl, rfl, Nat.le_refl _, fun address _ free => unmapped free⟩
  intro address past
  obtain ⟨free, none⟩ := ahead address past
  refine ⟨unmapped free, ?_⟩
  show Function.update memory.blocks p Option.none address = Option.none
  rw [Function.update_apply]
  split
  · rfl
  · exact none

theorem generous_heap (ahead : Ahead elements bound memory) (bytes : Nat) :
    (generous elements bound).heap memory bytes =
      some ⟨edge elements bound memory, bytes⟩ := by
  apply if_pos
  refine ⟨?_, (ahead _ (Nat.le_refl _)).2, fun index _ => (ahead _ (Nat.le_add_right _ _)).1⟩
  unfold edge
  omega

structure Widened (elements : Elements) (bound bytes : Nat) (before after : Memory α) :
    Prop where
  steady : Steady elements bound before after
  wider : edge elements bound after = edge elements bound before + elements.sizeRange
  unmapped : ∀ index, elements.room bytes ≤ index →
    (after.slots (edge elements bound before + index)).mapped = false

theorem Widened.accept (ahead : Ahead elements bound memory) {bytes : Nat}
    (inRange : bytes < elements.sizeRange) :
    Widened elements bound bytes memory
      (memory.accept elements ⟨edge elements bound memory, bytes⟩) := by
  have next : edge elements bound (memory.accept elements ⟨edge elements bound memory, bytes⟩) =
      edge elements bound memory + elements.sizeRange := by
    simp only [edge, Memory.accept, Nat.add_mul, Nat.one_mul, Nat.add_assoc]
  have fewer : elements.room bytes < elements.sizeRange :=
    Nat.lt_of_le_of_lt (Nat.div_le_self _ _) inRange
  have outside {address : Nat}
      (free : ¬Within (edge elements bound memory) (elements.room bytes) address) :
      (memory.accept elements ⟨edge elements bound memory, bytes⟩).slots address =
        memory.slots address := if_neg free
  refine ⟨⟨?_, rfl, rfl, ?_, ?_⟩, next, ?_⟩
  · intro address past
    rw [next] at past
    obtain ⟨free, none⟩ := ahead address (by omega)
    constructor
    · rw [outside fun inside => by unfold Within at inside; omega]
      exact free
    · simp only [Memory.accept]
      rw [Function.update_of_ne (by have := elements.sizeRange_pos; omega)]
      exact none
  · rw [next]
    exact Nat.le_add_right _ _
  · intro address inside free
    rw [outside fun within => by unfold Within at within; omega]
    exact free
  · intro index past
    rw [outside fun inside => by unfold Within at inside; omega]
    exact (ahead _ (Nat.le_add_right _ _)).1

theorem AllocationManager.granted_heap {manager : AllocationManager} (n : Nat)
    (heap : manager.allocator = .heap) :
    manager.granted elements n = manager.firstRequest elements n := by
  unfold AllocationManager.granted
  rw [heap]

theorem AllocationManager.granted_lt {manager : AllocationManager} {n : Nat}
    (heap : manager.allocator = .heap) (inRange : n < elements.sizeRange) :
    manager.granted elements n < elements.sizeRange := by
  rw [granted_heap n heap]
  unfold firstRequest
  split
  · exact Nat.mod_lt _ elements.sizeRange_pos
  · exact inRange

theorem AllocationManager.RequestFits.le_granted {manager : AllocationManager} {n : Nat}
    (heap : manager.allocator = .heap) (fits : manager.RequestFits elements n) :
    n ≤ manager.granted elements n := by
  rw [granted_heap n heap]
  unfold RequestFits at fits
  unfold firstRequest
  split at fits
  · have inRange : n * 2 < elements.sizeRange :=
      Nat.lt_of_le_of_lt (Nat.le_mul_of_pos_right _ elements.size_pos) fits
    rw [Nat.mod_eq_of_lt inRange]
    exact Nat.le_mul_of_pos_right n Nat.two_pos
  · exact Nat.le_refl n

/-- Every manager gets what it asks for first. -/
theorem generous_allocate {manager : AllocationManager} (heap : manager.allocator = .heap)
    (ahead : Ahead elements bound memory) (n : Nat) :
    ∃ after, manager.allocate (generous elements bound) n memory =
        .ok (edge elements bound memory, manager.granted elements n) after ∧
      Widened elements bound
        (manager.firstRequest elements n * elements.size % elements.sizeRange) memory after := by
  rw [AllocationManager.granted_heap n heap]
  exact ⟨_, AllocationManager.allocate_of_granted heap (generous_heap ahead _),
    .accept ahead (Nat.mod_lt _ elements.sizeRange_pos)⟩

variable (elements bound) in
def Marches (before after : Memory α) : Prop :=
  Ahead elements bound before → Steady elements bound before after

variable (elements bound) in
theorem steady_framed {α : Type} :
    Framed (generous elements bound : Environment α) (fun manager => manager.allocator = .heap)
      (Marches elements bound) where
  storage := fun same ahead => .of_same ahead same
  trans := fun _ _ _ first second ahead => (first ahead).trans (second (first ahead).ahead)
  allocate := by
    intro manager heap n memory ahead
    obtain ⟨after, ran, widened⟩ := generous_allocate heap ahead n
    rw [ran]
    exact widened.steady
  deallocate := by
    intro manager p memory ahead
    unfold AllocationManager.deallocate Allocator.deallocate
    cases manager.allocator with
    | keeper storage memorySize => exact .refl ahead
    | heap =>
        dsimp only
        split
        · exact .refl ahead
        · rw [bind_of_ok (get_apply memory)]
          cases memory.blocks p with
          | none => exact .refl ahead
          | some bytes => exact .release ahead _ p _
  fresh := by
    intro manager heap
    cases manager with
    | generic allocator | strategic allocator strategy => cases heap; rfl

end Steadiness

/-- A block for a request that wraps has less room than that. -/
theorem AllocationManager.room_lt {elements : Elements} {manager : AllocationManager} {n : Nat}
    (wraps : ¬manager.RequestFits elements n) :
    elements.room (manager.firstRequest elements n * elements.size % elements.sizeRange) < n := by
  have small := Nat.mod_lt (manager.firstRequest elements n * elements.size)
    elements.sizeRange_pos
  apply (Nat.div_lt_iff_lt_mul elements.size_pos).mpr
  by_cases strict : elements.sizeRange ≤ n * elements.size
  · exact Nat.lt_of_lt_of_le small strict
  · unfold RequestFits at wraps
    unfold firstRequest
    split at wraps
    · have twice : n * 2 * elements.size = n * elements.size + n * elements.size := by
        rw [Nat.mul_right_comm, Nat.mul_two]
      rw [Nat.mod_mul_mod, twice, Nat.mod_eq_sub_mod (by omega), Nat.mod_eq_of_lt (by omega)]
      omega
    · exact absurd (Nat.not_le.mp strict) wraps

/-- A request that is made fits, and is answered by what a manager reports then. -/
def Tells (elements : Elements) (manager : AllocationManager) (needed capacity : Nat) : Prop :=
  manager.RequestFits elements needed ∧ capacity = manager.granted elements needed

namespace Vector

section Told

variable {elements : Elements} {bound : Nat} {store after : Store α} {n : Nat}

/-- There is no place for the last element of a request that wraps. -/
theorem reserveInternal_told (ahead : Ahead elements bound store.memory)
    (heap : store.vector.m_AllocationManager.allocator = .heap)
    (short : store.vector.m_allocatedSize < n) (inRange : n ≤ elements.sizeRange)
    (ran : reserveInternal (generous elements bound) n false store = .ok () after) :
    after.vector.m_allocatedSize = store.vector.m_AllocationManager.granted elements n ∧
      (¬store.vector.m_AllocationManager.RequestFits elements n →
        (after.memory.slots (after.vector.m_p + (n - 1))).mapped = false ∧
          after.vector.m_p + (n - 1) < edge elements bound after.memory) := by
  obtain ⟨enough, _⟩ | ⟨_, p, k, given, allocated, _, relocated, isVector⟩ :=
    reserveInternal_eq_ok ran
  · omega
  obtain ⟨_, answered, widened⟩ := generous_allocate heap ahead n
  cases answered.symm.trans allocated
  rw [isVector]
  refine ⟨rfl, fun wraps => ?_⟩
  have room := AllocationManager.room_lt wraps
  have moved := (steady_framed elements bound).relocate (edge elements bound store.memory)
    (store.vector.m_AllocationManager.granted elements n) ⟨given, store.vector⟩
  rw [relocated] at moved
  have steady := moved.memory widened.steady.ahead
  have last : edge elements bound store.memory + (n - 1) < edge elements bound given := by
    rw [widened.wider]
    omega
  exact ⟨steady.unmapped _ last (widened.unmapped _ (by omega)),
    Nat.lt_of_lt_of_le last steady.forward⟩

theorem addSpaceIfNeed_told (ahead : Ahead elements bound store.memory)
    (heap : store.vector.m_AllocationManager.allocator = .heap)
    (small : store.vector.m_dataSize < elements.sizeRange) (fewer : n < elements.sizeRange)
    (some : n ≠ 0) (ran : addSpaceIfNeed (generous elements bound) n store = .ok () after)
    (filled : Mapped after.memory.slots (after.vector.m_p + after.vector.m_dataSize) n) :
    store.vector.m_dataSize + n < elements.sizeRange ∧
      after.vector.m_dataSize = store.vector.m_dataSize ∧
      Regrown (Tells elements store.vector.m_AllocationManager (store.vector.m_dataSize + n))
        (store.vector.m_dataSize + n) store.vector.m_allocatedSize
        after.vector.m_allocatedSize := by
  obtain ⟨more, reserved⟩ := addSpaceIfNeed_eq_ok ran
  have inRange : store.vector.m_dataSize + n < elements.sizeRange :=
    sum_inRange small fewer more
  have reserved : reserveInternal (generous elements bound) (store.vector.m_dataSize + n) false
      store = .ok () after := by
    rw [← reserved, show (generous elements bound : Environment α).elements = elements from rfl,
      Nat.mod_eq_of_lt inRange]
  obtain ⟨size, _, _⟩ := reserveInternal_grown (Accounting.nothing _) reserved
  refine ⟨inRange, size, ?_, ?_⟩
  · intro short
    obtain ⟨isGranted, astray⟩ := reserveInternal_told ahead heap short (by omega) reserved
    refine ⟨?_, isGranted⟩
    by_contra wraps
    have mapped := filled (n - 1) (by omega)
    rw [size, Nat.add_assoc, show store.vector.m_dataSize + (n - 1) =
      store.vector.m_dataSize + n - 1 by omega, (astray wraps).1] at mapped
    cases mapped
  · intro enough
    obtain ⟨_, same⟩ | ⟨short, _⟩ := reserveInternal_eq_ok reserved
    · rw [same]
    · omega

theorem append_told (ahead : Ahead elements bound store.memory)
    (heap : store.vector.m_AllocationManager.allocator = .heap)
    (small : store.vector.m_dataSize < elements.sizeRange) (fewer : n < elements.sizeRange)
    (some : n ≠ 0) {fill : Vector → MProc α Unit}
    (fills : ∀ {vector memory last}, fill vector memory = .ok () last →
      Mapped memory.slots (vector.m_p + vector.m_dataSize) n)
    (ran : append (generous elements bound) n fill store = .ok () after) :
    store.vector.m_dataSize + n < elements.sizeRange ∧
      Extended (Tells elements store.vector.m_AllocationManager) n store.vector
        after.vector := by
  obtain ⟨middle, ranSpace, ranFill, isVector⟩ := append_eq_ok ran
  obtain ⟨inRange, size, regrown⟩ :=
    addSpaceIfNeed_told ahead heap small fewer some ranSpace (fills ranFill)
  rw [isVector]
  exact ⟨inRange, by rw [size], regrown⟩

end Told

section Pairs

variable {elements : Elements} {bound : Nat} {pair after : Pair α}

structure Running (elements : Elements) (bound : Nat) (pair : Pair α) : Prop where
  ahead : Ahead elements bound pair.memory
  heap : pair.vector.m_AllocationManager.allocator = .heap
  heapOther : pair.other.m_AllocationManager.allocator = .heap
  capacity : pair.vector.m_allocatedSize < elements.sizeRange
  sizeOther : pair.other.m_dataSize < elements.sizeRange

theorem Running.next (running : Running elements bound pair)
    (moved : pair.Framed (Marches elements bound) after)
    (capacity : after.vector.m_allocatedSize < elements.sizeRange)
    (sizeOther : after.other.m_dataSize < elements.sizeRange) : Running elements bound after where
  ahead := (moved.memory running.ahead).ahead
  heap := by
    rw [moved.manager]
    exact running.heap
  heapOther := by
    rw [moved.other]
    exact running.heapOther
  capacity := capacity
  sizeOther := sizeOther

theorem Running.resized (running : Running elements bound pair) (n : Nat) :
    Running elements bound { pair with vector := { pair.vector with m_dataSize := n } } :=
  ⟨running.ahead, running.heap, running.heapOther, running.capacity, running.sizeOther⟩

theorem displaceOne_told {p : Nat} (running : Running elements bound pair)
    (ran : (Pair.onOther (pushBackMove (generous elements bound) p) >>= fun _ =>
      Pair.onMemory (destroy (generous elements bound) p)) pair = .ok () after) :
    Running elements bound after ∧ after.vector = pair.vector ∧
      after.other.m_AllocationManager = pair.other.m_AllocationManager ∧
      Extended (Tells elements pair.other.m_AllocationManager) 1 pair.other after.other := by
  have moved := (steady_framed elements bound).displaceOne running.heapOther p
  rw [ran] at moved
  obtain ⟨memory, ranPush, same, _⟩ := displaceOne_eq_ok ran
  obtain ⟨inRange, extended⟩ := append_told running.ahead running.heapOther running.sizeOther
    elements.one_lt_sizeRange Nat.one_ne_zero transferToRawNoOverlap_mapped ranPush
  refine ⟨running.next moved ?_ ?_, same, moved.other, extended⟩
  · rw [same]
    exact running.capacity
  · rw [extended.size]
    exact inRange

theorem displaceEach_told {i n : Nat} (running : Running elements bound pair)
    (ran : displaceEach (generous elements bound) i n pair = .ok () after) :
    Running elements bound after ∧ after.vector = pair.vector ∧
      after.other.m_dataSize = pair.other.m_dataSize + n ∧
      Met (pair.other.m_AllocationManager.granted elements)
        (pair.other.m_AllocationManager.RequestFits elements) n pair.other.m_dataSize
        pair.other.m_allocatedSize after.other.m_allocatedSize := by
  induction n generalizing i pair with
  | zero =>
      cases ran
      exact ⟨running, rfl, rfl, .nothing⟩
  | succ n hypothesis =>
      unfold displaceEach at ran
      rw [bind_of_ok (get_apply pair), ← bind_assoc] at ran
      obtain ⟨_, middle, ranOne, ranRest⟩ := bind_eq_ok ran
      obtain ⟨runningNext, same, manager, extended⟩ := displaceOne_told running ranOne
      obtain ⟨runningLast, sameLast, sizeLast, met⟩ := hypothesis runningNext ranRest
      rw [manager, extended.size] at met
      refine ⟨runningLast, sameLast.trans same, ?_, met.step extended.regrown⟩
      rw [sizeLast, extended.size]
      omega

structure Consumed (elements : Elements) (bound current : Nat) (pair after : Pair α) :
    Prop where
  running : Running elements bound after
  moved : pair.Framed (Marches elements bound) after
  capacity : after.vector.m_allocatedSize = pair.vector.m_allocatedSize
  size : after.vector.m_dataSize = max pair.vector.m_dataSize (current + 1)
  taken : current < pair.vector.m_dataSize →
    Extended (Tells elements pair.other.m_AllocationManager) 1 pair.other after.other
  same : pair.vector.m_dataSize ≤ current → after.other = pair.other

theorem consume_told {p src current : Nat} (running : Running elements bound pair)
    (ran : (displace (generous elements bound) p current >>= fun _ =>
      Pair.onMemory (copyToRawNoOverlap (generous elements bound) p src 1)) pair =
        .ok () after) : Consumed elements bound current pair after := by
  have moved := (steady_framed elements bound).consume running.heapOther p src current
  rw [ran] at moved
  obtain ⟨middle, ranDisplace, other, _, vector, _⟩ := consume_eq_ok ran
  obtain ⟨displaced, skipped⟩ := displace_eq_ok ranDisplace
  obtain before | past := Nat.lt_or_ge current pair.vector.m_dataSize
  · obtain ⟨runningNext, same, _, extended⟩ := displaceOne_told running (displaced before)
    rw [← other] at extended
    rw [← vector] at same
    refine ⟨running.next moved ?_ ?_, moved, ?_, ?_, fun _ => extended, fun past => ?_⟩
    · rw [same]
      exact running.capacity
    · rw [other]
      exact runningNext.sizeOther
    · rw [same]
    · rw [same]
      omega
    · omega
  · have isMiddle := skipped past
    rw [isMiddle] at vector other
    refine ⟨running.next moved ?_ ?_, moved, ?_, ?_, fun before => ?_, fun _ => other⟩
    · rw [vector]
      exact running.capacity
    · rw [other]
      exact running.sizeOther
    · rw [vector]
    · rw [vector]
      show current + 1 = _
      omega
    · omega

/-- There is no place for the next element. -/
def Astray (elements : Elements) (bound current : Nat) (pair : Pair α) : Prop :=
  pair.vector.m_allocatedSize ≤ current ∨
    (pair.memory.slots (pair.vector.m_p + current)).mapped = false ∧
      pair.vector.m_p + current < edge elements bound pair.memory

theorem space_told {current : Nat} (running : Running elements bound pair)
    (inRange : current < elements.sizeRange) (full : pair.vector.m_allocatedSize ≤ current)
    (ran : Pair.onThis (reserveInternal (generous elements bound)
      ((current + 1) % elements.sizeRange) false) pair = .ok () after) :
    Running elements bound after ∧
      after.vector.m_AllocationManager = pair.vector.m_AllocationManager ∧
      after.vector.m_dataSize = pair.vector.m_dataSize ∧ after.other = pair.other ∧
      (pair.vector.m_AllocationManager.RequestFits elements (current + 1) →
        after.vector.m_allocatedSize =
          pair.vector.m_AllocationManager.granted elements (current + 1)) ∧
      (¬pair.vector.m_AllocationManager.RequestFits elements (current + 1) →
        Astray elements bound current after) := by
  obtain ⟨grown, ranGrown, isAfter⟩ := onPart_eq_ok ran
  obtain ⟨size, manager, _⟩ := reserveInternal_grown (Accounting.nothing _) ranGrown
  have moved := Framed.onThis ((steady_framed elements bound).reserveInternal
    (show (Store.mk pair.memory pair.vector).vector.m_AllocationManager.allocator = _ from
      running.heap) ((current + 1) % elements.sizeRange))
  rw [ran] at moved
  obtain inside | last := Nat.lt_or_eq_of_le (Nat.succ_le_of_lt inRange)
  · rw [Nat.mod_eq_of_lt inside] at ranGrown
    obtain ⟨isGranted, astray⟩ := reserveInternal_told running.ahead running.heap
      (Nat.lt_succ_of_le full) (Nat.le_of_lt inside) ranGrown
    rw [isAfter] at moved ⊢
    refine ⟨running.next moved ?_ running.sizeOther, manager, size, rfl,
      fun _ => isGranted, fun wraps => .inr (astray wraps)⟩
    rw [show grown.vector.m_allocatedSize = _ from isGranted]
    exact AllocationManager.granted_lt running.heap inside
  · rw [show current + 1 = elements.sizeRange from last, Nat.mod_self] at ranGrown
    obtain ⟨_, same⟩ | ⟨short, _⟩ := reserveInternal_eq_ok ranGrown
    · rw [same] at isAfter
      rw [isAfter]
      refine ⟨running, rfl, rfl, rfl, fun fits => ?_, fun _ => .inl full⟩
      exact absurd fits.inRange (Nat.not_lt.mpr (Nat.le_of_eq last.symm))
    · exact absurd short (Nat.not_lt_zero _)

/-- No element is consumed where the request for its place has wrapped. -/
theorem insertElements_doomed {fuel src current last : Nat} {rest : List Nat}
    (running : Running elements bound pair) (inRange : current < elements.sizeRange)
    (wraps : ¬pair.vector.m_AllocationManager.RequestFits elements (current + 1))
    (astray : Astray elements bound current pair) :
    insertElements (generous elements bound) fuel (src :: rest) current pair ≠ .ok last after := by
  intro ran
  induction fuel generalizing pair with
  | zero => cases ran
  | succ fuel hypothesis =>
      unfold insertElements at ran
      rw [bind_of_ok (get_apply pair)] at ran
      obtain room | full := Nat.lt_or_ge current pair.vector.m_allocatedSize
      · rw [if_pos room, ← bind_assoc] at ran
        obtain ⟨_, middle, ranConsume, _⟩ := bind_eq_ok ran
        obtain ⟨between, ranDisplace, _, _, _, mapped⟩ := consume_eq_ok ranConsume
        have moved := (steady_framed elements bound).displace running.heapOther
          (pair.vector.m_p + current) current
        rw [ranDisplace] at moved
        obtain ⟨unmapped, inside⟩ := astray.resolve_left (Nat.not_le.mpr room)
        have still : (between.memory.slots (pair.vector.m_p + current)).mapped = false :=
          (moved.memory running.ahead).unmapped _ inside unmapped
        have here := mapped 0 Nat.one_pos
        rw [Nat.add_zero, still] at here
        cases here
      · rw [if_neg (Nat.not_lt.mpr full)] at ran
        obtain ⟨_, middle, ranSpace, ran⟩ := bind_eq_ok ran
        obtain ⟨runningNext, manager, _, _, _, astrayNext⟩ :=
          space_told running inRange full ranSpace
        rw [← manager] at wraps astrayNext
        exact hypothesis runningNext wraps (astrayNext wraps) ran

structure Looped (elements : Elements) (old n current : Nat) (pair after : Pair α) : Prop where
  manager : after.vector.m_AllocationManager = pair.vector.m_AllocationManager
  managerOther : after.other.m_AllocationManager = pair.other.m_AllocationManager
  size : after.vector.m_dataSize = max old (current + n)
  taken : after.other.m_dataSize = pair.other.m_dataSize + min n (old - current)
  this : Met (pair.vector.m_AllocationManager.granted elements)
    (pair.vector.m_AllocationManager.RequestFits elements) n current
    pair.vector.m_allocatedSize after.vector.m_allocatedSize
  that : Met (pair.other.m_AllocationManager.granted elements)
    (pair.other.m_AllocationManager.RequestFits elements) (min n (old - current))
    pair.other.m_dataSize pair.other.m_allocatedSize after.other.m_allocatedSize

theorem Looped.nothing {old current : Nat} (size : pair.vector.m_dataSize = max old current) :
    Looped elements old 0 current pair pair where
  manager := rfl
  managerOther := rfl
  size := size
  taken := by rw [Nat.zero_min]; rfl
  this := .nothing
  that := by
    rw [Nat.zero_min]
    exact .nothing

theorem Looped.consume {old n current : Nat} {middle : Pair α}
    (size : pair.vector.m_dataSize = max old current)
    (room : current < pair.vector.m_allocatedSize)
    (consumed : Consumed elements bound current pair middle)
    (looped : Looped elements old n (current + 1) middle after) :
    Looped elements old (n + 1) current pair after := by
  obtain ⟨manager, managerOther, sizeLast, taken, this, that⟩ := looped
  rw [consumed.moved.manager, consumed.capacity] at this
  rw [consumed.moved.other] at that
  refine ⟨manager.trans consumed.moved.manager, managerOther.trans consumed.moved.other, ?_, ?_,
    this.room room, ?_⟩
  · rw [sizeLast, Nat.add_right_comm, Nat.add_assoc]
  · obtain before | past := Nat.lt_or_ge current old
    · rw [taken, (consumed.taken (by omega)).size]
      omega
    · rw [taken, consumed.same (by omega)]
      omega
  · obtain before | past := Nat.lt_or_ge current old
    · have extended := consumed.taken (by omega)
      rw [extended.size] at that
      rw [show min (n + 1) (old - current) = min n (old - (current + 1)) + 1 by omega]
      exact that.step extended.regrown
    · rw [consumed.same (by omega)] at that
      rw [show min (n + 1) (old - current) = min n (old - (current + 1)) by omega]
      exact that

theorem insertElements_told {fuel old current last : Nat} {sources : List Nat}
    (running : Running elements bound pair) (inRange : current < elements.sizeRange)
    (size : pair.vector.m_dataSize = max old current)
    (ran : insertElements (generous elements bound) fuel sources current pair =
      .ok last after) :
    last = current + sources.length ∧ last < elements.sizeRange ∧
      Running elements bound after ∧ Looped elements old sources.length current pair after := by
  induction fuel generalizing sources current pair with
  | zero =>
      cases sources with
      | nil =>
          cases ran
          exact ⟨rfl, inRange, running, .nothing size⟩
      | cons src rest => cases ran
  | succ fuel hypothesis =>
      cases sources with
      | nil =>
          cases ran
          exact ⟨rfl, inRange, running, .nothing size⟩
      | cons src rest =>
          have whole := ran
          unfold insertElements at ran
          rw [bind_of_ok (get_apply pair)] at ran
          obtain room | full := Nat.lt_or_ge current pair.vector.m_allocatedSize
          · rw [if_pos room, ← bind_assoc] at ran
            obtain ⟨_, middle, ranConsume, ranRest⟩ := bind_eq_ok ran
            have consumed := consume_told running ranConsume
            have capacity := running.capacity
            obtain ⟨isLast, inRangeLast, runningLast, looped⟩ := hypothesis consumed.running
              (by omega) (by rw [consumed.size]; omega) ranRest
            refine ⟨?_, inRangeLast, runningLast, .consume size room consumed looped⟩
            rw [isLast, List.length_cons]
            omega
          · rw [if_neg (Nat.not_lt.mpr full)] at ran
            obtain ⟨_, middle, ranSpace, ranRest⟩ := bind_eq_ok ran
            obtain ⟨runningNext, manager, sameSize, other, isGranted, _⟩ :=
              space_told running inRange full ranSpace
            have fits : pair.vector.m_AllocationManager.RequestFits elements (current + 1) := by
              by_contra wraps
              exact insertElements_doomed running inRange wraps (.inl full) whole
            obtain ⟨isLast, inRangeLast, runningLast, looped⟩ := hypothesis runningNext inRange
              (sameSize.trans size) ranRest
            obtain ⟨managerLast, managerOther, sizeLast, taken, this, that⟩ := looped
            rw [manager, isGranted fits] at this
            rw [other] at managerOther taken that
            exact ⟨isLast, inRangeLast, runningLast, managerLast.trans manager, managerOther,
              sizeLast, taken,
              this.grown full fits (AllocationManager.RequestFits.le_granted running.heap fits),
              that⟩

/-- What the cursor has not reached is displaced one by one, or all at once. -/
theorem displaceTail_told {current n : Nat} (running : Running elements bound pair)
    (fewer : n < elements.sizeRange) (some : n ≠ 0)
    (ran : displaceTail (generous elements bound) current n pair = .ok () after) :
    Running elements bound after ∧ after.vector = pair.vector ∧
      after.other.m_dataSize = pair.other.m_dataSize + n ∧
      (elements.constructorAllocator = true →
        Met (pair.other.m_AllocationManager.granted elements)
          (pair.other.m_AllocationManager.RequestFits elements) n pair.other.m_dataSize
          pair.other.m_allocatedSize after.other.m_allocatedSize) ∧
      (elements.constructorAllocator = false →
        pair.other.m_allocatedSize < pair.other.m_dataSize + n →
          pair.other.m_AllocationManager.RequestFits elements (pair.other.m_dataSize + n)) := by
  have moved := (steady_framed elements bound).displaceTail running.heapOther current n
  rw [ran] at moved
  unfold displaceTail at ran
  split at ran
  · rename_i constructors
    have constructors : elements.constructorAllocator = true := constructors
    obtain ⟨runningNext, same, size, met⟩ := displaceEach_told running ran
    refine ⟨runningNext, same, size, fun _ => met, fun raw => ?_⟩
    rw [constructors] at raw
    cases raw
  · rename_i raw
    rw [bind_of_ok (get_apply pair)] at ran
    obtain ⟨last, ranPush, isAfter⟩ := onPart_eq_ok ran
    unfold pushBackN at ranPush
    split at ranPush
    · cases ranPush
    · obtain ⟨inRange, extended⟩ := append_told running.ahead running.heapOther
        running.sizeOther fewer some transferToRawNoOverlap_mapped ranPush
      rw [isAfter] at moved ⊢
      refine ⟨running.next moved running.capacity ?_, rfl, extended.size,
        fun constructors => absurd constructors raw,
        fun _ short => (extended.regrown.asked short).1⟩
      rw [show last.vector.m_dataSize = _ from extended.size]
      exact inRange

theorem takeBack_told {current : Nat} (running : Running elements bound pair)
    (size : pair.vector.m_dataSize = current) (inRange : current < elements.sizeRange)
    (some : pair.other.m_dataSize ≠ 0)
    (short : pair.vector.m_allocatedSize < current + pair.other.m_dataSize)
    (ran : (do
      let temp := (← get).other
      Pair.onThis (addSpaceIfNeed (generous elements bound) temp.m_dataSize)
      let vector := (← get).vector
      Pair.onMemory (moveToRawNoOverlap (generous elements bound) (vector.m_p + current)
        temp.m_p temp.m_dataSize)
      Pair.onThis (setDataSize (current + temp.m_dataSize)) : Proc (Pair α) Unit) pair =
        .ok () after) :
    pair.vector.m_AllocationManager.RequestFits elements
      (current + pair.other.m_dataSize) := by
  rw [bind_of_ok (get_apply pair)] at ran
  obtain ⟨_, middle, ranSpace, ran⟩ := bind_eq_ok ran
  rw [bind_of_ok (get_apply middle)] at ran
  obtain ⟨_, filled, ranFill, _⟩ := bind_eq_ok ran
  obtain ⟨grown, ranGrown, isMiddle⟩ := onPart_eq_ok ranSpace
  obtain ⟨_, ranMove, _⟩ := onPart_eq_ok ranFill
  rw [isMiddle] at ranMove
  have mapped := transferToRawNoOverlap_mapped ranMove
  have same : grown.vector.m_dataSize = pair.vector.m_dataSize :=
    (reserveInternal_grown (Accounting.nothing _) (addSpaceIfNeed_eq_ok ranGrown).2).1
  rw [← size, ← same] at mapped
  obtain ⟨_, _, regrown⟩ := addSpaceIfNeed_told running.ahead running.heap
    (show (Store.mk pair.memory pair.vector).vector.m_dataSize < _ by
      rw [← size] at inRange
      exact inRange) running.sizeOther some ranGrown mapped
  rw [← size] at short ⊢
  exact (regrown.asked short).1

end Pairs

end Vector

end CommonSerialization.Containers
