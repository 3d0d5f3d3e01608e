import CommonSerialization.Containers.PositionsKept

namespace CommonSerialization.Containers

open StateExcept Storage

/-! The insertion of a range, which works with a vector of its own on the way. -/

def Pair.this (pair : Pair α) : Store α := ⟨pair.memory, pair.vector⟩

def Pair.that (pair : Pair α) : Store α := ⟨pair.memory, pair.other⟩

section Beside

variable {elements : Elements} {memory : Memory α} {vector other : Vector} {after : Store α}

theorem Standing.beside (standing : Standing elements ⟨memory, vector⟩)
    (changed : Kept elements ⟨memory, other⟩ after) (free : ¬other.Owns vector.m_p)
    (kind : vector.m_AllocationManager.allocator ≠ .heap →
      other.m_AllocationManager.allocator ≠ .heap) :
    Standing elements ⟨after.memory, vector⟩ where
  sound := changed.standing.sound
  fits := by
    refine ⟨standing.fits.size, ?_⟩
    obtain none | ⟨nonnull, bytes, held, room⟩ := standing.fits.block
    · exact .inl none
    · exact .inr ⟨nonnull, bytes, changed.others held free, room⟩
  provided := by
    apply standing.provided.stays rfl
    intro keeper q bytes held
    apply changed.others held
    intro owns
    exact kind keeper owns.1
  small := standing.small

theorem notInOwn_beside (standing : Standing elements ⟨memory, vector⟩)
    (changed : Kept elements ⟨memory, other⟩ after) (free : ¬other.Owns vector.m_p)
    {address : Nat} (outside : ¬Store.inOwn elements ⟨memory, vector⟩ address) :
    ¬Store.inOwn elements ⟨after.memory, vector⟩ address := by
  intro inside
  obtain ⟨owns, bytes, held, within⟩ := inside
  obtain ⟨null, _⟩ | ⟨_, others, before, _⟩ := standing.fits.block
  · exact owns.2.2 null
  · have stays := changed.others before free
    dsimp only at held
    rw [stays] at held
    cases held
    exact outside ⟨owns, _, before, within⟩

end Beside

/-- The vector is kept, and the local one has a block of its own, if it has any.  Over a
keeper it stays empty. -/
structure PairKept (elements : Elements) (store : Store α) (pair : Pair α) : Prop where
  this : Kept elements store pair.this
  that : Standing elements pair.that
  manager : pair.vector.m_AllocationManager = store.vector.m_AllocationManager
  fresh : pair.other.m_AllocationManager = store.vector.m_AllocationManager.fresh
  apart : ∀ {q}, pair.other.Owns q → q ≠ pair.vector.m_p
  taken : ∀ {q}, pair.other.Owns q →
    store.memory.blocks q = none ∨ store.vector.Owns q
  clear : ∀ {address}, (store.memory.slots address).mapped →
    ¬store.inOwn elements address → ¬pair.that.inOwn elements address
  idle : store.vector.m_AllocationManager.allocator ≠ .heap →
    pair.other = Vector.empty store.vector.m_AllocationManager.fresh

section Pairs

variable {elements : Elements} {store : Store α} {pair : Pair α}

theorem fresh_allocator (manager : AllocationManager) :
    manager.fresh.allocator =
      match manager.allocator with
      | .heap => .heap
      | .keeper _ _ => .keeper 0 0 := by
  cases manager with
  | generic allocator => cases allocator <;> rfl
  | strategic allocator strategy => cases allocator <;> rfl

theorem fresh_heap (manager : AllocationManager) :
    manager.fresh.allocator = .heap ↔ manager.allocator = .heap := by
  rw [fresh_allocator]
  cases manager.allocator with
  | heap => exact ⟨fun _ => rfl, fun _ => rfl⟩
  | keeper storage memorySize =>
      constructor
      · intro impossible
        cases impossible
      · intro impossible
        cases impossible

namespace PairKept

theorem kind (kept : PairKept elements store pair) :
    pair.other.m_AllocationManager.allocator = .heap ↔
      pair.vector.m_AllocationManager.allocator = .heap := by
  rw [kept.fresh, kept.manager, fresh_heap]

theorem start (standing : Standing elements store) :
    PairKept elements store
      ⟨store.memory, store.vector, Vector.empty store.vector.m_AllocationManager.fresh⟩ where
  this := Kept.refl standing
  that := by
    refine ⟨standing.sound, ⟨Nat.le_refl 0, .inl ⟨rfl, rfl⟩⟩, ?_, ?_⟩
    · show Provided elements store.memory store.vector.m_AllocationManager.fresh
      have provided := standing.provided
      unfold Provided at provided ⊢
      rw [fresh_allocator]
      cases allocator : store.vector.m_AllocationManager.allocator with
      | heap => trivial
      | keeper storage memorySize =>
          simp only [allocator] at provided
          exact ⟨provided.1, .inl rfl⟩
    · show 0 * elements.size < elements.sizeRange
      rw [Nat.zero_mul]
      exact elements.sizeRange_pos
  manager := rfl
  fresh := rfl
  apart := fun owns => absurd owns.2.1 owns.2.2
  taken := fun owns => absurd owns.2.1 owns.2.2
  clear := fun _ _ inside => inside.1.2.2 rfl
  idle := fun _ => rfl

theorem thisFree (kept : PairKept elements store pair) : ¬pair.vector.Owns pair.other.m_p := by
  intro owns
  exact kept.apart ⟨kept.kind.mpr owns.1, rfl, owns.2.2⟩ owns.2.1

theorem thatFree (kept : PairKept elements store pair) : ¬pair.other.Owns pair.vector.m_p :=
  fun owns => kept.apart owns rfl

theorem onThis (kept : PairKept elements store pair) {after : Store α}
    (changed : Kept elements pair.this after)
    (manager : after.vector.m_AllocationManager = pair.vector.m_AllocationManager) :
    PairKept elements store ⟨after.memory, after.vector, pair.other⟩ where
  this := kept.this.trans changed
  that := kept.that.beside changed kept.thisFree fun other => by
    rwa [Ne, ← kept.kind]
  manager := manager.trans kept.manager
  fresh := kept.fresh
  apart := by
    intro q owns same
    have owned : after.vector.Owns q := by
      refine ⟨?_, same, owns.2.2⟩
      rw [manager]
      exact kept.kind.mp owns.1
    obtain before | none := changed.place owned
    · exact kept.apart owns before.2.1
    · have block := kept.that.fits.block
      obtain ⟨null, _⟩ | ⟨_, bytes, held, _⟩ := block
      · exact owns.2.2 (owns.2.1.trans null)
      · rw [owns.2.1] at none
        rw [show pair.that.memory.blocks pair.that.vector.m_p = _ from none] at held
        cases held
  taken := kept.taken
  clear := fun mapped outside =>
    notInOwn_beside kept.that changed kept.thisFree (kept.clear mapped outside)
  idle := kept.idle

theorem onThat (kept : PairKept elements store pair) {after : Store α}
    (changed : Kept elements pair.that after)
    (manager : after.vector.m_AllocationManager = pair.other.m_AllocationManager)
    (idle : store.vector.m_AllocationManager.allocator ≠ .heap →
      after.vector = pair.other) :
    PairKept elements store ⟨after.memory, pair.vector, after.vector⟩ where
  this := by
    refine ⟨kept.this.standing.beside changed kept.thatFree fun other => by
        rwa [Ne, kept.kind], kept.this.allocator, ?_, kept.this.place, ?_,
      Nat.le_trans kept.this.constructions changed.constructions⟩
    · intro q bytes held free
      apply changed.others (kept.this.others held free)
      intro owns
      obtain none | owned := kept.taken owns
      · rw [held] at none
        cases none
      · exact free owned
    · intro address mapped outside
      obtain ⟨stored, notOwn⟩ := kept.this.elsewhere mapped outside
      exact ⟨(changed.elsewhere stored (kept.clear mapped outside)).1,
        notInOwn_beside kept.this.standing changed kept.thatFree notOwn⟩
  that := changed.standing
  manager := kept.manager
  fresh := manager.trans kept.fresh
  apart := by
    intro q owns same
    obtain before | none := changed.place owns
    · exact kept.apart before same
    · have block := kept.this.standing.fits.block
      obtain ⟨null, _⟩ | ⟨_, bytes, held, _⟩ := block
      · exact owns.2.2 (same.trans null)
      · rw [same] at none
        rw [show pair.this.memory.blocks pair.this.vector.m_p = _ from none] at held
        cases held
  taken := by
    intro q owns
    obtain before | none := changed.place owns
    · exact kept.taken before
    · cases held : store.memory.blocks q with
      | none => exact .inl rfl
      | some bytes =>
          right
          by_contra free
          have stays := kept.this.others held free
          rw [show pair.this.memory.blocks q = _ from none] at stays
          cases stays
  clear := by
    intro address mapped outside
    have stored := (kept.this.elsewhere mapped outside).1
    exact (changed.elsewhere stored (kept.clear mapped outside)).2
  idle := fun other => (idle other).trans (kept.idle other)

theorem sameStorage (kept : PairKept elements store pair) {memory : Memory α}
    (same : SameStorage pair.memory memory) :
    PairKept elements store ⟨memory, pair.vector, pair.other⟩ := by
  have first : Kept elements pair.this ⟨memory, pair.vector⟩ :=
    Kept.sameStorage kept.this.standing same kept.this.standing.fits.size
  exact kept.onThis first rfl

/-- The local vector is not empty, so its manager allocates. -/
theorem heap (kept : PairKept elements store pair)
    (some : pair.other.m_dataSize ≠ 0) :
    store.vector.m_AllocationManager.allocator = .heap := by
  by_contra other
  rw [kept.idle other] at some
  exact some rfl

theorem blocks (kept : PairKept elements store pair)
    (heap : store.vector.m_AllocationManager.allocator = .heap)
    {offset otherOffset count otherCount : Nat}
    (inside : offset + count ≤ pair.vector.m_allocatedSize)
    (otherInside : otherOffset + otherCount ≤ pair.other.m_allocatedSize) :
    areRegionsOverlap (pair.vector.m_p + offset) (pair.other.m_p + otherOffset)
      (min count otherCount) = false := by
  apply overlap_of_apart
  intro address within otherWithin
  have standing := kept.this.standing
  have standingThat := kept.that
  obtain ⟨_, none⟩ | ⟨_, roomy⟩ := standing.fits.block
  · have capacity : pair.vector.m_allocatedSize = 0 := none
    unfold Within at within
    omega
  · obtain ⟨_, none⟩ | ⟨nonnull, otherRoomy⟩ := standingThat.fits.block
    · have capacity : pair.other.m_allocatedSize = 0 := none
      unfold Within at otherWithin
      omega
    · have owns : pair.other.Owns pair.other.m_p :=
        ⟨kept.kind.mpr (by rw [kept.manager]; exact heap), rfl, nonnull⟩
      have apart := roomy.apart otherRoomy standing.sound (kept.apart owns).symm
      apply apart address
      · show Within pair.vector.m_p pair.vector.m_allocatedSize address
        unfold Within at within ⊢
        omega
      · show Within pair.other.m_p pair.other.m_allocatedSize address
        unfold Within at otherWithin ⊢
        omega

end PairKept

end Pairs

theorem AllocationManager.RequestFits.mono {elements : Elements}
    {manager : AllocationManager} {n m : Nat} (fits : manager.RequestFits elements m)
    (less : n ≤ m) : manager.RequestFits elements n := by
  unfold RequestFits at fits ⊢
  split at fits
  · exact Nat.lt_of_le_of_lt
      (Nat.mul_le_mul_right _ (Nat.mul_le_mul_right 2 less)) fits
  · exact Nat.lt_of_le_of_lt (Nat.mul_le_mul_right _ less) fits

def Unrefused (environment : Environment α) (memory : Memory α) : Prop :=
  environment.elements.constructorAllocator = true →
    ∀ index, memory.constructions ≤ index → environment.refusal index = none

section Unrefused

variable {environment : Environment α} {before after : Memory α}

theorem Unrefused.later (unrefused : Unrefused environment before)
    (order : before.constructions ≤ after.constructions) : Unrefused environment after :=
  fun constructors index bound =>
    unrefused constructors index (Nat.le_trans order bound)

theorem Unrefused.accepted (unrefused : Unrefused environment before) (n : Nat) :
    Accepted environment before n :=
  fun constructors index _ => unrefused constructors _ (Nat.le_add_right _ index)

end Unrefused

namespace Vector

variable {environment : Environment α}

section Idle

variable {memory : Memory α} {manager : AllocationManager} {memorySize : Nat}

variable (environment memory) in
theorem allocate_nowhere (keeper : manager.allocator = .keeper 0 memorySize) (n : Nat) :
    ∃ after, manager.allocate environment n memory = .ok (0, 0) after ∧
      Untouched memory after := by
  have nowhere (k : Nat) : (Allocator.keeper 0 memorySize).allocate environment k memory =
      .ok 0 memory := by
    unfold Allocator.allocate
    dsimp only
    rw [ite_self]
    rfl
  have attempted : manager.allocateImpl environment n memory = .ok (0, 0) memory := by
    cases manager with
    | generic allocator =>
        cases keeper
        exact bind_of_ok (nowhere n)
    | strategic allocator strategy =>
        cases keeper
        have more : (AllocationManager.strategic (.keeper 0 memorySize) strategy).allocateMore
            environment strategy (n * 2 % environment.elements.sizeRange) memory =
              .ok 0 memory := by
          cases strategy with
          | strictByDataSize => rfl
          | doubleOfDataSize => exact nowhere _
        unfold AllocationManager.allocateImpl
        dsimp only
        rw [bind_of_ok more, if_neg (not_not.mpr rfl)]
        exact bind_of_ok (nowhere n)
  refine ⟨{ memory with denied := memory.denied + 1 }, ?_, ⟨rfl, rfl, rfl, rfl⟩⟩
  unfold AllocationManager.allocate
  rw [bind_of_ok attempted]
  rfl

theorem reserveInternal_denied {store : Store α} {needed n : Nat} {after : Memory α}
    (short : store.vector.m_allocatedSize < needed)
    (denied : store.vector.m_AllocationManager.allocate environment needed store.memory =
      .ok (0, n) after) :
    reserveInternal environment needed false store =
      .error (.status .errorNoMemory) ⟨after, store.vector⟩ := by
  have noBlock : newBlock environment store.vector.m_AllocationManager false needed
      store.memory = .ok (0, n) after := denied
  unfold reserveInternal
  rw [bind_of_ok (get_apply store)]
  dsimp only
  rw [if_pos short]
  exact bind_of_ok (onMemory_of_ok noBlock)

/-- An empty vector takes nothing without a block. -/
theorem pushBackMove_denied {n : Nat} {after : Memory α}
    (denied : manager.allocate environment 1 memory = .ok (0, n) after) (p : Nat) :
    pushBackMove environment p ⟨memory, empty manager⟩ =
      .error (.status .errorNoMemory) ⟨after, empty manager⟩ := by
  have noSpace : addSpaceIfNeed environment 1 ⟨memory, empty manager⟩ =
      .error (.status .errorNoMemory) ⟨after, empty manager⟩ := by
    have needed : ((empty manager).m_dataSize + 1) % environment.elements.sizeRange = 1 :=
      Nat.mod_eq_of_lt environment.elements.one_lt_sizeRange
    have nothing : (empty manager).m_allocatedSize < 1 := Nat.zero_lt_one
    unfold addSpaceIfNeed
    rw [bind_of_ok (get_apply _), needed]
    dsimp only
    rw [if_pos (show (empty manager).m_dataSize ≤ 1 from Nat.zero_le 1), if_pos nothing]
    exact reserveInternal_denied nothing denied
  unfold pushBackMove append
  rw [bind_of_error noSpace]

/-- A vector over a keeper without storage does not take anything. -/
theorem pushBackMove_nowhere (standing : Standing environment.elements
      ⟨memory, empty manager⟩)
    (keeper : manager.allocator = .keeper 0 memorySize) (p : Nat) :
    Ended (fun _ _ => False)
      (fun fault after => fault = .status .errorNoMemory ∧
        NoSpace environment.elements ⟨memory, empty manager⟩ after)
      (pushBackMove environment p ⟨memory, empty manager⟩) := by
  obtain ⟨after, denied, untouched⟩ :=
    allocate_nowhere environment memory keeper 1
  rw [pushBackMove_denied denied]
  exact ⟨rfl, noSpace_of_untouched standing untouched⟩

end Idle

section Displacement

variable {store : Store α} {pair : Pair α}

def EndsPair (elements : Elements) (store : Store α) (good : β → Pair α → Prop)
    (k : Nat) : EStateM.Result Fault (Pair α) β → Prop :=
  Ended good fun fault after => (∃ status, fault = .status status) ∧
    PairKept elements store after ∧ k ≤ after.vector.m_dataSize

/-- An element of one vector is where the other one can take it from. -/
theorem tailSource_beside (kept : PairKept environment.elements store pair)
    (heap : store.vector.m_AllocationManager.allocator = .heap) {i : Nat}
    (inside : i < pair.vector.m_allocatedSize) :
    TailSource environment pair.that (pair.vector.m_p + i) 1 := by
  have standing := kept.this.standing
  have current : (pair.memory.slots (pair.vector.m_p + i)).mapped :=
    standing.fits.mapped standing.sound i inside
  have outside : ¬pair.that.inOwn environment.elements (pair.vector.m_p + i) := by
    intro inOther
    obtain ⟨owns, bytes, held, within⟩ := inOther
    obtain ⟨_, none⟩ | ⟨_, others, block, room⟩ := standing.fits.block
    · rw [show pair.this.vector.m_allocatedSize = pair.vector.m_allocatedSize from rfl] at none
      omega
    · apply standing.sound.apart block held (kept.apart owns).symm _ ⟨?_, ?_⟩ within
      · exact Nat.le_add_right _ i
      · exact Nat.add_lt_add_left (Nat.lt_of_lt_of_le inside
          ((Nat.le_div_iff_mul_le environment.elements.size_pos).mpr room)) _
  refine ⟨?_, ?_, fun raw => ⟨?_, ?_, ?_⟩⟩
  · intro index bound
    rwa [show index = 0 by omega, Nat.add_zero]
  · intro _ index bound
    rwa [show index = 0 by omega, Nat.add_zero]
  · have small := standing.small
    have less := Nat.le_mul_of_pos_left environment.elements.size
      (show 0 < pair.vector.m_allocatedSize by omega)
    rw [Nat.one_mul]
    exact Nat.lt_of_le_of_lt less small
  · intro _
    by_cases same : pair.that.vector.m_p + pair.that.vector.m_dataSize = pair.vector.m_p + i
    · exact .inl same
    · right
      simp only [areRegionsOverlap, Bool.or_eq_false_iff, Bool.and_eq_false_iff,
        decide_eq_false_iff_not]
      omega
  · intro _ storage memorySize keeper
    have other := kept.kind.mpr (by rw [kept.manager]; exact heap)
    rw [show pair.that.vector.m_AllocationManager.allocator = _ from other] at keeper
    cases keeper

/-- Beside a vector over a keeper the local one takes nothing. -/
theorem pushBackMove_idle (kept : PairKept environment.elements store pair)
    (notHeap : store.vector.m_AllocationManager.allocator ≠ .heap) (p : Nat) :
    Ended (fun _ _ => False)
      (fun fault after => fault = .status .errorNoMemory ∧
        NoSpace environment.elements pair.that after)
      (pushBackMove environment p pair.that) := by
  have empty := kept.idle notHeap
  have keeper : store.vector.m_AllocationManager.fresh.allocator = .keeper 0 0 := by
    rw [fresh_allocator]
    cases allocator : store.vector.m_AllocationManager.allocator with
    | heap => exact absurd allocator notHeap
    | keeper storage memorySize => rfl
  have that := kept.that
  unfold Pair.that at that ⊢
  rw [empty] at that ⊢
  exact pushBackMove_nowhere that keeper p

theorem displaced_kept (kept : PairKept environment.elements store pair)
    (unrefused : Unrefused environment pair.memory)
    (inRange : 1 < environment.elements.sizeRange)
    {i k : Nat} (inside : i < pair.vector.m_allocatedSize)
    (request : pair.other.m_allocatedSize < pair.other.m_dataSize + 1 →
      pair.other.m_AllocationManager.RequestFits environment.elements
        (pair.other.m_dataSize + 1))
    (lower : k ≤ pair.vector.m_dataSize) :
    EndsPair environment.elements store
      (fun _ after => PairKept environment.elements store after ∧
        after.vector = pair.vector ∧ after.other.m_dataSize = pair.other.m_dataSize + 1 ∧
        pair.memory.constructions ≤ after.memory.constructions) k
      (Pair.onOther (pushBackMove environment (pair.vector.m_p + i)) pair) := by
  by_cases heap : store.vector.m_AllocationManager.allocator = .heap
  · have pushed := pushBackMove_kept kept.that inRange
      fun _ => ⟨fun grows => ⟨request grows, unrefused.accepted _⟩, tailSource_beside kept heap inside⟩
    have managed := (append_manager environment 1 fun vector =>
      moveToRawNoOverlap environment (vector.m_p + vector.m_dataSize)
        (pair.vector.m_p + i) 1).ended pair.that
    apply Ended.onPart (pushed.both managed)
    · intro _ after ended
      exact ⟨kept.onThat ended.1.1 ended.2 fun other => absurd heap other, rfl, ended.1.2,
        ended.1.1.constructions⟩
    · intro fault after ended
      exact ⟨ended.1.1, kept.onThat ended.1.2.1 ended.2 fun other => absurd heap other,
        lower⟩
  · apply Ended.onPart (pushBackMove_idle kept heap (pair.vector.m_p + i))
    · intro _ _ impossible
      exact impossible.elim
    · intro fault after failed
      exact ⟨⟨_, failed.1⟩, kept.onThat failed.2.kept
        (congrArg Vector.m_AllocationManager failed.2.vector) (fun _ => failed.2.vector),
        lower⟩

/-- What the insertion of a range needs: readable elements outside of the vector's block,
constructions that succeed, and requests that do not wrap. -/
structure RangeAllowed (environment : Environment α) (store : Store α) (k : Nat)
    (sources : List Nat) : Prop where
  inRange : store.vector.m_dataSize + sources.length < environment.elements.sizeRange
  readable : ∀ src ∈ sources,
    (store.memory.slots src).mapped ∧ ¬store.inOwn environment.elements src
  unrefused : Unrefused environment store.memory
  request : store.vector.m_allocatedSize < store.vector.m_dataSize + sources.length →
    store.vector.m_AllocationManager.RequestFits environment.elements
      (store.vector.m_dataSize + sources.length)
  tempRequest : sources ≠ [] → k < store.vector.m_dataSize →
    store.vector.m_AllocationManager.fresh.RequestFits environment.elements
      (store.vector.m_dataSize - k)

structure Stage (environment : Environment α) (store : Store α) (k : Nat) (pair : Pair α)
    (current : Nat) : Prop where
  kept : PairKept environment.elements store pair
  size : pair.vector.m_dataSize = max store.vector.m_dataSize current
  temp : pair.other.m_dataSize + k = min store.vector.m_dataSize current
  lower : k ≤ current
  capacity : store.vector.m_allocatedSize ≤ pair.vector.m_allocatedSize
  unrefused : Unrefused environment pair.memory

variable {k current : Nat}

theorem Stage.space (stage : Stage environment store k pair current) {needed : Nat}
    (short : pair.vector.m_allocatedSize < needed)
    (request : pair.vector.m_AllocationManager.RequestFits environment.elements needed)
    (inside : k ≤ store.vector.m_dataSize) :
    EndsPair environment.elements store
      (fun _ after => Stage environment store k after current ∧
        needed ≤ after.vector.m_allocatedSize) k
      (Pair.onThis (reserveInternal environment needed false) pair) := by
  have size := stage.size
  have allowed : GrowthAllowed environment pair.this false needed :=
    fun _ => ⟨request, stage.unrefused.accepted _⟩
  have managed := (reserveInternal_manager environment needed false).ended pair.this
  apply Ended.onPart ((reserveInternal_spacious stage.kept.this.standing false allowed).both
    managed)
  · intro _ after ended
    obtain ⟨spacious, manager⟩ := ended
    refine ⟨⟨stage.kept.onThis spacious.kept manager, spacious.size.trans size, stage.temp,
      stage.lower, ?_, stage.unrefused.later spacious.kept.constructions⟩, spacious.enough⟩
    have enough := spacious.enough
    have capacity := stage.capacity
    show store.vector.m_allocatedSize ≤ after.vector.m_allocatedSize
    omega
  · intro fault after ended
    obtain ⟨⟨noMemory, noSpace⟩, manager⟩ := ended
    refine ⟨⟨_, noMemory⟩, stage.kept.onThis noSpace.kept manager, ?_⟩
    show k ≤ after.vector.m_dataSize
    rw [noSpace.vector]
    show k ≤ pair.vector.m_dataSize
    omega

theorem Stage.advance (stage : Stage environment store k pair current)
    (room : current < pair.vector.m_allocatedSize)
    (inRange : 1 < environment.elements.sizeRange)
    (request : current < store.vector.m_dataSize →
      pair.other.m_allocatedSize < pair.other.m_dataSize + 1 →
      pair.other.m_AllocationManager.RequestFits environment.elements
        (pair.other.m_dataSize + 1)) :
    EndsPair environment.elements store
      (fun _ after => Stage environment store k after (current + 1) ∧
        after.vector.m_p = pair.vector.m_p ∧
        after.vector.m_allocatedSize = pair.vector.m_allocatedSize) k
      (displace environment (pair.vector.m_p + current) current pair) := by
  have size := stage.size
  have temp := stage.temp
  have lower := stage.lower
  unfold displace
  rw [bind_of_ok (get_apply pair)]
  by_cases before : current < pair.vector.m_dataSize
  · rw [if_pos before]
    have old : current < store.vector.m_dataSize := by omega
    apply Ended.bind (displaced_kept stage.kept stage.unrefused inRange room (request old)
      (by omega))
    intro _ middle displaced
    obtain ⟨kept, same, more, order⟩ := displaced
    have mapped : Mapped middle.memory.slots (pair.vector.m_p + current) 1 := by
      intro index bound
      rw [show index = 0 by omega, Nat.add_zero, ← same]
      apply kept.this.standing.fits.mapped kept.this.standing.sound
      show current < middle.vector.m_allocatedSize
      rw [same]
      exact room
    obtain ⟨memory, ran, storage, _⟩ := destroyFrom_done environment mapped
    have ranDestroy : destroy environment (pair.vector.m_p + current) middle.memory =
        .ok () memory := by
      obtain ⟨_, last, ranFirst, rest⟩ := bind_eq_ok ran
      cases rest
      exact ranFirst
    have whole : Pair.onMemory (destroy environment (pair.vector.m_p + current)) middle =
        .ok () ⟨memory, middle.vector, middle.other⟩ := onPart_of_ok ranDestroy
    rw [whole]
    refine ⟨⟨kept.sameStorage storage, ?_, ?_, by omega, ?_, ?_⟩, ?_, ?_⟩
    · show middle.vector.m_dataSize = max store.vector.m_dataSize (current + 1)
      rw [same]
      omega
    · show middle.other.m_dataSize + k = min store.vector.m_dataSize (current + 1)
      omega
    · show store.vector.m_allocatedSize ≤ middle.vector.m_allocatedSize
      rw [same]
      exact stage.capacity
    · exact stage.unrefused.later (Nat.le_trans order storage.constructions)
    · show middle.vector.m_p = pair.vector.m_p
      rw [same]
    · show middle.vector.m_allocatedSize = pair.vector.m_allocatedSize
      rw [same]
  · rw [if_neg before]
    have kept := Kept.sameStorage stage.kept.this.standing
      (SameStorage.refl pair.memory) (show current + 1 ≤ pair.vector.m_allocatedSize by omega)
    refine ⟨⟨stage.kept.onThis kept rfl, ?_, ?_, by omega, stage.capacity, stage.unrefused⟩,
      rfl, rfl⟩
    · show current + 1 = max store.vector.m_dataSize (current + 1)
      omega
    · show pair.other.m_dataSize + k = min store.vector.m_dataSize (current + 1)
      omega

/-- An element from outside is copied to the place that has been opened for it. -/
theorem Stage.copied {src : Nat} (stage : Stage environment store k pair (current + 1))
    (room : current < pair.vector.m_allocatedSize)
    (readable : (store.memory.slots src).mapped ∧ ¬store.inOwn environment.elements src) :
    ∃ memory,
      Pair.onMemory (copyToRawNoOverlap environment (pair.vector.m_p + current) src 1) pair =
        .ok () ⟨memory, pair.vector, pair.other⟩ ∧
      Stage environment store k ⟨memory, pair.vector, pair.other⟩ (current + 1) := by
  have kept := stage.kept
  have source : Mapped pair.memory.slots src 1 := by
    intro index inSource
    rw [show index = 0 by omega, Nat.add_zero]
    exact (kept.this.elsewhere readable.1 readable.2).1
  have place : Mapped pair.memory.slots (pair.vector.m_p + current) 1 := by
    intro index inPlace
    rw [show index = 0 by omega, Nat.add_zero]
    exact kept.this.standing.fits.mapped kept.this.standing.sound current room
  obtain ⟨memory, ran, storage, _⟩ := transferToRawNoOverlap_accepted environment .copy
    (fun _ => by
      refine ⟨?_, ?_⟩
      · have small := kept.this.standing.small
        have some : 0 < pair.vector.m_allocatedSize := by omega
        have less := Nat.le_mul_of_pos_left environment.elements.size some
        rw [Nat.one_mul]
        exact Nat.lt_of_le_of_lt less small
      · by_cases same : pair.vector.m_p + current = src
        · exact .inl same
        · right
          simp only [areRegionsOverlap, Bool.or_eq_false_iff, Bool.and_eq_false_iff,
            decide_eq_false_iff_not]
          omega)
    place source (stage.unrefused.accepted 1)
  exact ⟨memory, onPart_of_ok ran, kept.sameStorage storage, stage.size, stage.temp, stage.lower,
    stage.capacity, stage.unrefused.later storage.constructions⟩

theorem insertElements_kept {sources : List Nat} {fuel : Nat}
    (inside : k ≤ store.vector.m_dataSize) {total : Nat}
    (noWrap : total < environment.elements.sizeRange)
    (request : store.vector.m_allocatedSize < total →
      store.vector.m_AllocationManager.RequestFits environment.elements total)
    (tempRequest : sources ≠ [] → k < store.vector.m_dataSize →
      store.vector.m_AllocationManager.fresh.RequestFits environment.elements
        (store.vector.m_dataSize - k))
    (readable : ∀ src ∈ sources,
      (store.memory.slots src).mapped ∧ ¬store.inOwn environment.elements src)
    (bound : max store.vector.m_dataSize current + sources.length ≤ total)
    (stage : Stage environment store k pair current)
    (enough : 2 * sources.length ≤
      fuel + if current < pair.vector.m_allocatedSize then 1 else 0) :
    EndsPair environment.elements store
      (fun last after => Stage environment store k after last ∧
        last = current + sources.length) k
      (insertElements environment fuel sources current pair) := by
  induction fuel generalizing sources current pair with
  | zero =>
      cases sources with
      | nil => exact ⟨stage, rfl⟩
      | cons src rest =>
          rw [List.length_cons] at enough
          split at enough <;> omega
  | succ fuel hypothesis =>
      cases sources with
      | nil => exact ⟨stage, rfl⟩
      | cons src rest =>
          rw [List.length_cons] at enough bound
          unfold insertElements
          rw [bind_of_ok (get_apply pair)]
          by_cases room : current < pair.vector.m_allocatedSize
          · rw [if_pos room] at enough
            rw [if_pos room]
            have lower := stage.lower
            have temp := stage.temp
            have displaced := stage.advance room (by omega) fun old _ => by
              rw [stage.kept.fresh]
              exact (tempRequest (List.cons_ne_nil _ _) (by omega)).mono (by omega)
            apply Ended.bind displaced
            intro _ middle reached
            obtain ⟨stageNext, samePlace, sameRoom⟩ := reached
            have roomNext : current < middle.vector.m_allocatedSize := by omega
            obtain ⟨memory, ranCopy, stageCopied⟩ := stageNext.copied roomNext
              (readable src List.mem_cons_self)
            rw [samePlace] at ranCopy
            rw [bind_of_ok ranCopy]
            apply (hypothesis (fun _ => tempRequest (List.cons_ne_nil _ _))
              (fun other member => readable other (List.mem_cons_of_mem _ member))
              (by omega)
              stageCopied (by omega)).weaken
            · intro last after ended
              refine ⟨ended.1, ?_⟩
              rw [ended.2, List.length_cons]
              omega
            · intro fault after failed
              exact failed
          · rw [if_neg room] at enough
            rw [if_neg room]
            have capacity := stage.capacity
            have size := stage.kept.this.standing.fits.size
            have fits : pair.vector.m_AllocationManager.RequestFits environment.elements
                (current + 1) := by
              rw [stage.kept.manager]
              exact (request (by omega)).mono (by omega)
            rw [Nat.mod_eq_of_lt (show current + 1 < _ by omega)]
            apply Ended.bind (stage.space (by omega) fits inside)
            intro _ middle reached
            apply hypothesis tempRequest readable
            · rw [List.length_cons]
              exact bound
            · exact reached.1
            · rw [List.length_cons, if_pos (show current < middle.vector.m_allocatedSize by
                have enoughRoom := reached.2
                omega)]
              omega

end Displacement

section Tail

variable {store : Store α} {pair : Pair α} {k current n : Nat}

structure Leaving (environment : Environment α) (store : Store α) (before after : Pair α)
    (n : Nat) : Prop where
  kept : PairKept environment.elements store after
  vector : after.vector = before.vector
  temp : after.other.m_dataSize = before.other.m_dataSize + n
  unrefused : Unrefused environment after.memory

theorem displaceEach_kept (kept : PairKept environment.elements store pair)
    (unrefused : Unrefused environment pair.memory)
    (inRange : 1 < environment.elements.sizeRange) {i : Nat}
    (inside : i + n ≤ pair.vector.m_allocatedSize)
    (request : pair.other.m_AllocationManager.RequestFits environment.elements
      (pair.other.m_dataSize + n))
    (lower : k ≤ pair.vector.m_dataSize) :
    EndsPair environment.elements store (fun _ after => Leaving environment store pair after n)
      k (displaceEach environment i n pair) := by
  induction n generalizing i pair with
  | zero => exact ⟨kept, rfl, rfl, unrefused⟩
  | succ n hypothesis =>
      unfold displaceEach
      rw [bind_of_ok (get_apply pair)]
      apply Ended.bind (displaced_kept kept unrefused inRange (by omega)
        (fun _ => request.mono (by omega)) lower)
      intro _ middle displaced
      obtain ⟨keptNow, same, more, order⟩ := displaced
      have mapped : Mapped middle.memory.slots (pair.vector.m_p + i) 1 := by
        intro index bound
        rw [show index = 0 by omega, Nat.add_zero, ← same]
        apply keptNow.this.standing.fits.mapped keptNow.this.standing.sound
        show i < middle.vector.m_allocatedSize
        rw [same]
        omega
      obtain ⟨memory, ran, storage, _⟩ := destroyFrom_done environment mapped
      have ranDestroy : destroy environment (pair.vector.m_p + i) middle.memory =
          .ok () memory := by
        obtain ⟨_, last, ranFirst, rest⟩ := bind_eq_ok ran
        cases rest
        exact ranFirst
      have whole : Pair.onMemory (destroy environment (pair.vector.m_p + i)) middle =
          .ok () ⟨memory, middle.vector, middle.other⟩ := onPart_of_ok ranDestroy
      rw [bind_of_ok whole]
      have keptNext := keptNow.sameStorage storage
      have unrefusedNext := (unrefused.later order).later storage.constructions
      have managers : middle.other.m_AllocationManager = pair.other.m_AllocationManager :=
        keptNow.fresh.trans kept.fresh.symm
      apply (hypothesis keptNext unrefusedNext (by
          show i + 1 + n ≤ middle.vector.m_allocatedSize
          rw [same]
          omega) (by
          show middle.other.m_AllocationManager.RequestFits environment.elements
            (middle.other.m_dataSize + n)
          rw [managers, more, Nat.add_assoc, Nat.add_comm 1]
          exact request) (by
          show k ≤ middle.vector.m_dataSize
          rw [same]
          exact lower)).weaken
      · intro _ after leaving
        refine ⟨leaving.kept, leaving.vector.trans same, ?_, leaving.unrefused⟩
        rw [leaving.temp]
        show middle.other.m_dataSize + n = _
        omega
      · intro fault after failed
        exact failed

theorem copyTail_kept (kept : PairKept environment.elements store pair)
    (unrefused : Unrefused environment pair.memory)
    (inRange : pair.other.m_dataSize + n < environment.elements.sizeRange)
    (some : pair.other.m_dataSize ≠ 0)
    (inside : current + n ≤ pair.vector.m_allocatedSize)
    (request : pair.other.m_allocatedSize < pair.other.m_dataSize + n →
      pair.other.m_AllocationManager.RequestFits environment.elements
        (pair.other.m_dataSize + n))
    (lower : k ≤ pair.vector.m_dataSize) :
    EndsPair environment.elements store (fun _ after => Leaving environment store pair after n)
      k (Pair.onOther (pushBackN environment (pair.vector.m_p + current) n) pair) := by
  have heap := kept.heap some
  have standing := kept.this.standing
  have mapped : Mapped pair.memory.slots (pair.vector.m_p + current) n := by
    intro index bound
    rw [Nat.add_assoc]
    apply standing.fits.mapped standing.sound
    show current + index < pair.vector.m_allocatedSize
    omega
  have source : TailSource environment pair.that (pair.vector.m_p + current) n := by
    refine ⟨mapped, ?_, ?_⟩
    · intro _ index bound inOther
      obtain ⟨owns, bytes, held, within⟩ := inOther
      obtain ⟨_, none⟩ | ⟨_, others, block, room⟩ := standing.fits.block
      · have capacity : pair.vector.m_allocatedSize = 0 := none
        omega
      · apply standing.sound.apart block held (kept.apart owns).symm _ ⟨?_, ?_⟩ within
        · show pair.vector.m_p ≤ _
          omega
        · have fitsIn := (Nat.le_div_iff_mul_le environment.elements.size_pos).mpr room
          have capacity : pair.vector.m_allocatedSize ≤
              environment.elements.room others := fitsIn
          show _ < pair.vector.m_p + environment.elements.room others
          omega
    · intro _
      refine ⟨?_, ?_, ?_⟩
      · have small := standing.small
        exact Nat.lt_of_le_of_lt (Nat.mul_le_mul_right _
          (show n ≤ pair.vector.m_allocatedSize by omega)) small
      · intro enough
        right
        have room : pair.other.m_dataSize + n ≤ pair.other.m_allocatedSize := enough
        have apart := kept.blocks heap inside room
        rw [Nat.min_self] at apart
        rw [areRegionsOverlap, Bool.or_comm]
        exact apart
      · intro _ storage memorySize keeper
        have other := kept.kind.mpr (by rw [kept.manager]; exact heap)
        rw [show pair.that.vector.m_AllocationManager.allocator = _ from other] at keeper
        cases keeper
  have pushed := pushBackN_kept kept.that (show n < _ by omega)
    fun _ _ => ⟨fun grows => ⟨request grows, unrefused.accepted _⟩, source⟩
  have managed : Ended (fun _ after => after.manager = pair.that.manager)
      (fun _ after => after.manager = pair.that.manager)
      (pushBackN environment (pair.vector.m_p + current) n pair.that) := by
    apply Preserves.ended
    unfold pushBackN
    apply Preserves.ite
    · intro _
      exact Preserves.throw _
    · intro _
      exact append_manager environment n _
  apply Ended.onPart (pushed.both managed)
  · intro _ after ended
    exact ⟨kept.onThat ended.1.1 ended.2 fun other => absurd heap other, rfl, ended.1.2,
      unrefused.later ended.1.1.constructions⟩
  · intro fault after ended
    exact ⟨ended.1.1, kept.onThat ended.1.2.1 ended.2 fun other => absurd heap other,
      lower⟩

theorem displaceTail_kept (kept : PairKept environment.elements store pair)
    (unrefused : Unrefused environment pair.memory)
    (inRange : pair.other.m_dataSize + n < environment.elements.sizeRange)
    (some : pair.other.m_dataSize ≠ 0)
    (inside : current + n ≤ pair.vector.m_allocatedSize)
    (request : pair.other.m_AllocationManager.RequestFits environment.elements
      (pair.other.m_dataSize + n))
    (lower : k ≤ pair.vector.m_dataSize) :
    EndsPair environment.elements store (fun _ after => Leaving environment store pair after n)
      k (displaceTail environment current n pair) := by
  unfold displaceTail
  cases constructors : environment.elements.constructorAllocator with
  | true =>
      exact displaceEach_kept kept unrefused (by omega) inside request lower
  | false =>
      simp only [Bool.false_eq_true, if_false]
      rw [bind_of_ok (get_apply pair)]
      exact copyTail_kept kept unrefused inRange some inside (fun _ => request) lower

/-- Where the elements of the local vector go once there is space for them. -/
theorem takeBack_kept (kept : PairKept environment.elements store pair)
    (unrefused : Unrefused environment pair.memory)
    (some : pair.other.m_dataSize ≠ 0)
    (room : current + pair.other.m_dataSize ≤ pair.vector.m_allocatedSize) :
    ∃ after, ((do
        let vector := (← get).vector
        Pair.onMemory (moveToRawNoOverlap environment (vector.m_p + current) pair.other.m_p
          pair.other.m_dataSize)
        Pair.onThis (setDataSize (current + pair.other.m_dataSize)) : Proc (Pair α) Unit)
          pair) = .ok () after ∧
      PairKept environment.elements store after ∧
      after.vector.m_dataSize = current + pair.other.m_dataSize := by
  have standing := kept.this.standing
  have place : Mapped pair.memory.slots (pair.vector.m_p + current) pair.other.m_dataSize := by
    intro index bound
    rw [Nat.add_assoc]
    apply standing.fits.mapped standing.sound
    show current + index < pair.vector.m_allocatedSize
    omega
  have movable : OctetsMovable environment.elements (pair.vector.m_p + current)
      pair.other.m_p pair.other.m_dataSize := by
    refine ⟨?_, .inr ?_⟩
    · exact Nat.lt_of_le_of_lt (Nat.mul_le_mul_right _ kept.that.fits.size) kept.that.small
    · have size : 0 + pair.other.m_dataSize ≤ pair.other.m_allocatedSize := by
        rw [Nat.zero_add]
        exact kept.that.fits.size
      have apart := kept.blocks (kept.heap some) room size
      rwa [Nat.min_self, Nat.add_zero] at apart
  obtain ⟨memory, ran, storage, _⟩ := transferToRawNoOverlap_accepted environment .move
    (fun _ => movable) place kept.that.elementsMapped (unrefused.accepted _)
  have ranMove : Pair.onMemory (moveToRawNoOverlap environment (pair.vector.m_p + current)
      pair.other.m_p pair.other.m_dataSize) pair =
        .ok () ⟨memory, pair.vector, pair.other⟩ := onPart_of_ok ran
  have keptNow := kept.sameStorage storage
  have resized := Kept.sameStorage keptNow.this.standing (SameStorage.refl memory) room
  rw [bind_of_ok (get_apply pair), bind_of_ok ranMove]
  exact ⟨_, rfl, keptNow.onThis resized rfl, rfl⟩

/-- What the cursor has not reached is displaced, too. -/
theorem displaceRest_kept (stage : Stage environment store k pair current)
    (some : pair.other.m_dataSize ≠ 0)
    (inRange : store.vector.m_dataSize - k < environment.elements.sizeRange)
    (tempRequest : k < store.vector.m_dataSize →
      store.vector.m_AllocationManager.fresh.RequestFits environment.elements
        (store.vector.m_dataSize - k)) :
    EndsPair environment.elements store
      (fun _ after => PairKept environment.elements store after ∧
        after.vector = pair.vector ∧
        after.other.m_dataSize = store.vector.m_dataSize - k ∧
        Unrefused environment after.memory) k
      (onlyIf (current < store.vector.m_dataSize) (displaceTail environment current
        (store.vector.m_dataSize - current)) pair) := by
  have size := stage.size
  have temp := stage.temp
  have lower := stage.lower
  have capacity : pair.vector.m_dataSize ≤ pair.vector.m_allocatedSize :=
    stage.kept.this.standing.fits.size
  apply Ended.onlyIf
  · intro short
    have fits : pair.other.m_AllocationManager.RequestFits environment.elements
        (pair.other.m_dataSize + (store.vector.m_dataSize - current)) := by
      have less : pair.other.m_dataSize + (store.vector.m_dataSize - current) ≤
          store.vector.m_dataSize - k := by omega
      rw [stage.kept.fresh]
      exact (tempRequest (by omega)).mono less
    apply (displaceTail_kept stage.kept stage.unrefused (by omega) some (by omega) fits
      (show k ≤ pair.vector.m_dataSize by omega)).weaken
    · intro _ after leaving
      refine ⟨leaving.kept, leaving.vector, ?_, leaving.unrefused⟩
      rw [leaving.temp]
      omega
    · intro fault after failed
      exact failed
  · intro long
    exact ⟨stage.kept, rfl, by omega, stage.unrefused⟩

/-- Space is made for what has been displaced. -/
theorem addSpace_kept (kept : PairKept environment.elements store pair)
    (unrefused : Unrefused environment pair.memory)
    (inRange : n < environment.elements.sizeRange)
    (request : pair.vector.m_allocatedSize < pair.vector.m_dataSize + n →
      pair.vector.m_AllocationManager.RequestFits environment.elements
        (pair.vector.m_dataSize + n))
    (lower : k ≤ pair.vector.m_dataSize) :
    EndsPair environment.elements store
      (fun _ after => PairKept environment.elements store after ∧
        pair.vector.m_dataSize + n ≤ after.vector.m_allocatedSize ∧
        after.other = pair.other ∧ Unrefused environment after.memory) k
      (Pair.onThis (addSpaceIfNeed environment n) pair) := by
  have allowed : GrowthAllowed environment pair.this false (pair.vector.m_dataSize + n) :=
    fun grows => ⟨request grows, unrefused.accepted _⟩
  have spacious := addSpaceIfNeed_spacious kept.this.standing inRange fun _ => allowed
  have managed := (addSpaceIfNeed_manager environment n).ended pair.this
  apply Ended.onPart (spacious.both managed)
  · intro _ after ended
    exact ⟨kept.onThis ended.1.kept ended.2, ended.1.enough, rfl,
      unrefused.later ended.1.kept.constructions⟩
  · intro fault after ended
    refine ⟨?_, kept.onThis ended.1.2.kept ended.2, ?_⟩
    · obtain same | same := ended.1.1
      · exact ⟨_, same⟩
      · exact ⟨_, same⟩
    · show k ≤ after.vector.m_dataSize
      rw [ended.1.2.vector]
      exact lower

theorem appendDisplaced_kept (stage : Stage environment store k pair current)
    (some : pair.other.m_dataSize ≠ 0) {total : Nat}
    (isTotal : current + store.vector.m_dataSize = total + k)
    (inRange : total < environment.elements.sizeRange)
    (request : store.vector.m_allocatedSize < total →
      store.vector.m_AllocationManager.RequestFits environment.elements total)
    (tempRequest : k < store.vector.m_dataSize →
      store.vector.m_AllocationManager.fresh.RequestFits environment.elements
        (store.vector.m_dataSize - k)) :
    EndsPair environment.elements store
      (fun _ after => PairKept environment.elements store after ∧
        after.vector.m_dataSize = total) k
      (appendDisplaced environment store.vector.m_dataSize current pair) := by
  have size := stage.size
  have temp := stage.temp
  have lower := stage.lower
  have capacity := stage.capacity
  have within : pair.vector.m_dataSize ≤ pair.vector.m_allocatedSize :=
    stage.kept.this.standing.fits.size
  unfold appendDisplaced
  apply Ended.bind (displaceRest_kept stage some (by omega) tempRequest)
  intro _ middle reached
  obtain ⟨kept, sameVector, displaced, unrefused⟩ := reached
  have cut := Kept.sameStorage kept.this.standing (SameStorage.refl middle.memory)
    (show current ≤ middle.vector.m_allocatedSize by rw [sameVector]; omega)
  have keptCut := kept.onThis cut rfl
  have ranCut : Pair.onThis (setDataSize current) middle =
      .ok () ⟨middle.memory, ⟨middle.vector.m_p, current, middle.vector.m_allocatedSize,
        middle.vector.m_AllocationManager⟩, middle.other⟩ := rfl
  rw [bind_of_ok ranCut, bind_of_ok (get_apply _)]
  dsimp only
  have grown := addSpace_kept (k := k) keptCut unrefused
    (show middle.other.m_dataSize < _ by omega)
    (fun grows => by
      change middle.vector.m_allocatedSize < current + middle.other.m_dataSize at grows
      rw [sameVector] at grows
      show middle.vector.m_AllocationManager.RequestFits environment.elements _
      rw [kept.manager]
      exact (request (by omega)).mono (show current + middle.other.m_dataSize ≤ total by omega))
    lower
  apply Ended.bind grown
  intro _ last ended
  obtain ⟨keptLast, enough, sameOther, unrefusedLast⟩ := ended
  rw [← sameOther] at enough displaced
  obtain ⟨after, ran, keptAfter, sized⟩ := takeBack_kept keptLast unrefusedLast
    (show last.other.m_dataSize ≠ 0 by omega) enough
  rw [← sameOther]
  rw [show _ = EStateM.Result.ok () after from ran]
  refine ⟨keptAfter, sized.trans ?_⟩
  show current + last.other.m_dataSize = total
  omega

end Tail

section Ranges

variable {store : Store α} {k : Nat}

theorem invalidateOther {pair : Pair α} (kept : PairKept environment.elements store pair) :
    ∃ after, Pair.onOther (invalidate environment) pair = .ok () after ∧
      Kept environment.elements store after.this ∧ after.vector = pair.vector := by
  obtain ⟨memory, ran, changed⟩ := invalidate_kept environment kept.that
  refine ⟨_, onPart_of_ok ran, (kept.onThat changed rfl ?_).this, rfl⟩
  intro other
  have idle := kept.idle other
  show empty pair.other.m_AllocationManager = pair.other
  rw [idle]
  rfl

theorem withTemp_kept (good : Nat → Prop) {body : Proc (Pair α) β}
    (ended : EndsPair environment.elements store
      (fun _ after => PairKept environment.elements store after ∧
        good after.vector.m_dataSize) k
      (body ⟨store.memory, store.vector,
        empty store.vector.m_AllocationManager.fresh⟩)) :
    EndsKept environment.elements store good (k ≤ ·) (withTemp environment body store) := by
  unfold withTemp
  dsimp only
  cases ran : body ⟨store.memory, store.vector,
      empty store.vector.m_AllocationManager.fresh⟩ with
  | ok value middle =>
      rw [ran] at ended
      obtain ⟨after, ranLast, kept, same⟩ := invalidateOther ended.1
      rw [bind_of_ok (onFailure_of_ok ran), bind_of_ok ranLast]
      refine ⟨kept, ?_⟩
      show good after.vector.m_dataSize
      rw [same]
      exact ended.2
  | error fault middle =>
      rw [ran] at ended
      obtain ⟨⟨status, isStatus⟩, keptMiddle, lower⟩ := ended
      cases isStatus
      obtain ⟨after, ranLast, kept, same⟩ := invalidateOther keptMiddle
      rw [bind_of_error (onFailure_of_status ran ranLast)]
      refine ⟨⟨status, rfl⟩, kept, ?_⟩
      show k ≤ after.vector.m_dataSize
      rw [same]
      exact lower

theorem insertRange_kept (standing : Standing environment.elements store)
    {sources : List Nat} {fuel destBegin : Nat}
    (allowed : store.vector.m_p ≤ destBegin →
      destBegin ≤ store.vector.m_p + store.vector.m_dataSize →
      RangeAllowed environment store (destBegin - store.vector.m_p) sources)
    (enough : 2 * sources.length ≤ fuel) :
    EndsKept environment.elements store
      (· = store.vector.m_dataSize + sources.length)
      (min (destBegin - store.vector.m_p) store.vector.m_dataSize ≤ ·)
      (insertRange environment fuel sources destBegin store) := by
  unfold insertRange
  rw [bind_of_ok (get_apply store)]
  split
  · apply endsKept_fail standing
    exact Nat.min_le_right _ _
  · rename_i valid
    have position : store.vector.m_p ≤ destBegin ∧
        destBegin ≤ store.vector.m_p + store.vector.m_dataSize := by
      simp only [isIteratorNotDereferenceable, Bool.or_eq_true, decide_eq_true_eq,
        not_and_or, not_or, not_lt, not_le, not_not] at valid
      omega
    obtain ⟨lower, upper⟩ := position
    obtain ⟨inRange, readable, unrefused, request, tempRequest⟩ := allowed lower upper
    let k := destBegin - store.vector.m_p
    have inside : k ≤ store.vector.m_dataSize := by
      show destBegin - store.vector.m_p ≤ _
      omega
    have start : Stage environment store k
        ⟨store.memory, store.vector, empty store.vector.m_AllocationManager.fresh⟩ k := by
      refine ⟨PairKept.start standing, ?_, ?_, Nat.le_refl k, Nat.le_refl _, unrefused⟩
      · show store.vector.m_dataSize = max store.vector.m_dataSize k
        omega
      · show 0 + k = min store.vector.m_dataSize k
        omega
    have ended : EndsPair environment.elements store
        (fun _ after => PairKept environment.elements store after ∧
          after.vector.m_dataSize = store.vector.m_dataSize + sources.length) k
        ((do
          let currentOffset ← insertElements environment fuel sources k
          onlyIf ((← get).other.m_dataSize ≠ 0)
            (appendDisplaced environment store.vector.m_dataSize currentOffset)
          return (← get).vector.m_p + currentOffset : Proc (Pair α) Nat)
            ⟨store.memory, store.vector,
              empty store.vector.m_AllocationManager.fresh⟩) := by
      have total : max store.vector.m_dataSize k + sources.length ≤
          store.vector.m_dataSize + sources.length := by omega
      apply Ended.bind (insertElements_kept inside inRange request tempRequest readable total
        start (Nat.le_trans enough (Nat.le_add_right _ _)))
      intro last middle reached
      obtain ⟨stage, isLast⟩ := reached
      have size := stage.size
      have temp := stage.temp
      rw [bind_of_ok (get_apply middle)]
      have appended : EndsPair environment.elements store
          (fun _ after => PairKept environment.elements store after ∧
            after.vector.m_dataSize = store.vector.m_dataSize + sources.length) k
          (onlyIf (middle.other.m_dataSize ≠ 0)
            (appendDisplaced environment store.vector.m_dataSize last) middle) := by
        apply Ended.onlyIf
        · intro some
          apply appendDisplaced_kept stage some (by omega) inRange request
          intro short
          apply tempRequest _ short
          intro none
          rw [none, List.length_nil] at isLast
          omega
        · intro none
          refine ⟨stage.kept, ?_⟩
          omega
      apply Ended.bind appended
      intro _ after kept
      exact kept
    apply (withTemp_kept (· = store.vector.m_dataSize + sources.length) ended).weaken
    · intro _ after last
      exact last
    · intro fault after last
      exact ⟨last.1, last.2.1, Nat.le_trans (Nat.min_le_left _ _) last.2.2⟩

end Ranges

end Vector

end CommonSerialization.Containers
