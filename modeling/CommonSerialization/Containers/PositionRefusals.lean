import CommonSerialization.Containers.OutOfMemory
import CommonSerialization.Containers.PositionContents
import CommonSerialization.Containers.Refusals

namespace CommonSerialization.Containers

open StateExcept Storage

/-! What the functions that work at a position leave when a construction is refused. -/

def Reach (elements : Elements) (store : Store α) (others : Nat → Prop) (address : Nat) :
    Prop :=
  (store.memory.slots address).mapped → store.own elements address ∨ others address

def WithinReach (elements : Elements) (store : Store α) (written used : Nat → Prop)
    (memory : Memory α) : Prop :=
  Touches (Reach elements store written) (Reach elements store used) store.memory memory

namespace Vector

variable {environment : Environment α} {store : Store α} {before memory : Memory α}
  {written used : Nat → Prop} {space m p n offset turn made : Nat} {refusal : Refusal α}
  {turnOf : Nat → Nat}

/-- A call has ended with the status of a refusal, and this is what stands where the
elements were. -/
def Stops (environment : Environment α) (store : Store α) (written used : Nat → Prop)
    (refusal : Refusal α) (remains : Nat → Slot α)
    (result : EStateM.Result Fault (Store α) β) : Prop :=
  ∃ after : Store α, result = .error (.status refusal.status) after ∧
    after.vector.m_p = store.vector.m_p ∧
    after.vector.m_dataSize = store.vector.m_dataSize ∧
    (∀ index < store.vector.m_dataSize,
      after.memory.slots (store.vector.m_p + index) = remains index) ∧
    WithinReach environment.elements store written used after.memory

theorem Stops.bind {proc : VProc α β} {next : β → VProc α γ} {remains : Nat → Slot α}
    (stops : Stops environment store written used refusal remains (proc store)) :
    Stops environment store written used refusal remains ((proc >>= next) store) := by
  obtain ⟨after, ran, rest⟩ := stops
  exact ⟨after, bind_of_error ran, rest⟩

/-- When an element goes to another block, before or after those that are inserted. -/
def turnElsewhere (n offset index : Nat) : Nat :=
  if index < offset then index else index + n

/-- What stands at an index of the old block when a construction for another one is
refused. -/
def leftElsewhere (environment : Environment α) (store : Store α) (n offset turn index : Nat) :
    Slot α :=
  turned environment turn (turnElsewhere n offset index)
    (store.memory.slots (store.vector.m_p + index))

section Elsewhere

/-- Some constructions have been made in new space, and the old elements that they took
are moved ones. -/
structure Carried (environment : Environment α) (store : Store α) (used : Nat → Prop)
    (before : Memory α) (turnOf : Nat → Nat) (made : Nat) (memory : Memory α) : Prop where
  slots : ∀ index < store.vector.m_dataSize, memory.slots (store.vector.m_p + index) =
    if turnOf index < made then
      (store.memory.slots (store.vector.m_p + index)).map environment.afterMove
    else store.memory.slots (store.vector.m_p + index)
  storage : SameStorage before memory
  counted : memory.constructions = store.memory.constructions + made
  reaches : WithinReach environment.elements store (fun _ => False) used memory

theorem turned_later {later first : Nat} (slot : Slot α) :
    turned environment (made + first) (made + later) slot =
      turned environment first later slot := by
  unfold turned
  simp only [Nat.add_lt_add_iff_left, Nat.add_left_cancel_iff]

section Steps

variable (whole : Whole environment.elements store)
  (answered : NewSpace environment.elements store.vector.m_AllocationManager store.memory
    before space m)

include whole answered

theorem Carried.start :
    Carried environment store used before turnOf 0 before where
  slots := by
    intro index inside
    rw [if_neg (Nat.not_lt_zero _)]
    exact answered.outside (whole.standing.elementsMapped index inside)
  storage := SameStorage.refl before
  counted := answered.constructions
  reaches := by
    refine ⟨?_, ?_⟩
    · intro address free
      apply answered.outside
      by_contra unmapped
      exact free fun mapped => absurd mapped unmapped
    · rw [answered.log]
      exact Grown.refl _

variable (constructors : environment.elements.constructorAllocator = true)
  (carried : Carried environment store used before turnOf made memory)
  (transfer : Transfer) {place src k : Nat} (room : place + k ≤ m)
  (srcMapped : Mapped store.memory.slots src k)
  (isOwn : transfer = .move → ∀ address, Within src k address →
    store.own environment.elements address)
  (isUsed : transfer = .copy → ∀ address, Within src k address → used address)
  (turns : ∀ index < store.vector.m_dataSize, ∀ later < k,
    turnOf index = made + later ↔ transfer = .move ∧ store.vector.m_p + index = src + later)
  (first : FirstRefusal environment store.memory.constructions turn refusal)

include constructors carried room isOwn isUsed

theorem Carried.touches :
    WithinReach environment.elements store (fun _ => False) used
      (final (transferToRawNoOverlap environment transfer (space + place) src k memory)) := by
  apply Touches.trans _ _ _ carried.reaches
  apply transferToRawNoOverlap_touches _ _ constructors
  · intro address inside
    have unmapped := answered.unmapped (whole.standing.heap constructors)
      (within_offset room inside)
    constructor
    · intro mapped
      rw [unmapped] at mapped
      cases mapped
    · intro mapped
      rw [unmapped] at mapped
      cases mapped
  · intro address inside
    refine ⟨fun _ => ?_, fun move _ => .inl (isOwn move address inside)⟩
    cases transfer with
    | copy => exact .inr (isUsed rfl address inside)
    | move => exact .inl (isOwn rfl address inside)

include srcMapped turns first

theorem Carried.goesOn (notYet : made + k ≤ turn) :
    ∃ after,
      transferToRawNoOverlap environment transfer (space + place) src k memory = .ok () after ∧
      Carried environment store used before turnOf (made + k) after := by
  have touches := carried.touches whole answered constructors transfer room isOwn isUsed
  have heap := whole.standing.heap constructors
  obtain ⟨after, ran, placed⟩ : ∃ after,
      transferToRawNoOverlap environment transfer (space + place) src k memory = .ok () after ∧
      Placed environment transfer False memory (space + place) src k after := by
    apply transferToRawNoOverlap_placed environment transfer
    · intro raw
      rw [raw] at constructors
      cases constructors
    · exact fun _ => (newSpace_apart answered heap room srcMapped).sides
    · exact carried.storage.mappedRange (newSpace_destination answered room)
    · exact carried.storage.mappedRange fun index less => answered.mapped (srcMapped index less)
    · intro _ index less
      rw [carried.counted, Nat.add_assoc]
      exact first.1 (made + index) (by omega)
    · exact fun _ => False.elim
  rw [ran] at touches
  refine ⟨after, ran, ?_, carried.storage.trans placed.storage, ?_, touches⟩
  · intro index inside
    have notNew : ¬Within (space + place) k (store.vector.m_p + index) := by
      intro here
      have mapped := whole.standing.elementsMapped index inside
      rw [answered.unmapped heap (within_offset room here)] at mapped
      cases mapped
    rw [placed.elsewhere _ notNew, carried.slots index inside]
    by_cases moves : transfer = .move ∧ Within src k (store.vector.m_p + index)
    · obtain ⟨move, here⟩ := moves
      unfold Within at here
      have itsTurn := (turns index inside (store.vector.m_p + index - src) (by omega)).mpr
        ⟨move, by omega⟩
      rw [if_pos ⟨constructors, move, here⟩, if_neg (by omega), if_pos (by omega)]
    · rw [if_neg fun all => moves all.2]
      have same : turnOf index < made + k ↔ turnOf index < made := by
        constructor
        · intro before
          by_contra notBefore
          obtain ⟨move, here⟩ := (turns index inside (turnOf index - made) (by omega)).mp
            (by omega)
          exact moves ⟨move, by unfold Within; omega⟩
        · omega
      simp only [same]
  · rw [placed.counted constructors, carried.counted, Nat.add_assoc]

theorem Carried.stops (come : made ≤ turn) (before : turn < made + k) :
    ∃ after,
      transferToRawNoOverlap environment transfer (space + place) src k memory =
        .error (.status refusal.status) after ∧
      (∀ index < store.vector.m_dataSize, after.slots (store.vector.m_p + index) =
        turned environment turn (turnOf index)
          (store.memory.slots (store.vector.m_p + index))) ∧
      WithinReach environment.elements store (fun _ => False) used after := by
  have touches := carried.touches whole answered constructors transfer room isOwn isUsed
  have heap := whole.standing.heap constructors
  obtain ⟨next, isNext⟩ : ∃ next, turn = made + next := ⟨turn - made, by omega⟩
  rw [isNext] at first before ⊢
  obtain ⟨after, ran, halted⟩ : ∃ after,
      transferToRawNoOverlap environment transfer (space + place) src k memory =
        .error (.status refusal.status) after ∧
      Halted environment transfer memory (space + place) src k id next refusal.left after := by
    apply transferToRawNoOverlap_halted transfer
    · exact carried.storage.mappedRange (newSpace_destination answered room)
    · exact carried.storage.mappedRange fun index less => answered.mapped (srcMapped index less)
    · have nonnull := answered.nonnull
      omega
    · exact (newSpace_apart answered heap room srcMapped).sides
    · exact constructors
    · omega
    · rw [carried.counted]
      exact first.later
  rw [ran] at touches
  refine ⟨after, ran, ?_, touches⟩
  intro index inside
  rw [halted.elsewhere, carried.slots index inside]
  · by_cases moves : transfer = .move ∧ Within src k (store.vector.m_p + index)
    · obtain ⟨move, here⟩ := moves
      unfold Within at here
      have itsTurn := (turns index inside (store.vector.m_p + index - src) (by omega)).mpr
        ⟨move, by omega⟩
      rw [if_pos ⟨move, here⟩, if_neg (by omega), itsTurn, turned_later]
      rfl
    · rw [if_neg moves]
      have notNow : turnOf index < made ∨ made + k ≤ turnOf index := by
        by_contra now
        obtain ⟨move, here⟩ := (turns index inside (turnOf index - made) (by omega)).mp
          (by omega)
        exact moves ⟨move, by unfold Within; omega⟩
      unfold turned
      obtain done | later := notNow
      · rw [if_pos done, if_pos (by omega)]
      · rw [if_neg (by omega), if_neg (by omega), if_neg (by omega)]
  · intro other less same
    have mapped := whole.standing.elementsMapped index inside
    rw [answered.unmapped heap (within_offset room ⟨by omega, by omega⟩)] at mapped
    cases mapped

end Steps

section Denials

variable {needed : Nat}
  (denies : Denies environment store.vector.m_AllocationManager needed store.memory)

include denies

end Denials

section Fills

variable (whole : Whole environment.elements store)
  (constructors : environment.elements.constructorAllocator = true)
  (answered : NewSpace environment.elements store.vector.m_AllocationManager store.memory
    before space m)
  (within : offset ≤ store.vector.m_dataSize) (enough : offset + n ≤ m)
  (source : Foreign environment store p n)
  (first : FirstRefusal environment store.memory.constructions turn refusal)

theorem turnElsewhere_first {index later : Nat} (inside : later < offset) :
    turnElsewhere n offset index = 0 + later ↔
      Transfer.move = .move ∧ store.vector.m_p + index = store.vector.m_p + later := by
  unfold turnElsewhere
  rw [and_iff_right rfl]
  split <;> omega

theorem turnElsewhere_source {q index later : Nat} (inside : later < n) :
    turnElsewhere n offset index = offset + later ↔
      Transfer.copy = .move ∧ store.vector.m_p + index = q + later := by
  unfold turnElsewhere
  constructor
  · intro same
    split at same <;> omega
  · exact fun impossible => by cases impossible.1

include whole constructors answered within enough source first

theorem Carried.filled (notYet : offset + n ≤ turn) :
    ∃ middle after,
      moveToRawNoOverlap environment space store.vector.m_p offset before = .ok () middle ∧
      copyToRawNoOverlap environment (space + offset) p n middle = .ok () after ∧
      Carried environment store (Within p n) before (turnElsewhere n offset) (offset + n)
        after := by
  have size := whole.standing.fits.size
  have started : Carried environment store (Within p n) before (turnElsewhere n offset) 0
      before := Carried.start whole answered
  obtain ⟨middle, ranMove, moved⟩ : ∃ middle,
      moveToRawNoOverlap environment (space + 0) store.vector.m_p offset before =
        .ok () middle ∧
      Carried environment store (Within p n) before (turnElsewhere n offset) (0 + offset)
        middle := by
    apply started.goesOn whole answered constructors .move (by omega) _ _ _ _ first (by omega)
    · exact fun index less => whole.standing.elementsMapped index (by omega)
    · exact fun _ address inside => whole.own (show 0 + offset ≤ _ by omega) inside
    · exact fun impossible => by cases impossible
    · exact fun index _ later less => turnElsewhere_first less
  rw [Nat.zero_add] at moved
  obtain ⟨after, ranCopy, copied⟩ : ∃ after,
      copyToRawNoOverlap environment (space + offset) p n middle = .ok () after ∧
      Carried environment store (Within p n) before (turnElsewhere n offset) (offset + n)
        after := by
    apply moved.goesOn whole answered constructors .copy enough source.mapped _ _ _ first notYet
    · exact fun impossible => by cases impossible
    · exact fun _ address inside => inside
    · exact fun index _ later less => turnElsewhere_source less
  exact ⟨middle, after, ranMove, ranCopy, copied⟩

end Fills

end Elsewhere

/-- What stands at an index when a construction of `replace` is refused in the block. -/
def leftByReplace (store : Store α) (n offset turn : Nat) (left : Option α) (index : Nat) :
    Slot α :=
  if Within offset n index then
    if index = offset + turn then .ofValue left else .vacant
  else store.memory.slots (store.vector.m_p + index)

/-- When an element behind the position goes to the right: the last comes first, unless
all of them go past the end. -/
def tailTurn (store : Store α) (n offset index : Nat) : Nat :=
  if store.vector.m_dataSize - offset ≤ n then index
  else store.vector.m_dataSize - offset - 1 - index

def leftByInsert (environment : Environment α) (store : Store α) (n offset turn : Nat)
    (left : Option α) (index : Nat) : Slot α :=
  if index < offset then store.memory.slots (store.vector.m_p + index)
  else if turn < store.vector.m_dataSize - offset then
    if offset + n ≤ index ∧ tailTurn store n offset (index - (offset + n)) < turn then .vacant
    else if offset + n ≤ index ∧ tailTurn store n offset (index - (offset + n)) = turn then
      .ofValue left
    else turned environment turn (tailTurn store n offset (index - offset))
      (store.memory.slots (store.vector.m_p + index))
  else if index < offset + (turn - (store.vector.m_dataSize - offset)) then .vacant
  else if index = offset + (turn - (store.vector.m_dataSize - offset)) then .ofValue left
  else if index < offset + n then
    (store.memory.slots (store.vector.m_p + index)).map environment.afterMove
  else store.memory.slots (store.vector.m_p + (index - n))

def leftByErase (environment : Environment α) (store : Store α) (offset n turn : Nat)
    (left : Option α) (index : Nat) : Slot α :=
  if index < offset then store.memory.slots (store.vector.m_p + index)
  else if index < offset + turn then .vacant
  else if index = offset + turn then .ofValue left
  else if index < offset + n then .vacant
  else turned environment turn (index - (offset + n))
    (store.memory.slots (store.vector.m_p + index))

section InPlace

variable (whole : Whole environment.elements store)
  (constructors : environment.elements.constructorAllocator = true)

section Frames

variable {changed others : Nat → Prop}

include whole

include constructors

end Frames

include whole constructors

section Insertions

variable (some : n ≠ 0) (within : offset ≤ store.vector.m_dataSize)
  (room : store.vector.m_dataSize + n ≤ store.vector.m_allocatedSize)
  (first : FirstRefusal environment store.memory.constructions turn refusal)

include some within room first

end Insertions

end InPlace

section Copies

variable {k past : Nat} (whole : Whole environment.elements store)
  (constructors : environment.elements.constructorAllocator = true)
  (target : Foreign environment store p k) (nonnull : p ≠ 0)
  (first : FirstRefusal environment store.memory.constructions turn refusal)

include whole constructors target nonnull first

end Copies

end Vector

end CommonSerialization.Containers
