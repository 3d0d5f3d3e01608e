import CommonSerialization.Containers.PositionsKept

namespace CommonSerialization.Containers

open StateExcept Storage

/-! The elements of a vector on their way to another block. -/

/-- The storage of a vector: its block, and what its keeper keeps. -/
def Store.own (elements : Elements) (store : Store α) (address : Nat) : Prop :=
  store.inOwn elements address ∨
    ∃ storage memorySize,
      store.vector.m_AllocationManager.allocator = .keeper storage memorySize ∧
        Within storage memorySize address

def Store.contents (store : Store α) : List (Slot α) :=
  stretch store.memory.slots store.vector.m_p store.vector.m_dataSize

/-- The capacity that a keeper has given is in its storage. -/
def Vector.AtHome (vector : Vector) : Prop :=
  ∀ storage memorySize, vector.m_AllocationManager.allocator = .keeper storage memorySize →
    vector.m_allocatedSize = 0 ∨
      vector.m_p = storage ∧ vector.m_allocatedSize ≤ memorySize

/-- If there was storage before at the address of an event, then it is the vector's own
or the address is used. -/
def Nearby (elements : Elements) (store : Store α) (used : Nat → Prop) (event : Event) :
    Prop :=
  (store.memory.slots event.address).mapped →
    store.own elements event.address ∨ used event.address

/-- A vector as its users expect it: its elements are where they should be, and nowhere
else in its block. -/
structure Whole (elements : Elements) (store : Store α) : Prop where
  standing : Standing elements store
  home : store.vector.AtHome
  filled : Vector.Filled elements store store.memory

section Contents

variable {elements : Elements} {store : Store α}

@[simp] theorem length_contents : store.contents.length = store.vector.m_dataSize :=
  length_stretch

theorem Standing.own (standing : Standing elements store) (home : store.vector.AtHome)
    {address : Nat} (inside : Within store.vector.m_p store.vector.m_allocatedSize address) :
    store.own elements address := by
  cases allocator : store.vector.m_AllocationManager.allocator with
  | heap => exact .inl (standing.inOwn allocator inside)
  | keeper storage memorySize =>
      right
      refine ⟨storage, memorySize, allocator, ?_⟩
      obtain none | ⟨same, room⟩ := home storage memorySize allocator
      · unfold Within at inside
        omega
      · rw [← same]
        exact ⟨inside.1, Nat.lt_of_lt_of_le inside.2 (Nat.add_le_add_left room _)⟩

end Contents

namespace Vector

structure Building (environment : Environment α) (store : Store α) (before : Memory α)
    (space : Nat) (used : Nat → Prop) (built : List (Slot α))
    (current : Memory α) : Prop where
  storage : SameStorage before current
  values : stretch current.slots space built.length = built
  outside : ∀ {address}, (store.memory.slots address).mapped →
    ¬store.own environment.elements address →
    current.slots address = store.memory.slots address
  holds : store.vector.m_AllocationManager.allocator = .heap → ∀ {address},
    (store.memory.slots address).mapped →
    (current.slots address).holds = (store.memory.slots address).holds
  spare : environment.elements.constructorAllocator = true → ∀ {bytes},
    before.blocks space = some bytes → ∀ index < environment.elements.room bytes,
    built.length ≤ index → current.slots (space + index) = .vacant
  counted : environment.elements.constructorAllocator = true →
    current.constructions = store.memory.constructions + built.length
  events : Grown (fun event => Nearby environment.elements store used event ∧ event.proper)
    store.memory.log current.log

variable {environment : Environment α} {store : Store α} {before current : Memory α}
  {space m q k : Nat} {used : Nat → Prop} {built : List (Slot α)}

theorem Building.start (standing : Standing environment.elements store)
    (answered : NewSpace environment.elements store.vector.m_AllocationManager store.memory
      before space m) :
    Building environment store before space used [] before where
  storage := SameStorage.refl before
  values := rfl
  outside := fun mapped _ => answered.outside mapped
  holds := fun _ _ mapped => congrArg Slot.holds (answered.outside mapped)
  spare := fun constructors _ held index inside _ =>
    answered.vacant (standing.heap constructors) held index inside
  counted := fun _ => answered.constructions
  events := by
    rw [answered.log]
    exact Grown.refl _

/-- A slot that was storage is in the new space only if the keeper keeps it. -/
theorem own_of_newSpace
    (answered : NewSpace environment.elements store.vector.m_AllocationManager store.memory
      before space m) {address : Nat} (inside : Within space m address)
    (mapped : (store.memory.slots address).mapped) :
    store.own environment.elements address ∧
      store.vector.m_AllocationManager.allocator ≠ .heap := by
  cases allocator : store.vector.m_AllocationManager.allocator with
  | heap =>
      rw [answered.unmapped allocator inside] at mapped
      cases mapped
  | keeper storage memorySize =>
      have other : store.vector.m_AllocationManager.allocator ≠ .heap := by
        rw [allocator]
        exact fun same => by cases same
      obtain ⟨_, size, keeper, room⟩ := answered.kept other
      refine ⟨.inr ⟨space, size, keeper, ?_⟩, fun same => by cases same⟩
      exact ⟨inside.1, Nat.lt_of_lt_of_le inside.2 (Nat.add_le_add_left room space)⟩

section Adding

variable (standing : Standing environment.elements store)
  (answered : NewSpace environment.elements store.vector.m_AllocationManager store.memory
    before space m)
  (building : Building environment store before space used built current)
  (bound : built.length + k ≤ m) (source : Mapped store.memory.slots q k)

include standing answered building bound source

/-- One more range is transferred to the new space. -/
theorem Building.transferred (transfer : Transfer)
    (movable : environment.elements.constructorAllocator = false →
      OctetsMovable environment.elements (space + built.length) q k)
    (objects : environment.elements.constructorAllocator = true →
      Objects store.memory.slots q k)
    {count : Nat} (accepted : Accepted environment store.memory count)
    (fewer : built.length + k ≤ count) :
    ∃ after,
      transferToRawNoOverlap environment transfer (space + built.length) q k current =
        .ok () after ∧
      Placed environment transfer True current (space + built.length) q k after := by
  have apart (constructors : environment.elements.constructorAllocator = true) :
      Apart (space + built.length) k q k :=
    newSpace_apart answered (standing.heap constructors) bound source
  apply transferToRawNoOverlap_placed environment transfer movable
  · exact fun constructors => (apart constructors).sides
  · exact building.storage.mappedRange (newSpace_destination answered bound)
  · apply building.storage.mappedRange
    intro index inside
    exact answered.mapped (source index inside)
  · exact accepted.later fewer building.counted
  · intro constructors _
    refine ⟨?_, ?_, apart constructors⟩
    · intro index inside
      rw [building.holds (standing.heap constructors) (source index inside)]
      exact objects constructors index inside
    · intro index inside
      obtain ⟨bytes, held, room⟩ := answered.roomy
      have fits : m ≤ environment.elements.room bytes :=
        (Nat.le_div_iff_mul_le environment.elements.size_pos).mpr room
      rw [Nat.add_assoc]
      exact building.spare constructors held _ (by omega) (Nat.le_add_right _ index)

/-- What is in the new space when one more range has been transferred. -/
theorem Building.grown {transfer : Transfer} {after : Memory α}
    (isOwn : transfer = .move → ∀ index < k, store.own environment.elements (q + index))
    (isUsed : ∀ index < k, store.own environment.elements (q + index) ∨ used (q + index))
    (placed : Placed environment transfer True current (space + built.length) q k after) :
    Building environment store before space used (built ++ stretch current.slots q k)
      after := by
  have placedInside {address : Nat} (inside : Within (space + built.length) k address) :
      Within space m address := within_offset bound inside
  refine ⟨building.storage.trans placed.storage, ?_, ?_, ?_, ?_, ?_, ?_⟩
  · rw [List.length_append, length_stretch, stretch_add]
    congr 1
    · rw [← building.values, length_stretch]
      apply stretch_eq_iff.mpr
      intro index inside
      rw [placed.elsewhere _ (by unfold Within; omega), if_neg]
      intro moved
      obtain ⟨constructors, _, within⟩ := moved
      have apart := newSpace_apart answered (standing.heap constructors)
        (show 0 + m ≤ m by omega) source
      exact apart (space + index) (by unfold Within; omega) within
    · exact stretch_eq_iff.mpr placed.values
  · intro address mapped free
    rw [← building.outside mapped free, placed.elsewhere, if_neg]
    · intro moved
      obtain ⟨_, move, within⟩ := moved
      have mine := isOwn move (address - q) (by unfold Within at within; omega)
      rw [Nat.add_sub_cancel' within.1] at mine
      exact free mine
    · intro inside
      exact free (own_of_newSpace answered (placedInside inside) mapped).1
  · intro heap address mapped
    rw [← building.holds heap mapped]
    apply placed.holdsElsewhere
    intro inside
    exact (own_of_newSpace answered (placedInside inside) mapped).2 heap
  · intro constructors bytes held index inside past
    rw [List.length_append, length_stretch] at past
    rw [← building.spare constructors held index inside (by omega), placed.outside]
    · unfold Within
      omega
    · intro within
      have stored := source (space + index - q) (by unfold Within at within; omega)
      rw [Nat.add_sub_cancel' within.1,
        (answered.fresh (standing.heap constructors)).2 held
          ⟨Nat.le_add_right space index, Nat.add_lt_add_left inside space⟩] at stored
      cases stored
  · intro constructors
    rw [placed.counted constructors, building.counted constructors, List.length_append,
      length_stretch, Nat.add_assoc]
  · apply building.events.trans
    apply placed.events.weaken
    intro event allowed
    refine ⟨?_, allowed.2 trivial⟩
    intro mapped
    obtain inside | inside := allowed.1
    · exact .inl (own_of_newSpace answered (placedInside inside) mapped).1
    · have either := isUsed (event.address - q) (by unfold Within at inside; omega)
      rwa [Nat.add_sub_cancel' inside.1] at either

theorem Building.add (transfer : Transfer)
    (isOwn : transfer = .move → ∀ index < k, store.own environment.elements (q + index))
    (isUsed : ∀ index < k, store.own environment.elements (q + index) ∨ used (q + index))
    (movable : environment.elements.constructorAllocator = false →
      OctetsMovable environment.elements (space + built.length) q k)
    (objects : environment.elements.constructorAllocator = true →
      Objects store.memory.slots q k)
    {count : Nat} (accepted : Accepted environment store.memory count)
    (fewer : built.length + k ≤ count) :
    ∃ after,
      transferToRawNoOverlap environment transfer (space + built.length) q k current =
        .ok () after ∧
      Placed environment transfer True current (space + built.length) q k after ∧
      Building environment store before space used
        (built ++ stretch current.slots q k) after := by
  obtain ⟨after, ran, placed⟩ := Building.transferred standing answered building bound source
    transfer movable objects accepted fewer
  exact ⟨after, ran, placed,
    Building.grown standing answered building bound source isOwn isUsed placed⟩

end Adding

structure Rebuilt (environment : Environment α) (store : Store α) (used : Nat → Prop)
    (built : List (Slot α)) (after : Store α) : Prop where
  kept : Kept environment.elements store after
  size : after.vector.m_dataSize = store.vector.m_dataSize
  manager : after.vector.m_AllocationManager = store.vector.m_AllocationManager
  room : built.length ≤ after.vector.m_allocatedSize
  values : stretch after.memory.slots after.vector.m_p built.length = built
  home : after.vector.AtHome
  outside : ∀ {address}, (store.memory.slots address).mapped →
    ¬store.own environment.elements address →
    after.memory.slots address = store.memory.slots address
  spare : environment.elements.constructorAllocator = true → ∀ {bytes},
    after.memory.blocks after.vector.m_p = some bytes →
    ∀ index < environment.elements.room bytes, built.length ≤ index →
    after.memory.slots (after.vector.m_p + index) = .vacant
  events : Grown (fun event => Nearby environment.elements store used event ∧ event.proper)
    store.memory.log after.memory.log

theorem Building.finish (standing : Standing environment.elements store)
    (answered : NewSpace environment.elements store.vector.m_AllocationManager store.memory
      before space m)
    (building : Building environment store before space used built current)
    (bound : built.length ≤ m) (enough : store.vector.m_dataSize ≤ m)
    (filled : Filled environment.elements store store.memory) :
    ∃ after,
      ((onMemory (store.vector.m_AllocationManager.destroyAndDeallocate environment
          store.vector.m_p store.vector.m_dataSize) >>= fun _ => setPointer space :
          VProc α Unit)
        ⟨current, ⟨store.vector.m_p, store.vector.m_dataSize, m,
          store.vector.m_AllocationManager⟩⟩) =
          .ok () ⟨after, ⟨space, store.vector.m_dataSize, m,
            store.vector.m_AllocationManager⟩⟩ ∧
      Rebuilt environment store used built
        ⟨after, ⟨space, store.vector.m_dataSize, m,
          store.vector.m_AllocationManager⟩⟩ := by
  obtain ⟨after, ran, kept, settled⟩ := settle standing answered building.storage enough
  have notOwned : ¬store.vector.Owns space := by
    intro owns
    obtain ⟨heap, isOwn, nonnull⟩ := owns
    obtain ⟨bytes, held⟩ := standing.ownBlock (isOwn ▸ nonnull)
    rw [← isOwn, (answered.fresh heap).1] at held
    cases held
  obtain ⟨bytes, held, room⟩ := answered.roomy
  have blockAfter : after.blocks space = some bytes := by
    apply settled.blocks _ notOwned
    rw [building.storage.blocks, held]
  have notInside {index : Nat} (inside : index < environment.elements.room bytes) :
      ¬store.inOwn environment.elements (space + index) := by
    intro own
    obtain ⟨owns, others, block, within⟩ := own
    have mapped := standing.sound.mappedAt block within
    rw [(answered.fresh owns.1).2 held
      ⟨Nat.le_add_right space index, Nat.add_lt_add_left inside space⟩] at mapped
    cases mapped
  have fits : m ≤ environment.elements.room bytes :=
    (Nat.le_div_iff_mul_le environment.elements.size_pos).mpr room
  refine ⟨after, ran, kept, rfl, rfl, bound, ?_, ?_, ?_, ?_, ?_⟩
  · refine Eq.trans ?_ building.values
    apply stretch_eq_iff.mpr
    intro index inside
    exact settled.slots (notInside (by omega))
  · intro storage memorySize keeper
    right
    have other : store.vector.m_AllocationManager.allocator ≠ .heap := by
      rw [show store.vector.m_AllocationManager.allocator = _ from keeper]
      exact fun same => by cases same
    obtain ⟨_, size, isKeeper, inside⟩ := answered.kept other
    rw [show store.vector.m_AllocationManager.allocator = _ from keeper] at isKeeper
    cases isKeeper
    exact ⟨rfl, inside⟩
  · intro address mapped free
    rw [← building.outside mapped free]
    exact settled.slots fun own => free (.inl own)
  · intro constructors others block index inside past
    rw [show after.blocks space = some others from block] at blockAfter
    cases blockAfter
    exact (settled.slots (notInside inside)).trans
      (building.spare constructors held index inside past)
  · apply building.events.trans
    apply settled.events.weaken
    intro event allowed
    refine ⟨fun _ => .inl (.inl allowed.1), allowed.2 ?_⟩
    constructor
    · intro constructors index inside
      rw [building.holds (standing.heap constructors) (standing.elementsMapped index inside)]
      exact filled.objects constructors index inside
    · intro constructors others block index inside past
      rw [building.holds (standing.heap constructors)
        (standing.sound.mapped block index inside)]
      exact filled.spare constructors block index inside past

end Vector

end CommonSerialization.Containers
