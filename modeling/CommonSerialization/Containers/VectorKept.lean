import CommonSerialization.Containers.BlocksKept
import CommonSerialization.Containers.Placed
import CommonSerialization.Containers.Vector

namespace CommonSerialization.Containers

open StateExcept Storage

/-! What a vector keeps through every call, whatever fails: it fits into its block, and
the other blocks are left alone. -/

def Vector.Owns (vector : Vector) (p : Nat) : Prop :=
  vector.m_AllocationManager.allocator = .heap ∧ p = vector.m_p ∧ p ≠ 0

/-- No more elements than there is capacity for, and no more capacity than the block
has room for. -/
structure Fits (elements : Elements) (memory : Memory α) (vector : Vector) : Prop where
  size : vector.m_dataSize ≤ vector.m_allocatedSize
  block : vector.m_p = 0 ∧ vector.m_allocatedSize = 0 ∨
    vector.m_p ≠ 0 ∧ Roomy elements memory vector.m_p vector.m_allocatedSize

structure Standing (elements : Elements) (store : Store α) : Prop where
  sound : Sound elements store.memory
  fits : Fits elements store.memory store.vector
  provided : Provided elements store.memory store.vector.m_AllocationManager
  small : store.vector.m_allocatedSize * elements.size < elements.sizeRange

def Store.manager (store : Store α) : AllocationManager :=
  store.vector.m_AllocationManager

def Store.inOwn (elements : Elements) (store : Store α) (address : Nat) : Prop :=
  store.vector.Owns store.vector.m_p ∧
    ∃ bytes, store.memory.blocks store.vector.m_p = some bytes ∧
      Within store.vector.m_p (elements.room bytes) address

/-- How a call on a vector leaves the blocks of others. -/
structure Kept (elements : Elements) (before after : Store α) : Prop where
  standing : Standing elements after
  allocator : after.vector.m_AllocationManager.allocator =
    before.vector.m_AllocationManager.allocator
  others : ∀ {q bytes}, before.memory.blocks q = some bytes → ¬before.vector.Owns q →
    after.memory.blocks q = some bytes
  place : ∀ {q}, after.vector.Owns q →
    before.vector.Owns q ∨ before.memory.blocks q = none
  elsewhere : ∀ {address}, (before.memory.slots address).mapped →
    ¬before.inOwn elements address →
    (after.memory.slots address).mapped ∧ ¬after.inOwn elements address
  constructions : before.memory.constructions ≤ after.memory.constructions

section Standing

variable {elements : Elements} {before middle after : Store α}

theorem Fits.mapped {memory : Memory α} {vector : Vector} (fits : Fits elements memory vector)
    (sound : Sound elements memory) :
    Mapped memory.slots vector.m_p vector.m_allocatedSize := by
  obtain ⟨_, none⟩ | ⟨_, roomy⟩ := fits.block
  · intro index bound
    omega
  · exact roomy.mapped sound

theorem Standing.elementsMapped (standing : Standing elements before) :
    Mapped before.memory.slots before.vector.m_p before.vector.m_dataSize :=
  fun index bound => standing.fits.mapped standing.sound index
    (Nat.lt_of_lt_of_le bound standing.fits.size)

/-- Only the heap gives out storage for elements with constructors. -/
theorem Standing.heap (standing : Standing elements before)
    (constructors : elements.constructorAllocator = true) :
    before.vector.m_AllocationManager.allocator = .heap := by
  have provided := standing.provided
  unfold Provided at provided
  cases allocator : before.vector.m_AllocationManager.allocator with
  | heap => rfl
  | keeper storage memorySize =>
      simp only [allocator] at provided
      rw [provided.1] at constructors
      cases constructors

theorem Standing.sizeInRange (standing : Standing elements before) :
    before.vector.m_dataSize < elements.sizeRange := by
  have size := standing.fits.size
  have small := standing.small
  have less := Nat.le_mul_of_pos_right before.vector.m_allocatedSize elements.size_pos
  omega

theorem Standing.ownBlock (standing : Standing elements before)
    (nonnull : before.vector.m_p ≠ 0) :
    ∃ bytes, before.memory.blocks before.vector.m_p = some bytes := by
  obtain ⟨null, _⟩ | ⟨_, bytes, held, _⟩ := standing.fits.block
  · exact absurd null nonnull
  · exact ⟨bytes, held⟩

theorem Standing.inOwn (standing : Standing elements before)
    (heap : before.vector.m_AllocationManager.allocator = .heap) {address : Nat}
    (inside : Within before.vector.m_p before.vector.m_allocatedSize address) :
    before.inOwn elements address := by
  obtain ⟨_, none⟩ | ⟨nonnull, bytes, held, room⟩ := standing.fits.block
  · unfold Within at inside
    omega
  · refine ⟨⟨heap, rfl, nonnull⟩, bytes, held, inside.1, ?_⟩
    exact Nat.lt_of_lt_of_le inside.2 (Nat.add_le_add_left
      ((Nat.le_div_iff_mul_le elements.size_pos).mpr room) _)

theorem Kept.refl (standing : Standing elements before) : Kept elements before before where
  standing := standing
  allocator := rfl
  others := fun held _ => held
  place := fun owns => .inl owns
  elsewhere := fun mapped outside => ⟨mapped, outside⟩
  constructions := Nat.le_refl _

theorem Kept.trans (first : Kept elements before middle)
    (second : Kept elements middle after) : Kept elements before after where
  standing := second.standing
  allocator := second.allocator.trans first.allocator
  others := by
    intro q bytes held free
    apply second.others (first.others held free)
    intro owns
    obtain owned | none := first.place owns
    · exact free owned
    · rw [none] at held
      cases held
  place := by
    intro q owns
    obtain owned | none := second.place owns
    · exact first.place owned
    · cases held : before.memory.blocks q with
      | none => exact .inr rfl
      | some bytes =>
          by_cases owned : before.vector.Owns q
          · exact .inl owned
          · rw [first.others held owned] at none
            cases none
  elsewhere := by
    intro address mapped outside
    obtain ⟨mappedNow, outsideNow⟩ := first.elsewhere mapped outside
    exact second.elsewhere mappedNow outsideNow
  constructions := Nat.le_trans first.constructions second.constructions

/-- Storage and the block stay, whatever happens to the elements. -/
theorem Kept.sameStorage {memory : Memory α} {n : Nat} (standing : Standing elements before)
    (same : SameStorage before.memory memory) (bound : n ≤ before.vector.m_allocatedSize) :
    Kept elements before ⟨memory, ⟨before.vector.m_p, n, before.vector.m_allocatedSize,
      before.vector.m_AllocationManager⟩⟩ where
  standing := by
    refine ⟨same.sound standing.sound, ⟨bound, ?_⟩,
      standing.provided.stays rfl fun _ _ _ held => by rw [same.blocks, held],
      standing.small⟩
    obtain none | ⟨nonnull, bytes, held, room⟩ := standing.fits.block
    · exact .inl none
    · exact .inr ⟨nonnull, bytes, by rw [same.blocks, held], room⟩
  allocator := rfl
  others := by
    intro q bytes held _
    rw [same.blocks, held]
  place := fun owns => .inl owns
  elsewhere := by
    intro address mapped outside
    refine ⟨by rwa [same.mapped], ?_⟩
    intro inside
    obtain ⟨owns, bytes, held, within⟩ := inside
    rw [same.blocks] at held
    exact outside ⟨owns, bytes, held, within⟩
  constructions := same.constructions

end Standing

section Freeing

variable {environment : Environment α} {manager : AllocationManager} {memory : Memory α}
  {p : Nat}

structure Freed (elements : Elements) (manager : AllocationManager)
    (before after : Memory α) (p : Nat) : Prop where
  sound : Sound elements after
  others : ∀ {q bytes}, before.blocks q = some bytes →
    ¬(manager.allocator = .heap ∧ q = p ∧ q ≠ 0) → after.blocks q = some bytes
  slots : ∀ {address}, ¬(manager.allocator = .heap ∧ p ≠ 0 ∧
      ∃ bytes, before.blocks p = some bytes ∧ Within p (elements.room bytes) address) →
    after.slots address = before.slots address
  constructions : after.constructions = before.constructions
  log : Grown (fun event => (manager.allocator = .heap ∧ p ≠ 0 ∧
      ∃ bytes, before.blocks p = some bytes ∧ Within p (elements.room bytes) event.address) ∧
      ((elements.constructorAllocator = true → ∀ {bytes}, before.blocks p = some bytes →
        ∀ index < elements.room bytes, (before.slots (p + index)).holds = false) →
        event.proper)) before.log after.log

theorem Freed.mapped {elements : Elements} {after : Memory α}
    (freed : Freed elements manager memory after p) {address : Nat}
    (mapped : (memory.slots address).mapped)
    (outside : ¬(manager.allocator = .heap ∧ p ≠ 0 ∧
      ∃ bytes, memory.blocks p = some bytes ∧ Within p (elements.room bytes) address)) :
    (after.slots address).mapped := by
  rw [freed.slots outside]
  exact mapped

variable (manager p) in
theorem deallocate_freed (sound : Sound environment.elements memory)
    (held : manager.allocator = .heap → p ≠ 0 → ∃ bytes, memory.blocks p = some bytes) :
    ∃ after, manager.deallocate environment p memory = .ok () after ∧
      Freed environment.elements manager memory after p := by
  have untouched : Freed environment.elements manager memory memory p :=
    ⟨sound, fun held _ => held, fun _ => rfl, rfl, Grown.refl _⟩
  unfold AllocationManager.deallocate
  cases allocator : manager.allocator with
  | keeper storage memorySize => exact ⟨memory, rfl, untouched⟩
  | heap =>
      by_cases null : p = 0
      · refine ⟨memory, ?_, untouched⟩
        unfold Allocator.deallocate
        dsimp only
        rw [if_pos null]
        rfl
      · obtain ⟨bytes, block⟩ := held allocator null
        refine ⟨_, Allocator.deallocate_block environment null block, sound.release block,
          ?_, ?_, rfl, ?_⟩
        · intro q others heldOther free
          rw [release_blocks]
          · exact heldOther
          · intro same
            exact free ⟨allocator, same, same ▸ null⟩
        · intro address outside
          rw [release_slots]
          intro inside
          exact outside ⟨allocator, null, bytes, block, inside⟩
        · refine ⟨forgottenIn environment memory p (environment.elements.room bytes), rfl, ?_⟩
          intro event member
          unfold forgottenIn at member
          cases constructors : environment.elements.constructorAllocator with
          | false =>
              rw [constructors] at member
              cases member
          | true =>
              rw [if_pos constructors] at member
              obtain ⟨index, chosen, same⟩ := List.mem_map.mp member
              obtain ⟨inside, holds⟩ := List.mem_filter.mp chosen
              rw [List.mem_range] at inside
              cases same
              refine ⟨⟨allocator, null, bytes, block, ?_⟩, ?_⟩
              · exact ⟨Nat.le_add_right p index, Nat.add_lt_add_left inside p⟩
              · intro empty
                rw [empty rfl block index inside] at holds
                cases holds

end Freeing

namespace Vector

variable {environment : Environment α}

section Settling

variable {store : Store α} {before middle after : Memory α} {p n : Nat}

/-- Where objects are made and destroyed: they are in the first slots of the block, and
nowhere else in it. -/
structure Filled (elements : Elements) (store : Store α) (memory : Memory α) : Prop where
  objects : elements.constructorAllocator = true →
    Objects memory.slots store.vector.m_p store.vector.m_dataSize
  spare : elements.constructorAllocator = true → ∀ {bytes},
    store.memory.blocks store.vector.m_p = some bytes →
    ∀ index < elements.room bytes, store.vector.m_dataSize ≤ index →
      (memory.slots (store.vector.m_p + index)).holds = false

structure Settled (elements : Elements) (store : Store α) (middle after : Memory α) :
    Prop where
  slots : ∀ {address}, ¬store.inOwn elements address →
    after.slots address = middle.slots address
  blocks : ∀ {q bytes}, middle.blocks q = some bytes → ¬store.vector.Owns q →
    after.blocks q = some bytes
  events : Grown (fun event => store.inOwn elements event.address ∧
    (Filled elements store middle → event.proper)) middle.log after.log

section Steps

variable {destroyed : Memory α} (standing : Standing environment.elements store)
  (space : NewSpace environment.elements store.vector.m_AllocationManager store.memory
    before p n)
  (same : SameStorage before middle)
  (vacated : Vacated environment (Filled environment.elements store middle) middle
    store.vector.m_p store.vector.m_dataSize destroyed)
  (freed : Freed environment.elements store.vector.m_AllocationManager destroyed after
    store.vector.m_p)

include space same vacated

theorem settle_held {q bytes : Nat} (block : store.memory.blocks q = some bytes) :
    destroyed.blocks q = some bytes := by
  rw [vacated.storage.blocks, same.blocks]
  exact space.blocks block

include standing

theorem settle_frees {address : Nat}
    (frees : store.vector.m_AllocationManager.allocator = .heap ∧ store.vector.m_p ≠ 0 ∧
      ∃ bytes, destroyed.blocks store.vector.m_p = some bytes ∧
        Within store.vector.m_p (environment.elements.room bytes) address) :
    store.inOwn environment.elements address := by
  obtain ⟨heap, nonnull, bytes, block, inside⟩ := frees
  obtain ⟨others, blockBefore⟩ := standing.ownBlock nonnull
  rw [settle_held space same vacated blockBefore] at block
  cases block
  exact ⟨⟨heap, rfl, nonnull⟩, bytes, blockBefore, inside⟩

/-- When the block is freed there are no objects in it, if they were the elements. -/
theorem settle_cleared (filled : Filled environment.elements store middle)
    (constructors : environment.elements.constructorAllocator = true) {bytes : Nat}
    (block : destroyed.blocks store.vector.m_p = some bytes) (index : Nat)
    (inside : index < environment.elements.room bytes) :
    (destroyed.slots (store.vector.m_p + index)).holds = false := by
  have nonnull : store.vector.m_p ≠ 0 := by
    intro null
    have unused := (same.trans vacated.storage).sound space.sound
    rw [null, unused.null] at block
    cases block
  obtain ⟨others, blockBefore⟩ := standing.ownBlock nonnull
  rw [settle_held space same vacated blockBefore] at block
  cases block
  rw [vacated.slots]
  by_cases element : index < store.vector.m_dataSize
  · have within : Within store.vector.m_p store.vector.m_dataSize
        (store.vector.m_p + index) := by
      unfold Within
      omega
    rw [if_pos ⟨constructors, nonnull, within⟩]
    rfl
  · have outside : ¬Within store.vector.m_p store.vector.m_dataSize
        (store.vector.m_p + index) := by
      unfold Within
      omega
    rw [if_neg fun within => outside within.2.2]
    exact filled.spare constructors blockBefore index inside (Nat.not_lt.mp element)

include freed

theorem settle_newBlock {bytes : Nat} (block : before.blocks p = some bytes) :
    after.blocks p = some bytes := by
  apply freed.others
  · rw [vacated.storage.blocks, same.blocks, block]
  · rintro ⟨heap, isOwn, nonnull⟩
    obtain ⟨others, blockBefore⟩ := standing.ownBlock (isOwn ▸ nonnull)
    have none := (space.fresh heap).1
    rw [isOwn, blockBefore] at none
    cases none

theorem settle_kept (enough : store.vector.m_dataSize ≤ n) :
    Kept environment.elements store
      ⟨after, ⟨p, store.vector.m_dataSize, n, store.vector.m_AllocationManager⟩⟩ := by
  have stays {q bytes : Nat} (block : store.memory.blocks q = some bytes)
      (free : ¬store.vector.Owns q) : after.blocks q = some bytes :=
    freed.others (settle_held space same vacated block) free
  have newBlock {bytes : Nat} : before.blocks p = some bytes → after.blocks p = some bytes :=
    settle_newBlock standing space same vacated freed
  refine ⟨⟨freed.sound, ⟨enough, .inr ⟨space.nonnull, ?_⟩⟩, ?_, space.small⟩, rfl, stays,
    ?_, ?_, ?_⟩
  · obtain ⟨bytes, block, room⟩ := space.roomy
    exact ⟨bytes, newBlock block, room⟩
  · exact standing.provided.stays rfl fun other _ _ block =>
      stays block fun owns => other owns.1
  · intro q owns
    right
    rw [owns.2.1]
    exact (space.fresh owns.1).1
  · intro address mapped outside
    constructor
    · apply freed.mapped
      · rw [vacated.storage.mapped, same.mapped]
        exact space.mapped mapped
      · exact fun frees => outside (settle_frees standing space same vacated frees)
    · rintro ⟨owns, bytes, block, inside⟩
      obtain ⟨others, blockBefore, _⟩ := space.roomy
      have blockAfter := newBlock blockBefore
      dsimp only at block inside
      rw [blockAfter] at block
      cases block
      rw [(space.fresh owns.1).2 blockBefore inside] at mapped
      cases mapped
  · show store.memory.constructions ≤ after.constructions
    rw [freed.constructions, ← space.constructions]
    exact Nat.le_trans same.constructions vacated.storage.constructions

theorem settle_settled
    (idle : environment.elements.constructorAllocator = false → destroyed = middle) :
    Settled environment.elements store middle after := by
  have inOwn (constructors : environment.elements.constructorAllocator = true) {address : Nat}
      (inside : Within store.vector.m_p store.vector.m_dataSize address) :
      store.inOwn environment.elements address :=
    standing.inOwn (standing.heap constructors) ⟨inside.1, Nat.lt_of_lt_of_le inside.2
      (Nat.add_le_add_left standing.fits.size _)⟩
  refine ⟨?_, ?_, ?_⟩
  · intro address outside
    rw [freed.slots, vacated.slots, if_neg]
    · exact fun inside => outside (inOwn inside.1 inside.2.2)
    · exact fun frees => outside (settle_frees standing space same vacated frees)
  · intro q others blockNow free
    apply freed.others
    · rw [vacated.storage.blocks, blockNow]
    · exact free
  · have emptied : Grown (fun event => store.inOwn environment.elements event.address ∧
        (Filled environment.elements store middle → event.proper))
          destroyed.log after.log := by
      apply freed.log.weaken
      rintro event ⟨frees, fine⟩
      exact ⟨settle_frees standing space same vacated frees,
        fun filled => fine (settle_cleared standing space same vacated filled)⟩
    refine Grown.trans ?_ emptied
    cases constructors : environment.elements.constructorAllocator with
    | true =>
        apply vacated.events.weaken
        intro event allowed
        exact ⟨inOwn constructors allowed.1, allowed.2⟩
    | false =>
        rw [idle constructors]
        exact Grown.refl _

end Steps

/-- The end of every function that takes another block: the old one is freed. -/
theorem settle (standing : Standing environment.elements store)
    (space : NewSpace environment.elements store.vector.m_AllocationManager store.memory
      before p n)
    (same : SameStorage before middle) (enough : store.vector.m_dataSize ≤ n) :
    ∃ after,
      ((onMemory (store.vector.m_AllocationManager.destroyAndDeallocate environment
          store.vector.m_p store.vector.m_dataSize) >>= fun _ => setPointer p :
          VProc α Unit)
        ⟨middle, ⟨store.vector.m_p, store.vector.m_dataSize, n,
          store.vector.m_AllocationManager⟩⟩) =
          .ok () ⟨after, ⟨p, store.vector.m_dataSize, n,
            store.vector.m_AllocationManager⟩⟩ ∧
      Kept environment.elements store
        ⟨after, ⟨p, store.vector.m_dataSize, n, store.vector.m_AllocationManager⟩⟩ ∧
      Settled environment.elements store middle after := by
  have elements : Mapped middle.slots store.vector.m_p store.vector.m_dataSize := by
    intro index bound
    rw [same.mapped]
    exact space.mapped (standing.elementsMapped index bound)
  obtain ⟨destroyed, ranDestroy, vacated⟩ :=
    destroyN_vacated environment elements fun constructors _ =>
      (fun filled : Filled environment.elements store middle => filled.objects constructors)
  obtain ⟨after, ranFree, freed⟩ := deallocate_freed store.vector.m_AllocationManager
    store.vector.m_p ((same.trans vacated.storage).sound space.sound)
    (by
      intro _ nonnull
      obtain ⟨bytes, block⟩ := standing.ownBlock nonnull
      exact ⟨bytes, settle_held space same vacated block⟩)
  have ran : store.vector.m_AllocationManager.destroyAndDeallocate environment
      store.vector.m_p store.vector.m_dataSize middle = .ok () after := by
    unfold AllocationManager.destroyAndDeallocate
    rw [bind_of_ok ranDestroy]
    exact ranFree
  refine ⟨after, ?_, settle_kept standing space same vacated freed enough,
    settle_settled standing space same vacated freed ?_⟩
  · rw [bind_of_ok (onMemory_of_ok ran)]
    rfl
  · intro raw
    have idle : destroyN environment store.vector.m_p store.vector.m_dataSize middle =
        .ok () middle := by
      unfold destroyN
      rw [raw]
      rfl
    rw [idle] at ranDestroy
    cases ranDestroy
    rfl

end Settling

section Space

variable {elements : Elements} {manager : AllocationManager} {before after : Memory α}
  {p n q k offset m : Nat}

theorem newSpace_apart (space : NewSpace elements manager before after p n)
    (heap : manager.allocator = .heap) (bound : offset + m ≤ n)
    (mapped : Mapped before.slots q k) : Apart (p + offset) m q k := by
  intro address inside other
  have unmapped := space.unmapped heap (within_offset bound inside)
  have stored := mapped (address - q) (by unfold Within at other; omega)
  rw [Nat.add_sub_cancel' other.1, unmapped] at stored
  cases stored

theorem newSpace_movable {store : Store α} (standing : Standing elements store)
    (space : NewSpace elements store.vector.m_AllocationManager store.memory after p n)
    (enough : k ≤ n) (stored : k ≤ store.vector.m_allocatedSize) :
    OctetsMovable elements p store.vector.m_p k where
  fits := Nat.lt_of_le_of_lt (Nat.mul_le_mul_right _ stored) standing.small
  apart := by
    have own := standing.fits.mapped standing.sound
    have ownElements : Mapped store.memory.slots store.vector.m_p k :=
      fun index bound => own index (Nat.lt_of_lt_of_le bound stored)
    by_cases heap : store.vector.m_AllocationManager.allocator = .heap
    · right
      apply overlap_of_apart
      exact newSpace_apart space heap (show 0 + k ≤ n by rwa [Nat.zero_add]) ownElements
    · by_cases same : p = store.vector.m_p
      · exact .inl same
      · right
        obtain ⟨none, empty⟩ | ⟨_, roomy⟩ := standing.fits.block
        · rw [show k = 0 by omega]
          simp [areRegionsOverlap]
        · have whole := space.roomy
          rw [(space.kept heap).1] at whole
          exact overlap_of_apart
            ((whole.less enough).apart (roomy.less stored) standing.sound same)

end Space

section Growth

/-- What growing needs to succeed, if a block can be had: a request that does not wrap
and elements that let themselves be moved. -/
def GrowthAllowed (environment : Environment α) (store : Store α) (strict : Bool)
    (needed : Nat) : Prop :=
  store.vector.m_allocatedSize < needed →
    (if strict then
      needed * environment.elements.size < environment.elements.sizeRange
    else
      store.vector.m_AllocationManager.RequestFits environment.elements needed) ∧
    Accepted environment store.memory store.vector.m_dataSize

structure Spacious (elements : Elements) (needed : Nat) (before after : Store α) :
    Prop where
  kept : Kept elements before after
  size : after.vector.m_dataSize = before.vector.m_dataSize
  manager : after.vector.m_AllocationManager = before.vector.m_AllocationManager
  enough : needed ≤ after.vector.m_allocatedSize
  stays : needed ≤ before.vector.m_allocatedSize → after = before
  storage : before.vector.m_allocatedSize < needed →
    ∀ {storage memorySize},
      before.vector.m_AllocationManager.allocator = .keeper storage memorySize →
      after.vector.m_p = storage

structure NoSpace (elements : Elements) (before after : Store α) : Prop where
  kept : Kept elements before after
  vector : after.vector = before.vector
  slots : after.memory.slots = before.memory.slots

variable {store : Store α} {needed : Nat}

theorem Spacious.inRange {after : Store α}
    (spacious : Spacious environment.elements needed store after) :
    needed < environment.elements.sizeRange := by
  have small := spacious.kept.standing.small
  have counted := Nat.le_mul_of_pos_right after.vector.m_allocatedSize
    environment.elements.size_pos
  have enough := spacious.enough
  omega

theorem Spacious.refl (standing : Standing environment.elements store)
    (enough : needed ≤ store.vector.m_allocatedSize) :
    Spacious environment.elements needed store store where
  kept := Kept.refl standing
  size := rfl
  manager := rfl
  enough := enough
  stays := fun _ => rfl
  storage := fun grows => absurd enough (Nat.not_le.mpr grows)

theorem noSpace_of_untouched (standing : Standing environment.elements store)
    {after : Memory α} (untouched : Untouched store.memory after) :
    NoSpace environment.elements store ⟨after, store.vector⟩ where
  kept := by
    refine ⟨⟨untouched.sound standing.sound, ⟨standing.fits.size, ?_⟩,
      standing.provided.stays rfl fun _ _ _ held => by rw [untouched.blocks, held],
      standing.small⟩, rfl, ?_, fun owns => .inl owns, ?_,
      Nat.le_of_eq untouched.constructions.symm⟩
    · obtain none | ⟨nonnull, bytes, held, room⟩ := standing.fits.block
      · exact .inl none
      · exact .inr ⟨nonnull, bytes, by rw [untouched.blocks, held], room⟩
    · intro q bytes held _
      rw [untouched.blocks, held]
    · intro address mapped outside
      refine ⟨by rwa [untouched.slots], ?_⟩
      intro inside
      obtain ⟨owns, bytes, held, within⟩ := inside
      rw [untouched.blocks] at held
      exact outside ⟨owns, bytes, held, within⟩
  vector := rfl
  slots := untouched.slots

theorem newBlock_supplied (standing : Standing environment.elements store) {strict : Bool}
    (fits : if strict then
        needed * environment.elements.size < environment.elements.sizeRange
      else store.vector.m_AllocationManager.RequestFits environment.elements needed) :
    Ended (AllocationManager.Supplied environment.elements store.vector.m_AllocationManager
        needed store.memory)
      (fun _ _ => False)
      (newBlock environment store.vector.m_AllocationManager strict needed
        store.memory) := by
  cases strict with
  | true =>
      apply Ended.bind (AllocationManager.allocateStrict_supplied standing.sound
        standing.provided fits)
      intro p after supplied
      exact supplied
  | false =>
      apply (AllocationManager.allocate_supplied standing.sound standing.provided fits).weaken
      · intro answer after supplied
        exact supplied.1
      · intro _ _ impossible
        exact impossible

theorem relocate_done (standing : Standing environment.elements store) {before : Memory α}
    {p n : Nat}
    (space : NewSpace environment.elements store.vector.m_AllocationManager store.memory
      before p n)
    (enough : store.vector.m_dataSize ≤ n)
    (accepted : Accepted environment store.memory store.vector.m_dataSize) :
    ∃ after, relocate environment p n ⟨before, store.vector⟩ =
        .ok () ⟨after, ⟨p, store.vector.m_dataSize, n,
          store.vector.m_AllocationManager⟩⟩ ∧
      Kept environment.elements store
        ⟨after, ⟨p, store.vector.m_dataSize, n, store.vector.m_AllocationManager⟩⟩ := by
  have elements : Mapped before.slots store.vector.m_p store.vector.m_dataSize := by
    intro index bound
    exact space.mapped (standing.elementsMapped index bound)
  obtain ⟨moved, ran, same, _⟩ := transferToRawNoOverlap_accepted environment .move
    (fun _ => newSpace_movable standing space enough standing.fits.size)
    (fun index bound => space.roomy.mapped space.sound index
      (Nat.lt_of_lt_of_le bound enough))
    elements
    (accepted.later (show 0 + _ ≤ _ by omega) (fun _ => space.constructions))
  obtain ⟨after, settled, kept, _⟩ := settle standing space same enough
  refine ⟨after, ?_, kept⟩
  unfold relocate
  rw [bind_of_ok (setAllocatedSize_apply n), bind_of_ok (get_apply _)]
  dsimp only
  rw [bind_of_ok (onFailure_of_ok (onMemory_of_ok ran))]
  exact settled

theorem reserveInternal_spacious (standing : Standing environment.elements store)
    (strict : Bool) (allowed : GrowthAllowed environment store strict needed) :
    Ended (fun _ => Spacious environment.elements needed store)
      (fun fault after => fault = .status .errorNoMemory ∧
        NoSpace environment.elements store after)
      (reserveInternal environment needed strict store) := by
  unfold reserveInternal
  rw [bind_of_ok (get_apply store)]
  dsimp only
  by_cases grows : store.vector.m_allocatedSize < needed
  · rw [if_pos grows]
    obtain ⟨fits, accepted⟩ := allowed grows
    apply Ended.bind
    · apply (onMemory_ended (newBlock_supplied standing fits)).weaken
      · intro answer after supplied
        exact supplied
      · intro _ _ impossible
        exact impossible.1.elim
    · intro answer middle supplied
      obtain ⟨p, n⟩ := answer
      obtain ⟨memory, vector⟩ := middle
      obtain ⟨⟨null, untouched⟩ | ⟨nonnull, enough, space⟩, same⟩ := supplied
      · cases same
        cases null
        exact ⟨rfl, noSpace_of_untouched standing untouched⟩
      · cases same
        dsimp only at nonnull enough space ⊢
        rw [if_pos nonnull]
        have bound : store.vector.m_dataSize ≤ n := by
          have size := standing.fits.size
          omega
        obtain ⟨after, ran, kept⟩ := relocate_done standing space bound accepted
        rw [ran]
        refine ⟨kept, rfl, rfl, enough, fun fits => absurd fits (Nat.not_le.mpr grows), ?_⟩
        intro _ storage memorySize keeper
        have other : store.vector.m_AllocationManager.allocator ≠ .heap := by
          rw [keeper]
          exact fun same => by cases same
        obtain ⟨_, size, isKeeper, _⟩ := space.kept other
        rw [keeper] at isKeeper
        cases isKeeper
        rfl
  · rw [if_neg grows]
    exact Spacious.refl standing (Nat.not_lt.mp grows)

theorem addSpaceIfNeed_spacious (standing : Standing environment.elements store) {n : Nat}
    (inRange : n < environment.elements.sizeRange)
    (allowed : store.vector.m_dataSize + n < environment.elements.sizeRange →
      GrowthAllowed environment store false (store.vector.m_dataSize + n)) :
    Ended (fun _ => Spacious environment.elements (store.vector.m_dataSize + n) store)
      (fun fault after => (fault = .status .errorNoMemory ∨ fault = .status .errorOverflow) ∧
        NoSpace environment.elements store after)
      (addSpaceIfNeed environment n store) := by
  unfold addSpaceIfNeed
  rw [bind_of_ok (get_apply store)]
  by_cases wraps : store.vector.m_dataSize + n < environment.elements.sizeRange
  · rw [Nat.mod_eq_of_lt wraps, if_pos (Nat.le_add_right _ n)]
    by_cases grows : store.vector.m_allocatedSize < store.vector.m_dataSize + n
    · rw [if_pos grows]
      apply (reserveInternal_spacious standing false (allowed wraps)).weaken
      · intro _ after spacious
        exact spacious
      · intro fault after failed
        exact ⟨.inl failed.1, failed.2⟩
    · rw [if_neg grows]
      exact Spacious.refl standing (Nat.not_lt.mp grows)
  · rw [if_neg]
    · exact ⟨.inr rfl, noSpace_of_untouched standing ⟨rfl, rfl, rfl, rfl⟩⟩
    · intro noWrap
      have modulo := Nat.div_add_mod (store.vector.m_dataSize + n)
        environment.elements.sizeRange
      have positive : 0 < (store.vector.m_dataSize + n) / environment.elements.sizeRange :=
        Nat.div_pos (Nat.not_lt.mp wraps) environment.elements.sizeRange_pos
      have turns := Nat.mul_le_mul_left environment.elements.sizeRange positive
      omega

end Growth

section Managers

/-- Only `init` changes the manager of a vector. -/
theorem onMemory_manager (proc : MProc α β) : Preserves Store.manager (onMemory proc) :=
  Preserves.onPart fun _ => rfl

theorem setters_manager (n : Nat) :
    Preserves Store.manager (setPointer n : VProc α Unit) ∧
      Preserves Store.manager (setDataSize n : VProc α Unit) ∧
      Preserves Store.manager (setAllocatedSize n : VProc α Unit) :=
  ⟨Preserves.modify fun _ => rfl, Preserves.modify fun _ => rfl,
    Preserves.modify fun _ => rfl⟩

variable (environment) in
theorem reserveInternal_manager (n : Nat) (strict : Bool) :
    Preserves Store.manager (reserveInternal environment n strict) := by
  apply Preserves.get_bind
  intro store
  apply Preserves.ite
  · intro _
    apply Preserves.bind (onMemory_manager _)
    intro answer
    apply Preserves.ite
    · intro _
      apply Preserves.bind (setters_manager _).2.2
      intro _
      apply Preserves.get_bind
      intro before
      apply Preserves.bind
      · apply onFailure_preserves (onMemory_manager _)
        exact Preserves.bind (setters_manager _).2.1 fun _ => onMemory_manager _
      · intro _
        exact Preserves.bind (onMemory_manager _) fun _ => (setters_manager _).1
    · intro _
      exact Preserves.throw _
  · intro _
    exact Preserves.pure ()

variable (environment) in
theorem addSpaceIfNeed_manager (n : Nat) :
    Preserves Store.manager (addSpaceIfNeed environment n) := by
  apply Preserves.get_bind
  intro store
  apply Preserves.ite
  · intro _
    apply Preserves.ite
    · intro _
      exact reserveInternal_manager environment _ _
    · intro _
      exact Preserves.pure ()
  · intro _
    exact Preserves.throw _

variable (environment) in
theorem append_manager (n : Nat) (fill : Vector → MProc α Unit) :
    Preserves Store.manager (append environment n fill) := by
  apply Preserves.bind
  · exact addSpaceIfNeed_manager environment n
  · intro _
    apply Preserves.get_bind
    intro store
    exact Preserves.bind (onMemory_manager _) fun _ => (setters_manager _).2.1

end Managers

/-- A call has returned, with a value or a status, and it is known what size it leaves
in either case. -/
def EndsKept (elements : Elements) (store : Store α) (good bad : Nat → Prop)
    (result : EStateM.Result Fault (Store α) β) : Prop :=
  Ended (fun _ after => Kept elements store after ∧ good after.vector.m_dataSize)
    (fun fault after => (∃ status, fault = .status status) ∧ Kept elements store after ∧
      bad after.vector.m_dataSize) result

section Ends

variable {store : Store α} {good bad : Nat → Prop} {proc : MProc α β}

theorem endsKept_onMemory (standing : Standing environment.elements store)
    (kept : KeptBy store.memory (proc store.memory)) {next : β → VProc α γ}
    (failed : bad store.vector.m_dataSize)
    (later : ∀ value memory, SameStorage store.memory memory →
      EndsKept environment.elements store good bad (next value ⟨memory, store.vector⟩)) :
    EndsKept environment.elements store good bad ((onMemory proc >>= next) store) := by
  cases ran : proc store.memory with
  | ok value memory =>
      rw [bind_of_ok (onMemory_of_ok ran)]
      rw [ran] at kept
      exact later value memory kept
  | error fault memory =>
      rw [bind_of_error (onMemory_of_error ran)]
      rw [ran] at kept
      cases fault with
      | status status =>
          exact ⟨⟨status, rfl⟩, Kept.sameStorage standing kept standing.fits.size, failed⟩
      | exception => exact kept.elim
      | undefinedBehaviour => exact kept.elim
      | outOfFuel => exact kept.elim

theorem endsKept_ok (standing : Standing environment.elements store)
    {memory : Memory α} (same : SameStorage store.memory memory) {n : Nat}
    (bound : n ≤ store.vector.m_allocatedSize) (holds : good n) (value : β) :
    EndsKept environment.elements store good bad (.ok value ⟨memory, ⟨store.vector.m_p, n,
      store.vector.m_allocatedSize, store.vector.m_AllocationManager⟩⟩) :=
  ⟨Kept.sameStorage standing same bound, holds⟩

theorem endsKept_fail (standing : Standing environment.elements store)
    (holds : bad store.vector.m_dataSize) (status : Status) :
    EndsKept environment.elements store good bad
      ((fail status : VProc α β) store) :=
  ⟨⟨status, rfl⟩, Kept.refl standing, holds⟩

end Ends

section Tail

variable {store : Store α} {n : Nat}

theorem append_kept (standing : Standing environment.elements store)
    (inRange : n < environment.elements.sizeRange)
    (allowed : store.vector.m_dataSize + n < environment.elements.sizeRange →
      GrowthAllowed environment store false (store.vector.m_dataSize + n))
    {fill : Vector → MProc α Unit}
    (filled : ∀ after,
      Spacious environment.elements (store.vector.m_dataSize + n) store after →
      KeptBy after.memory (fill after.vector after.memory)) :
    EndsKept environment.elements store (· = store.vector.m_dataSize + n)
      (· = store.vector.m_dataSize) (append environment n fill store) := by
  unfold append
  apply Ended.bind ((addSpaceIfNeed_spacious standing inRange allowed).weaken
    (fun _ _ spacious => spacious) ?_)
  · intro _ middle spacious
    have ended : EndsKept environment.elements middle (· = store.vector.m_dataSize + n)
        (· = store.vector.m_dataSize) ((onMemory (fill middle.vector) >>= fun _ =>
          setDataSize (middle.vector.m_dataSize + n)) middle) := by
      apply endsKept_onMemory spacious.kept.standing (filled middle spacious) spacious.size
      intro _ memory same
      rw [setDataSize_apply, spacious.size]
      apply endsKept_ok spacious.kept.standing same spacious.enough
      rfl
    apply ended.weaken
    · intro _ after last
      exact ⟨spacious.kept.trans last.1, last.2⟩
    · intro fault after last
      exact ⟨last.1, spacious.kept.trans last.2.1, last.2.2⟩
  · intro fault after failed
    refine ⟨?_, failed.2.kept, by rw [failed.2.vector]⟩
    obtain same | same := failed.1
    · exact ⟨_, same⟩
    · exact ⟨_, same⟩

/-- Octets that come from outside find the place they go to out of their way. -/
structure Unobstructed (environment : Environment α) (store : Store α)
    (needed offset p n : Nat) : Prop where
  fits : n * environment.elements.size < environment.elements.sizeRange
  here : needed ≤ store.vector.m_allocatedSize →
    store.vector.m_p + offset = p ∨
      areRegionsOverlap (store.vector.m_p + offset) p n = false
  there : store.vector.m_allocatedSize < needed → ∀ storage memorySize,
    store.vector.m_AllocationManager.allocator = .keeper storage memorySize →
    storage + offset = p ∨ areRegionsOverlap (storage + offset) p n = false

/-- Elements that can be appended: they are not in a block that has to go first. -/
structure TailSource (environment : Environment α) (store : Store α) (p n : Nat) :
    Prop where
  mapped : Mapped store.memory.slots p n
  outlives : store.vector.m_allocatedSize < store.vector.m_dataSize + n →
    ∀ index < n, ¬store.inOwn environment.elements (p + index)
  unobstructed : environment.elements.constructorAllocator = false →
    Unobstructed environment store (store.vector.m_dataSize + n) store.vector.m_dataSize p n

variable {p : Nat} {middle : Store α}

theorem TailSource.readable (source : TailSource environment store p n)
    (spacious : Spacious environment.elements (store.vector.m_dataSize + n) store middle) :
    Mapped middle.memory.slots p n := by
  intro index bound
  by_cases grows : store.vector.m_allocatedSize < store.vector.m_dataSize + n
  · exact (spacious.kept.elsewhere (source.mapped index bound)
      (source.outlives grows index bound)).1
  · rw [spacious.stays (Nat.not_lt.mp grows)]
    exact source.mapped index bound

theorem TailSource.movable (source : TailSource environment store p n)
    (spacious : Spacious environment.elements (store.vector.m_dataSize + n) store middle)
    (raw : environment.elements.constructorAllocator = false) :
    OctetsMovable environment.elements (middle.vector.m_p + middle.vector.m_dataSize) p n := by
  have unobstructed := source.unobstructed raw
  refine ⟨unobstructed.fits, ?_⟩
  rw [spacious.size]
  by_cases grows : store.vector.m_allocatedSize < store.vector.m_dataSize + n
  · cases allocator : store.vector.m_AllocationManager.allocator with
    | keeper storage memorySize =>
        rw [spacious.storage grows allocator]
        exact unobstructed.there grows storage memorySize allocator
    | heap =>
        right
        apply overlap_of_apart
        intro address inside other
        have bound : address - p < n := by
          unfold Within at other
          omega
        have stored := spacious.kept.elsewhere (source.mapped (address - p) bound)
          (source.outlives grows (address - p) bound)
        rw [Nat.add_sub_cancel' other.1] at stored
        apply stored.2
        apply spacious.kept.standing.inOwn
        · rw [spacious.kept.allocator]
          exact allocator
        · exact within_offset spacious.enough inside
  · have stays := spacious.stays (Nat.not_lt.mp grows)
    rw [stays]
    exact unobstructed.here (Nat.not_lt.mp grows)

theorem Spacious.tail
    (spacious : Spacious environment.elements (store.vector.m_dataSize + n) store middle) :
    Mapped middle.memory.slots (middle.vector.m_p + middle.vector.m_dataSize) n := by
  intro index bound
  rw [Nat.add_assoc, spacious.size]
  apply spacious.kept.standing.fits.mapped spacious.kept.standing.sound
  have enough := spacious.enough
  omega

theorem construct_kept (manager : AllocationManager) {memory : Memory α} {address : Nat}
    (mapped : (memory.slots address).mapped) (value : Option α) :
    KeptBy memory (manager.construct environment address value memory) := by
  cases allocator : manager.allocator with
  | heap => exact AllocationManager.construct_kept allocator mapped value
  | keeper storage memorySize =>
      unfold AllocationManager.construct Allocator.construct
      rw [allocator]
      dsimp only
      split
      · exact SameStorage.refl memory
      · exact write_kept mapped value

structure PushAllowed (environment : Environment α) (store : Store α) (p : Nat) : Prop where
  growth : GrowthAllowed environment store false (store.vector.m_dataSize + 1)
  mapped : (store.memory.slots p).mapped
  outlives : store.vector.m_allocatedSize < store.vector.m_dataSize + 1 →
    ¬store.inOwn environment.elements p

theorem pushBack_kept (standing : Standing environment.elements store)
    (inRange : 1 < environment.elements.sizeRange)
    (allowed : store.vector.m_dataSize + 1 < environment.elements.sizeRange →
      PushAllowed environment store p) :
    EndsKept environment.elements store (· = store.vector.m_dataSize + 1)
      (· = store.vector.m_dataSize) (pushBack environment p store) := by
  apply append_kept standing inRange fun noWrap => (allowed noWrap).growth
  intro after spacious
  obtain ⟨_, mapped, outlives⟩ := allowed spacious.inRange
  have readable : (after.memory.slots p).mapped := by
    by_cases grows : store.vector.m_allocatedSize < store.vector.m_dataSize + 1
    · exact (spacious.kept.elsewhere mapped (outlives grows)).1
    · rw [spacious.stays (Nat.not_lt.mp grows)]
      exact mapped
  apply KeptBy.bind (take_kept readable)
  intro value memory same
  apply construct_kept
  rw [same.mapped]
  exact spacious.tail 0 Nat.one_pos

structure AppendAllowed (environment : Environment α) (store : Store α) (p n : Nat) :
    Prop where
  growth : GrowthAllowed environment store false (store.vector.m_dataSize + n)
  source : TailSource environment store p n

theorem pushBackMove_kept (standing : Standing environment.elements store)
    (inRange : 1 < environment.elements.sizeRange)
    (allowed : store.vector.m_dataSize + 1 < environment.elements.sizeRange →
      AppendAllowed environment store p 1) :
    EndsKept environment.elements store (· = store.vector.m_dataSize + 1)
      (· = store.vector.m_dataSize) (pushBackMove environment p store) := by
  apply append_kept standing inRange fun noWrap => (allowed noWrap).growth
  intro after spacious
  have source := (allowed spacious.inRange).source
  exact transferToRawNoOverlap_kept .move (source.movable spacious) spacious.tail
    (source.readable spacious)

theorem pushBackN_kept (standing : Standing environment.elements store)
    (inRange : n < environment.elements.sizeRange)
    (allowed : ¬(p = 0 ∧ n ≠ 0) →
      store.vector.m_dataSize + n < environment.elements.sizeRange →
      AppendAllowed environment store p n) :
    EndsKept environment.elements store (· = store.vector.m_dataSize + n)
      (· = store.vector.m_dataSize) (pushBackN environment p n store) := by
  unfold pushBackN
  split
  · apply endsKept_fail standing
    rfl
  · rename_i valid
    apply append_kept standing inRange fun noWrap => (allowed valid noWrap).growth
    intro after spacious
    have source := (allowed valid spacious.inRange).source
    exact transferToRawNoOverlap_kept .copy (source.movable spacious) spacious.tail
      (source.readable spacious)

theorem writeAll_kept {memory : Memory α} {octets : List α}
    (mapped : Mapped memory.slots p octets.length) :
    KeptBy memory (writeAll p octets memory) := by
  induction octets generalizing p memory with
  | nil => exact SameStorage.refl memory
  | cons octet octets hypothesis =>
      apply KeptBy.bind (write_kept (mapped 0 (Nat.succ_pos _)) _)
      intro _ middle same
      apply hypothesis
      intro index bound
      rw [same.mapped, Nat.add_right_comm]
      exact mapped (index + 1) (Nat.succ_lt_succ bound)

theorem pushBackArithmeticValue_kept (standing : Standing environment.elements store)
    {value : List α} (inRange : value.length < environment.elements.sizeRange)
    (allowed : store.vector.m_dataSize + value.length < environment.elements.sizeRange →
      GrowthAllowed environment store false (store.vector.m_dataSize + value.length)) :
    EndsKept environment.elements store (· = store.vector.m_dataSize + value.length)
      (· = store.vector.m_dataSize) (pushBackArithmeticValue environment value store) := by
  apply append_kept standing inRange allowed
  intro after spacious
  exact writeAll_kept spacious.tail

theorem emplaceBack_kept (standing : Standing environment.elements store)
    (inRange : 1 < environment.elements.sizeRange)
    (allowed : store.vector.m_dataSize + 1 < environment.elements.sizeRange →
      GrowthAllowed environment store false (store.vector.m_dataSize + 1))
    (value : Option α) :
    EndsKept environment.elements store (· = store.vector.m_dataSize + 1)
      (· = store.vector.m_dataSize) (emplaceBack environment value store) := by
  apply append_kept standing inRange allowed
  intro after spacious
  exact construct_kept _ (spacious.tail 0 Nat.one_pos) value

end Tail

section Sizes

variable {store : Store α} {n : Nat}

theorem reserveInternal_kept (standing : Standing environment.elements store)
    (strict : Bool) (allowed : GrowthAllowed environment store strict n) :
    EndsKept environment.elements store (· = store.vector.m_dataSize)
      (· = store.vector.m_dataSize) (reserveInternal environment n strict store) := by
  apply (reserveInternal_spacious standing strict allowed).weaken
  · intro _ after spacious
    exact ⟨spacious.kept, spacious.size⟩
  · intro fault after failed
    exact ⟨⟨_, failed.1⟩, failed.2.kept, by rw [failed.2.vector]⟩

theorem setSize_kept (standing : Standing environment.elements store)
    (allowed : GrowthAllowed environment store false n) :
    EndsKept environment.elements store (· = n) (· = store.vector.m_dataSize)
      (setSize environment n store) := by
  apply Ended.bind ((reserveInternal_spacious standing false allowed).weaken
    (fun _ _ spacious => spacious) ?_)
  · intro _ middle spacious
    exact ⟨spacious.kept.trans (Kept.sameStorage spacious.kept.standing
      (SameStorage.refl middle.memory) spacious.enough), rfl⟩
  · intro fault after failed
    exact ⟨⟨_, failed.1⟩, failed.2.kept, by rw [failed.2.vector]⟩

theorem clear_of_destroyN {after : Memory α}
    (ran : destroyN environment store.vector.m_p store.vector.m_dataSize store.memory =
      .ok () after) :
    clear environment store =
      .ok () ⟨after, ⟨store.vector.m_p, 0, store.vector.m_allocatedSize,
        store.vector.m_AllocationManager⟩⟩ := by
  unfold clear
  rw [bind_of_ok (get_apply store), bind_of_ok (onMemory_of_ok ran)]
  rfl

variable (environment) in
theorem clear_kept (standing : Standing environment.elements store) :
    ∃ after, clear environment store =
        .ok () ⟨after, ⟨store.vector.m_p, 0, store.vector.m_allocatedSize,
          store.vector.m_AllocationManager⟩⟩ ∧
      SameStorage store.memory after := by
  obtain ⟨after, ran, same, _⟩ :=
    destroyN_done environment standing.elementsMapped
  exact ⟨after, clear_of_destroyN ran, same⟩

variable (environment) in
theorem destroyAndDeallocate_kept (standing : Standing environment.elements store) :
    ∃ after, store.vector.m_AllocationManager.destroyAndDeallocate environment
        store.vector.m_p store.vector.m_dataSize store.memory = .ok () after ∧
      Kept environment.elements store ⟨after, empty store.vector.m_AllocationManager⟩ := by
  obtain ⟨cleared, ranClear, same, _⟩ :=
    destroyN_done environment standing.elementsMapped
  have own : store.vector.m_p ≠ 0 → ∃ bytes, cleared.blocks store.vector.m_p = some bytes := by
    intro nonnull
    rw [same.blocks]
    exact standing.ownBlock nonnull
  obtain ⟨after, ranFree, freed⟩ := deallocate_freed store.vector.m_AllocationManager
    store.vector.m_p (same.sound standing.sound) fun _ => own
  refine ⟨after, (bind_of_ok ranClear).trans ranFree, ?_, rfl, ?_, ?_, ?_, ?_⟩
  · refine ⟨freed.sound, ⟨Nat.le_refl 0, .inl ⟨rfl, rfl⟩⟩, ?_, ?_⟩
    · apply standing.provided.stays rfl
      intro other q bytes held
      apply freed.others
      · rw [same.blocks, held]
      · exact fun frees => other frees.1
    · show 0 * environment.elements.size < environment.elements.sizeRange
      rw [Nat.zero_mul]
      exact environment.elements.sizeRange_pos
  · intro q bytes held free
    apply freed.others
    · rw [same.blocks, held]
    · exact free
  · intro q owns
    exact absurd owns.2.1 owns.2.2
  · intro address mapped outside
    refine ⟨?_, fun inside => inside.1.2.2 rfl⟩
    apply freed.mapped
    · rwa [same.mapped]
    · intro frees
      obtain ⟨heap, nonnull, bytes, held, inside⟩ := frees
      rw [same.blocks] at held
      exact outside ⟨⟨heap, rfl, nonnull⟩, bytes, held, inside⟩
  · show store.memory.constructions ≤ after.constructions
    rw [freed.constructions]
    exact same.constructions

variable (environment) in
theorem invalidate_kept (standing : Standing environment.elements store) :
    ∃ after, invalidate environment store =
        .ok () ⟨after, empty store.vector.m_AllocationManager⟩ ∧
      Kept environment.elements store ⟨after, empty store.vector.m_AllocationManager⟩ := by
  obtain ⟨after, ran, kept⟩ := destroyAndDeallocate_kept environment standing
  obtain ⟨_, cleared, ranClear, ranFree⟩ := bind_eq_ok ran
  refine ⟨after, ?_, kept⟩
  unfold invalidate
  rw [bind_of_ok (clear_of_destroyN ranClear), bind_of_ok (get_apply _),
    bind_of_ok (onMemory_of_ok ranFree)]
  rfl

variable (environment) in
theorem release_kept (standing : Standing environment.elements store) :
    ∃ after, release store = .ok store.vector.m_p after ∧
      Kept environment.elements store after ∧ after.vector.m_dataSize = 0 := by
  refine ⟨_, rfl, ⟨⟨standing.sound, ⟨Nat.le_refl 0, .inl ⟨rfl, rfl⟩⟩, standing.provided, ?_⟩,
    rfl, fun held _ => held, ?_, ?_, Nat.le_refl _⟩, rfl⟩
  · show 0 * environment.elements.size < environment.elements.sizeRange
    rw [Nat.zero_mul]
    exact environment.elements.sizeRange_pos
  · intro q owns
    exact absurd owns.2.1 owns.2.2
  · intro address mapped _
    exact ⟨mapped, fun inside => inside.1.2.2 rfl⟩

end Sizes

end Vector

end CommonSerialization.Containers
