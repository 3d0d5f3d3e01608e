import CommonSerialization.Containers.AllocationContract

namespace CommonSerialization.Containers

open StateExcept Storage

/-! Memory whose blocks are whole and apart, and what of it stays when one block comes
and another one goes. -/

section Overlaps

variable {first second n : Nat}

theorem overlap_of_apart (apart : Apart first n second n) :
    areRegionsOverlap first second n = false := by
  have none := apart first
  have noneOther := apart second
  unfold Within at none noneOther
  simp only [areRegionsOverlap, Bool.or_eq_false_iff, Bool.and_eq_false_iff,
    decide_eq_false_iff_not]
  omega

end Overlaps

/-- Every slot of a block is storage, and no slot belongs to two blocks. -/
structure Sound (elements : Elements) (memory : Memory α) : Prop where
  null : memory.blocks 0 = none
  mapped : ∀ {p bytes}, memory.blocks p = some bytes →
    Mapped memory.slots p (elements.room bytes)
  apart : ∀ {p bytes q others}, memory.blocks p = some bytes →
    memory.blocks q = some others → p ≠ q →
    Apart p (elements.room bytes) q (elements.room others)

section Soundness

variable {elements : Elements} {before after : Memory α} {p n bytes : Nat}

theorem Sound.empty : Sound elements (Memory.empty : Memory α) where
  null := rfl
  mapped := by
    intro p bytes held
    cases held
  apart := by
    intro p bytes q others held
    cases held

theorem Sound.single (only : before.blocks = Function.update (fun _ => none) p (some bytes))
    (nonnull : p ≠ 0) (mapped : Mapped before.slots p (elements.room bytes)) :
    Sound elements before where
  null := by rw [only, Function.update_of_ne nonnull.symm]
  mapped := by
    intro q others held
    by_cases same : q = p
    · rw [only, same, Function.update_self] at held
      cases held
      rwa [same]
    · rw [only, Function.update_of_ne same] at held
      cases held
  apart := by
    intro q others r more held heldOther differ
    have isOnly {s left : Nat} (block : before.blocks s = some left) : s = p := by
      by_contra other
      rw [only, Function.update_of_ne other] at block
      cases block
    exact absurd ((isOnly held).trans (isOnly heldOther).symm) differ

theorem SameStorage.sound (same : SameStorage before after)
    (sound : Sound elements before) : Sound elements after where
  null := by
    rw [same.blocks]
    exact sound.null
  mapped := by
    intro p bytes held
    rw [same.blocks] at held
    exact same.mappedRange (sound.mapped held)
  apart := by
    intro p bytes q others held heldOther
    rw [same.blocks] at held heldOther
    exact sound.apart held heldOther

theorem Untouched.sound (untouched : Untouched before after)
    (sound : Sound elements before) : Sound elements after where
  null := by
    rw [untouched.blocks]
    exact sound.null
  mapped := by
    intro p bytes held
    rw [untouched.blocks] at held
    rw [untouched.slots]
    exact sound.mapped held
  apart := by
    intro p bytes q others held heldOther
    rw [untouched.blocks] at held heldOther
    exact sound.apart held heldOther

theorem Granted.mappedStays (granted : Granted elements before after p bytes)
    {address : Nat} (mapped : (before.slots address).mapped) :
    (after.slots address).mapped := by
  rw [granted.slots]
  dsimp only
  split
  · rfl
  · exact mapped

theorem Granted.blockStays (granted : Granted elements before after p bytes)
    {q others : Nat} (held : before.blocks q = some others) :
    after.blocks q = some others := by
  have other : q ≠ p := by
    intro same
    rw [same, granted.unused] at held
    cases held
  rw [granted.blocks, Function.update_of_ne other]
  exact held

theorem Granted.outside (granted : Granted elements before after p bytes)
    {address : Nat} (mapped : (before.slots address).mapped) :
    ¬Within p (elements.room bytes) address := by
  intro inside
  rw [granted.fresh address inside] at mapped
  cases mapped

theorem Granted.unchanged (granted : Granted elements before after p bytes)
    {address : Nat} (mapped : (before.slots address).mapped) :
    after.slots address = before.slots address := by
  rw [granted.slots]
  exact if_neg (granted.outside mapped)

theorem Granted.sound (granted : Granted elements before after p bytes)
    (sound : Sound elements before) : Sound elements after where
  null := by
    rw [granted.blocks, Function.update_of_ne granted.nonnull.symm]
    exact sound.null
  mapped := by
    intro q others held
    by_cases same : q = p
    · rw [same, granted.held] at held
      cases held
      rw [same]
      exact granted.vacant.mapped
    · rw [granted.blocks, Function.update_of_ne same] at held
      intro index bound
      exact granted.mappedStays (sound.mapped held index bound)
  apart := by
    have old {q others : Nat} (held : before.blocks q = some others) :
        Apart p (elements.room bytes) q (elements.room others) := by
      intro address inside other
      obtain ⟨lower, upper⟩ := other
      have mapped := sound.mapped held (address - q) (by omega)
      rw [Nat.add_sub_cancel' lower] at mapped
      exact granted.outside mapped inside
    intro q others r more held heldOther differ
    by_cases first : q = p
    · rw [first] at held differ
      rw [first]
      rw [granted.held] at held
      cases held
      rw [granted.blocks, Function.update_of_ne differ.symm] at heldOther
      exact old heldOther
    · rw [granted.blocks, Function.update_of_ne first] at held
      by_cases second : r = p
      · rw [second, granted.held] at heldOther
        cases heldOther
        intro address inside other
        exact old held address (second ▸ other) inside
      · rw [granted.blocks, Function.update_of_ne second] at heldOther
        exact sound.apart held heldOther differ

theorem Sound.mappedAt (sound : Sound elements before) (held : before.blocks p = some bytes)
    {address : Nat} (inside : Within p (elements.room bytes) address) :
    (before.slots address).mapped := by
  have mapped := sound.mapped held (address - p) (by unfold Within at inside; omega)
  rwa [Nat.add_sub_cancel' inside.1] at mapped

end Soundness

section Releases

variable {environment : Environment α} {memory : Memory α} {p bytes : Nat}

theorem release_slots {address : Nat}
    (outside : ¬Within p (environment.elements.room bytes) address) :
    (memory.release environment p (environment.elements.room bytes)).slots address =
      memory.slots address :=
  if_neg outside

theorem release_blocks {q : Nat} (other : q ≠ p) {room : Nat} :
    (memory.release environment p room).blocks q = memory.blocks q :=
  Function.update_of_ne other ..

theorem Sound.release (sound : Sound environment.elements memory)
    (held : memory.blocks p = some bytes) :
    Sound environment.elements
      (memory.release environment p (environment.elements.room bytes)) where
  null := by
    rw [release_blocks]
    · exact sound.null
    · intro same
      rw [← same, sound.null] at held
      cases held
  mapped := by
    intro q others heldOther
    have differ : q ≠ p := by
      intro same
      rw [same] at heldOther
      simp [Memory.release] at heldOther
    rw [release_blocks differ] at heldOther
    intro index bound
    rw [release_slots]
    · exact sound.mapped heldOther index bound
    · exact sound.apart heldOther held differ (q + index) ⟨by omega, by omega⟩
  apart := by
    intro q others r more heldOther heldLast differ
    have notFirst : q ≠ p := by
      intro same
      rw [same] at heldOther
      simp [Memory.release] at heldOther
    have notSecond : r ≠ p := by
      intro same
      rw [same] at heldLast
      simp [Memory.release] at heldLast
    rw [release_blocks notFirst] at heldOther
    rw [release_blocks notSecond] at heldLast
    exact sound.apart heldOther heldLast differ

end Releases

section Rooms

variable {elements : Elements} {memory : Memory α} {p n m : Nat}

theorem Roomy.less (roomy : Roomy elements memory p n) (less : m ≤ n) :
    Roomy elements memory p m := by
  obtain ⟨bytes, held, room⟩ := roomy
  exact ⟨bytes, held, Nat.le_trans (Nat.mul_le_mul_right _ less) room⟩

theorem Roomy.mapped (roomy : Roomy elements memory p n)
    (sound : Sound elements memory) : Mapped memory.slots p n := by
  obtain ⟨bytes, held, room⟩ := roomy
  intro index bound
  apply sound.mapped held index
  exact Nat.lt_of_lt_of_le bound
    ((Nat.le_div_iff_mul_le elements.size_pos).mpr room)

theorem Roomy.apart {q k : Nat} (roomy : Roomy elements memory p n)
    (other : Roomy elements memory q k) (sound : Sound elements memory)
    (differ : p ≠ q) : Apart p n q k := by
  obtain ⟨bytes, held, room⟩ := roomy
  obtain ⟨others, heldOther, roomOther⟩ := other
  have first : n ≤ elements.room bytes :=
    (Nat.le_div_iff_mul_le elements.size_pos).mpr room
  have second : k ≤ elements.room others :=
    (Nat.le_div_iff_mul_le elements.size_pos).mpr roomOther
  apply Apart.within (sound.apart held heldOther differ)
  · intro address inside
    exact ⟨inside.1, Nat.lt_of_lt_of_le inside.2 (Nat.add_le_add_left first p)⟩
  · intro address inside
    exact ⟨inside.1, Nat.lt_of_lt_of_le inside.2 (Nat.add_le_add_left second q)⟩

end Rooms

/-- A keeper keeps a block, and only elements without constructors. -/
def Provided (elements : Elements) (memory : Memory α) (manager : AllocationManager) :
    Prop :=
  match manager.allocator with
  | .heap => True
  | .keeper storage memorySize =>
      elements.constructorAllocator = false ∧
        (storage = 0 ∨ Roomy elements memory storage memorySize)

theorem Provided.stays {elements : Elements} {before after : Memory α}
    {manager other : AllocationManager} (provided : Provided elements before manager)
    (same : other.allocator = manager.allocator)
    (blocks : manager.allocator ≠ .heap → ∀ {q bytes},
      before.blocks q = some bytes → after.blocks q = some bytes) :
    Provided elements after other := by
  unfold Provided at provided ⊢
  rw [same]
  cases allocator : manager.allocator with
  | heap => trivial
  | keeper storage memorySize =>
      simp only [allocator] at provided ⊢
      refine ⟨provided.1, provided.2.imp_right ?_⟩
      intro roomy
      obtain ⟨bytes, held, room⟩ := roomy
      refine ⟨bytes, blocks ?_ held, room⟩
      rw [allocator]
      exact fun heap => by cases heap

structure NewSpace (elements : Elements) (manager : AllocationManager)
    (before after : Memory α) (p n : Nat) : Prop where
  nonnull : p ≠ 0
  roomy : Roomy elements after p n
  small : n * elements.size < elements.sizeRange
  sound : Sound elements after
  mapped : ∀ {address}, (before.slots address).mapped → (after.slots address).mapped
  blocks : ∀ {q bytes}, before.blocks q = some bytes → after.blocks q = some bytes
  constructions : after.constructions = before.constructions
  fresh : manager.allocator = .heap → before.blocks p = none ∧
    ∀ {bytes}, after.blocks p = some bytes →
      ∀ {address}, Within p (elements.room bytes) address → before.slots address = .unmapped
  kept : manager.allocator ≠ .heap → after = before ∧
    ∃ memorySize, manager.allocator = .keeper p memorySize ∧ n ≤ memorySize
  outside : ∀ {address}, (before.slots address).mapped →
    after.slots address = before.slots address
  vacant : manager.allocator = .heap → ∀ {bytes}, after.blocks p = some bytes →
    Vacant after.slots p (elements.room bytes)
  log : after.log = before.log

theorem NewSpace.unmapped {elements : Elements} {manager : AllocationManager}
    {before after : Memory α} {p n address : Nat}
    (space : NewSpace elements manager before after p n) (heap : manager.allocator = .heap)
    (inside : Within p n address) : before.slots address = .unmapped := by
  obtain ⟨bytes, held, room⟩ := space.roomy
  apply (space.fresh heap).2 held
  exact ⟨inside.1, Nat.lt_of_lt_of_le inside.2 (Nat.add_le_add_left
    ((Nat.le_div_iff_mul_le elements.size_pos).mpr room) p)⟩

namespace AllocationManager

variable {environment : Environment α} {manager : AllocationManager}
  {requestedN : Nat} {memory : Memory α}

/-- A manager reports nothing, what was asked for or the double of it. -/
theorem allocateImpl_reports {p allocatedN : Nat} {after : Memory α}
    (fits : manager.RequestFits environment.elements requestedN)
    (ran : manager.allocateImpl environment requestedN memory =
      .ok (p, allocatedN) after) :
    allocatedN * environment.elements.size < environment.elements.sizeRange ∧
      (p = 0 → allocatedN = 0) := by
  have exactly (q : Nat) :
      (if q ≠ 0 then requestedN else 0) * environment.elements.size <
          environment.elements.sizeRange ∧
        (q = 0 → (if q ≠ 0 then requestedN else 0) = 0) := by
    by_cases null : q = 0
    · rw [if_neg (not_not.mpr null), Nat.zero_mul]
      exact ⟨environment.elements.sizeRange_pos, fun _ => rfl⟩
    · rw [if_pos null]
      exact ⟨RequestFits.strict fits, fun zero => absurd zero null⟩
  cases manager with
  | generic allocator =>
      obtain ⟨q, middle, _, last⟩ := bind_eq_ok ran
      cases last
      exact exactly p
  | strategic allocator strategy =>
      obtain ⟨q, middle, _, last⟩ := bind_eq_ok ran
      split at last
      · rename_i nonnull
        cases last
        cases strategy with
        | doubleOfDataSize =>
            exact ⟨Nat.lt_of_le_of_lt (Nat.mul_le_mul_right _ (Nat.mod_le _ _)) fits,
              fun zero => absurd zero nonnull⟩
        | strictByDataSize =>
            rename_i attempted
            cases attempted
            exact absurd rfl nonnull
      · obtain ⟨r, later, _, last⟩ := bind_eq_ok last
        cases last
        exact exactly p

theorem allocate_reports {p allocatedN : Nat} {after : Memory α}
    (fits : manager.RequestFits environment.elements requestedN)
    (ran : manager.allocate environment requestedN memory =
      .ok (p, allocatedN) after) :
    allocatedN * environment.elements.size < environment.elements.sizeRange ∧
      (p = 0 → allocatedN = 0) := by
  obtain ⟨⟨q, n⟩, middle, attempted, last⟩ := bind_eq_ok ran
  obtain ⟨_, _, _, returned⟩ := bind_eq_ok last
  cases returned
  exact allocateImpl_reports fits attempted

def Supplied (elements : Elements) (manager : AllocationManager) (requestedN : Nat)
    (before : Memory α) (answer : Nat × Nat) (after : Memory α) : Prop :=
  answer.1 = 0 ∧ Untouched before after ∨
    answer.1 ≠ 0 ∧ requestedN ≤ answer.2 ∧
      NewSpace elements manager before after answer.1 answer.2

theorem supplied_of_answered {p allocatedN : Nat} {after : Memory α}
    (heap : manager.allocator = .heap) (sound : Sound environment.elements memory)
    (small : allocatedN * environment.elements.size < environment.elements.sizeRange)
    (answered : Answered environment.elements requestedN memory p allocatedN after) :
    Supplied environment.elements manager requestedN memory (p, allocatedN) after := by
  cases answered with
  | denied untouched counted => exact .inl ⟨rfl, untouched⟩
  | granted enough room granted =>
      refine .inr ⟨granted.nonnull, enough, granted.nonnull, ⟨_, granted.held, room⟩,
        small, granted.sound sound, granted.mappedStays, granted.blockStays,
        granted.constructions, ?_, fun other => absurd heap other, granted.unchanged, ?_,
        granted.log⟩
      · intro _
        refine ⟨granted.unused, ?_⟩
        intro others held address inside
        rw [granted.held] at held
        cases held
        exact granted.fresh address inside
      · intro _ others held
        rw [granted.held] at held
        cases held
        exact granted.vacant

section Keepers

variable {storage memorySize : Nat}

/-- A keeper answers with its storage, to requests that fit. -/
theorem supplied_of_keeper {p allocatedN : Nat}
    (keeper : manager.allocator = .keeper storage memorySize)
    (sound : Sound environment.elements memory)
    (provided : Provided environment.elements memory manager)
    (small : allocatedN * environment.elements.size < environment.elements.sizeRange)
    (answer : p ≠ 0 → p = storage ∧ requestedN ≤ allocatedN ∧ allocatedN ≤ memorySize)
    {after : Memory α} (counted : Untouched memory after)
    (same : p ≠ 0 → after = memory) :
    Supplied environment.elements manager requestedN memory (p, allocatedN) after := by
  by_cases null : p = 0
  · exact .inl ⟨null, counted⟩
  · obtain ⟨isStorage, enough, room⟩ := answer null
    cases same null
    unfold Provided at provided
    rw [keeper] at provided
    have roomy : Roomy environment.elements memory p allocatedN := by
      obtain zero | roomy := provided.2
      · exact absurd (isStorage.trans zero) null
      · rw [isStorage]
        exact roomy.less room
    refine .inr ⟨null, enough, null, roomy, small, sound, fun mapped => mapped,
      fun held => held, rfl, ?_, fun _ => ⟨rfl, memorySize, isStorage ▸ keeper, room⟩,
      fun _ => rfl, ?_, rfl⟩
    · intro heap
      rw [keeper] at heap
      cases heap
    · intro heap
      rw [keeper] at heap
      cases heap

theorem answer_counted (memory : Memory α) (p : Nat) :
    ∃ after, answer p memory = .ok () after ∧ Untouched memory after ∧
      (p ≠ 0 → after = memory) := by
  by_cases null : p = 0
  · rw [null]
    exact ⟨_, answer_null memory, ⟨rfl, rfl, rfl, rfl⟩, fun nonnull => absurd rfl nonnull⟩
  · exact ⟨memory, answer_block memory null, ⟨rfl, rfl, rfl, rfl⟩, fun _ => rfl⟩

variable (memory) in
theorem allocateImpl_keeper (keeper : manager.allocator = .keeper storage memorySize)
    (fits : manager.RequestFits environment.elements requestedN) :
    ∃ p allocatedN, manager.allocateImpl environment requestedN memory =
        .ok (p, allocatedN) memory ∧
      (p ≠ 0 → p = storage ∧ requestedN ≤ allocatedN ∧ allocatedN ≤ memorySize) := by
  have strictly (allocator : Allocator) (same : allocator = .keeper storage memorySize) :
      ∃ p allocatedN, (do
        let p ← allocator.allocate environment requestedN
        return (p, if p ≠ 0 then requestedN else 0) : MProc α (Nat × Nat)) memory =
          .ok (p, allocatedN) memory ∧
        (p ≠ 0 → p = storage ∧ requestedN ≤ allocatedN ∧ allocatedN ≤ memorySize) := by
    rw [same]
    refine ⟨_, _, rfl, ?_⟩
    intro nonnull
    rw [if_pos nonnull]
    by_cases holds : requestedN ≤ memorySize ∧ requestedN ≠ 0
    · rw [if_pos holds]
      exact ⟨rfl, Nat.le_refl _, holds.1⟩
    · rw [if_neg holds] at nonnull
      exact absurd rfl nonnull
  cases manager with
  | generic allocator => exact strictly allocator keeper
  | strategic allocator strategy =>
      cases strategy with
      | strictByDataSize => exact strictly allocator keeper
      | doubleOfDataSize =>
          have doubledFits : requestedN * 2 < environment.elements.sizeRange :=
            Nat.lt_of_le_of_lt
              (Nat.le_mul_of_pos_right _ environment.elements.size_pos) fits
          have attempt : (strategic allocator .doubleOfDataSize).allocateMore
              environment .doubleOfDataSize
              (requestedN * 2 % environment.elements.sizeRange) memory =
                .ok (if requestedN * 2 ≤ memorySize ∧ requestedN * 2 ≠ 0 then storage
                  else 0) memory := by
            rw [Nat.mod_eq_of_lt doubledFits]
            simp only [allocateMore, allocateStrictImpl, keeper]
            rfl
          unfold allocateImpl
          dsimp only
          rw [bind_of_ok attempt, Nat.mod_eq_of_lt doubledFits]
          by_cases holds : (if requestedN * 2 ≤ memorySize ∧ requestedN * 2 ≠ 0 then storage
              else 0) ≠ 0
          · rw [if_pos holds]
            refine ⟨_, _, rfl, ?_⟩
            intro _
            by_cases enough : requestedN * 2 ≤ memorySize ∧ requestedN * 2 ≠ 0
            · rw [if_pos enough]
              exact ⟨rfl, by omega, enough.1⟩
            · rw [if_neg enough] at holds
              exact absurd rfl holds
          · rw [if_neg holds]
            exact strictly allocator keeper

end Keepers

theorem allocate_supplied (sound : Sound environment.elements memory)
    (provided : Provided environment.elements memory manager)
    (fits : manager.RequestFits environment.elements requestedN) :
    Ended (fun answer after =>
        Supplied environment.elements manager requestedN memory answer after ∧
          (answer.1 = 0 → answer.2 = 0))
      (fun _ _ => False) (manager.allocate environment requestedN memory) := by
  cases allocator : manager.allocator with
  | heap =>
      obtain ⟨p, allocatedN, after, ran, answered⟩ :=
        allocate_answered allocator memory fits
      have reports := allocate_reports fits ran
      rw [ran]
      exact ⟨supplied_of_answered allocator sound reports.1 answered, reports.2⟩
  | keeper storage memorySize =>
      obtain ⟨p, allocatedN, ran, answered⟩ :=
        allocateImpl_keeper memory allocator fits
      obtain ⟨after, counted, untouched, same⟩ := answer_counted memory p
      have whole : manager.allocate environment requestedN memory =
          .ok (p, allocatedN) after := by
        unfold allocate
        rw [bind_of_ok ran]
        dsimp only
        rw [bind_of_ok counted]
        rfl
      have reports := allocateImpl_reports fits ran
      rw [whole]
      exact ⟨supplied_of_keeper allocator sound provided reports.1 answered untouched same,
        reports.2⟩

theorem allocateStrict_supplied (sound : Sound environment.elements memory)
    (provided : Provided environment.elements memory manager)
    (fits : requestedN * environment.elements.size < environment.elements.sizeRange) :
    Ended (fun p after =>
        Supplied environment.elements manager requestedN memory (p, requestedN) after)
      (fun _ _ => False) (manager.allocateStrict environment requestedN memory) := by
  cases allocator : manager.allocator with
  | heap =>
      obtain ⟨p, allocatedN, after, ran, told, answered⟩ :=
        allocateStrict_answered allocator memory fits
      rw [ran]
      cases answered with
      | denied untouched counted => exact .inl ⟨rfl, untouched⟩
      | granted enough room granted =>
          cases told granted.nonnull
          exact supplied_of_answered allocator sound fits (.granted enough room granted)
  | keeper storage memorySize =>
      let p := if requestedN ≤ memorySize ∧ requestedN ≠ 0 then storage else 0
      have ran : manager.allocateStrictImpl environment requestedN memory =
          .ok p memory := by
        unfold allocateStrictImpl
        rw [allocator]
        rfl
      obtain ⟨after, counted, untouched, same⟩ := answer_counted memory p
      unfold allocateStrict
      rw [bind_of_ok ran, bind_of_ok counted]
      apply supplied_of_keeper allocator sound provided fits ?_ untouched same
      intro nonnull
      by_cases holds : requestedN ≤ memorySize ∧ requestedN ≠ 0
      · exact ⟨if_pos holds, Nat.le_refl _, holds.1⟩
      · exact absurd (if_neg holds) nonnull

end AllocationManager

end CommonSerialization.Containers
