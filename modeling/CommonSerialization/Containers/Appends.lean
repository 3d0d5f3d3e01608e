import CommonSerialization.Containers.OutOfMemory
import CommonSerialization.Containers.PositionContents
import CommonSerialization.Containers.RangesKept

namespace CommonSerialization.Containers

open StateExcept Storage

/-! What the elements of a vector are after the functions that make space, append and
empty. -/

section Composition

variable {elements : Elements} {store middle after : Store α} {written used : Nat → Prop}
  {tidy : Prop} {contents later : List (Slot α)}

theorem Kept.notOwn (kept : Kept elements store after) {address : Nat}
    (mapped : (store.memory.slots address).mapped) (free : ¬store.own elements address) :
    (after.memory.slots address).mapped ∧ ¬after.own elements address := by
  obtain ⟨stored, outside⟩ := kept.elsewhere mapped fun own => free (.inl own)
  refine ⟨stored, ?_⟩
  intro own
  obtain own | ⟨storage, memorySize, keeper, inside⟩ := own
  · exact outside own
  · exact free (.inr ⟨storage, memorySize, kept.allocator.symm.trans keeper, inside⟩)

theorem Nearby.before (kept : Kept elements store middle) {event : Event}
    (nearby : Nearby elements middle used event) : Nearby elements store used event := by
  intro mapped
  by_cases own : store.own elements event.address
  · exact .inl own
  · obtain ⟨stored, free⟩ := kept.notOwn mapped own
    exact .inr ((nearby stored).resolve_left free)

theorem Edited.trans (first : Edited elements store written used tidy contents middle)
    (second : Edited elements middle written used tidy later after) :
    Edited elements store written used tidy later after where
  kept := first.kept.trans second.kept
  whole := second.whole
  contents := second.contents
  outside := by
    intro address mapped free away
    obtain ⟨stored, freeLater⟩ := first.kept.notOwn mapped free
    rw [second.outside stored freeLater away]
    exact first.outside mapped free away
  events := by
    apply first.events.trans
    apply second.events.weaken
    intro event allowed
    exact ⟨Nearby.before first.kept allowed.1, allowed.2⟩

theorem Edited.weaken {more moreUsed : Nat → Prop} {cleaner : Prop}
    (edited : Edited elements store written used tidy contents after)
    (writes : ∀ address, written address → more address)
    (uses : ∀ address, used address → moreUsed address) (cleans : cleaner → tidy) :
    Edited elements store more moreUsed cleaner contents after where
  kept := edited.kept
  whole := edited.whole
  contents := edited.contents
  outside := fun mapped free away =>
    edited.outside mapped free fun here => away (writes _ here)
  events := by
    apply edited.events.weaken
    intro event allowed
    exact ⟨fun mapped => (allowed.1 mapped).imp_right (uses _),
      fun clean => allowed.2 (cleans clean)⟩

end Composition

namespace Vector

variable {environment : Environment α} {store middle : Store α} {needed n p : Nat}
  {contents : List (Slot α)}

abbrev Edited.Alone (elements : Elements) (store : Store α) (contents : List (Slot α))
    (after : Store α) : Prop :=
  Edited elements store (fun _ => False) (fun _ => False) True contents after

section Growth

theorem relocate_edited (whole : Whole environment.elements store) {before : Memory α}
    {space m : Nat}
    (answered : NewSpace environment.elements store.vector.m_AllocationManager store.memory
      before space m)
    (enough : store.vector.m_dataSize ≤ m)
    (accepted : Accepted environment store.memory store.vector.m_dataSize) :
    Ended (fun _ => Edited.Alone environment.elements store store.contents)
      (fun _ _ => False) (relocate environment space m ⟨before, store.vector⟩) := by
  obtain ⟨moved, ran, building, _⟩ : ∃ first,
      moveToRawNoOverlap environment space store.vector.m_p store.vector.m_dataSize before =
        .ok () first ∧
      Building environment store before space (fun _ => False) store.contents first ∧ _ :=
    Building.first whole answered (Nat.le_refl _) enough accepted (Nat.le_refl _)
  obtain ⟨after, ranLast, rebuilt⟩ := building.finish whole.standing answered
    (by rwa [length_contents]) enough whole.filled
  have resized : Edited.Alone environment.elements store store.contents _ :=
    Rebuilt.resized rebuilt fun constructors =>
      holds_of_mem_stretch (whole.filled.objects constructors)
  rw [length_contents] at resized
  have run : relocate environment space m ⟨before, store.vector⟩ =
      .ok () ⟨after, ⟨space, store.vector.m_dataSize, m,
        store.vector.m_AllocationManager⟩⟩ := by
    unfold relocate
    rw [bind_of_ok (setAllocatedSize_apply m), bind_of_ok (get_apply _)]
    dsimp only
    rw [bind_of_ok (onFailure_of_ok (onMemory_of_ok ran))]
    exact ranLast
  rw [run]
  exact resized

variable (environment) in
theorem newBlock_denied (manager : AllocationManager) (strict : Bool) (memory : Memory α) :
    Ended (fun answer after => answer.1 = 0 → memory.denied < after.denied)
      (fun _ _ => True) (newBlock environment manager strict needed memory) := by
  have counted {p : Nat} {middle : Memory α} (same : middle.denied = memory.denied) :
      Ended (fun _ after => p = 0 → memory.denied < after.denied) (fun _ _ => True)
        (AllocationManager.answer p middle) := by
    intro null
    rw [null, ← same]
    exact Nat.lt_succ_self _
  cases strict with
  | false =>
      obtain ⟨p, allocatedN, middle, ran, same, _⟩ :=
        AllocationManager.allocateImpl_asked environment manager needed memory
      show Ended _ _ (manager.allocate environment needed memory)
      unfold AllocationManager.allocate
      rw [bind_of_ok ran]
      apply Ended.bind (counted same)
      intro _ after denied
      exact denied
  | true =>
      obtain ⟨p, middle, ran, same, _⟩ :=
        AllocationManager.allocator_asked environment needed memory manager.allocator
      have attempted : manager.allocateStrictImpl environment needed memory =
          .ok p middle := ran
      have ended : Ended (fun q after => q = 0 → memory.denied < after.denied)
          (fun _ _ => True) (manager.allocateStrict environment needed memory) := by
        unfold AllocationManager.allocateStrict
        rw [bind_of_ok attempted]
        apply Ended.bind (counted same)
        intro _ after denied
        exact denied
      apply Ended.bind ended
      intro _ after denied
      exact denied

theorem reserveInternal_edited (whole : Whole environment.elements store) (strict : Bool)
    (allowed : GrowthAllowed environment store strict needed) :
    Ended (fun _ => Edited.Alone environment.elements store store.contents)
      (fun fault after => fault = .status .errorNoMemory ∧ Unchanged store after ∧
        store.memory.denied < after.memory.denied)
      (reserveInternal environment needed strict store) := by
  unfold reserveInternal
  rw [bind_of_ok (get_apply store)]
  dsimp only
  by_cases grows : store.vector.m_allocatedSize < needed
  · rw [if_pos grows]
    obtain ⟨fits, accepted⟩ := allowed grows
    apply Ended.bind
    · apply (onMemory_ended ((newBlock_supplied whole.standing fits).both
        (newBlock_denied environment _ strict store.memory))).weaken
      · intro answer after supplied
        exact supplied
      · intro _ _ impossible
        exact impossible.1.1.elim
    · intro answer middle supplied
      obtain ⟨space, m⟩ := answer
      obtain ⟨memory, vector⟩ := middle
      obtain ⟨⟨⟨null, untouched⟩ | ⟨nonnull, enough, answered⟩, denied⟩, same⟩ := supplied
      · cases same
        cases null
        exact ⟨rfl, ⟨rfl, untouched⟩, denied rfl⟩
      · cases same
        dsimp only at nonnull enough answered ⊢
        rw [if_pos nonnull]
        have size := whole.standing.fits.size
        apply (relocate_edited whole answered (by omega) accepted).weaken
        · intro _ _ edited
          exact edited
        · intro _ _ impossible
          exact impossible.elim
  · rw [if_neg grows]
    exact Edited.same whole

/-- Why space is not made: there is none, or the new size would be no number. -/
def NoRoom (environment : Environment α) (store : Store α) (n : Nat) (status : Status) :
    Prop :=
  status = .errorNoMemory ∧
      store.vector.m_allocatedSize < store.vector.m_dataSize + n ∨
    status = .errorOverflow ∧
      environment.elements.sizeRange ≤ store.vector.m_dataSize + n

/-- Nothing has been appended: besides why, it is known that a request has been denied if
there is no memory. -/
structure TurnedAway (environment : Environment α) (store : Store α) (n : Nat)
    (fault : Fault) (after : Store α) : Prop where
  rejected : Rejected store (NoRoom environment store n) fault after
  denied : fault = .status .errorNoMemory → store.memory.denied < after.memory.denied

theorem addSpaceIfNeed_edited (whole : Whole environment.elements store)
    (inRange : n < environment.elements.sizeRange)
    (allowed : store.vector.m_dataSize + n < environment.elements.sizeRange →
      GrowthAllowed environment store false (store.vector.m_dataSize + n)) :
    Ended (fun _ after => Edited.Alone environment.elements store store.contents after ∧
        Spacious environment.elements (store.vector.m_dataSize + n) store after)
      (TurnedAway environment store n)
      (addSpaceIfNeed environment n store) := by
  have spacious := addSpaceIfNeed_spacious whole.standing inRange allowed
  have range := whole.standing.sizeInRange
  have edited : Ended (fun _ => Edited.Alone environment.elements store store.contents)
      (TurnedAway environment store n) (addSpaceIfNeed environment n store) := by
    unfold addSpaceIfNeed
    rw [bind_of_ok (get_apply store)]
    by_cases wraps : store.vector.m_dataSize + n < environment.elements.sizeRange
    · rw [Nat.mod_eq_of_lt wraps, if_pos (Nat.le_add_right _ n)]
      by_cases grows : store.vector.m_allocatedSize < store.vector.m_dataSize + n
      · rw [if_pos grows]
        apply (reserveInternal_edited whole false (allowed wraps)).weaken
        · intro _ _ edited
          exact edited
        · intro fault after failed
          exact ⟨⟨⟨_, failed.1, .inl ⟨rfl, grows⟩⟩, failed.2.1⟩, fun _ => failed.2.2⟩
      · rw [if_neg grows]
        exact Edited.same whole
    · have less : (store.vector.m_dataSize + n) % environment.elements.sizeRange <
          store.vector.m_dataSize := by
        rw [Nat.mod_eq_sub_mod (Nat.not_lt.mp wraps), Nat.mod_eq_of_lt (by omega)]
        omega
      rw [if_neg (Nat.not_le.mpr less)]
      refine ⟨rejected_fail (.inr ⟨rfl, Nat.not_lt.mp wraps⟩), ?_⟩
      intro impossible
      cases impossible
  apply (edited.both spacious).weaken
  · intro _ _ both
    exact both
  · intro _ _ both
    exact both.1

end Growth

section Tail

variable {written used : Nat → Prop} {built : List (Slot α)} {memory : Memory α}

structure Tailed (environment : Environment α) (middle : Store α) (written used : Nat → Prop)
    (built : List (Slot α)) (memory : Memory α) : Prop where
  storage : SameStorage middle.memory memory
  values : stretch memory.slots (middle.vector.m_p + middle.vector.m_dataSize) built.length =
    built
  elsewhere : ∀ {address},
    ¬Within (middle.vector.m_p + middle.vector.m_dataSize) built.length address →
    ¬written address → memory.slots address = middle.memory.slots address
  objects : environment.elements.constructorAllocator = true → ∀ slot ∈ built, slot.holds
  foreign : ∀ {address}, written address → ¬middle.own environment.elements address
  events : Grown (fun event =>
    (Within (middle.vector.m_p + middle.vector.m_dataSize) built.length event.address ∨
      used event.address) ∧ event.proper) middle.memory.log memory.log

theorem ownBlock (whole : Whole environment.elements store)
    (constructors : environment.elements.constructorAllocator = true) {bytes index : Nat}
    (held : store.memory.blocks store.vector.m_p = some bytes)
    (inside : index < environment.elements.room bytes) :
    store.own environment.elements (store.vector.m_p + index) := by
  have nonnull : store.vector.m_p ≠ 0 := by
    intro null
    rw [null, whole.standing.sound.null] at held
    cases held
  exact .inl ⟨⟨whole.standing.heap constructors, rfl, nonnull⟩, bytes, held,
    Nat.le_add_right _ _, Nat.add_lt_add_left inside _⟩

theorem Tailed.edited (whole : Whole environment.elements middle)
    (tailed : Tailed environment middle written used built memory)
    (room : middle.vector.m_dataSize + built.length ≤ middle.vector.m_allocatedSize) :
    Edited environment.elements middle written used True (middle.contents ++ built)
      ⟨memory, ⟨middle.vector.m_p, middle.vector.m_dataSize + built.length,
        middle.vector.m_allocatedSize, middle.vector.m_AllocationManager⟩⟩ := by
  have own {address : Nat} (here : Within (middle.vector.m_p + middle.vector.m_dataSize)
      built.length address) : middle.own environment.elements address :=
    whole.own room here
  have total : (middle.contents ++ built).length =
      middle.vector.m_dataSize + built.length := by
    rw [List.length_append, length_contents]
  rw [← total]
  apply Edited.inPlace whole tailed.storage (by rwa [total])
  · rw [total, stretch_add, tailed.values]
    congr 1
    apply stretch_eq_iff.mpr
    intro index inside
    apply tailed.elsewhere
    · unfold Within
      omega
    · intro moved
      apply tailed.foreign moved
      apply whole.own (show 0 + middle.vector.m_dataSize ≤ _ by omega)
      unfold Within
      omega
  · intro constructors slot member
    obtain old | new := List.mem_append.mp member
    · exact holds_of_mem_stretch (whole.filled.objects constructors) slot old
    · exact tailed.objects constructors slot new
  · intro constructors bytes held index inside past
    rw [total] at past
    rw [tailed.elsewhere]
    · exact whole.filled.spare constructors held index inside (by omega)
    · unfold Within
      omega
    · exact fun moved => tailed.foreign moved (ownBlock whole constructors held inside)
  · intro address mapped free away
    exact tailed.elsewhere (fun here => free (own here)) away
  · apply tailed.events.weaken
    intro event allowed
    exact ⟨fun _ => allowed.1.imp_left own, fun _ => allowed.2⟩

theorem append_filled (also : Memory α → Prop) (whole : Whole environment.elements store)
    (inRange : n < environment.elements.sizeRange)
    (allowed : store.vector.m_dataSize + n < environment.elements.sizeRange →
      GrowthAllowed environment store false (store.vector.m_dataSize + n))
    (length : built.length = n) {fill : Vector → MProc α Unit}
    (filled : ∀ middle,
      Edited.Alone environment.elements store store.contents middle →
      Spacious environment.elements (store.vector.m_dataSize + n) store middle →
      ∃ memory, fill middle.vector middle.memory = .ok () memory ∧
        Tailed environment middle written used built memory ∧ also memory) :
    Ended (fun _ after => Edited environment.elements store written used True
        (store.contents ++ built) after ∧ also after.memory)
      (TurnedAway environment store n) (append environment n fill store) := by
  unfold append
  apply Ended.bind (addSpaceIfNeed_edited whole inRange allowed)
  intro _ middle spaced
  obtain ⟨edited, spacious⟩ := spaced
  obtain ⟨memory, ran, tailed, fine⟩ := filled middle edited spacious
  rw [bind_of_ok (get_apply middle), bind_of_ok (onMemory_of_ok ran)]
  have last := tailed.edited edited.whole (by
    rw [length, spacious.size]
    exact spacious.enough)
  rw [edited.contents, length] at last
  exact ⟨(edited.weaken (fun _ none => none.elim) (fun _ none => none.elim) id).trans last,
    fine⟩

theorem append_edited (whole : Whole environment.elements store)
    (inRange : n < environment.elements.sizeRange)
    (allowed : store.vector.m_dataSize + n < environment.elements.sizeRange →
      GrowthAllowed environment store false (store.vector.m_dataSize + n))
    (length : built.length = n) {fill : Vector → MProc α Unit}
    (filled : ∀ middle,
      Edited.Alone environment.elements store store.contents middle →
      Spacious environment.elements (store.vector.m_dataSize + n) store middle →
      ∃ memory, fill middle.vector middle.memory = .ok () memory ∧
        Tailed environment middle written used built memory) :
    Ended (fun _ => Edited environment.elements store written used True
        (store.contents ++ built))
      (TurnedAway environment store n) (append environment n fill store) := by
  have ended : Ended (fun _ after => Edited environment.elements store written used True
        (store.contents ++ built) after ∧ True)
      (TurnedAway environment store n) (append environment n fill store) := by
    apply append_filled (fun _ => True) whole inRange allowed length
    intro middle edited spacious
    obtain ⟨memory, ran, tailed⟩ := filled middle edited spacious
    exact ⟨memory, ran, tailed, trivial⟩
  exact ended.weaken (fun _ _ both => both.1) fun _ _ turned => turned

/-- Elements that can be appended: they are not where elements go, and not in a block that
has to go first. -/
structure TailGiven (environment : Environment α) (store : Store α) (p n : Nat) : Prop where
  mapped : Mapped store.memory.slots p n
  objects : environment.elements.constructorAllocator = true →
    Objects store.memory.slots p n
  fits : n * environment.elements.size < environment.elements.sizeRange
  outlives : store.vector.m_allocatedSize < store.vector.m_dataSize + n →
    ∀ index < n, ¬store.own environment.elements (p + index)
  apart : store.vector.m_dataSize + n ≤ store.vector.m_allocatedSize →
    Apart (store.vector.m_p + store.vector.m_dataSize) n p n

theorem TailGiven.of_foreign (whole : Whole environment.elements store)
    (foreign : Foreign environment store p n) : TailGiven environment store p n :=
  ⟨foreign.mapped, foreign.objects, foreign.fits, fun _ => foreign.outside,
    fun room => foreign.apart whole room⟩

theorem TailGiven.stays (given : TailGiven environment store p n)
    (edited : Edited.Alone environment.elements store store.contents middle)
    (spacious : Spacious environment.elements (store.vector.m_dataSize + n) store middle) :
    (∀ index < n, middle.memory.slots (p + index) = store.memory.slots (p + index)) ∧
      Apart (middle.vector.m_p + middle.vector.m_dataSize) n p n := by
  by_cases grows : store.vector.m_allocatedSize < store.vector.m_dataSize + n
  · constructor
    · intro index inside
      exact edited.outside (given.mapped index inside) (given.outlives grows index inside)
        (fun none => none)
    · intro address own inside
      have bound : address - p < n := by
        unfold Within at inside
        omega
      have kept := edited.kept.notOwn (given.mapped (address - p) bound)
        (given.outlives grows (address - p) bound)
      rw [Nat.add_sub_cancel' inside.1] at kept
      apply kept.2
      apply edited.whole.own _ own
      rw [spacious.size]
      exact spacious.enough
  · have same := spacious.stays (Nat.not_lt.mp grows)
    rw [same]
    exact ⟨fun _ _ => rfl, given.apart (Nat.not_lt.mp grows)⟩

theorem transfer_tailed (transfer : Transfer) (given : TailGiven environment store p n)
    (foreign : transfer = .move → ∀ index < n, ¬store.own environment.elements (p + index))
    (accepted : Accepted environment middle.memory n)
    (edited : Edited.Alone environment.elements store store.contents middle)
    (spacious : Spacious environment.elements (store.vector.m_dataSize + n) store middle) :
    ∃ memory,
      transferToRawNoOverlap environment transfer
        (middle.vector.m_p + middle.vector.m_dataSize) p n middle.memory = .ok () memory ∧
      Tailed environment middle (fun address => transfer = .move ∧ Within p n address)
        (Within p n) (stretch store.memory.slots p n) memory ∧
      ∀ index < n, (memory.slots (p + index)).holds =
        (store.memory.slots (p + index)).holds := by
  obtain ⟨same, apart⟩ := given.stays edited spacious
  have standing := edited.whole.standing
  have room : middle.vector.m_dataSize + n ≤ middle.vector.m_allocatedSize := by
    rw [spacious.size]
    exact spacious.enough
  obtain ⟨memory, ran, placed⟩ : ∃ memory,
      transferToRawNoOverlap environment transfer
        (middle.vector.m_p + middle.vector.m_dataSize) p n middle.memory = .ok () memory ∧
      Placed environment transfer True middle.memory
        (middle.vector.m_p + middle.vector.m_dataSize) p n memory := by
    apply transferToRawNoOverlap_placed environment transfer
    · exact fun _ => ⟨given.fits, .inr (overlap_of_apart apart)⟩
    · exact fun _ => apart.sides
    · exact Standing.part standing room
    · intro index inside
      rw [same index inside]
      exact given.mapped index inside
    · exact accepted
    · intro constructors _
      refine ⟨?_, ?_, apart⟩
      · intro index inside
        rw [same index inside]
        exact given.objects constructors index inside
      · intro index inside
        rw [Nat.add_assoc]
        exact edited.whole.vacant constructors (Nat.le_add_right _ index) (by omega)
  refine ⟨memory, ran, ⟨placed.storage, ?_, ?_, ?_, ?_, ?_⟩, ?_⟩
  · rw [length_stretch]
    apply stretch_eq_iff.mpr
    intro index inside
    rw [placed.values index inside]
    exact same index inside
  · intro address away still
    rw [length_stretch] at away
    rw [placed.elsewhere address away, if_neg fun inside => still inside.2]
  · exact fun constructors => holds_of_mem_stretch (given.objects constructors)
  · intro address moved
    obtain ⟨isMove, inside⟩ := moved
    have bound : address - p < n := by
      unfold Within at inside
      omega
    have kept := edited.kept.notOwn (given.mapped (address - p) bound)
      (foreign isMove (address - p) bound)
    rw [Nat.add_sub_cancel' inside.1] at kept
    exact kept.2
  · rw [length_stretch]
    apply placed.events.weaken
    intro event allowed
    exact ⟨allowed.1, allowed.2 trivial⟩
  · intro index inside
    have away := fun here => apart _ here (show Within p n (p + index) by
      unfold Within
      omega)
    rw [placed.elsewhere _ away, ← same index inside]
    split
    · exact Slot.holds_map _ _
    · rfl

/-- What appending needs of the rest: no request wraps, and no construction is refused. -/
structure Extensible (environment : Environment α) (store : Store α) (n : Nat) : Prop where
  inRange : n < environment.elements.sizeRange
  unrefused : Unrefused environment store.memory
  fits : store.vector.m_dataSize + n < environment.elements.sizeRange →
    store.vector.m_allocatedSize < store.vector.m_dataSize + n →
    store.vector.m_AllocationManager.RequestFits environment.elements
      (store.vector.m_dataSize + n)

theorem Extensible.growth (extensible : Extensible environment store n)
    (inRange : store.vector.m_dataSize + n < environment.elements.sizeRange) :
    GrowthAllowed environment store false (store.vector.m_dataSize + n) :=
  fun grows => ⟨extensible.fits inRange grows, extensible.unrefused.accepted _⟩

theorem Extensible.accepted (extensible : Extensible environment store n)
    (edited : Edited.Alone environment.elements store store.contents middle) (k : Nat) :
    Accepted environment middle.memory k :=
  (extensible.unrefused.later edited.kept.constructions).accepted k

theorem pushBackMove_edited (whole : Whole environment.elements store)
    (extensible : Extensible environment store 1) (foreign : Foreign environment store p 1) :
    Ended (fun _ after => Edited environment.elements store (Within p 1) (Within p 1) True
        (store.contents ++ stretch store.memory.slots p 1) after ∧
        (after.memory.slots p).holds = (store.memory.slots p).holds)
      (TurnedAway environment store 1) (pushBackMove environment p store) := by
  apply append_filled (fun memory => (memory.slots p).holds = (store.memory.slots p).holds)
    whole extensible.inRange extensible.growth length_stretch
  intro middle edited spacious
  obtain ⟨memory, ran, tailed, holds⟩ := transfer_tailed .move (.of_foreign whole foreign)
    (fun _ => foreign.outside) (extensible.accepted edited 1) edited spacious
  simp only [true_and] at tailed
  exact ⟨memory, ran, tailed, holds 0 Nat.one_pos⟩

theorem pushBackN_edited (whole : Whole environment.elements store)
    (extensible : Extensible environment store n)
    (given : p ≠ 0 ∨ n = 0 → TailGiven environment store p n) :
    Ended (fun _ => Edited environment.elements store (fun _ => False) (Within p n) True
        (store.contents ++ stretch store.memory.slots p n))
      (fun fault after =>
        Rejected store (fun status => status = .errorInvalidArgument ∧ p = 0 ∧ n ≠ 0)
          fault after ∨ TurnedAway environment store n fault after)
      (pushBackN environment p n store) := by
  unfold pushBackN
  split
  · rename_i null
    exact .inl (rejected_fail ⟨rfl, null⟩)
  · rename_i valid
    have source := given (by omega)
    apply (append_edited whole extensible.inRange extensible.growth length_stretch ?_).weaken
    · intro _ _ edited
      exact edited
    · intro fault after turned
      exact .inr turned
    · intro middle edited spacious
      obtain ⟨memory, ran, tailed, _⟩ := transfer_tailed .copy source
        (fun impossible => by cases impossible) (extensible.accepted edited n) edited spacious
      simp only [reduceCtorEq, false_and] at tailed
      exact ⟨memory, ran, tailed⟩

structure Made (memory : Memory α) (dest : Nat) (slot : Slot α) (after : Memory α) : Prop where
  slots : after.slots = Function.update memory.slots dest slot
  storage : SameStorage memory after
  events : Grown (fun event => event.address = dest ∧ event.proper) memory.log after.log

theorem write_made {dest : Nat} (mapped : (memory.slots dest).mapped) (value : Option α) :
    ∃ after, write dest value memory = .ok () after ∧ Made memory dest (.ofValue value) after := by
  refine ⟨_, write_of_mapped mapped value, rfl, ?_, ?_⟩
  · exact (SameStorage.note memory _ dest).trans
      (SameStorage.put mapped (Slot.mapped_ofValue value))
  · exact Grown.cons _ ⟨rfl, rfl⟩

theorem construct_made (manager : AllocationManager) {dest : Nat}
    (mapped : (memory.slots dest).mapped) (value : Option α)
    (inside : ∀ storage memorySize, manager.allocator = .keeper storage memorySize →
      storage ≤ dest ∧ dest + 1 ≤ storage + memorySize)
    (free : environment.elements.constructorAllocator = true → memory.slots dest = .vacant)
    (accepted : Accepted environment memory 1) :
    ∃ after, manager.construct environment dest value memory = .ok () after ∧
      Made memory dest (.ofValue value) after := by
  unfold AllocationManager.construct
  cases allocator : manager.allocator with
  | keeper storage memorySize =>
      obtain ⟨lower, upper⟩ := inside storage memorySize allocator
      simp only [Allocator.construct]
      rw [if_neg (by omega)]
      exact write_made mapped value
  | heap =>
      simp only [Allocator.construct]
      cases constructors : environment.elements.constructorAllocator with
      | false => exact write_made mapped value
      | true =>
          have fine := accepted constructors 0 Nat.one_pos
          refine ⟨_, construct_of_mapped mapped value fine, rfl, ?_, ?_⟩
          · have kept : KeptBy memory (construct environment dest value memory) :=
              Containers.construct_kept mapped value
            rw [construct_of_mapped mapped value fine] at kept
            exact kept
          · apply Grown.cons
            refine ⟨rfl, ?_⟩
            show (!(memory.slots dest).holds) = true
            rw [free constructors]
            rfl

theorem construct_tailed
    (edited : Edited.Alone environment.elements store store.contents middle)
    (spacious : Spacious environment.elements (store.vector.m_dataSize + 1) store middle)
    {value : Option α}
    (holds : environment.elements.constructorAllocator = true → value.isSome)
    {current : Memory α} (storage : SameStorage middle.memory current)
    (slots : current.slots = middle.memory.slots)
    (accepted : Accepted environment current 1)
    (log : Grown (fun event => used event.address ∧ event.proper) middle.memory.log
      current.log) :
    ∃ memory,
      middle.vector.m_AllocationManager.construct environment
        (middle.vector.m_p + middle.vector.m_dataSize) value current = .ok () memory ∧
      Tailed environment middle (fun _ => False) used [Slot.ofValue value] memory := by
  have standing := edited.whole.standing
  have room : middle.vector.m_dataSize + 1 ≤ middle.vector.m_allocatedSize := by
    rw [spacious.size]
    exact spacious.enough
  have dest : (middle.memory.slots (middle.vector.m_p + middle.vector.m_dataSize)).mapped :=
    Standing.part standing room 0 Nat.one_pos
  obtain ⟨memory, ran, made⟩ : ∃ memory,
      middle.vector.m_AllocationManager.construct environment
        (middle.vector.m_p + middle.vector.m_dataSize) value current = .ok () memory ∧
      Made current (middle.vector.m_p + middle.vector.m_dataSize) (.ofValue value) memory := by
    apply construct_made
    · rw [slots]
      exact dest
    · intro storage memorySize keeper
      obtain none | ⟨same, inside⟩ := edited.whole.home storage memorySize keeper
      · omega
      · omega
    · intro constructors
      rw [slots]
      exact edited.whole.vacant constructors (Nat.le_refl _) (by omega)
    · exact accepted
  refine ⟨memory, ran, storage.trans made.storage, ?_, ?_, ?_, ?_, ?_⟩
  · rw [made.slots]
    simp [stretch]
  · intro address away _
    rw [made.slots, Function.update_of_ne, slots]
    intro same
    apply away
    rw [same]
    exact ⟨Nat.le_refl _, Nat.lt_add_of_pos_right Nat.one_pos⟩
  · intro constructors slot member
    rw [List.mem_singleton] at member
    obtain ⟨object, same⟩ := Option.isSome_iff_exists.mp (holds constructors)
    rw [member, same]
    rfl
  · exact fun none => none.elim
  · apply Grown.trans
    · apply log.weaken
      intro event allowed
      exact ⟨.inr allowed.1, allowed.2⟩
    · apply made.events.weaken
      intro event allowed
      refine ⟨.inl ?_, allowed.2⟩
      rw [allowed.1]
      exact ⟨Nat.le_refl _, Nat.lt_add_of_pos_right Nat.one_pos⟩

theorem emplaceBack_edited (whole : Whole environment.elements store)
    (extensible : Extensible environment store 1) {value : Option α}
    (holds : environment.elements.constructorAllocator = true → value.isSome) :
    Ended (fun _ => Edited.Alone environment.elements store
        (store.contents ++ [Slot.ofValue value]))
      (TurnedAway environment store 1) (emplaceBack environment value store) := by
  apply append_edited whole extensible.inRange extensible.growth rfl
  intro middle edited spacious
  exact construct_tailed edited spacious holds (SameStorage.refl _) rfl
    (extensible.accepted edited 1) (Grown.refl _)

theorem pushBack_edited (whole : Whole environment.elements store)
    (extensible : Extensible environment store 1) (given : TailGiven environment store p 1) :
    Ended (fun _ => Edited environment.elements store (fun _ => False) (Within p 1) True
        (store.contents ++ stretch store.memory.slots p 1))
      (TurnedAway environment store 1) (pushBack environment p store) := by
  have source := given.mapped 0 Nat.one_pos
  have value : stretch store.memory.slots p 1 =
      [Slot.ofValue (store.memory.slots p).value?] := by
    cases slot : store.memory.slots p with
    | unmapped =>
        rw [Nat.add_zero, slot] at source
        cases source
    | vacant => simp [stretch, slot, Slot.value?, Slot.ofValue]
    | object value => simp [stretch, slot]
  rw [value]
  apply append_edited whole extensible.inRange extensible.growth rfl
  intro middle edited spacious
  obtain ⟨same, _⟩ := given.stays edited spacious
  have stays := same 0 Nat.one_pos
  rw [Nat.add_zero] at stays source
  have readable : (middle.memory.slots p).mapped := by rwa [stays]
  rw [← stays]
  rw [bind_of_ok (take_of_mapped readable)]
  apply construct_tailed edited spacious
  · intro constructors
    obtain ⟨object, held⟩ := Slot.exists_of_holds (given.objects constructors 0 Nat.one_pos)
    rw [Nat.add_zero] at held
    rw [stays, held]
    rfl
  · exact SameStorage.note middle.memory _ p
  · rfl
  · exact (extensible.accepted edited 1).later (Nat.le_of_eq (Nat.zero_add 1)) fun _ => rfl
  · apply Grown.cons
    refine ⟨⟨Nat.le_refl p, Nat.lt_add_of_pos_right Nat.one_pos⟩, ?_⟩
    cases constructors : environment.elements.constructorAllocator with
    | false => rfl
    | true =>
        have held := given.objects constructors 0 Nat.one_pos
        rw [Nat.add_zero, ← stays] at held
        exact held

theorem writeAll_tailed {octets : List α} {dest : Nat}
    (mapped : Mapped memory.slots dest octets.length) :
    ∃ after, writeAll dest octets memory = .ok () after ∧ SameStorage memory after ∧
      Holds after.slots dest octets ∧
      (∀ {address}, ¬Within dest octets.length address →
        after.slots address = memory.slots address) ∧
      Grown (fun event => Within dest octets.length event.address ∧ event.proper)
        memory.log after.log := by
  induction octets generalizing dest memory with
  | nil => exact ⟨memory, rfl, SameStorage.refl memory, Holds.nil, fun _ => rfl, Grown.refl _⟩
  | cons octet octets hypothesis =>
      have first := mapped 0 (Nat.succ_pos _)
      rw [Nat.add_zero] at first
      obtain ⟨middle, ran, made⟩ := write_made first (some octet)
      obtain ⟨after, rest, storage, holds, elsewhere, events⟩ :
          ∃ after, writeAll (dest + 1) octets middle = .ok () after ∧ _ := by
        apply hypothesis
        intro index bound
        rw [made.storage.mapped, Nat.add_right_comm]
        exact mapped (index + 1) (Nat.succ_lt_succ bound)
      refine ⟨after, (bind_of_ok ran).trans rest, made.storage.trans storage, ?_, ?_, ?_⟩
      · intro index bound
        cases index with
        | zero =>
            rw [Nat.add_zero, elsewhere (by unfold Within; omega), made.slots,
              Function.update_self]
            rfl
        | succ index =>
            have later := holds index (Nat.lt_of_succ_lt_succ bound)
            rwa [Nat.add_assoc, Nat.add_comm 1] at later
      · intro address away
        rw [List.length_cons] at away
        rw [elsewhere (by unfold Within at away ⊢; omega), made.slots,
          Function.update_of_ne]
        intro same
        apply away
        rw [same]
        exact ⟨Nat.le_refl _, Nat.lt_add_of_pos_right (Nat.succ_pos _)⟩
      · rw [List.length_cons]
        apply Grown.trans
        · apply made.events.weaken
          intro event allowed
          refine ⟨?_, allowed.2⟩
          rw [allowed.1]
          exact ⟨Nat.le_refl _, Nat.lt_add_of_pos_right (Nat.succ_pos _)⟩
        · apply events.weaken
          intro event allowed
          refine ⟨?_, allowed.2⟩
          have here := allowed.1
          unfold Within at here ⊢
          omega

theorem pushBackArithmeticValue_edited (whole : Whole environment.elements store)
    {value : List α} (extensible : Extensible environment store value.length) :
    Ended (fun _ => Edited.Alone environment.elements store
        (store.contents ++ value.map Slot.object))
      (TurnedAway environment store value.length)
      (pushBackArithmeticValue environment value store) := by
  apply append_edited whole extensible.inRange extensible.growth (List.length_map ..)
  intro middle edited spacious
  have room : middle.vector.m_dataSize + value.length ≤ middle.vector.m_allocatedSize := by
    rw [spacious.size]
    exact spacious.enough
  have mapped : Mapped middle.memory.slots (middle.vector.m_p + middle.vector.m_dataSize)
      value.length :=
    Standing.part edited.whole.standing room
  obtain ⟨after, ran, storage, holds, elsewhere, events⟩ := writeAll_tailed mapped
  refine ⟨after, ran, storage, ?_, ?_, ?_, fun none => none.elim, ?_⟩
  · rw [List.length_map]
    exact holds.stretch
  · intro address away _
    rw [List.length_map] at away
    exact elsewhere away
  · intro _ slot member
    obtain ⟨octet, _, same⟩ := List.mem_map.mp member
    rw [← same]
    rfl
  · rw [List.length_map]
    apply events.weaken
    intro event allowed
    exact ⟨.inl allowed.1, allowed.2⟩

end Tail

end Vector

end CommonSerialization.Containers
