import CommonSerialization.Containers.Resets

namespace CommonSerialization.Containers

open StateExcept Storage

/-! A vector with a local one beside it: what belongs to whom, and what goes from one to the
other. -/

section Beside

variable {environment : Environment α} {memory middle : Memory α} {vector : Vector}

theorem own_stays
    (blocks : vector.m_p ≠ 0 → middle.blocks vector.m_p = memory.blocks vector.m_p)
    {address : Nat} :
    Store.own environment.elements ⟨middle, vector⟩ address ↔
      Store.own environment.elements ⟨memory, vector⟩ address := by
  apply or_congr _ Iff.rfl
  constructor
  · intro inside
    obtain ⟨owns, bytes, held, within⟩ := inside
    rw [show middle.blocks vector.m_p = _ from blocks owns.2.2] at held
    exact ⟨owns, bytes, held, within⟩
  · intro inside
    obtain ⟨owns, bytes, held, within⟩ := inside
    rw [show memory.blocks vector.m_p = _ from (blocks owns.2.2).symm] at held
    exact ⟨owns, bytes, held, within⟩

theorem Whole.holding (whole : Whole environment.elements ⟨memory, vector⟩)
    (standing : Standing environment.elements ⟨middle, vector⟩)
    (blocks : vector.m_p ≠ 0 → middle.blocks vector.m_p = memory.blocks vector.m_p)
    (same : ∀ {address}, (memory.slots address).mapped →
      Store.own environment.elements ⟨memory, vector⟩ address →
      (middle.slots address).holds = (memory.slots address).holds) :
    Whole environment.elements ⟨middle, vector⟩ := by
  refine ⟨standing, whole.home, ?_, ?_⟩
  · intro constructors index inside
    have room : index < vector.m_allocatedSize :=
      Nat.lt_of_lt_of_le inside whole.standing.fits.size
    show (middle.slots (vector.m_p + index)).holds
    rw [same (whole.standing.fits.mapped whole.standing.sound index room)
      (whole.standing.own whole.home
        ⟨Nat.le_add_right _ index, Nat.add_lt_add_left room _⟩)]
    exact whole.filled.objects constructors index inside
  · intro constructors bytes held index inside past
    have nonnull : vector.m_p ≠ 0 := by
      intro null
      have none := standing.sound.null
      rw [← null] at none
      cases held.symm.trans none
    have before : memory.blocks vector.m_p = some bytes := by
      rw [← blocks nonnull]
      exact held
    show (middle.slots (vector.m_p + index)).holds = false
    rw [same (whole.standing.sound.mapped before index inside)
      (Vector.ownBlock whole constructors before inside)]
    exact whole.filled.spare constructors before index inside past

theorem Whole.stays (whole : Whole environment.elements ⟨memory, vector⟩)
    (standing : Standing environment.elements ⟨middle, vector⟩)
    (blocks : vector.m_p ≠ 0 → middle.blocks vector.m_p = memory.blocks vector.m_p)
    (same : ∀ {address}, (memory.slots address).mapped →
      Store.own environment.elements ⟨memory, vector⟩ address →
      middle.slots address = memory.slots address) :
    Whole environment.elements ⟨middle, vector⟩ ∧
      Store.contents ⟨middle, vector⟩ = Store.contents ⟨memory, vector⟩ := by
  refine ⟨whole.holding standing blocks fun mapped own => congrArg _ (same mapped own),
    stretch_eq_iff.mpr fun index inside => ?_⟩
  have room : index < vector.m_allocatedSize :=
    Nat.lt_of_lt_of_le inside whole.standing.fits.size
  exact same (whole.standing.fits.mapped whole.standing.sound index room)
    (whole.standing.own whole.home ⟨Nat.le_add_right _ index, Nat.add_lt_add_left room _⟩)

theorem Whole.put {current : Nat} {slot : Slot α}
    (whole : Whole environment.elements ⟨memory, vector⟩)
    (standing : Standing environment.elements ⟨middle, ⟨vector.m_p,
      max vector.m_dataSize (current + 1), vector.m_allocatedSize,
      vector.m_AllocationManager⟩⟩)
    (blocks : vector.m_p ≠ 0 → middle.blocks vector.m_p = memory.blocks vector.m_p)
    (within : current ≤ vector.m_dataSize)
    (same : ∀ {address}, (memory.slots address).mapped →
      Store.own environment.elements ⟨memory, vector⟩ address →
      address ≠ vector.m_p + current → middle.slots address = memory.slots address)
    (value : middle.slots (vector.m_p + current) = slot)
    (holds : environment.elements.constructorAllocator = true → slot.holds) :
    Whole environment.elements ⟨middle, ⟨vector.m_p, max vector.m_dataSize (current + 1),
        vector.m_allocatedSize, vector.m_AllocationManager⟩⟩ ∧
      Store.contents ⟨middle, ⟨vector.m_p, max vector.m_dataSize (current + 1),
        vector.m_allocatedSize, vector.m_AllocationManager⟩⟩ =
        (Store.contents ⟨memory, vector⟩).take current ++ [slot] ++
          (Store.contents ⟨memory, vector⟩).drop (current + 1) := by
  have size : vector.m_dataSize ≤ vector.m_allocatedSize := whole.standing.fits.size
  have element {index : Nat} (inside : index < vector.m_dataSize)
      (other : index ≠ current) :
      middle.slots (vector.m_p + index) = memory.slots (vector.m_p + index) := by
    have room : index < vector.m_allocatedSize := by omega
    exact same (whole.standing.fits.mapped whole.standing.sound index room)
      (whole.standing.own whole.home ⟨Nat.le_add_right _ index, Nat.add_lt_add_left room _⟩)
      (by omega)
  refine ⟨⟨standing, whole.home, ?_, ?_⟩, ?_⟩
  · intro constructors index inside
    have bound : index < max vector.m_dataSize (current + 1) := inside
    show (middle.slots (vector.m_p + index)).holds
    by_cases isCurrent : index = current
    · rw [isCurrent, value]
      exact holds constructors
    · rw [element (by omega) isCurrent]
      exact whole.filled.objects constructors index
        (show index < vector.m_dataSize by omega)
  · intro constructors bytes held index inside past
    have later : max vector.m_dataSize (current + 1) ≤ index := past
    have nonnull : vector.m_p ≠ 0 := by
      intro null
      have none := standing.sound.null
      rw [← null] at none
      cases held.symm.trans none
    have before : memory.blocks vector.m_p = some bytes := by
      rw [← blocks nonnull]
      exact held
    show (middle.slots (vector.m_p + index)).holds = false
    rw [same (whole.standing.sound.mapped before index inside)
      (Vector.ownBlock whole constructors before inside) (by omega)]
    exact whole.filled.spare constructors before index inside
      (show vector.m_dataSize ≤ index by omega)
  · have total : max vector.m_dataSize (current + 1) =
        current + 1 + (vector.m_dataSize - (current + 1)) := by omega
    show stretch middle.slots vector.m_p (max vector.m_dataSize (current + 1)) = _
    rw [total]
    apply stretch_splice within
    · intro index before
      exact element (by omega) (by omega)
    · show [middle.slots (vector.m_p + current + 0)] = [slot]
      rw [Nat.add_zero, value]
    · intro index inside
      rw [Nat.add_assoc, Nat.add_assoc]
      exact element (by omega) (by omega)

end Beside

section Pairs

variable {environment : Environment α} {store : Store α} {pair : Pair α}

theorem PairKept.inBlock (kept : PairKept environment.elements store pair) {address : Nat}
    (own : pair.that.own environment.elements address) :
    pair.that.inOwn environment.elements address := by
  obtain inside | ⟨storage, memorySize, keeper, within⟩ := own
  · exact inside
  · have fresh : pair.other.m_AllocationManager.allocator =
        store.vector.m_AllocationManager.fresh.allocator := by
      rw [kept.fresh]
    rw [show pair.other.m_AllocationManager.allocator = _ from keeper, fresh_allocator]
      at fresh
    cases allocator : store.vector.m_AllocationManager.allocator with
    | heap =>
        rw [allocator] at fresh
        cases fresh
    | keeper p size =>
        rw [allocator] at fresh
        injection fresh with _ none
        unfold Within at within
        omega

theorem PairKept.ownApart (kept : PairKept environment.elements store pair) {address : Nat}
    (own : pair.this.own environment.elements address) :
    ¬pair.that.own environment.elements address := by
  intro other
  obtain ⟨owns, bytes, held, within⟩ := kept.inBlock other
  obtain ⟨ownsThis, others, heldThis, withinThis⟩ | ⟨_, _, keeper, _⟩ := own
  · exact kept.that.sound.apart heldThis held (kept.apart owns).symm _ withinThis within
  · have heap := kept.kind.mp owns.1
    rw [show pair.vector.m_AllocationManager.allocator = _ from keeper] at heap
    cases heap

theorem PairKept.free (kept : PairKept environment.elements store pair) {address : Nat}
    (mapped : (store.memory.slots address).mapped)
    (free : ¬store.own environment.elements address) :
    (pair.memory.slots address).mapped ∧ ¬pair.this.own environment.elements address ∧
      ¬pair.that.own environment.elements address := by
  obtain ⟨stored, outside⟩ := kept.this.notOwn mapped free
  exact ⟨stored, outside, fun own =>
    kept.clear mapped (fun own => free (.inl own)) (kept.inBlock own)⟩

end Pairs

/-- The vector with the local one that is made beside it. -/
def Store.paired (store : Store α) : Pair α :=
  ⟨store.memory, store.vector, Vector.empty store.vector.m_AllocationManager.fresh⟩

theorem Store.paired_free {elements : Elements} {store : Store α} {address : Nat} :
    ¬store.paired.that.own elements address := by
  intro own
  obtain own | ⟨storage, memorySize, keeper, within⟩ := own
  · exact own.1.2.2 rfl
  · have fresh : store.vector.m_AllocationManager.fresh.allocator =
        .keeper storage memorySize := keeper
    rw [fresh_allocator] at fresh
    cases allocator : store.vector.m_AllocationManager.allocator with
    | heap =>
        rw [allocator] at fresh
        cases fresh
    | keeper p size =>
        rw [allocator] at fresh
        injection fresh with _ none
        unfold Within at within
        omega

/-- An event at storage that was there before is about one of the two vectors, or about
what is used. -/
def Between (environment : Environment α) (pair : Pair α) (used : Nat → Prop)
    (event : Event) : Prop :=
  (pair.memory.slots event.address).mapped →
    pair.this.own environment.elements event.address ∨
      pair.that.own environment.elements event.address ∨ used event.address

/-- The elements of the two vectors are others now, and nobody else's have changed. -/
structure Arranged (environment : Environment α) (pair : Pair α) (used : Nat → Prop)
    (contents others : List (Slot α)) (after : Pair α) : Prop where
  this : Whole environment.elements after.this
  that : Whole environment.elements after.that
  contents : after.this.contents = contents
  others : after.that.contents = others
  outside : ∀ {address}, (pair.memory.slots address).mapped →
    ¬pair.this.own environment.elements address →
    ¬pair.that.own environment.elements address →
    after.memory.slots address = pair.memory.slots address
  events : Grown (fun event => Between environment pair used event ∧ event.proper)
    pair.memory.log after.memory.log

section Arrangements

variable {environment : Environment α} {store last : Store α} {pair after : Pair α}
  {used : Nat → Prop} {contents others : List (Slot α)}

theorem Arranged.same (this : Whole environment.elements pair.this)
    (that : Whole environment.elements pair.that) :
    Arranged environment pair used pair.this.contents pair.that.contents pair :=
  ⟨this, that, rfl, rfl, fun _ _ _ => rfl, Grown.refl _⟩

theorem Arranged.next {before beforeOthers : List (Slot α)}
    (first : Arranged environment store.paired used before beforeOthers pair)
    (kept : PairKept environment.elements store pair)
    (second : Arranged environment pair used contents others after) :
    Arranged environment store.paired used contents others after where
  this := second.this
  that := second.that
  contents := second.contents
  others := second.others
  outside := by
    intro address mapped free freeOther
    obtain ⟨stored, freeThis, freeThat⟩ := kept.free mapped free
    rw [second.outside stored freeThis freeThat]
    exact first.outside mapped free freeOther
  events := by
    apply first.events.trans
    apply second.events.weaken
    intro event allowed
    refine ⟨?_, allowed.2⟩
    intro mapped
    by_cases own : store.own environment.elements event.address
    · exact .inl own
    · obtain ⟨stored, freeThis, freeThat⟩ := kept.free mapped own
      obtain inThis | inThat | here := allowed.1 stored
      · exact absurd inThis freeThis
      · exact absurd inThat freeThat
      · exact .inr (.inr here)

theorem Arranged.onThis (kept : PairKept environment.elements store pair)
    (keptAfter : PairKept environment.elements store ⟨last.memory, last.vector, pair.other⟩)
    (that : Whole environment.elements pair.that)
    (edited : Vector.Edited.Alone environment.elements pair.this contents last) :
    Arranged environment pair used contents pair.that.contents
      ⟨last.memory, last.vector, pair.other⟩ := by
  obtain ⟨stays, same⟩ := that.stays keptAfter.that (fun nonnull => by
      obtain ⟨bytes, held⟩ := kept.that.ownBlock nonnull
      exact (edited.kept.others held kept.thisFree).trans held.symm)
    fun mapped own =>
      edited.outside mapped (fun here => kept.ownApart here own) fun none => none
  refine ⟨edited.whole, stays, edited.contents, same,
    fun mapped free _ => edited.outside mapped free fun none => none, ?_⟩
  apply edited.events.weaken
  intro event allowed
  exact ⟨fun mapped => (allowed.1 mapped).imp_right fun none => none.elim,
    allowed.2 trivial⟩

theorem Arranged.onThat (kept : PairKept environment.elements store pair)
    (keptAfter : PairKept environment.elements store ⟨last.memory, pair.vector, last.vector⟩)
    (this : Whole environment.elements pair.this)
    (edited : Vector.Edited.Alone environment.elements pair.that others last) :
    Arranged environment pair used pair.this.contents others
      ⟨last.memory, pair.vector, last.vector⟩ := by
  obtain ⟨stays, same⟩ := this.stays keptAfter.this.standing (fun nonnull => by
      obtain ⟨bytes, held⟩ := kept.this.standing.ownBlock nonnull
      exact (edited.kept.others held kept.thatFree).trans held.symm)
    fun mapped own => edited.outside mapped (kept.ownApart own) fun none => none
  refine ⟨stays, edited.whole, same, edited.contents,
    fun mapped _ free => edited.outside mapped free fun none => none, ?_⟩
  apply edited.events.weaken
  intro event allowed
  exact ⟨fun mapped => .inr ((allowed.1 mapped).imp_right fun none => none.elim),
    allowed.2 trivial⟩

theorem Arranged.unchanged {start : Pair α}
    (arranged : Arranged environment start used contents others pair)
    (kept : PairKept environment.elements store after) (vector : after.vector = pair.vector)
    (other : after.other = pair.other) (untouched : Untouched pair.memory after.memory) :
    Arranged environment start used contents others after := by
  obtain ⟨memory, afterVector, afterOther⟩ := after
  cases vector
  cases other
  have blocks (q : Nat) : memory.blocks q = pair.memory.blocks q :=
    congrFun untouched.blocks q
  have slots (address : Nat) : memory.slots address = pair.memory.slots address :=
    congrFun untouched.slots address
  obtain ⟨this, sameThis⟩ := arranged.this.stays kept.this.standing (fun _ => blocks _)
    fun _ _ => slots _
  obtain ⟨that, sameThat⟩ := arranged.that.stays kept.that (fun _ => blocks _)
    fun _ _ => slots _
  refine ⟨this, that, sameThis.trans arranged.contents, sameThat.trans arranged.others, ?_, ?_⟩
  · intro address mapped free freeOther
    exact (slots address).trans (arranged.outside mapped free freeOther)
  · show Grown _ _ memory.log
    rw [untouched.log]
    exact arranged.events

end Arrangements

section Departures

variable {environment : Environment α} {store : Store α} {pair middle after : Pair α}
  {memory : Memory α} {used : Nat → Prop} {i n p : Nat}

variable (environment) in
theorem destroy_vacated (mapped : (memory.slots p).mapped) (nonnull : p ≠ 0)
    (object : environment.elements.constructorAllocator = true → (memory.slots p).holds) :
    ∃ after, destroy environment p memory = .ok () after ∧
      Vacated environment True memory p 1 after := by
  cases constructors : environment.elements.constructorAllocator with
  | false =>
      refine ⟨memory, ?_, Vacated.raw constructors⟩
      unfold destroy
      rw [constructors]
      rfl
  | true =>
      have single : Mapped memory.slots p 1 := by
        intro index bound
        rwa [Nat.lt_one_iff.mp bound, Nat.add_zero]
      have objects : Objects memory.slots p 1 := by
        intro index bound
        rw [Nat.lt_one_iff.mp bound, Nat.add_zero]
        exact object constructors
      obtain ⟨last, ran, vacated⟩ := destroyFrom_vacated single nonnull constructors
        fun _ : True => objects
      obtain ⟨_, after, ranFirst, rest⟩ := bind_eq_ok ran
      cases rest
      exact ⟨_, ranFirst, vacated⟩

structure Gone (environment : Environment α) (pair : Pair α) (used : Nat → Prop)
    (i n : Nat) (after : Pair α) : Prop where
  vector : after.vector = pair.vector
  kept : Kept environment.elements pair.that after.that
  that : Whole environment.elements after.that
  others : after.that.contents =
    pair.that.contents ++ stretch pair.memory.slots (pair.vector.m_p + i) n
  stays : ∀ {address}, (pair.memory.slots address).mapped →
    pair.this.own environment.elements address →
    ¬Within (pair.vector.m_p + i) n address →
    after.memory.slots address = pair.memory.slots address
  left : environment.elements.constructorAllocator = true → ∀ index < n,
    (after.memory.slots (pair.vector.m_p + i + index)).holds = false
  outside : ∀ {address}, (pair.memory.slots address).mapped →
    ¬pair.this.own environment.elements address →
    ¬pair.that.own environment.elements address →
    after.memory.slots address = pair.memory.slots address
  events : Grown (fun event => Between environment pair used event ∧ event.proper)
    pair.memory.log after.memory.log

namespace Gone

theorem block (kept : PairKept environment.elements store pair)
    (gone : Gone environment pair used i n after) (nonnull : pair.vector.m_p ≠ 0) :
    after.memory.blocks pair.vector.m_p = pair.memory.blocks pair.vector.m_p := by
  obtain ⟨bytes, held⟩ := kept.this.standing.ownBlock nonnull
  exact (gone.kept.others held kept.thatFree).trans held.symm

theorem own (kept : PairKept environment.elements store pair)
    (gone : Gone environment pair used i n after) {address : Nat} :
    after.this.own environment.elements address ↔
      pair.this.own environment.elements address := by
  unfold Pair.this
  rw [gone.vector]
  exact own_stays (gone.block kept)

theorem nothing (that : Whole environment.elements pair.that) :
    Gone environment pair used i 0 pair where
  vector := rfl
  kept := Kept.refl that.standing
  that := that
  others := (List.append_nil _).symm
  stays := fun _ _ _ => rfl
  left := fun _ _ impossible => absurd impossible (Nat.not_lt_zero _)
  outside := fun _ _ _ => rfl
  events := Grown.refl _

theorem trans (kept : PairKept environment.elements store pair)
    (inside : i + 1 + n ≤ pair.vector.m_allocatedSize)
    (home : pair.vector.AtHome)
    (first : Gone environment pair used i 1 middle)
    (second : Gone environment middle used (i + 1) n after) :
    Gone environment pair used i (n + 1) after := by
  have standing := kept.this.standing
  have element {index : Nat} (bound : index ≤ n) :
      (pair.memory.slots (pair.vector.m_p + i + index)).mapped ∧
        pair.this.own environment.elements (pair.vector.m_p + i + index) := by
    have room : i + index < pair.vector.m_allocatedSize := by omega
    rw [Nat.add_assoc]
    exact ⟨standing.fits.mapped standing.sound _ room,
      standing.own home ⟨Nat.le_add_right _ _, Nat.add_lt_add_left room _⟩⟩
  have stillMapped {index : Nat} (bound : index < n) :
      (middle.memory.slots (pair.vector.m_p + i + (1 + index))).mapped ∧
        middle.memory.slots (pair.vector.m_p + i + (1 + index)) =
          pair.memory.slots (pair.vector.m_p + i + (1 + index)) := by
    obtain ⟨mapped, own⟩ := element (show 1 + index ≤ n by omega)
    have same := first.stays mapped own (by unfold Within; omega)
    exact ⟨same ▸ mapped, same⟩
  have base : middle.vector.m_p = pair.vector.m_p := congrArg Vector.m_p first.vector
  refine ⟨second.vector.trans first.vector, first.kept.trans second.kept, second.that,
    ?_, ?_, ?_, ?_, ?_⟩
  · rw [second.others, first.others, List.append_assoc, base, Nat.add_comm n 1, stretch_add]
    congr 2
    apply stretch_eq_iff.mpr
    intro index bound
    have same := (stillMapped bound).2
    rwa [show pair.vector.m_p + (i + 1) + index = pair.vector.m_p + i + (1 + index) by omega,
      show pair.vector.m_p + i + 1 + index = pair.vector.m_p + i + (1 + index) by omega]
  · intro address mapped own away
    have same := first.stays mapped own (by unfold Within at away ⊢; omega)
    rw [second.stays (same ▸ mapped) ((first.own kept).mpr own) (by
      rw [base]
      unfold Within at away ⊢
      omega), same]
  · intro constructors index bound
    by_cases zero : index = 0
    · rw [zero, Nat.add_zero]
      have gone := first.left constructors 0 Nat.one_pos
      rw [Nat.add_zero] at gone
      have mapped : (middle.memory.slots (pair.vector.m_p + i)).mapped := by
        have there := (element (Nat.zero_le n)).1
        have own := (element (Nat.zero_le n)).2
        rw [Nat.add_zero] at there own
        exact (first.kept.notOwn there (kept.ownApart own)).1
      rw [second.stays mapped, gone]
      · have own := (element (Nat.zero_le n)).2
        rw [Nat.add_zero] at own
        exact (first.own kept).mpr own
      · rw [base]
        unfold Within
        omega
    · have gone := second.left constructors (index - 1) (by omega)
      rwa [base, show pair.vector.m_p + (i + 1) + (index - 1) =
        pair.vector.m_p + i + index by omega] at gone
  · intro address mapped free freeOther
    have same := first.outside mapped free freeOther
    obtain ⟨stored, stillFree⟩ := first.kept.notOwn mapped freeOther
    rw [second.outside stored (fun own => free ((first.own kept).mp own)) stillFree, same]
  · apply first.events.trans
    apply second.events.weaken
    intro event allowed
    refine ⟨?_, allowed.2⟩
    intro mapped
    by_cases own : pair.that.own environment.elements event.address
    · exact .inr (.inl own)
    · obtain ⟨stored, free⟩ := first.kept.notOwn mapped own
      obtain inThis | inThat | here := allowed.1 stored
      · exact .inl ((first.own kept).mp inThis)
      · exact absurd inThat free
      · exact .inr (.inr here)

end Gone

end Departures

end CommonSerialization.Containers
