import CommonSerialization.Containers.Arrangements
import CommonSerialization.Containers.GrantedRequests

namespace CommonSerialization.Containers

open StateExcept Storage Growth

/-! Elements that have to leave their places before others are inserted there. -/

theorem Standing.inRange {elements : Elements} {store : Store α} {n : Nat}
    (standing : Standing elements store)
    (request : store.vector.m_allocatedSize < n →
      store.vector.m_AllocationManager.RequestFits elements n) : n < elements.sizeRange := by
  by_cases short : store.vector.m_allocatedSize < n
  · exact (request short).inRange
  · exact Nat.lt_of_le_of_lt (Nat.not_lt.mp short)
      (Nat.lt_of_le_of_lt (Nat.le_mul_of_pos_right _ elements.size_pos) standing.small)

theorem Spared.ended {store : Store α} {result : EStateM.Result Fault (Store α) β}
    (spared : Spared store result) :
    Ended (fun _ after => after.memory.denied = store.memory.denied) (fun _ _ => True)
      result := by
  cases result with
  | ok value after =>
      obtain same | ⟨memory, impossible, _⟩ := spared
      · exact same
      · cases impossible
  | error fault after => trivial

namespace Vector

section Displacements

variable {environment : Environment α} {store : Store α} {pair middle : Pair α}
  {used : Nat → Prop} {i n : Nat}

/-- Elements of the vector, seen from the local one. -/
theorem foreign_of_inside (kept : PairKept environment.elements store pair)
    (inside : i + n ≤ pair.vector.m_allocatedSize)
    (objects : environment.elements.constructorAllocator = true →
      Objects pair.memory.slots (pair.vector.m_p + i) n)
    (home : pair.vector.AtHome) :
    Foreign environment pair.that (pair.vector.m_p + i) n := by
  have standing := kept.this.standing
  have room {index : Nat} (bound : index < n) : i + index < pair.vector.m_allocatedSize := by
    omega
  refine ⟨?_, ?_, objects, ?_⟩
  · intro index bound
    rw [Nat.add_assoc]
    exact standing.fits.mapped standing.sound _ (room bound)
  · intro index bound
    apply kept.ownApart
    rw [Nat.add_assoc]
    exact standing.own home ⟨Nat.le_add_right _ _, Nat.add_lt_add_left (room bound) _⟩
  · have fewer : n ≤ pair.vector.m_allocatedSize := by omega
    exact Nat.lt_of_le_of_lt (Nat.mul_le_mul_right _ fewer) standing.small

structure Starved (pair : Pair α) (fault : Fault) (after : Pair α) : Prop where
  fault : fault = .status .errorNoMemory
  denied : pair.memory.denied < after.memory.denied

theorem displaced_edited (kept : PairKept environment.elements store pair)
    (that : Whole environment.elements pair.that)
    (unrefused : Unrefused environment pair.memory)
    (inside : i + 1 ≤ pair.vector.m_allocatedSize)
    (objects : environment.elements.constructorAllocator = true →
      Objects pair.memory.slots (pair.vector.m_p + i) 1)
    (home : pair.vector.AtHome)
    (request : pair.other.m_allocatedSize < pair.other.m_dataSize + 1 →
      pair.other.m_AllocationManager.RequestFits environment.elements
        (pair.other.m_dataSize + 1)) :
    Ended (fun _ after => after.vector = pair.vector ∧
        Edited environment.elements pair.that (Within (pair.vector.m_p + i) 1)
          (Within (pair.vector.m_p + i) 1) True
          (pair.that.contents ++ stretch pair.memory.slots (pair.vector.m_p + i) 1)
          after.that ∧
        (after.memory.slots (pair.vector.m_p + i)).holds =
          (pair.memory.slots (pair.vector.m_p + i)).holds ∧
        after.memory.denied = pair.memory.denied)
      (fun fault after => Starved pair fault after ∧ after.vector = pair.vector ∧
        Unchanged pair.that after.that)
      (Pair.onOther (pushBackMove environment (pair.vector.m_p + i)) pair) := by
  have inRange := that.standing.inRange request
  have extensible : Extensible environment pair.that 1 :=
    ⟨environment.elements.one_lt_sizeRange, unrefused, fun _ => request⟩
  have pushed := pushBackMove_edited that extensible
    (foreign_of_inside kept inside objects home)
  have counted : Spared pair.that
      (pushBackMove environment (pair.vector.m_p + i) pair.that) :=
    append_spared environment 1 fun _ => (transferToRawNoOverlap_storage environment .move _ _ 1).counted
  apply Ended.onPart (pushed.both (Spared.ended counted))
  · intro _ after ended
    exact ⟨rfl, ended.1.1, ended.1.2, ended.2⟩
  · intro fault after ended
    obtain ⟨⟨⟨⟨status, same, reason⟩, unchanged⟩, denied⟩, _⟩ := ended
    obtain ⟨noMemory, _⟩ | ⟨_, wraps⟩ := reason
    · rw [noMemory] at same
      exact ⟨⟨same, denied same⟩, rfl, unchanged⟩
    · exact absurd inRange (Nat.not_lt.mpr wraps)

theorem displaced_gone (kept : PairKept environment.elements store pair)
    (inside : i + 1 ≤ pair.vector.m_allocatedSize)
    (objects : environment.elements.constructorAllocator = true →
      Objects pair.memory.slots (pair.vector.m_p + i) 1)
    (home : pair.vector.AtHome) (same : middle.vector = pair.vector)
    (edited : Edited environment.elements pair.that (Within (pair.vector.m_p + i) 1)
      (Within (pair.vector.m_p + i) 1) True
      (pair.that.contents ++ stretch pair.memory.slots (pair.vector.m_p + i) 1)
      middle.that)
    (holds : (middle.memory.slots (pair.vector.m_p + i)).holds =
      (pair.memory.slots (pair.vector.m_p + i)).holds) :
    ∃ memory, destroy environment (pair.vector.m_p + i) middle.memory = .ok () memory ∧
      SameStorage middle.memory memory ∧
      Gone environment pair used i 1 ⟨memory, middle.vector, middle.other⟩ := by
  have standing := kept.this.standing
  have room : i < pair.vector.m_allocatedSize := inside
  have mapped : (pair.memory.slots (pair.vector.m_p + i)).mapped :=
    standing.fits.mapped standing.sound i room
  have own : pair.this.own environment.elements (pair.vector.m_p + i) :=
    standing.own home ⟨Nat.le_add_right _ i, Nat.add_lt_add_left room _⟩
  obtain ⟨stored, free⟩ := edited.kept.notOwn mapped (kept.ownApart own)
  have nonnull : pair.vector.m_p + i ≠ 0 := by
    obtain ⟨_, none⟩ | ⟨nonnull, _⟩ := standing.fits.block
    · have capacity : pair.vector.m_allocatedSize = 0 := none
      omega
    · have base : pair.vector.m_p ≠ 0 := nonnull
      omega
  obtain ⟨memory, ran, vacated⟩ := destroy_vacated environment stored nonnull
    fun constructors => by
      show (middle.memory.slots (pair.vector.m_p + i)).holds
      rw [holds]
      exact objects constructors 0 Nat.one_pos
  have still := Kept.sameStorage edited.kept.standing vacated.storage
    edited.kept.standing.fits.size
  have only {address : Nat} (here : Within (pair.vector.m_p + i) 1 address) :
      address = pair.vector.m_p + i := by
    unfold Within at here
    omega
  obtain ⟨stays, contents⟩ := edited.whole.stays still.standing
    (fun _ => congrFun vacated.storage.blocks _) fun _ ownThat =>
      vacated.outside fun here => free (only here ▸ ownThat)
  refine ⟨memory, ran, vacated.storage, same, edited.kept.trans still, stays,
    contents.trans edited.contents, ?_, ?_, ?_, ?_⟩
  · intro address stored ownThis away
    exact (vacated.outside away).trans (edited.outside stored (kept.ownApart ownThis) away)
  · intro constructors index bound
    have here : Within (pair.vector.m_p + i) 1 (pair.vector.m_p + i + index) := by
      unfold Within
      omega
    show (memory.slots _).holds = false
    rw [vacated.slots, if_pos ⟨constructors, nonnull, here⟩]
    rfl
  · intro address stored freeThis freeThat
    have away : ¬Within (pair.vector.m_p + i) 1 address :=
      fun here => freeThis (only here ▸ own)
    exact (vacated.outside away).trans (edited.outside stored freeThat away)
  · have atElement {event : Event} (here : Within (pair.vector.m_p + i) 1 event.address) :
        pair.this.own environment.elements event.address := by
      rw [only here]
      exact own
    apply Grown.trans
    · apply edited.events.weaken
      intro event allowed
      refine ⟨fun there => ?_, allowed.2 trivial⟩
      obtain ownThat | here := allowed.1 there
      · exact .inr (.inl ownThat)
      · exact .inl (atElement here)
    · apply vacated.events.weaken
      intro event allowed
      exact ⟨fun _ => .inl (atElement allowed.1), allowed.2 trivial⟩

theorem Starved.later {fault : Fault} {after : Pair α} (starved : Starved middle fault after)
    (same : middle.memory.denied = pair.memory.denied) : Starved pair fault after :=
  ⟨starved.fault, same ▸ starved.denied⟩

/-- An element goes to the local vector, and is no more where it was. -/
structure Displaced (environment : Environment α) (store : Store α) (used : Nat → Prop)
    (pair : Pair α) (i n : Nat) (after : Pair α) : Prop where
  leaving : Leaving environment store pair after n
  gone : Gone environment pair used i n after
  denied : after.memory.denied = pair.memory.denied

theorem displaceOne_gone (kept : PairKept environment.elements store pair)
    (that : Whole environment.elements pair.that)
    (unrefused : Unrefused environment pair.memory)
    (inside : i + 1 ≤ pair.vector.m_allocatedSize)
    (objects : environment.elements.constructorAllocator = true →
      Objects pair.memory.slots (pair.vector.m_p + i) 1)
    (home : pair.vector.AtHome)
    (request : pair.other.m_allocatedSize < pair.other.m_dataSize + 1 →
      pair.other.m_AllocationManager.RequestFits environment.elements
        (pair.other.m_dataSize + 1)) :
    Ended (fun _ after => Displaced environment store used pair i 1 after)
      (fun fault after => Starved pair fault after ∧ PairKept environment.elements store after)
      ((Pair.onOther (pushBackMove environment (pair.vector.m_p + i)) >>= fun _ =>
        Pair.onMemory (destroy environment (pair.vector.m_p + i))) pair) := by
  have displaced := (displaced_kept kept unrefused environment.elements.one_lt_sizeRange
    (show i < _ by omega) request (Nat.zero_le _)).both
    (displaced_edited kept that unrefused inside objects home request)
  apply Ended.bind (displaced.weaken (fun _ _ both => both) fun _ _ both =>
    ⟨both.2.1, both.1.2.1⟩)
  intro _ middle both
  obtain ⟨⟨keptNow, same, more, order⟩, _, edited, holds, counted⟩ := both
  obtain ⟨memory, ran, storage, gone⟩ : ∃ memory,
      destroy environment (pair.vector.m_p + i) middle.memory = .ok () memory ∧
      SameStorage middle.memory memory ∧
      Gone environment pair used i 1 ⟨memory, middle.vector, middle.other⟩ :=
    displaced_gone kept inside objects home same edited holds
  have whole : Pair.onMemory (destroy environment (pair.vector.m_p + i)) middle =
      .ok () ⟨memory, middle.vector, middle.other⟩ := onPart_of_ok ran
  rw [whole]
  exact ⟨⟨keptNow.sameStorage storage, same, more,
    (unrefused.later order).later storage.constructions⟩, gone, storage.denied.trans counted⟩

theorem Displaced.trans (kept : PairKept environment.elements store pair) {after : Pair α}
    (inside : i + (n + 1) ≤ pair.vector.m_allocatedSize) (home : pair.vector.AtHome)
    (first : Displaced environment store used pair i 1 middle)
    (rest : Displaced environment store used middle (i + 1) n after) :
    Displaced environment store used pair i (n + 1) after where
  leaving := by
    refine ⟨rest.leaving.kept, rest.leaving.vector.trans first.leaving.vector, ?_,
      rest.leaving.unrefused⟩
    rw [rest.leaving.temp, first.leaving.temp, Nat.add_assoc, Nat.add_comm 1]
  gone := Gone.trans kept (by omega) home first.gone rest.gone
  denied := rest.denied.trans first.denied

variable {count : Memory α → Nat} {grows : AllocationManager → Nat → Nat → Prop}
  {last : Nat → Prop}

variable (used) in
/-- One element less that has to go. -/
theorem displaceOne_supplied (accounting : Accounting environment count grows)
    (kept : PairKept environment.elements store pair)
    (that : Whole environment.elements pair.that)
    (unrefused : Unrefused environment pair.memory)
    (inside : i + 1 ≤ pair.vector.m_allocatedSize)
    (objects : environment.elements.constructorAllocator = true →
      Objects pair.memory.slots (pair.vector.m_p + i) 1)
    (home : pair.vector.AtHome)
    (supplied : Supplied (pair.other.m_AllocationManager.RequestFits environment.elements)
      (grows pair.other.m_AllocationManager) last (n + 1) pair.other.m_dataSize
      pair.other.m_allocatedSize) :
    EndedBut (fun pair => count pair.memory)
      (fun _ after => Displaced environment store used pair i 1 after ∧
        Supplied (after.other.m_AllocationManager.RequestFits environment.elements)
          (grows after.other.m_AllocationManager) last n after.other.m_dataSize
          after.other.m_allocatedSize)
      (fun fault after => Starved pair fault after ∧ PairKept environment.elements store after)
      pair ((Pair.onOther (pushBackMove environment (pair.vector.m_p + i)) >>= fun _ =>
        Pair.onMemory (destroy environment (pair.vector.m_p + i))) pair) := by
  have small : pair.other.m_dataSize < environment.elements.sizeRange :=
    Nat.lt_of_succ_lt (that.standing.inRange supplied.request)
  apply EndedBut.of_ended
  apply (displaceOne_gone kept that unrefused inside objects home supplied.request).ran.weaken
  · intro _ after both
    obtain ⟨displaced, ran⟩ := both
    obtain ⟨_, counted | extended⟩ := displaceOne_grown accounting small ran
    · exact .inl counted
    · refine .inr ⟨displaced, ?_⟩
      have size : after.other.m_dataSize ≤ after.other.m_allocatedSize :=
        displaced.gone.that.standing.fits.size
      rw [extended.size] at size ⊢
      rw [displaced.leaving.kept.fresh.trans kept.fresh.symm]
      exact supplied.step extended.regrown size
  · exact fun _ _ both => both.1

theorem displaceEach_gone (accounting : Accounting environment count grows)
    (kept : PairKept environment.elements store pair)
    (that : Whole environment.elements pair.that)
    (unrefused : Unrefused environment pair.memory)
    (inside : i + n ≤ pair.vector.m_allocatedSize)
    (objects : environment.elements.constructorAllocator = true →
      Objects pair.memory.slots (pair.vector.m_p + i) n)
    (home : pair.vector.AtHome)
    (supplied : Supplied (pair.other.m_AllocationManager.RequestFits environment.elements)
      (grows pair.other.m_AllocationManager) last n pair.other.m_dataSize
      pair.other.m_allocatedSize) :
    EndedBut (fun pair => count pair.memory)
      (fun _ after => Displaced environment store used pair i n after)
      (fun fault after => Starved pair fault after ∧ PairKept environment.elements store after)
      pair (displaceEach environment i n pair) := by
  induction n generalizing i pair with
  | zero => exact .inr ⟨⟨kept, rfl, rfl, unrefused⟩, Gone.nothing that, rfl⟩
  | succ n hypothesis =>
      unfold displaceEach
      rw [bind_of_ok (get_apply pair), ← bind_assoc]
      apply EndedBut.bind (displaceOne_supplied used accounting kept that unrefused (by omega)
        (fun constructors index bound => objects constructors index (by omega)) home supplied)
      · exact fun pair => (accounting.framed.displaceOne trivial _).memory
      · exact fun _ pair => (accounting.framed.displaceEach trivial).memory
      intro _ middle both
      obtain ⟨displaced, suppliedNow⟩ := both
      have leaving := displaced.leaving
      have same := leaving.vector
      have base : middle.vector.m_p = pair.vector.m_p := congrArg Vector.m_p same
      have rest : environment.elements.constructorAllocator = true →
          Objects middle.memory.slots (middle.vector.m_p + (i + 1)) n := by
        intro constructors index bound
        have standing := kept.this.standing
        have room : i + 1 + index < pair.vector.m_allocatedSize := by omega
        rw [base, Nat.add_assoc]
        rw [show middle.memory.slots _ =
          pair.memory.slots (pair.vector.m_p + (i + 1 + index)) from
            displaced.gone.stays (standing.fits.mapped standing.sound _ room)
              (standing.own home ⟨Nat.le_add_right _ _, Nat.add_lt_add_left room _⟩)
              (by unfold Within; omega)]
        have object := objects constructors (index + 1) (by omega)
        rwa [show pair.vector.m_p + i + (index + 1) = pair.vector.m_p + (i + 1 + index) by
          omega] at object
      apply (hypothesis leaving.kept displaced.gone.that leaving.unrefused (by
          rw [same]
          omega) rest (by
          rw [same]
          exact home) suppliedNow).weaken
      · intro _ after next
        exact displaced.trans kept inside home next
      · intro fault after failed
        exact ⟨failed.1.later displaced.denied, failed.2⟩

theorem copied_gone {last : Store α} (kept : PairKept environment.elements store pair)
    (raw : environment.elements.constructorAllocator = false)
    (inside : i + n ≤ pair.vector.m_allocatedSize) (home : pair.vector.AtHome)
    (edited : Edited environment.elements pair.that (fun _ => False)
      (Within (pair.vector.m_p + i) n) True
      (pair.that.contents ++ stretch pair.memory.slots (pair.vector.m_p + i) n) last) :
    Gone environment pair used i n ⟨last.memory, pair.vector, last.vector⟩ where
  vector := rfl
  kept := edited.kept
  that := edited.whole
  others := edited.contents
  stays := fun mapped own _ => edited.outside mapped (kept.ownApart own) fun none => none
  left := by
    intro constructors
    rw [raw] at constructors
    cases constructors
  outside := fun mapped _ free => edited.outside mapped free fun none => none
  events := by
    apply edited.events.weaken
    intro event allowed
    refine ⟨fun mapped => ?_, allowed.2 trivial⟩
    obtain own | here := allowed.1 mapped
    · exact .inr (.inl own)
    · left
      apply kept.this.standing.own home
      show Within pair.vector.m_p pair.vector.m_allocatedSize event.address
      unfold Within at here ⊢
      omega

theorem copyTail_gone (kept : PairKept environment.elements store pair)
    (this : Whole environment.elements pair.this)
    (that : Whole environment.elements pair.that)
    (unrefused : Unrefused environment pair.memory)
    (raw : environment.elements.constructorAllocator = false)
    (some : pair.other.m_dataSize ≠ 0) (inside : i + n ≤ pair.vector.m_allocatedSize)
    (request : pair.other.m_allocatedSize < pair.other.m_dataSize + n →
      pair.other.m_AllocationManager.RequestFits environment.elements
        (pair.other.m_dataSize + n)) :
    Ended (fun _ after => Displaced environment store used pair i n after)
      (fun fault after => Starved pair fault after ∧
        PairKept environment.elements store after ∧ after.vector = pair.vector ∧
        Unchanged pair.that after.that)
      (Pair.onOther (pushBackN environment (pair.vector.m_p + i) n) pair) := by
  have objects : environment.elements.constructorAllocator = true →
      Objects pair.memory.slots (pair.vector.m_p + i) n := by
    intro constructors
    rw [raw] at constructors
    cases constructors
  have inRange := that.standing.inRange request
  have left : EndsPair environment.elements store
      (fun _ after => Leaving environment store pair after n) 0
      (Pair.onOther (pushBackN environment (pair.vector.m_p + i) n) pair) :=
    copyTail_kept kept unrefused inRange some inside request (Nat.zero_le _)
  have foreign := foreign_of_inside kept inside objects this.home
  have extensible : Extensible environment pair.that n :=
    ⟨Nat.lt_of_le_of_lt (Nat.le_add_left n _) inRange, unrefused, fun _ => request⟩
  have pushed := pushBackN_edited that extensible fun _ => TailGiven.of_foreign that foreign
  have counted : Spared pair.that
      (pushBackN environment (pair.vector.m_p + i) n pair.that) := by
    unfold pushBackN
    apply spared_ite
    · exact fun _ => spared_of_counted (Preserves.throw _)
    · exact fun _ => append_spared environment n fun _ =>
        (transferToRawNoOverlap_storage environment .copy _ _ n).counted
  have copied : Ended (fun _ after => Gone environment pair used i n after ∧
        after.memory.denied = pair.memory.denied)
      (fun fault after => Starved pair fault after ∧ after.vector = pair.vector ∧
        Unchanged pair.that after.that)
      (Pair.onOther (pushBackN environment (pair.vector.m_p + i) n) pair) := by
    apply Ended.onPart (pushed.both (Spared.ended counted))
    · intro _ last ended
      exact ⟨copied_gone kept raw inside this.home ended.1, ended.2⟩
    · intro fault last ended
      obtain ⟨rejected | ⟨⟨⟨status, same, reason⟩, unchanged⟩, denied⟩, _⟩ := ended
      · obtain ⟨⟨_, _, _, null, some⟩, _⟩ := rejected
        have nonnull := this.nonnull (show 0 < pair.vector.m_allocatedSize by omega)
        exact absurd (Nat.eq_zero_of_add_eq_zero_right null) nonnull
      · obtain ⟨noMemory, _⟩ | ⟨_, wraps⟩ := reason
        · rw [noMemory] at same
          exact ⟨⟨same, denied same⟩, rfl, unchanged⟩
        · exact absurd inRange (Nat.not_lt.mpr wraps)
  apply (left.both copied).weaken
  · exact fun _ _ both => ⟨both.1, both.2.1, both.2.2⟩
  · exact fun _ _ both => ⟨both.2.1, both.1.2.1, both.2.2⟩

/-- What is asked for when elements have to go one by one, or all at once. -/
def TailFits (elements : Elements) (grows : AllocationManager → Nat → Nat → Prop)
    (manager : AllocationManager) (n size capacity : Nat) : Prop :=
  if elements.constructorAllocator then
    Supplied (manager.RequestFits elements) (grows manager) (fun _ => True) n size capacity
  else
    capacity < size + n → manager.RequestFits elements (size + n)

theorem displaceTail_gone (accounting : Accounting environment count grows)
    (kept : PairKept environment.elements store pair)
    (this : Whole environment.elements pair.this)
    (that : Whole environment.elements pair.that)
    (unrefused : Unrefused environment pair.memory)
    (some : pair.other.m_dataSize ≠ 0) (all : i + n = pair.vector.m_dataSize)
    (fits : TailFits environment.elements grows pair.other.m_AllocationManager n
      pair.other.m_dataSize pair.other.m_allocatedSize) :
    EndedBut (fun pair => count pair.memory)
      (fun _ after => Displaced environment store used pair i n after)
      (fun fault after => Starved pair fault after ∧
        PairKept environment.elements store after ∧
        (environment.elements.constructorAllocator = false →
          after.vector = pair.vector ∧ Unchanged pair.that after.that))
      pair (displaceTail environment i n pair) := by
  have size : pair.vector.m_dataSize ≤ pair.vector.m_allocatedSize := this.standing.fits.size
  unfold displaceTail
  unfold TailFits at fits
  cases constructors : environment.elements.constructorAllocator with
  | true =>
      rw [if_pos constructors] at fits
      have objects : environment.elements.constructorAllocator = true →
          Objects pair.memory.slots (pair.vector.m_p + i) n := by
        intro _ index bound
        rw [Nat.add_assoc]
        exact this.filled.objects constructors (i + index)
          (show i + index < pair.vector.m_dataSize by omega)
      apply (displaceEach_gone accounting kept that unrefused (by omega) objects this.home
        fits).weaken
      · exact fun _ _ ended => ended
      · exact fun _ _ failed => ⟨failed.1, failed.2, fun raw => by cases raw⟩
  | false =>
      rw [constructors, if_neg Bool.false_ne_true] at fits
      simp only [Bool.false_eq_true, if_false]
      rw [bind_of_ok (get_apply pair)]
      right
      apply (copyTail_gone kept this that unrefused constructors some (by omega) fits).weaken
      · exact fun _ _ ended => ended
      · exact fun _ _ failed => ⟨failed.1, failed.2.1, fun _ => failed.2.2⟩

/-- The elements that have gone are not counted any more. -/
theorem Gone.cut (kept : PairKept environment.elements store pair)
    (this : Whole environment.elements pair.this)
    (keptAfter : PairKept environment.elements store middle)
    (gone : Gone environment pair used i n middle)
    (all : i + n = pair.vector.m_dataSize) :
    Arranged environment pair used (pair.this.contents.take i)
      (pair.that.contents ++ pair.this.contents.drop i)
      ⟨middle.memory, ⟨middle.vector.m_p, i, middle.vector.m_allocatedSize,
        middle.vector.m_AllocationManager⟩, middle.other⟩ := by
  have size : pair.vector.m_dataSize ≤ pair.vector.m_allocatedSize := this.standing.fits.size
  have cut := Kept.sameStorage keptAfter.this.standing (SameStorage.refl middle.memory)
    (show i ≤ middle.vector.m_allocatedSize by
      rw [gone.vector]
      omega)
  have stays {index : Nat} (before : index < i) :
      middle.memory.slots (pair.vector.m_p + index) =
        pair.memory.slots (pair.vector.m_p + index) := by
    have room : index < pair.vector.m_allocatedSize := by omega
    apply gone.stays (this.standing.fits.mapped this.standing.sound index room)
      (this.standing.own this.home
        ⟨Nat.le_add_right _ index, Nat.add_lt_add_left room _⟩)
    show ¬Within (pair.vector.m_p + i) n (pair.vector.m_p + index)
    unfold Within
    omega
  refine ⟨⟨cut.standing, ?_, ?_, ?_⟩, gone.that, ?_, ?_, gone.outside, gone.events⟩
  · show middle.vector.AtHome
    rw [gone.vector]
    exact this.home
  · intro constructors index before
    show (middle.memory.slots (middle.vector.m_p + index)).holds
    rw [gone.vector, stays before]
    exact this.filled.objects constructors index
      (show index < pair.vector.m_dataSize from
        Nat.lt_of_lt_of_le before (all ▸ Nat.le_add_right i n))
  · intro constructors bytes held index inside past
    have heldBefore : pair.memory.blocks pair.vector.m_p = some bytes := by
      have block : middle.memory.blocks pair.vector.m_p = some bytes := by
        rw [← gone.vector]
        exact held
      rw [← gone.block kept, block]
      intro null
      rw [null, show middle.memory.blocks 0 = none from keptAfter.this.standing.sound.null]
        at block
      cases block
    have later : i ≤ index := past
    show (middle.memory.slots (middle.vector.m_p + index)).holds = false
    rw [gone.vector]
    by_cases taken : index < i + n
    · have left := gone.left constructors (index - i) (by omega)
      rwa [Nat.add_assoc, Nat.add_sub_cancel' later] at left
    · rw [gone.stays (this.standing.sound.mapped heldBefore index inside)
        (ownBlock this constructors heldBefore inside) (by unfold Within; omega)]
      exact this.filled.spare constructors heldBefore index inside
        (show pair.vector.m_dataSize ≤ index by omega)
  · show stretch middle.memory.slots middle.vector.m_p i = _
    rw [gone.vector]
    show _ = (stretch _ _ pair.vector.m_dataSize).take i
    rw [take_stretch (show i ≤ pair.vector.m_dataSize by omega)]
    exact stretch_eq_iff.mpr fun _ => stays
  · show middle.that.contents = _
    rw [gone.others]
    congr 1
    show _ = (stretch _ _ pair.vector.m_dataSize).drop i
    rw [drop_stretch (show i ≤ pair.vector.m_dataSize by omega), ← all,
      Nat.add_sub_cancel_left]
    rfl

end Displacements

section Turns

variable {environment : Environment α} {store : Store α} {pair : Pair α}
  {used : Nat → Prop} {k current src : Nat}

structure Opened (environment : Environment α) (pair : Pair α) (used : Nat → Prop)
    (current : Nat) (after : Pair α) : Prop where
  vector : after.vector = ⟨pair.vector.m_p, max pair.vector.m_dataSize (current + 1),
    pair.vector.m_allocatedSize, pair.vector.m_AllocationManager⟩
  gone : Gone environment pair used current (min 1 (pair.vector.m_dataSize - current))
    ⟨after.memory, pair.vector, after.other⟩
  free : environment.elements.constructorAllocator = true →
    (after.memory.slots (pair.vector.m_p + current)).holds = false
  denied : after.memory.denied = pair.memory.denied

theorem displace_opened (kept : PairKept environment.elements store pair)
    (this : Whole environment.elements pair.this)
    (that : Whole environment.elements pair.that)
    (unrefused : Unrefused environment pair.memory)
    (room : current < pair.vector.m_allocatedSize)
    (within : current ≤ pair.vector.m_dataSize)
    (request : current < pair.vector.m_dataSize →
      pair.other.m_allocatedSize < pair.other.m_dataSize + 1 →
      pair.other.m_AllocationManager.RequestFits environment.elements
        (pair.other.m_dataSize + 1)) :
    Ended (fun _ after => Opened environment pair used current after)
      (fun fault after => Starved pair fault after ∧ after.vector = pair.vector ∧
        Unchanged pair.that after.that)
      (displace environment (pair.vector.m_p + current) current pair) := by
  unfold displace
  rw [bind_of_ok (get_apply pair)]
  by_cases before : current < pair.vector.m_dataSize
  · rw [if_pos before]
    have objects : environment.elements.constructorAllocator = true →
        Objects pair.memory.slots (pair.vector.m_p + current) 1 := by
      intro constructors index bound
      rw [Nat.add_assoc]
      exact this.filled.objects constructors (current + index)
        (show current + index < pair.vector.m_dataSize by omega)
    apply Ended.bind (displaced_edited kept that unrefused room objects this.home
      (request before))
    intro _ middle displaced
    obtain ⟨same, edited, holds, counted⟩ := displaced
    obtain ⟨memory, ran, storage, gone⟩ : ∃ memory,
        destroy environment (pair.vector.m_p + current) middle.memory = .ok () memory ∧
        SameStorage middle.memory memory ∧
        Gone environment pair used current 1 ⟨memory, middle.vector, middle.other⟩ :=
      displaced_gone kept room objects this.home same edited holds
    have ranAll : Pair.onMemory (destroy environment (pair.vector.m_p + current)) middle =
        .ok () ⟨memory, middle.vector, middle.other⟩ := onPart_of_ok ran
    rw [ranAll]
    refine ⟨?_, ?_, fun constructors => gone.left constructors 0 Nat.one_pos,
      storage.denied.trans counted⟩
    · show middle.vector = _
      rw [same, Nat.max_eq_left before]
    · rw [Nat.min_eq_left (show 1 ≤ _ by omega)]
      rw [same] at gone
      exact gone
  · rw [if_neg before]
    have last : current = pair.vector.m_dataSize := by omega
    refine ⟨?_, ?_, ?_, rfl⟩
    · show (⟨_, current + 1, _, _⟩ : Vector) = _
      rw [Nat.max_eq_right (by omega)]
    · rw [Nat.sub_eq_zero_of_le (Nat.not_lt.mp before)]
      exact Gone.nothing that
    · intro constructors
      have vacant := this.vacant constructors (Nat.le_of_eq last.symm) room
      show (pair.memory.slots (pair.vector.m_p + current)).holds = false
      rw [show pair.memory.slots (pair.vector.m_p + current) = .vacant from vacant]
      rfl

structure Outsider (environment : Environment α) (pair : Pair α) (src : Nat) : Prop where
  mapped : (pair.memory.slots src).mapped
  notThis : ¬pair.this.own environment.elements src
  notThat : ¬pair.that.own environment.elements src
  object : environment.elements.constructorAllocator = true → (pair.memory.slots src).holds

theorem copyOne_placed {memory : Memory α} {dest src : Nat} (differ : dest ≠ src)
    (small : 1 * environment.elements.size < environment.elements.sizeRange)
    (destMapped : (memory.slots dest).mapped) (srcMapped : (memory.slots src).mapped)
    (unrefused : Unrefused environment memory)
    (free : environment.elements.constructorAllocator = true →
      (memory.slots dest).holds = false)
    (object : environment.elements.constructorAllocator = true → (memory.slots src).holds) :
    ∃ after, copyToRawNoOverlap environment dest src 1 memory = .ok () after ∧
      Placed environment .copy True memory dest src 1 after := by
  have apart : Apart dest 1 src 1 := by
    intro address here there
    exact differ ((within_one.mp here).symm.trans (within_one.mp there))
  have destOnly : Mapped memory.slots dest 1 := by
    intro index bound
    rwa [Nat.lt_one_iff.mp bound, Nat.add_zero]
  apply transferToRawNoOverlap_placed environment .copy
  · exact fun _ => ⟨small, .inr (overlap_of_apart apart)⟩
  · intro _
    omega
  · exact destOnly
  · intro index bound
    rwa [Nat.lt_one_iff.mp bound, Nat.add_zero]
  · exact unrefused.accepted 1
  · intro constructors _
    refine ⟨?_, ?_, apart⟩
    · intro index bound
      rw [Nat.lt_one_iff.mp bound, Nat.add_zero]
      exact object constructors
    · intro index bound
      rw [Nat.lt_one_iff.mp bound, Nat.add_zero]
      exact Slot.vacant_of_free destMapped (free constructors)

/-- What has gone to the local vector is the element at the cursor, if there is one. -/
theorem taken_contents (within : current ≤ pair.vector.m_dataSize) :
    stretch pair.memory.slots (pair.vector.m_p + current)
        (min 1 (pair.vector.m_dataSize - current)) =
      (pair.this.contents.drop current).take 1 := by
  show _ = ((stretch pair.memory.slots pair.vector.m_p pair.vector.m_dataSize).drop
    current).take 1
  rw [drop_stretch within]
  obtain none | some := Nat.eq_zero_or_pos (pair.vector.m_dataSize - current)
  · rw [none]
    rfl
  · rw [take_stretch some, Nat.min_eq_left some]

/-- The place that has been opened is filled. -/
theorem opened_filled {middle : Pair α} (kept : PairKept environment.elements store pair)
    (this : Whole environment.elements pair.this)
    (keptMiddle : PairKept environment.elements store middle)
    (opened : Opened environment pair used current middle)
    (unrefused : Unrefused environment middle.memory)
    (room : current < pair.vector.m_allocatedSize)
    (within : current ≤ pair.vector.m_dataSize)
    (outsider : Outsider environment pair src) (isUsed : used src) :
    ∃ memory, copyToRawNoOverlap environment (pair.vector.m_p + current) src 1
        middle.memory = .ok () memory ∧
      SameStorage middle.memory memory ∧
      Arranged environment pair used
        (pair.this.contents.take current ++ [pair.memory.slots src] ++
          pair.this.contents.drop (current + 1))
        (pair.that.contents ++ (pair.this.contents.drop current).take 1)
        ⟨memory, middle.vector, middle.other⟩ := by
  have standing := this.standing
  have gone := opened.gone
  have mapped : (pair.memory.slots (pair.vector.m_p + current)).mapped :=
    standing.fits.mapped standing.sound current room
  have own : pair.this.own environment.elements (pair.vector.m_p + current) :=
    standing.own this.home ⟨Nat.le_add_right _ current, Nat.add_lt_add_left room _⟩
  have apart : pair.vector.m_p + current ≠ src := fun same => outsider.notThis (same ▸ own)
  obtain ⟨stored, freeThat⟩ :
      (middle.memory.slots (pair.vector.m_p + current)).mapped ∧
        ¬middle.that.own environment.elements (pair.vector.m_p + current) :=
    gone.kept.notOwn mapped (kept.ownApart own)
  have source : middle.memory.slots src = pair.memory.slots src :=
    gone.outside outsider.mapped outsider.notThis outsider.notThat
  obtain ⟨memory, ran, placed⟩ : ∃ memory,
      copyToRawNoOverlap environment (pair.vector.m_p + current) src 1 middle.memory =
        .ok () memory ∧
      Placed environment .copy True middle.memory (pair.vector.m_p + current) src 1
        memory := by
    apply copyOne_placed apart
    · exact Nat.lt_of_le_of_lt (Nat.mul_le_mul_right _
        (show 1 ≤ pair.vector.m_allocatedSize by omega)) standing.small
    · exact stored
    · rw [source]
      exact outsider.mapped
    · exact unrefused
    · exact opened.free
    · rw [source]
      exact outsider.object
  have elsewhere {address : Nat} (other : address ≠ pair.vector.m_p + current) :
      memory.slots address = middle.memory.slots address :=
    placed.copied fun here => other (within_one.mp here)
  have keptAfter := keptMiddle.sameStorage placed.storage
  have blocks (nonnull : pair.vector.m_p ≠ 0) :
      memory.blocks pair.vector.m_p = pair.memory.blocks pair.vector.m_p := by
    rw [placed.storage.blocks]
    have block := gone.block kept nonnull
    exact block
  have value : memory.slots (pair.vector.m_p + current) = pair.memory.slots src := by
    rw [← source]
    exact placed.values 0 Nat.one_pos
  have standingAfter : Standing environment.elements ⟨memory, ⟨pair.vector.m_p,
      max pair.vector.m_dataSize (current + 1), pair.vector.m_allocatedSize,
      pair.vector.m_AllocationManager⟩⟩ := by
    rw [← opened.vector]
    exact keptAfter.this.standing
  obtain ⟨put, contents⟩ := Whole.put this standingAfter blocks within
    (fun stored own other => by
      rw [elsewhere other]
      exact gone.stays stored own (by
        have bound := Nat.min_le_left 1 (pair.vector.m_dataSize - current)
        show ¬Within (pair.vector.m_p + current) _ _
        unfold Within
        omega)) value outsider.object
  obtain ⟨stays, others⟩ := gone.that.stays keptAfter.that
    (fun _ => congrFun placed.storage.blocks _) fun _ ownThat =>
      elsewhere fun here => freeThat (here ▸ ownThat)
  rw [← opened.vector] at put contents
  refine ⟨memory, ran, placed.storage, put, stays, contents, ?_, ?_, ?_⟩
  · exact others.trans (gone.others.trans (congrArg _ (taken_contents within)))
  · intro address stored free freeOther
    rw [show memory.slots address = _ from elsewhere fun here => free (here ▸ own)]
    exact gone.outside stored free freeOther
  · apply gone.events.trans
    apply placed.events.weaken
    intro event allowed
    refine ⟨fun _ => ?_, allowed.2 trivial⟩
    obtain here | there := allowed.1
    · rw [within_one.mp here]
      exact .inl own
    · rw [within_one.mp there]
      exact .inr (.inr isUsed)

theorem space_edited {needed : Nat} (this : Whole environment.elements pair.this)
    (allowed : GrowthAllowed environment pair.this false needed) :
    Ended (fun _ after => after.other = pair.other ∧
        Edited.Alone environment.elements pair.this pair.this.contents after.this ∧
        after.memory.denied = pair.memory.denied)
      (fun fault after => Starved pair fault after ∧ after.vector = pair.vector ∧
        after.other = pair.other ∧ Untouched pair.memory after.memory)
      (Pair.onThis (reserveInternal environment needed false) pair) := by
  have counted : Spared pair.this (reserveInternal environment needed false pair.this) :=
    reserveInternal_spared environment needed false
  apply Ended.onPart ((reserveInternal_edited this false allowed).both (Spared.ended counted))
  · intro _ last ended
    exact ⟨rfl, ended.1, ended.2⟩
  · intro fault last ended
    obtain ⟨⟨noMemory, unchanged, denied⟩, _⟩ := ended
    exact ⟨⟨noMemory, denied⟩, unchanged.vector, rfl, unchanged.memory⟩

end Turns

end Vector

end CommonSerialization.Containers
