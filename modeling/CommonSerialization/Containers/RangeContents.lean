import CommonSerialization.Containers.Displacements

namespace CommonSerialization.Containers

open StateExcept Storage Growth

/-! What the elements of a vector are after the insertion of a range. -/

namespace Vector

section Cursor

variable {list inserted rest : List α} {slot : α} {k current : Nat}

theorem take_cursor (inside : k ≤ list.length) (lower : k ≤ current)
    (length : inserted.length = current - k) :
    (list.take k ++ inserted ++ rest).take current = list.take k ++ inserted := by
  apply List.take_left'
  rw [List.length_append, List.length_take, length]
  omega

theorem drop_cursor (inside : k ≤ list.length) (lower : k ≤ current)
    (length : inserted.length = current - k) :
    (list.take k ++ inserted ++ rest).drop current = rest := by
  apply List.drop_left'
  rw [List.length_append, List.length_take, length]
  omega

theorem drop_take_succ (inside : k ≤ list.length) (lower : k ≤ current) :
    (list.take current).drop k ++ (list.drop current).take 1 =
      (list.take (current + 1)).drop k := by
  rw [List.take_add, List.drop_append_of_le_length]
  rw [List.length_take]
  omega

end Cursor

section Loop

variable {environment : Environment α} {store : Store α} {pair : Pair α}
  {used : Nat → Prop} {k current : Nat} {inserted : List (Slot α)}

structure Cursor (environment : Environment α) (store : Store α) (used : Nat → Prop)
    (k : Nat) (inserted : List (Slot α)) (current : Nat) (pair : Pair α) : Prop where
  stage : Stage environment store k pair current
  length : inserted.length = current - k
  arranged : Arranged environment store.paired used
    (store.contents.take k ++ inserted ++ store.contents.drop current)
    ((store.contents.take current).drop k) pair

def Remaining (environment : Environment α) (store : Store α) (used : Nat → Prop) (k : Nat)
    (after : Pair α) : Prop :=
  ∃ rest others,
    Arranged environment store.paired used (store.contents.take k ++ rest) others after

theorem Cursor.remaining (cursor : Cursor environment store used k inserted current pair)
    {after : Pair α} (kept : PairKept environment.elements store after)
    (vector : after.vector = pair.vector) (other : after.other = pair.other)
    (untouched : Untouched pair.memory after.memory) :
    Remaining environment store used k after := by
  have arranged := cursor.arranged.unchanged kept vector other untouched
  rw [List.append_assoc] at arranged
  exact ⟨_, _, arranged⟩

structure Stopped (environment : Environment α) (store : Store α) (used : Nat → Prop)
    (k : Nat) (pair : Pair α) (fault : Fault) (after : Pair α) : Prop where
  starved : Starved pair fault after
  kept : PairKept environment.elements store after
  remaining : Remaining environment store used k after

theorem Stopped.later {fault : Fault} {middle after : Pair α}
    (stopped : Stopped environment store used k middle fault after)
    (same : middle.memory.denied = pair.memory.denied) :
    Stopped environment store used k pair fault after :=
  ⟨stopped.starved.later same, stopped.kept, stopped.remaining⟩

theorem Cursor.outsider (cursor : Cursor environment store used k inserted current pair)
    {src : Nat} (foreign : Foreign environment store src 1) :
    Outsider environment pair src ∧ pair.memory.slots src = store.memory.slots src := by
  have mapped := foreign.mapped 0 Nat.one_pos
  have outside := foreign.outside 0 Nat.one_pos
  rw [Nat.add_zero] at mapped outside
  obtain ⟨stored, notThis, notThat⟩ := cursor.stage.kept.free mapped outside
  have same : pair.memory.slots src = store.memory.slots src :=
    cursor.arranged.outside mapped outside Store.paired_free
  refine ⟨⟨stored, notThis, notThat, ?_⟩, same⟩
  intro constructors
  rw [same]
  exact foreign.objects constructors 0 Nat.one_pos

variable {count : Memory α → Nat} {grows : AllocationManager → Nat → Nat → Prop}

theorem Cursor.space (accounting : Accounting environment count grows)
    (cursor : Cursor environment store used k inserted current pair)
    {needed : Nat} (short : pair.vector.m_allocatedSize < needed)
    (request : pair.vector.m_AllocationManager.RequestFits environment.elements needed)
    (inside : k ≤ store.vector.m_dataSize) :
    EndedBut (fun pair => count pair.memory)
      (fun _ after => Cursor environment store used k inserted current after ∧
        needed ≤ after.vector.m_allocatedSize ∧
        grows pair.vector.m_AllocationManager needed after.vector.m_allocatedSize ∧
        after.other = pair.other ∧ after.memory.denied = pair.memory.denied)
      (fun fault after => Stopped environment store used k pair fault after)
      pair (Pair.onThis (reserveInternal environment needed false) pair) := by
  have stage := cursor.stage
  have allowed : GrowthAllowed environment pair.this false needed :=
    fun _ => ⟨request, stage.unrefused.accepted _⟩
  apply EndedBut.of_ended
  apply ((stage.space short request inside).both
    (space_edited cursor.arranged.this allowed)).ran.weaken
  · intro _ after both
    obtain ⟨⟨⟨stageNext, enough⟩, other, edited, denied⟩, ran⟩ := both
    obtain ⟨last, ranThis, isAfter⟩ := onPart_eq_ok ran
    obtain ⟨_, _, counted | regrown⟩ := reserveInternal_grown accounting ranThis
    · rw [isAfter]
      exact .inl counted
    · right
      obtain ⟨memory, vector, afterOther⟩ := after
      cases other
      have next : Arranged environment pair used pair.this.contents pair.that.contents
          ⟨memory, vector, pair.other⟩ :=
        Arranged.onThis stage.kept stageNext.kept cursor.arranged.that edited
      rw [cursor.arranged.contents, cursor.arranged.others] at next
      cases isAfter
      exact ⟨⟨stageNext, cursor.length, cursor.arranged.next stage.kept next⟩, enough,
        regrown.asked short, rfl, denied⟩
  · intro fault after both
    obtain ⟨⟨⟨_, kept, _⟩, starved, vector, other, untouched⟩, _⟩ := both
    exact ⟨starved, kept, cursor.remaining kept vector other untouched⟩

theorem Cursor.advance (cursor : Cursor environment store used k inserted current pair)
    (room : current < pair.vector.m_allocatedSize)
    (inside : k ≤ store.vector.m_dataSize)
    (request : current < store.vector.m_dataSize →
      pair.other.m_allocatedSize < pair.other.m_dataSize + 1 →
      pair.other.m_AllocationManager.RequestFits environment.elements
        (pair.other.m_dataSize + 1))
    {src : Nat} (foreign : Foreign environment store src 1) (isUsed : used src) :
    Ended (fun _ after => Cursor environment store used k
          (inserted ++ [store.memory.slots src]) (current + 1) after ∧
        after.vector.m_allocatedSize = pair.vector.m_allocatedSize ∧
        after.memory.denied = pair.memory.denied)
      (fun fault after => Stopped environment store used k pair fault after)
      ((displace environment (pair.vector.m_p + current) current >>= fun _ =>
        Pair.onMemory (copyToRawNoOverlap environment (pair.vector.m_p + current) src 1))
          pair) := by
  have stage := cursor.stage
  have arranged := cursor.arranged
  have size := stage.size
  have temp := stage.temp
  have lower := stage.lower
  have inRange := environment.elements.one_lt_sizeRange
  obtain ⟨outsider, same⟩ := cursor.outsider foreign
  have opened : Ended (fun _ after => Opened environment pair used current after)
      (fun fault after => Starved pair fault after ∧ after.vector = pair.vector ∧
        Unchanged pair.that after.that)
      (displace environment (pair.vector.m_p + current) current pair) :=
    displace_opened stage.kept arranged.this arranged.that stage.unrefused room
      (by omega) fun before => request (by omega)
  have displaced := (stage.advance room inRange request).both opened
  apply Ended.bind (displaced.weaken (fun _ _ both => both) ?_)
  · intro _ middle both
    obtain ⟨⟨stageNext, _, sameRoom⟩, opened⟩ := both
    obtain ⟨memory, ran, storage, turned⟩ := opened_filled stage.kept arranged.this
      stageNext.kept opened stageNext.unrefused room (show current ≤ _ by omega) outsider
      isUsed
    have whole : Pair.onMemory (copyToRawNoOverlap environment
        (pair.vector.m_p + current) src 1) middle =
          .ok () ⟨memory, middle.vector, middle.other⟩ := onPart_of_ok ran
    have isInside : k ≤ store.contents.length := by
      rw [length_contents]
      exact inside
    rw [arranged.contents, arranged.others, same,
      take_cursor isInside lower cursor.length, ← List.drop_drop,
      drop_cursor isInside lower cursor.length, List.drop_drop,
      drop_take_succ isInside lower] at turned
    rw [whole]
    refine ⟨⟨⟨stageNext.kept.sameStorage storage, stageNext.size, stageNext.temp,
      stageNext.lower, stageNext.capacity, stageNext.unrefused.later storage.constructions⟩,
      ?_, ?_⟩, sameRoom, storage.denied.trans opened.denied⟩
    · rw [List.length_append, cursor.length, List.length_singleton]
      omega
    · rw [← List.append_assoc]
      exact arranged.next stage.kept turned
  · intro fault after both
    obtain ⟨⟨_, kept, _⟩, starved, vector, unchanged⟩ := both
    exact ⟨starved, kept,
      cursor.remaining kept vector unchanged.vector unchanged.memory⟩

/-- What the two vectors will ask for until some more elements have been consumed may be
asked for. -/
structure Stocked (environment : Environment α)
    (grows : AllocationManager → Nat → Nat → Prop) (store : Store α)
    (last lastTemp : Nat → Prop) (left current : Nat) (pair : Pair α) : Prop where
  this : Supplied (store.vector.m_AllocationManager.RequestFits environment.elements)
    (grows store.vector.m_AllocationManager) last left current pair.vector.m_allocatedSize
  that : Supplied (store.vector.m_AllocationManager.fresh.RequestFits environment.elements)
    (grows store.vector.m_AllocationManager.fresh) lastTemp
    (min left (store.vector.m_dataSize - current)) pair.other.m_dataSize
    pair.other.m_allocatedSize

variable {last lastTemp : Nat → Prop} {left : Nat}

theorem Stocked.request
    (stocked : Stocked environment grows store last lastTemp (left + 1) current pair)
    (old : current < store.vector.m_dataSize)
    (short : pair.other.m_allocatedSize < pair.other.m_dataSize + 1) :
    store.vector.m_AllocationManager.fresh.RequestFits environment.elements
      (pair.other.m_dataSize + 1) := by
  have supplied := stocked.that
  rw [show min (left + 1) (store.vector.m_dataSize - current) =
    min left (store.vector.m_dataSize - (current + 1)) + 1 by omega] at supplied
  exact supplied.request short

theorem Stocked.advance {after : Pair α}
    (stocked : Stocked environment grows store last lastTemp (left + 1) current pair)
    (room : current < pair.vector.m_allocatedSize)
    (sameRoom : after.vector.m_allocatedSize = pair.vector.m_allocatedSize)
    (taken : current < store.vector.m_dataSize →
      Extended (grows store.vector.m_AllocationManager.fresh) 1 pair.other after.other)
    (same : store.vector.m_dataSize ≤ current → after.other = pair.other)
    (size : after.other.m_dataSize ≤ after.other.m_allocatedSize) :
    Stocked environment grows store last lastTemp left (current + 1) after where
  this := by
    rw [sameRoom]
    exact stocked.this.1 room
  that := by
    have supplied := stocked.that
    obtain old | past := Nat.lt_or_ge current store.vector.m_dataSize
    · rw [show min (left + 1) (store.vector.m_dataSize - current) =
        min left (store.vector.m_dataSize - (current + 1)) + 1 by omega] at supplied
      have extended := taken old
      rw [extended.size] at size ⊢
      exact supplied.step extended.regrown size
    · rw [same past, show min left (store.vector.m_dataSize - (current + 1)) =
        min (left + 1) (store.vector.m_dataSize - current) by omega]
      exact supplied

theorem Stocked.space {after : Pair α}
    (stocked : Stocked environment grows store last lastTemp (left + 1) current pair)
    (full : pair.vector.m_allocatedSize ≤ current)
    (grown : grows store.vector.m_AllocationManager (current + 1)
      after.vector.m_allocatedSize)
    (enough : current + 1 ≤ after.vector.m_allocatedSize) (other : after.other = pair.other) :
    Stocked environment grows store last lastTemp (left + 1) current after where
  this := stocked.this.grown full grown enough
  that := by
    rw [other]
    exact stocked.that

theorem Cursor.consume (accounting : Accounting environment count grows)
    (cursor : Cursor environment store used k inserted current pair)
    (room : current < pair.vector.m_allocatedSize)
    (inside : k ≤ store.vector.m_dataSize)
    (stocked : Stocked environment grows store last lastTemp (left + 1) current pair)
    {src : Nat} (foreign : Foreign environment store src 1) (isUsed : used src) :
    EndedBut (fun pair => count pair.memory)
      (fun _ after => Cursor environment store used k
          (inserted ++ [store.memory.slots src]) (current + 1) after ∧
        Stocked environment grows store last lastTemp left (current + 1) after ∧
        after.vector.m_allocatedSize = pair.vector.m_allocatedSize ∧
        after.memory.denied = pair.memory.denied)
      (fun fault after => Stopped environment store used k pair fault after)
      pair ((displace environment (pair.vector.m_p + current) current >>= fun _ =>
        Pair.onMemory (copyToRawNoOverlap environment (pair.vector.m_p + current) src 1))
          pair) := by
  have stage := cursor.stage
  have fresh := stage.kept.fresh
  have size := stage.size
  have that := cursor.arranged.that.standing
  have small : pair.other.m_dataSize < environment.elements.sizeRange :=
    that.inRange fun short => absurd that.fits.size (Nat.not_le.mpr short)
  apply EndedBut.of_ended
  apply (cursor.advance room inside (fun old => by
    rw [fresh]
    exact stocked.request old) foreign isUsed).ran.weaken
  · intro _ after both
    obtain ⟨⟨next, sameRoom, denied⟩, ran⟩ := both
    obtain ⟨middle, ranDisplace, other, _⟩ := consume_eq_ok ran
    have sizeNext : after.other.m_dataSize ≤ after.other.m_allocatedSize :=
      next.arranged.that.standing.fits.size
    rw [or_iff_not_imp_left]
    intro uncounted
    refine ⟨next, stocked.advance room sameRoom ?_ ?_ sizeNext, sameRoom, denied⟩
    · intro old
      rw [← fresh]
      exact (consume_grown accounting small (by omega) ran).resolve_left uncounted
    · intro past
      rw [other, (displace_eq_ok ranDisplace).2 (by omega)]
  · exact fun _ _ both => both.1

theorem insertElements_cursor (accounting : Accounting environment count grows)
    {sources : List Nat} {fuel : Nat} (inside : k ≤ store.vector.m_dataSize)
    (foreign : ∀ src ∈ sources, Foreign environment store src 1 ∧ used src)
    (cursor : Cursor environment store used k inserted current pair)
    (stocked : Stocked environment grows store last lastTemp sources.length current pair)
    (enough : 2 * sources.length ≤
      fuel + if current < pair.vector.m_allocatedSize then 1 else 0) :
    EndedBut (fun pair => count pair.memory)
      (fun pastLast after => pastLast = current + sources.length ∧
        Cursor environment store used k (inserted ++ sources.map store.memory.slots) pastLast
          after ∧
        Stocked environment grows store last lastTemp 0 pastLast after ∧
        after.memory.denied = pair.memory.denied)
      (fun fault after => Stopped environment store used k pair fault after)
      pair (insertElements environment fuel sources current pair) := by
  induction fuel generalizing sources current pair inserted with
  | zero =>
      cases sources with
      | nil =>
          refine .inr ⟨rfl, ?_, stocked, rfl⟩
          rw [List.map_nil, List.append_nil]
          exact cursor
      | cons src rest =>
          rw [List.length_cons] at enough
          split at enough <;> omega
  | succ fuel hypothesis =>
      cases sources with
      | nil =>
          refine .inr ⟨rfl, ?_, stocked, rfl⟩
          rw [List.map_nil, List.append_nil]
          exact cursor
      | cons src rest =>
          rw [List.length_cons] at enough stocked
          unfold insertElements
          rw [bind_of_ok (get_apply pair)]
          by_cases room : current < pair.vector.m_allocatedSize
          · rw [if_pos room] at enough
            rw [if_pos room, ← bind_assoc]
            obtain ⟨here, isUsed⟩ := foreign src List.mem_cons_self
            apply EndedBut.bind (cursor.consume accounting room inside stocked here isUsed)
            · exact fun pair => (accounting.framed.consume trivial _ _ _).memory
            · exact fun _ pair => (accounting.framed.insertElements trivial trivial).memory
            intro _ middle reached
            obtain ⟨next, stockedNext, sameRoom, counted⟩ := reached
            apply (hypothesis (fun other member => foreign other (List.mem_cons_of_mem _ member))
              next stockedNext (by omega)).weaken
            · intro last after ended
              obtain ⟨isLast, nextLast, stockedLast, countedLast⟩ := ended
              refine ⟨?_, ?_, stockedLast, countedLast.trans counted⟩
              · rw [isLast, List.length_cons]
                omega
              · rw [List.append_assoc] at nextLast
                exact nextLast
            · intro fault after stopped
              exact stopped.later counted
          · rw [if_neg room] at enough
            rw [if_neg room]
            have full := Nat.not_lt.mp room
            have manager := cursor.stage.kept.manager
            have fits := stocked.this.request (show pair.vector.m_allocatedSize < _ by omega)
            rw [Nat.mod_eq_of_lt fits.inRange]
            rw [← manager] at fits
            apply EndedBut.bind (cursor.space accounting (by omega) fits inside)
            · exact fun pair => (Framed.onThis (accounting.framed.reserveInternal trivial _)).memory
            · exact fun _ pair => (accounting.framed.insertElements trivial trivial).memory
            intro _ middle reached
            obtain ⟨next, roomNext, grown, sameOther, counted⟩ := reached
            rw [manager] at grown
            apply (hypothesis foreign next (stocked.space full grown roomNext sameOther)
              ?_).weaken
            · intro last after ended
              exact ⟨ended.1, ended.2.1, ended.2.2.1, ended.2.2.2.trans counted⟩
            · intro fault after stopped
              exact stopped.later counted
            · rw [List.length_cons, if_pos (show current < middle.vector.m_allocatedSize by
                omega)]
              omega

end Loop

section Back

variable {environment : Environment α} {store : Store α} {pair : Pair α}
  {used : Nat → Prop} {k current : Nat} {inserted : List (Slot α)}
  {count : Memory α → Nat} {grows : AllocationManager → Nat → Nat → Prop}

theorem takeBack_arranged (kept : PairKept environment.elements store pair)
    (this : Whole environment.elements pair.this)
    (that : Whole environment.elements pair.that)
    (unrefused : Unrefused environment pair.memory)
    (room : pair.vector.m_dataSize + pair.other.m_dataSize ≤ pair.vector.m_allocatedSize) :
    ∃ memory, moveToRawNoOverlap environment (pair.vector.m_p + pair.vector.m_dataSize)
        pair.other.m_p pair.other.m_dataSize pair.memory = .ok () memory ∧
      SameStorage pair.memory memory ∧
      ∃ others, Arranged environment pair used (pair.this.contents ++ pair.that.contents)
        others ⟨memory, ⟨pair.vector.m_p, pair.vector.m_dataSize + pair.other.m_dataSize,
          pair.vector.m_allocatedSize, pair.vector.m_AllocationManager⟩, pair.other⟩ := by
  have ownThat {address : Nat} (inside : Within pair.other.m_p pair.other.m_dataSize address) :
      pair.that.own environment.elements address :=
    that.own (show 0 + pair.other.m_dataSize ≤ pair.other.m_allocatedSize by
      rw [Nat.zero_add]
      exact that.standing.fits.size) inside
  have foreign : Foreign environment pair.this pair.other.m_p pair.other.m_dataSize := by
    refine ⟨that.standing.elementsMapped, ?_, that.filled.objects, ?_⟩
    · intro index bound own
      exact kept.ownApart own (ownThat ⟨Nat.le_add_right _ index, Nat.add_lt_add_left bound _⟩)
    · exact Nat.lt_of_le_of_lt (Nat.mul_le_mul_right _ that.standing.fits.size)
        that.standing.small
  have same : Edited.Alone environment.elements pair.this pair.this.contents pair.this :=
    Edited.same this
  obtain ⟨memory, ran, tailed, holds⟩ := transfer_tailed .move
    (TailGiven.of_foreign this foreign) (fun _ => foreign.outside) (unrefused.accepted _) same
    (Spacious.refl this.standing room)
  simp only [true_and] at tailed
  have edited := tailed.edited this (by
    rw [length_stretch]
    exact room)
  rw [length_stretch] at edited
  have keptNow := kept.sameStorage tailed.storage
  have thatNow : Whole environment.elements ⟨memory, pair.other⟩ := by
    apply that.holding keptNow.that fun _ => congrFun tailed.storage.blocks _
    intro address mapped own
    by_cases moved : Within pair.other.m_p pair.other.m_dataSize address
    · have same := holds (address - pair.other.m_p) (by unfold Within at moved; omega)
      rwa [Nat.add_sub_cancel' moved.1] at same
    · exact congrArg Slot.holds
        (edited.outside mapped (fun here => kept.ownApart here own) moved)
  refine ⟨memory, ran, tailed.storage, _, edited.whole, thatNow, edited.contents, rfl, ?_, ?_⟩
  · intro address mapped free freeOther
    exact edited.outside mapped free fun here => freeOther (ownThat here)
  · apply edited.events.weaken
    intro event allowed
    refine ⟨fun mapped => ?_, allowed.2 trivial⟩
    obtain own | here := allowed.1 mapped
    · exact .inl own
    · exact .inr (.inl (ownThat here))

theorem addSpace_edited {n : Nat} (this : Whole environment.elements pair.this)
    (inRange : pair.vector.m_dataSize + n < environment.elements.sizeRange)
    (allowed : GrowthAllowed environment pair.this false (pair.vector.m_dataSize + n)) :
    Ended (fun _ after => after.other = pair.other ∧
        Edited.Alone environment.elements pair.this pair.this.contents after.this ∧
        Spacious environment.elements (pair.vector.m_dataSize + n) pair.this after.this ∧
        after.memory.denied = pair.memory.denied)
      (fun fault after => Starved pair fault after ∧ after.vector = pair.vector ∧
        after.other = pair.other ∧ Untouched pair.memory after.memory)
      (Pair.onThis (addSpaceIfNeed environment n) pair) := by
  have counted : Spared pair.this (addSpaceIfNeed environment n pair.this) :=
    addSpaceIfNeed_spared environment n
  apply Ended.onPart ((addSpaceIfNeed_edited this (by omega) fun _ => allowed).both
    (Spared.ended counted))
  · intro _ last ended
    exact ⟨rfl, ended.1.1, ended.1.2, ended.2⟩
  · intro fault last ended
    obtain ⟨⟨⟨⟨status, same, reason⟩, unchanged⟩, denied⟩, _⟩ := ended
    obtain ⟨noMemory, _⟩ | ⟨_, wraps⟩ := reason
    · rw [noMemory] at same
      exact ⟨⟨same, denied same⟩, unchanged.vector, rfl, unchanged.memory⟩
    · exact absurd inRange (Nat.not_lt.mpr wraps)

/-- What the cursor has not reached goes to the local vector, too. -/
theorem Cursor.displaceRest (accounting : Accounting environment count grows)
    (cursor : Cursor environment store used k inserted current pair)
    (some : pair.other.m_dataSize ≠ 0)
    (tail : current < store.vector.m_dataSize →
      TailFits environment.elements grows store.vector.m_AllocationManager.fresh
        (store.vector.m_dataSize - current) pair.other.m_dataSize
        pair.other.m_allocatedSize) :
    EndedBut (fun pair => count pair.memory)
      (fun _ after => Displaced environment store used pair current
        (store.vector.m_dataSize - current) after)
      (fun fault after => Starved pair fault after ∧ PairKept environment.elements store after ∧
        (environment.elements.constructorAllocator = false ∨
            store.vector.m_dataSize ≤ current →
          Remaining environment store used k after))
      pair (onlyIf (current < store.vector.m_dataSize) (displaceTail environment current
        (store.vector.m_dataSize - current)) pair) := by
  have stage := cursor.stage
  have arranged := cursor.arranged
  have size := stage.size
  apply EndedBut.onlyIf
  · intro short
    have fits := tail short
    rw [← stage.kept.fresh] at fits
    apply (displaceTail_gone accounting stage.kept arranged.this arranged.that
      stage.unrefused some (by omega) fits).weaken
    · exact fun _ _ displaced => displaced
    · intro fault after failed
      obtain ⟨starved, kept, raw⟩ := failed
      refine ⟨starved, kept, fun fine => ?_⟩
      obtain isRaw | past := fine
      · obtain ⟨vector, unchanged⟩ := raw isRaw
        exact cursor.remaining kept vector unchanged.vector unchanged.memory
      · omega
  · intro long
    rw [Nat.sub_eq_zero_of_le (Nat.not_lt.mp long)]
    exact ⟨⟨stage.kept, rfl, rfl, stage.unrefused⟩, Gone.nothing arranged.that, rfl⟩

theorem Cursor.cut (accounting : Accounting environment count grows)
    (cursor : Cursor environment store used k inserted current pair)
    (inside : k ≤ store.vector.m_dataSize) (some : pair.other.m_dataSize ≠ 0)
    (tail : current < store.vector.m_dataSize →
      TailFits environment.elements grows store.vector.m_AllocationManager.fresh
        (store.vector.m_dataSize - current) pair.other.m_dataSize
        pair.other.m_allocatedSize) :
    EndedBut (fun pair => count pair.memory)
      (fun _ after => PairKept environment.elements store after ∧
        after.vector.m_dataSize = current ∧
        after.vector.m_allocatedSize = pair.vector.m_allocatedSize ∧
        after.other.m_dataSize + k = store.vector.m_dataSize ∧
        Unrefused environment after.memory ∧
        after.memory.denied = pair.memory.denied ∧
        Arranged environment store.paired used (store.contents.take k ++ inserted)
          (store.contents.drop k) after)
      (fun fault after => Starved pair fault after ∧ PairKept environment.elements store after ∧
        (environment.elements.constructorAllocator = false ∨
            store.vector.m_dataSize ≤ current →
          Remaining environment store used k after))
      pair ((onlyIf (current < store.vector.m_dataSize) (displaceTail environment current
          (store.vector.m_dataSize - current)) >>= fun _ =>
        Pair.onThis (setDataSize current)) pair) := by
  have stage := cursor.stage
  have arranged := cursor.arranged
  have size := stage.size
  have temp := stage.temp
  have lower := stage.lower
  have capacity : pair.vector.m_dataSize ≤ pair.vector.m_allocatedSize :=
    arranged.this.standing.fits.size
  apply EndedBut.bind (cursor.displaceRest accounting some tail)
  · exact fun pair => (accounting.framed.displaceRest trivial _ _).memory
  · exact fun _ pair => Nat.le_refl _
  intro _ middle reached
  obtain ⟨⟨kept, _, _, unrefused⟩, left, denied⟩ := reached
  have cut := Kept.sameStorage kept.this.standing (SameStorage.refl middle.memory)
    (show current ≤ middle.vector.m_allocatedSize by
      rw [left.vector]
      omega)
  have isInside : k ≤ store.contents.length := by
    rw [length_contents]
    exact inside
  have next := Gone.cut stage.kept arranged.this kept left (by omega)
  rw [arranged.contents, arranged.others, take_cursor isInside lower cursor.length,
    drop_cursor isInside lower cursor.length] at next
  have moved := arranged.next stage.kept next
  have total : (store.contents.take current).drop k ++ store.contents.drop current =
      store.contents.drop k := by
    obtain before | past := Nat.le_total current store.contents.length
    · rw [← List.drop_append_of_le_length (by rw [List.length_take]; omega),
        List.take_append_drop]
    · rw [List.take_of_length_le past, List.drop_eq_nil_of_le past, List.append_nil]
  rw [total] at moved
  refine .inr ⟨kept.onThis cut rfl, rfl, ?_, ?_, unrefused, denied, moved⟩
  · show middle.vector.m_allocatedSize = pair.vector.m_allocatedSize
    rw [left.vector]
  · have length := congrArg List.length moved.others
    rw [length_contents, List.length_drop, length_contents] at length
    have others : middle.other.m_dataSize = store.vector.m_dataSize - k := length
    show middle.other.m_dataSize + k = _
    omega

/-- What is known when the insertion of a range has failed: for elements with constructors
the vector is whole only if none that followed the inserted ones was on its way. -/
structure Abandoned (environment : Environment α) (store : Store α) (used : Nat → Prop)
    (k : Nat) (past : Prop) (pair : Pair α) (fault : Fault) (after : Pair α) : Prop where
  starved : Starved pair fault after
  kept : PairKept environment.elements store after
  remaining : environment.elements.constructorAllocator = false ∨ past →
    Remaining environment store used k after

/-- Space is made for what has been displaced. -/
theorem addSpace_arranged {middle : Pair α} {front tail : List (Slot α)}
    (kept : PairKept environment.elements store middle)
    (arranged : Arranged environment store.paired used front tail middle)
    (unrefused : Unrefused environment middle.memory)
    (inRange : middle.vector.m_dataSize + middle.other.m_dataSize <
      environment.elements.sizeRange)
    (request : middle.vector.m_allocatedSize <
        middle.vector.m_dataSize + middle.other.m_dataSize →
      store.vector.m_AllocationManager.RequestFits environment.elements
        (middle.vector.m_dataSize + middle.other.m_dataSize)) :
    Ended (fun _ after => PairKept environment.elements store after ∧
        after.other = middle.other ∧ after.vector.m_dataSize = middle.vector.m_dataSize ∧
        middle.vector.m_dataSize + middle.other.m_dataSize ≤ after.vector.m_allocatedSize ∧
        Unrefused environment after.memory ∧
        after.memory.denied = middle.memory.denied ∧
        Arranged environment store.paired used front tail after)
      (fun fault after => Starved middle fault after ∧
        PairKept environment.elements store after ∧
        Arranged environment store.paired used front tail after)
      (Pair.onThis (addSpaceIfNeed environment middle.other.m_dataSize) middle) := by
  have allowed : GrowthAllowed environment middle.this false
      (middle.vector.m_dataSize + middle.other.m_dataSize) := by
    intro grows
    refine ⟨?_, unrefused.accepted _⟩
    show middle.vector.m_AllocationManager.RequestFits environment.elements _
    rw [kept.manager]
    exact request grows
  apply (addSpace_edited arranged.this inRange allowed).weaken
  · intro _ after ended
    obtain ⟨other, edited, spacious, counted⟩ := ended
    obtain ⟨memory, vector, afterOther⟩ := after
    cases other
    have keptNow := kept.onThis spacious.kept spacious.manager
    have next : Arranged environment middle used middle.this.contents middle.that.contents
        ⟨memory, vector, middle.other⟩ :=
      Arranged.onThis kept keptNow arranged.that edited
    rw [arranged.contents, arranged.others] at next
    exact ⟨keptNow, rfl, spacious.size, spacious.enough,
      unrefused.later spacious.kept.constructions, counted, arranged.next kept next⟩
  · intro fault after failed
    obtain ⟨starved, vector, other, untouched⟩ := failed
    obtain ⟨memory, afterVector, afterOther⟩ := after
    cases vector
    cases other
    have same : PairKept environment.elements store
        ⟨memory, middle.vector, middle.other⟩ := by
      have still := noSpace_of_untouched kept.this.standing untouched
      exact kept.onThis still.kept rfl
    exact ⟨starved, same, arranged.unchanged same rfl rfl untouched⟩

theorem appendDisplaced_arranged (accounting : Accounting environment count grows)
    (cursor : Cursor environment store used k inserted current pair)
    (inside : k ≤ store.vector.m_dataSize) (some : pair.other.m_dataSize ≠ 0) {total : Nat}
    (isTotal : current + store.vector.m_dataSize = total + k)
    (request : pair.vector.m_allocatedSize < total →
      store.vector.m_AllocationManager.RequestFits environment.elements total)
    (tail : current < store.vector.m_dataSize →
      TailFits environment.elements grows store.vector.m_AllocationManager.fresh
        (store.vector.m_dataSize - current) pair.other.m_dataSize
        pair.other.m_allocatedSize) :
    EndedBut (fun pair => count pair.memory)
      (fun _ after => PairKept environment.elements store after ∧
        after.memory.denied = pair.memory.denied ∧
        ∃ others, Arranged environment store.paired used
          (store.contents.take k ++ inserted ++ store.contents.drop k) others after)
      (Abandoned environment store used k (store.vector.m_dataSize ≤ current) pair)
      pair (appendDisplaced environment store.vector.m_dataSize current pair) := by
  have lower := cursor.stage.lower
  have inRange : total < environment.elements.sizeRange :=
    cursor.arranged.this.standing.inRange fun short => by
      rw [show pair.this.vector.m_AllocationManager = _ from cursor.stage.kept.manager]
      exact request short
  unfold appendDisplaced
  rw [← bind_assoc]
  apply EndedBut.bind ((cursor.cut accounting inside some tail).weaken
    (fun _ _ ended => ended) fun fault after failed => ⟨failed.1, failed.2.1, failed.2.2⟩)
  · exact fun pair => (accounting.framed.cut trivial _ _).memory
  · exact fun _ pair => (accounting.framed.takeBack trivial _).memory
  intro _ middle reached
  obtain ⟨kept, isSize, capacity, isOther, unrefused, denied, arranged⟩ := reached
  right
  rw [bind_of_ok (get_apply middle)]
  have grown := addSpace_arranged kept arranged unrefused (by omega) fun short => by
    rw [show middle.vector.m_dataSize + middle.other.m_dataSize = total by omega] at short ⊢
    exact request (by omega)
  apply Ended.bind (grown.weaken (fun _ _ ended => ended) fun fault after failed =>
    ⟨failed.1.later denied, failed.2.1, fun _ => ⟨_, _, failed.2.2⟩⟩)
  intro _ last reached
  obtain ⟨keptLast, sameOther, sizeLast, enough, unrefusedLast, counted, arrangedLast⟩ :=
    reached
  rw [isSize] at sizeLast enough
  rw [← sameOther] at enough
  obtain ⟨memory, ran, storage, others, back⟩ := takeBack_arranged keptLast arrangedLast.this
    arrangedLast.that unrefusedLast (by omega)
  rw [sizeLast] at ran back
  rw [arrangedLast.contents, arrangedLast.others] at back
  have ranMove : Pair.onMemory (moveToRawNoOverlap environment (last.vector.m_p + current)
      last.other.m_p last.other.m_dataSize) last = .ok () ⟨memory, last.vector, last.other⟩ :=
    onPart_of_ok ran
  have keptNow := keptLast.sameStorage storage
  have resized := Kept.sameStorage keptNow.this.standing (SameStorage.refl memory) enough
  rw [bind_of_ok (get_apply last), ← sameOther, bind_of_ok ranMove]
  exact ⟨keptNow.onThis resized rfl, storage.denied.trans (counted.trans denied), others,
    arrangedLast.next keptLast back⟩

end Back

section Ranges

variable {environment : Environment α} {store : Store α} {pair : Pair α}
  {used : Nat → Prop} {past : Prop} {contents others : List (Slot α)}
  {count : Memory α → Nat} {grows : AllocationManager → Nat → Nat → Prop}

theorem Arranged.edited (kept : PairKept environment.elements store pair)
    (arranged : Arranged environment store.paired used contents others pair) :
    Edited environment.elements store (fun _ => False) used True contents pair.this where
  kept := kept.this
  whole := arranged.this
  contents := arranged.contents
  outside := fun mapped free _ => arranged.outside mapped free Store.paired_free
  events := by
    apply arranged.events.weaken
    intro event allowed
    refine ⟨fun mapped => ?_, fun _ => allowed.2⟩
    obtain own | impossible | here := allowed.1 mapped
    · exact .inl own
    · exact absurd impossible Store.paired_free
    · exact .inr here

variable (environment) in
theorem invalidate_counted : Preserves denied (invalidate environment) := by
  apply Preserves.bind
  · apply Preserves.get_bind
    intro store
    exact Preserves.bind (onMemory_counted (destroyN_storage environment _ _).counted) fun _ =>
      (setters_counted 0).2.1
  · intro _
    apply Preserves.get_bind
    intro store
    apply Preserves.bind (onMemory_counted (deallocate_counted environment _ _))
    intro _
    exact Preserves.modify fun _ => rfl

variable (environment) in
theorem invalidateOther_counted :
    Preserves (fun pair : Pair α => pair.memory.denied)
      (Pair.onOther (invalidate environment)) :=
  Preserves.onPart fun pair => invalidate_counted environment pair.that

theorem invalidateOther_arranged (kept : PairKept environment.elements store pair)
    (arranged : Arranged environment store.paired used contents others pair) :
    ∃ after, Pair.onOther (invalidate environment) pair = .ok () after ∧
      after.vector = pair.vector ∧ after.memory.denied = pair.memory.denied ∧
      Edited environment.elements store (fun _ => False) used True contents after.this := by
  obtain ⟨memory, ran, edited⟩ := invalidate_edited environment arranged.that
  have keptAfter := kept.onThat edited.kept rfl fun other => by
    have idle := kept.idle other
    show empty pair.other.m_AllocationManager = pair.other
    rw [idle]
    rfl
  have next : Arranged environment pair used pair.this.contents []
      ⟨memory, pair.vector, empty pair.other.m_AllocationManager⟩ :=
    Arranged.onThat kept keptAfter arranged.this edited
  rw [arranged.contents] at next
  have ranOther : Pair.onOther (invalidate environment) pair =
      .ok () ⟨memory, pair.vector, empty pair.other.m_AllocationManager⟩ := onPart_of_ok ran
  have counted := invalidateOther_counted environment pair
  rw [ranOther] at counted
  exact ⟨_, ranOther, rfl, counted,
    Arranged.edited keptAfter (arranged.next kept next)⟩

structure Broken (environment : Environment α) (store : Store α) (used : Nat → Prop)
    (k : Nat) (past : Prop) (fault : Fault) (after : Store α) : Prop where
  fault : fault = .status .errorNoMemory
  denied : store.memory.denied < after.memory.denied
  edited : environment.elements.constructorAllocator = false ∨ past →
    ∃ rest, Edited environment.elements store (fun _ => False) used True
      (store.contents.take k ++ rest) after

theorem withTemp_edited (accounting : Accounting environment count grows) {k : Nat}
    (good : β → Vector → Prop) {body : Proc (Pair α) β}
    (ended : EndedBut (fun pair => count pair.memory)
      (fun result after => PairKept environment.elements store after ∧
        (∃ others, Arranged environment store.paired used contents others after) ∧
        after.memory.denied = store.memory.denied ∧ good result after.vector)
      (Abandoned environment store used k past store.paired) store.paired
      (body store.paired)) :
    EndedBut (fun store => count store.memory)
      (fun result after =>
        Edited environment.elements store (fun _ => False) used True contents after ∧
        after.memory.denied = store.memory.denied ∧ good result after.vector)
      (Broken environment store used k past) store (withTemp environment body store) := by
  obtain counted | ended := ended
  · exact .inl (Nat.lt_of_lt_of_le counted (accounting.framed.withTemp_final rfl).memory)
  right
  unfold withTemp
  dsimp only
  rw [show (⟨store.memory, store.vector, empty store.vector.m_AllocationManager.fresh⟩ :
    Pair α) = store.paired from rfl]
  cases ran : body store.paired with
  | ok value middle =>
      rw [ran] at ended
      obtain ⟨kept, ⟨others, arranged⟩, denied, fine⟩ := ended
      obtain ⟨after, ranLast, same, counted, edited⟩ := invalidateOther_arranged kept arranged
      rw [bind_of_ok (onFailure_of_ok ran), bind_of_ok ranLast]
      refine ⟨edited, counted.trans denied, ?_⟩
      show good value after.vector
      rw [same]
      exact fine
  | error fault middle =>
      rw [ran] at ended
      obtain ⟨⟨isStatus, denied⟩, kept, remaining⟩ := ended
      cases isStatus
      obtain ⟨after, ranLast, _⟩ := invalidateOther kept
      have counted := invalidateOther_counted environment middle
      rw [ranLast] at counted
      have sameDenied : after.memory.denied = middle.memory.denied := counted
      rw [bind_of_error (onFailure_of_status ran ranLast)]
      refine ⟨rfl, ?_, ?_⟩
      · show store.memory.denied < after.memory.denied
        rw [sameDenied]
        exact denied
      · intro fine
        obtain ⟨rest, others, whole⟩ := remaining fine
        obtain ⟨other, ranOther, _, _, edited⟩ := invalidateOther_arranged kept whole
        cases ranLast.symm.trans ranOther
        exact ⟨rest, edited⟩

/-- Both vectors may ask for what the insertion of a range makes them ask for, until the
last elements are displaced and until they are appended again. -/
def RangeStocked (environment : Environment α)
    (grows : AllocationManager → Nat → Nat → Prop) (store : Store α) (k n : Nat) : Prop :=
  Stocked environment grows store
    (fun capacity => n ≠ 0 → k < store.vector.m_dataSize →
      capacity < store.vector.m_dataSize + n →
        store.vector.m_AllocationManager.RequestFits environment.elements
          (store.vector.m_dataSize + n))
    (fun capacity => n ≠ 0 → k + n < store.vector.m_dataSize →
      TailFits environment.elements grows store.vector.m_AllocationManager.fresh
        (store.vector.m_dataSize - (k + n)) n capacity)
    n k store.paired

theorem Cursor.start (whole : Whole environment.elements store) {k : Nat}
    (inside : k ≤ store.vector.m_dataSize) (unrefused : Unrefused environment store.memory) :
    Cursor environment store used k [] k store.paired := by
  have standing := whole.standing
  have start := PairKept.start standing
  have empty : Whole environment.elements store.paired.that :=
    ⟨start.that, fun _ _ _ => .inl rfl, filled_empty standing.sound⟩
  refine ⟨⟨start, ?_, ?_, Nat.le_refl k, Nat.le_refl _, unrefused⟩, ?_, ?_⟩
  · show store.vector.m_dataSize = max store.vector.m_dataSize k
    omega
  · show 0 + k = min store.vector.m_dataSize k
    omega
  · rw [Nat.sub_self]
    rfl
  · have same : Arranged environment store.paired used store.paired.this.contents
        store.paired.that.contents store.paired := Arranged.same whole empty
    rw [List.append_nil, List.take_append_drop, List.drop_eq_nil_of_le
      (List.length_take_le k _)]
    exact same

/-- What has been displaced, if anything has, comes behind what has been inserted. -/
theorem appendIfAny_arranged (accounting : Accounting environment count grows) {k current : Nat}
    {pair : Pair α} {sources : List Nat}
    (cursor : Cursor environment store used k (sources.map store.memory.slots) current pair)
    (inside : k ≤ store.vector.m_dataSize) (isLast : current = k + sources.length)
    (request : pair.other.m_dataSize ≠ 0 →
      pair.vector.m_allocatedSize < store.vector.m_dataSize + sources.length →
      store.vector.m_AllocationManager.RequestFits environment.elements
        (store.vector.m_dataSize + sources.length))
    (tail : pair.other.m_dataSize ≠ 0 → current < store.vector.m_dataSize →
      TailFits environment.elements grows store.vector.m_AllocationManager.fresh
        (store.vector.m_dataSize - current) pair.other.m_dataSize
        pair.other.m_allocatedSize) :
    EndedBut (fun pair => count pair.memory)
      (fun _ after => PairKept environment.elements store after ∧
        after.memory.denied = pair.memory.denied ∧
        ∃ others, Arranged environment store.paired used
          (store.contents.take k ++ sources.map store.memory.slots ++ store.contents.drop k)
          others after)
      (Abandoned environment store used k
        (store.vector.m_dataSize ≤ current ∨ pair.other.m_dataSize = 0) pair)
      pair (onlyIf (pair.other.m_dataSize ≠ 0)
        (appendDisplaced environment store.vector.m_dataSize current) pair) := by
  have temp := cursor.stage.temp
  apply EndedBut.onlyIf
  · intro some
    have isTotal : current + store.vector.m_dataSize =
        store.vector.m_dataSize + sources.length + k := by omega
    apply (appendDisplaced_arranged accounting cursor inside some isTotal (request some)
      (tail some)).weaken
    · intro _ after ended
      exact ended
    · intro fault after abandoned
      refine ⟨abandoned.starved, abandoned.kept, fun fine => abandoned.remaining ?_⟩
      exact fine.imp_right fun past => past.resolve_right some
  · intro none
    have done : current = k ∨ store.contents.length ≤ k := by
      rw [length_contents]
      omega
    have arranged := cursor.arranged
    refine ⟨cursor.stage.kept, rfl, (store.contents.take current).drop k, ?_⟩
    obtain same | all := done
    · rw [same] at arranged ⊢
      exact arranged
    · have past : store.contents.length ≤ current := by omega
      rw [List.drop_eq_nil_of_le past] at arranged
      rw [List.drop_eq_nil_of_le all]
      exact arranged

theorem insertRange_stocked (accounting : Accounting environment count grows)
    (whole : Whole environment.elements store) {sources : List Nat} {fuel destBegin : Nat}
    (foreign : ∀ src ∈ sources, Foreign environment store src 1)
    (lower : store.vector.m_p ≤ destBegin)
    (upper : destBegin ≤ store.vector.m_p + store.vector.m_dataSize)
    (unrefused : Unrefused environment store.memory)
    (stocked : RangeStocked environment grows store (destBegin - store.vector.m_p)
      sources.length)
    (enough : 2 * sources.length ≤ fuel) :
    EndedBut (fun store => count store.memory)
      (fun last after =>
        Edited environment.elements store (fun _ => False) (· ∈ sources) True
          (store.contents.take (destBegin - store.vector.m_p) ++
            sources.map store.memory.slots ++
            store.contents.drop (destBegin - store.vector.m_p)) after ∧
        after.memory.denied = store.memory.denied ∧
        last = after.vector.m_p + (destBegin - store.vector.m_p + sources.length))
      (Broken environment store (· ∈ sources) (destBegin - store.vector.m_p)
        (store.vector.m_dataSize ≤ destBegin - store.vector.m_p + sources.length ∨
          sources = []))
      store (insertRange environment fuel sources destBegin store) := by
  let k := destBegin - store.vector.m_p
  have inside : k ≤ store.vector.m_dataSize := by
    show destBegin - store.vector.m_p ≤ _
    omega
  have valid : ¬(store.vector.isIteratorNotDereferenceable destBegin ∧
      destBegin ≠ store.vector.m_p + store.vector.m_dataSize) := by
    simp only [isIteratorNotDereferenceable, Bool.or_eq_true, decide_eq_true_eq]
    omega
  unfold insertRange
  rw [bind_of_ok (get_apply store), if_neg valid]
  apply withTemp_edited accounting
    (fun last vector => last = vector.m_p + (k + sources.length))
  have looped := insertElements_cursor accounting inside
    (fun src member => ⟨foreign src member, member⟩)
    (Cursor.start whole inside unrefused) stocked
    (Nat.le_trans enough (Nat.le_add_right fuel _))
  apply EndedBut.bind (looped.weaken (fun _ _ ended => ended) fun fault after stopped =>
    ⟨stopped.starved, stopped.kept, fun _ => stopped.remaining⟩)
  · exact fun pair => (accounting.framed.insertElements trivial trivial).memory
  · exact fun _ pair => (accounting.framed.finish trivial trivial _ _).memory
  intro last middle reached
  obtain ⟨isLast, next, stockedLast, counted⟩ := reached
  have size := next.stage.size
  have temp := next.stage.temp
  rw [List.nil_append] at next
  rw [bind_of_ok (get_apply middle)]
  have rest := stockedLast.that
  rw [Nat.zero_min] at rest
  have any := appendIfAny_arranged accounting next inside isLast
    (fun some => stockedLast.this (by omega) (by omega))
    (fun some before => by
      rw [isLast, show middle.other.m_dataSize = sources.length by omega]
      exact rest (by omega) (by omega))
  have appended : EndedBut (fun pair => count pair.memory)
      (fun _ after => PairKept environment.elements store after ∧
        after.memory.denied = store.memory.denied ∧
        ∃ others, Arranged environment store.paired (· ∈ sources)
          (store.contents.take k ++ sources.map store.memory.slots ++ store.contents.drop k)
          others after)
      (Abandoned environment store (· ∈ sources) k
        (store.vector.m_dataSize ≤ k + sources.length ∨ sources = []) store.paired)
      middle (onlyIf (middle.other.m_dataSize ≠ 0)
        (appendDisplaced environment store.vector.m_dataSize last) middle) := by
    apply any.weaken
    · intro _ after ended
      exact ⟨ended.1, ended.2.1.trans counted, ended.2.2⟩
    · intro fault after abandoned
      refine ⟨abandoned.starved.later counted, abandoned.kept, fun fine => ?_⟩
      apply abandoned.remaining
      obtain raw | past | none := fine
      · exact .inl raw
      · exact .inr (.inl (by omega))
      · have nothing := congrArg List.length none
        rw [List.length_nil] at nothing
        exact .inr (.inr (by omega))
  apply EndedBut.bind appended
  · exact fun pair => (accounting.framed.appendIfAny trivial trivial _ _ _).memory
  · exact fun _ pair => Nat.le_refl _
  intro _ after ended
  obtain ⟨kept, denied, arranged⟩ := ended
  exact .inr ⟨kept, arranged, denied, by rw [isLast]⟩

theorem RangeAllowed.stocked {k : Nat} {sources : List Nat}
    (allowed : RangeAllowed environment store k sources) (inside : k ≤ store.vector.m_dataSize) :
    RangeStocked environment (fun _ _ _ => True) store k sources.length := by
  have temp (some : sources.length ≠ 0) (short : k < store.vector.m_dataSize) {needed : Nat}
      (bound : needed ≤ store.vector.m_dataSize - k) :
      store.vector.m_AllocationManager.fresh.RequestFits environment.elements needed :=
    (allowed.tempRequest (fun none => some (congrArg List.length none)) short).mono bound
  constructor
  · apply Supplied.of_all
    · intro needed short bound
      have grows : store.vector.m_allocatedSize < needed := short
      exact (allowed.request (by omega)).mono (by omega)
    · exact fun capacity more _ _ short => allowed.request (Nat.lt_of_le_of_lt more short)
  · apply Supplied.of_all
    · intro needed short bound
      have fewer : needed ≤ 0 + min sources.length (store.vector.m_dataSize - k) := bound
      exact temp (by omega) (by omega) (by omega)
    · intro capacity _ some short
      unfold TailFits
      split
      · apply Supplied.of_all
        · exact fun needed _ bound => temp some (by omega) (by omega)
        · exact fun _ _ => trivial
      · exact fun _ => temp some (by omega) (by omega)

/-- The elements of a range come before those from the position on. -/
theorem insertRange_edited (whole : Whole environment.elements store) {sources : List Nat}
    {fuel destBegin : Nat} (foreign : ∀ src ∈ sources, Foreign environment store src 1)
    (lower : store.vector.m_p ≤ destBegin)
    (upper : destBegin ≤ store.vector.m_p + store.vector.m_dataSize)
    (allowed : RangeAllowed environment store (destBegin - store.vector.m_p) sources)
    (enough : 2 * sources.length ≤ fuel) :
    Ended (fun last after =>
        Edited environment.elements store (fun _ => False) (· ∈ sources) True
          (store.contents.take (destBegin - store.vector.m_p) ++
            sources.map store.memory.slots ++
            store.contents.drop (destBegin - store.vector.m_p)) after ∧
        after.memory.denied = store.memory.denied ∧
        last = after.vector.m_p + (destBegin - store.vector.m_p + sources.length))
      (Broken environment store (· ∈ sources) (destBegin - store.vector.m_p)
        (store.vector.m_dataSize ≤ destBegin - store.vector.m_p + sources.length ∨
          sources = []))
      (insertRange environment fuel sources destBegin store) :=
  (insertRange_stocked (Accounting.nothing environment) whole foreign lower upper
    allowed.unrefused (allowed.stocked (by omega)) enough).resolve_left (Nat.lt_irrefl 0)

/-- No request that the insertion could make wraps: the vector asks for no more than what it
will hold, and the local one for no more than what follows the position. -/
structure TotalsFit (environment : Environment α) (store : Store α) (sources : List Nat)
    (k : Nat) : Prop where
  request : store.vector.m_allocatedSize < store.vector.m_dataSize + sources.length →
    store.vector.m_AllocationManager.RequestFits environment.elements
      (store.vector.m_dataSize + sources.length)
  tempRequest : sources ≠ [] → k < store.vector.m_dataSize →
    store.vector.m_AllocationManager.fresh.RequestFits environment.elements
      (store.vector.m_dataSize - k)

theorem TotalsFit.allowed {sources : List Nat} {k : Nat}
    (fit : TotalsFit environment store sources k)
    (whole : Whole environment.elements store)
    (foreign : ∀ src ∈ sources, Foreign environment store src 1)
    (unrefused : Unrefused environment store.memory) :
    RangeAllowed environment store k sources where
  inRange := whole.standing.inRange fit.request
  readable := by
    intro src member
    have mapped := (foreign src member).mapped 0 Nat.one_pos
    have outside := (foreign src member).outside 0 Nat.one_pos
    exact ⟨mapped, fun own => outside (.inl own)⟩
  unrefused := unrefused
  request := fit.request
  tempRequest := fit.tempRequest

end Ranges

end Vector

end CommonSerialization.Containers
