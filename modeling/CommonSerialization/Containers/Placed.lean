import CommonSerialization.Containers.OverlappingTransfers

namespace CommonSerialization.Containers

open StateExcept Storage

/-! What computations on ranges leave in the slots, and which events they cause. -/

section Accepted

variable {environment : Environment α} {memory : Memory α} {dest src n : Nat}

def Accepted (environment : Environment α) (memory : Memory α) (n : Nat) : Prop :=
  environment.elements.constructorAllocator = true →
    ∀ index < n, environment.refusal (memory.constructions + index) = none

theorem Accepted.later {after : Memory α} {m k : Nat}
    (accepted : Accepted environment memory k) (fewer : m + n ≤ k)
    (counted : environment.elements.constructorAllocator = true →
      after.constructions = memory.constructions + m) :
    Accepted environment after n := by
  intro constructors index bound
  rw [counted constructors, Nat.add_assoc]
  exact accepted constructors (m + index) (by omega)

theorem constructFrom_accepted (transfer : Transfer)
    (destMapped : (memory.slots dest).mapped) (srcMapped : (memory.slots src).mapped)
    (accepted : environment.refusal memory.constructions = none) :
    ∃ after, constructFrom environment transfer dest src memory = .ok () after ∧
      after.constructions = memory.constructions + 1 := by
  unfold constructFrom
  rw [bind_of_ok (take_of_mapped srcMapped),
    bind_of_ok (onFailure_of_ok (construct_of_mapped _ _ _))]
  · cases transfer <;> exact ⟨_, rfl, rfl⟩
  · exact destMapped
  · exact accepted

theorem transferUpward_accepted (transfer : Transfer) {done : Nat}
    (destMapped : Mapped memory.slots dest (done + n))
    (srcMapped : Mapped memory.slots src (done + n))
    (accepted : ∀ index < n, environment.refusal (memory.constructions + index) = none) :
    ∃ after,
      transferUpward environment transfer (fun _ => false) dest src done n memory =
        .ok () after ∧
      after.constructions = memory.constructions + n := by
  induction n generalizing done memory with
  | zero => exact ⟨memory, rfl, rfl⟩
  | succ n hypothesis =>
      have destCurrent := destMapped done (by omega)
      have srcCurrent := srcMapped done (by omega)
      obtain ⟨middle, ran, counted⟩ := constructFrom_accepted transfer destCurrent srcCurrent
        (accepted 0 (Nat.succ_pos n))
      have same : SameStorage memory middle := by
        have kept : KeptBy memory
            (constructFrom environment transfer (dest + done) (src + done) memory) :=
          constructFrom_kept transfer destCurrent srcCurrent
        rwa [ran] at kept
      have destLeft : Mapped middle.slots dest (done + 1 + n) := by
        rw [Nat.add_right_comm]
        exact same.mappedRange destMapped
      have srcLeft : Mapped middle.slots src (done + 1 + n) := by
        rw [Nat.add_right_comm]
        exact same.mappedRange srcMapped
      obtain ⟨after, rest, total⟩ := hypothesis destLeft srcLeft (by
        intro index bound
        rw [counted, Nat.add_assoc, Nat.add_comm 1]
        exact accepted (index + 1) (by omega))
      refine ⟨after, ?_, by omega⟩
      have idle : destroyIf environment false (dest + done) memory = .ok () memory := rfl
      unfold transferUpward
      rw [bind_of_ok idle, bind_of_ok (onFailure_of_ok ran)]
      exact rest

variable (environment) in
theorem transferToRawNoOverlap_accepted (transfer : Transfer)
    (movable : environment.elements.constructorAllocator = false →
      OctetsMovable environment.elements dest src n)
    (destMapped : Mapped memory.slots dest n) (srcMapped : Mapped memory.slots src n)
    (accepted : Accepted environment memory n) :
    ∃ after, transferToRawNoOverlap environment transfer dest src n memory = .ok () after ∧
      SameStorage memory after ∧
      (environment.elements.constructorAllocator = true →
        after.constructions = memory.constructions + n) := by
  have kept := transferToRawNoOverlap_kept transfer movable destMapped srcMapped
  cases constructors : environment.elements.constructorAllocator with
  | true =>
      have run : ∃ after,
          transferToRawNoOverlap environment transfer dest src n memory = .ok () after ∧
            after.constructions = memory.constructions + n := by
        unfold transferToRawNoOverlap
        rw [constructors]
        exact transferUpward_accepted transfer (by rwa [Nat.zero_add])
          (by rwa [Nat.zero_add]) (accepted constructors)
      obtain ⟨after, ran, counted⟩ := run
      rw [ran] at kept
      exact ⟨after, ran, kept, fun _ => counted⟩
  | false =>
      refine ⟨memory.copyOctets dest src n, ?_, copyOctets_kept destMapped srcMapped,
        fun impossible => by cases impossible⟩
      unfold transferToRawNoOverlap
      rw [constructors]
      exact memcpy_of_movable (movable constructors) destMapped srcMapped

theorem transferToDirty_kept (transfer : Transfer) (dirtyMemoryFinish : Nat)
    (fits : environment.elements.constructorAllocator = false →
      n * environment.elements.size < environment.elements.sizeRange)
    (destMapped : Mapped memory.slots dest n) (srcMapped : Mapped memory.slots src n) :
    KeptBy memory
      (transferToDirty environment transfer dest dirtyMemoryFinish src n memory) := by
  have upward : KeptBy memory (transferUpward environment transfer
      (fun address => decide (address < dirtyMemoryFinish)) dest src 0 n memory) :=
    transferUpward_kept transfer _ (by rwa [Nat.zero_add]) (by rwa [Nat.zero_add])
  unfold transferToDirty
  split
  · exact SameStorage.refl memory
  · unfold transferToDirtyNoOverlap
    cases constructors : environment.elements.constructorAllocator with
    | true =>
        simp only [if_true]
        split
        · split
          · exact upward
          · exact transferDownward_kept transfer _ (Nat.le_refl n) destMapped srcMapped
        · exact upward
    | false =>
        simp only [Bool.false_eq_true, if_false]
        split
        · exact memmove_kept (fits constructors) destMapped srcMapped
        · rename_i overlap
          have movable : OctetsMovable environment.elements dest src n :=
            ⟨fits constructors, .inr (Bool.eq_false_iff.mpr overlap)⟩
          rw [memcpy_of_movable movable destMapped srcMapped]
          exact copyOctets_kept destMapped srcMapped

variable (environment) in
theorem destroyFrom_done {p : Nat} (mapped : Mapped memory.slots p n) :
    ∃ after, destroyFrom environment p n memory = .ok () after ∧
      SameStorage memory after ∧ after.constructions = memory.constructions := by
  induction n generalizing p memory with
  | zero => exact ⟨memory, rfl, SameStorage.refl memory, rfl⟩
  | succ n hypothesis =>
      have current := mapped 0 (Nat.succ_pos n)
      have first : ∃ middle, destroy environment p memory = .ok () middle ∧
          SameStorage memory middle ∧ middle.constructions = memory.constructions := by
        cases constructors : environment.elements.constructorAllocator with
        | true =>
            exact ⟨_, destroy_of_mapped current constructors,
              (SameStorage.note memory _ p).trans (SameStorage.put current rfl), rfl⟩
        | false =>
            refine ⟨memory, ?_, SameStorage.refl memory, rfl⟩
            unfold destroy
            rw [constructors]
            rfl
      obtain ⟨middle, ran, same, counted⟩ := first
      have left : Mapped middle.slots (p + 1) n := by
        intro index bound
        rw [same.mapped, Nat.add_right_comm]
        exact mapped (index + 1) (Nat.succ_lt_succ bound)
      obtain ⟨after, rest, sameRest, countedRest⟩ := hypothesis left
      refine ⟨after, ?_, same.trans sameRest, countedRest.trans counted⟩
      unfold destroyFrom
      rw [bind_of_ok ran]
      exact rest

variable (environment) in
theorem destroyN_done {p : Nat} (mapped : Mapped memory.slots p n) :
    ∃ after, destroyN environment p n memory = .ok () after ∧
      SameStorage memory after ∧ after.constructions = memory.constructions := by
  unfold destroyN
  split
  · exact destroyFrom_done environment mapped
  · exact ⟨memory, rfl, SameStorage.refl memory, rfl⟩

end Accepted

/-- Elements have got from one range to another.  Where `tidy` holds, no object was made
over another one. -/
structure Placed (environment : Environment α) (transfer : Transfer) (tidy : Prop)
    (memory : Memory α) (dest src n : Nat) (after : Memory α) : Prop where
  values : ∀ index < n, after.slots (dest + index) = memory.slots (src + index)
  elsewhere : ∀ address, ¬Within dest n address → after.slots address =
    if environment.elements.constructorAllocator ∧ transfer = .move ∧
        Within src n address then
      (memory.slots address).map environment.afterMove
    else memory.slots address
  storage : SameStorage memory after
  counted : environment.elements.constructorAllocator = true →
    after.constructions = memory.constructions + n
  events : Grown (fun event => (Within dest n event.address ∨ Within src n event.address) ∧
    (tidy → event.proper)) memory.log after.log

section Transfers

variable {environment : Environment α} {transfer : Transfer} {tidy : Prop}
  {memory middle after : Memory α} {dest src n : Nat}

namespace Placed

theorem nothing : Placed environment transfer tidy memory dest src 0 memory where
  values := fun _ bound => absurd bound (Nat.not_lt_zero _)
  elsewhere := by
    intro address _
    rw [if_neg]
    intro inside
    obtain ⟨_, _, within⟩ := inside
    unfold Within at within
    omega
  storage := SameStorage.refl memory
  counted := fun _ => rfl
  events := Grown.refl _

theorem outside (placed : Placed environment transfer tidy memory dest src n after)
    {address : Nat} (notDest : ¬Within dest n address) (notSrc : ¬Within src n address) :
    after.slots address = memory.slots address := by
  rw [placed.elsewhere address notDest, if_neg fun inside => notSrc inside.2.2]

theorem copied (placed : Placed environment .copy tidy memory dest src n after)
    {address : Nat} (notDest : ¬Within dest n address) :
    after.slots address = memory.slots address := by
  rw [placed.elsewhere address notDest, if_neg fun inside => by cases inside.2.1]

theorem holdsElsewhere (placed : Placed environment transfer tidy memory dest src n after)
    {address : Nat} (notDest : ¬Within dest n address) :
    (after.slots address).holds = (memory.slots address).holds := by
  rw [placed.elsewhere address notDest]
  split
  · exact Slot.holds_map _ _
  · rfl

theorem cons (first : Placed environment transfer tidy memory dest src 1 middle)
    (rest : Placed environment transfer tidy middle (dest + 1) (src + 1) n after)
    (forward : dest < src ∨ src + (n + 1) ≤ dest) :
    Placed environment transfer tidy memory dest src (n + 1) after where
  values := by
    intro index bound
    have one := first.values 0 Nat.one_pos
    rw [Nat.add_zero, Nat.add_zero] at one
    cases index with
    | zero =>
        rw [Nat.add_zero, Nat.add_zero, ← one]
        apply rest.outside
        · unfold Within
          omega
        · unfold Within
          omega
    | succ index =>
        have value := rest.values index (Nat.lt_of_succ_lt_succ bound)
        rw [Nat.add_assoc, Nat.add_comm 1] at value
        rw [value, Nat.add_assoc, Nat.add_comm 1]
        apply first.outside
        · unfold Within
          omega
        · unfold Within
          omega
  elsewhere := by
    intro address outside
    have notFirst : ¬Within dest 1 address := by
      unfold Within at outside ⊢
      omega
    have notRest : ¬Within (dest + 1) n address := by
      unfold Within at outside ⊢
      omega
    rw [rest.elsewhere address notRest, first.elsewhere address notFirst]
    by_cases moves : environment.elements.constructorAllocator = true ∧ transfer = .move
    · obtain ⟨constructors, move⟩ := moves
      simp only [constructors, move, true_and]
      by_cases inFirst : Within src 1 address
      · have notLater : ¬Within (src + 1) n address := by
          unfold Within at inFirst ⊢
          omega
        have inWhole : Within src (n + 1) address := by
          unfold Within at inFirst ⊢
          omega
        rw [if_pos inFirst, if_neg notLater, if_pos inWhole]
      · have same : Within (src + 1) n address ↔ Within src (n + 1) address := by
          unfold Within at inFirst ⊢
          omega
        rw [if_neg inFirst]
        simp only [same]
    · have never (inside : Prop) : ¬(environment.elements.constructorAllocator = true ∧
          transfer = .move ∧ inside) :=
        fun both => moves ⟨both.1, both.2.1⟩
      rw [if_neg (never _), if_neg (never _), if_neg (never _)]
  storage := first.storage.trans rest.storage
  counted := by
    intro constructors
    rw [rest.counted constructors, first.counted constructors, Nat.add_assoc,
      Nat.add_comm 1]
  events := by
    apply Grown.trans
    · apply first.events.weaken
      intro event allowed
      refine ⟨?_, allowed.2⟩
      have places := allowed.1
      unfold Within at places ⊢
      omega
    · apply rest.events.weaken
      intro event allowed
      refine ⟨?_, allowed.2⟩
      have places := allowed.1
      unfold Within at places ⊢
      omega

end Placed

/-- One element, made where nothing is checked to be. -/
theorem constructFrom_placed (destMapped : (memory.slots dest).mapped)
    (srcMapped : (memory.slots src).mapped) (apart : dest ≠ src)
    (constructors : environment.elements.constructorAllocator = true)
    (ready : tidy → (memory.slots src).holds ∧ (memory.slots dest).holds = false)
    (accepted : environment.refusal memory.constructions = none) :
    ∃ after, constructFrom environment transfer dest src memory = .ok () after ∧
      Placed environment transfer tidy memory dest src 1 after := by
  have kept : KeptBy memory (constructFrom environment transfer dest src memory) :=
    constructFrom_kept transfer destMapped srcMapped
  have stored : Slot.ofValue (memory.slots src).value? = memory.slots src := by
    cases slot : memory.slots src with
    | unmapped =>
        rw [slot] at srcMapped
        cases srcMapped
    | vacant => rfl
    | object value => rfl
  have taken : take environment src memory = .ok _ _ := take_of_mapped srcMapped
  rw [if_pos constructors] at taken
  have made : construct environment dest (memory.slots src).value?
      (memory.note .taken src) = .ok () _ :=
    construct_of_mapped (show ((memory.note .taken src).slots dest).mapped from destMapped)
      (memory.slots src).value? accepted
  let built : Memory α :=
    { ((memory.note .taken src).note .constructed dest).put dest
        (.ofValue (memory.slots src).value?) with
      constructions := memory.constructions + 1 }
  have events : Grown (fun event => (Within dest 1 event.address ∨
      Within src 1 event.address) ∧ (tidy → event.proper)) memory.log built.log := by
    have used : Grown (fun event => (Within dest 1 event.address ∨
        Within src 1 event.address) ∧ (tidy → event.proper)) memory.log
          (memory.note .taken src).log :=
      Grown.cons memory.log ⟨.inr (within_one.mpr rfl), fun is => (ready is).1⟩
    apply used.trans
    apply Grown.cons
    refine ⟨.inl (within_one.mpr rfl), ?_⟩
    intro is
    show (!(memory.slots dest).holds) = true
    rw [(ready is).2]
    rfl
  have atDest : built.slots dest = memory.slots src := by
    rw [← stored]
    exact Memory.put_self _ dest _
  have elsewhere {address : Nat} (other : address ≠ dest) :
      built.slots address = memory.slots address :=
    Memory.put_of_ne _ other _
  have ran : constructFrom environment transfer dest src memory =
      leave transfer environment.afterMove src built := by
    unfold constructFrom
    rw [bind_of_ok taken, bind_of_ok (onFailure_of_ok made)]
    rfl
  cases transfer with
  | copy =>
      have whole : constructFrom environment .copy dest src memory = .ok () built := ran
      rw [whole] at kept
      refine ⟨built, whole, ?_, ?_, kept, fun _ => rfl, events⟩
      · intro index bound
        rw [show index = 0 by omega]
        exact atDest
      · intro address outside
        rw [within_one] at outside
        rw [elsewhere outside, if_neg fun inside => by cases inside.2.1]
  | move =>
      have whole : constructFrom environment .move dest src memory =
          .ok () (built.put src ((built.slots src).map environment.afterMove)) := ran
      rw [whole] at kept
      refine ⟨_, whole, ?_, ?_, kept, fun _ => rfl, events⟩
      · intro index bound
        rw [show index = 0 by omega]
        exact (Memory.put_of_ne built apart _).trans atDest
      · intro address outside
        rw [within_one] at outside
        by_cases isSource : address = src
        · rw [if_pos ⟨constructors, rfl, within_one.mpr isSource⟩, isSource, Memory.put_self,
            elsewhere (Ne.symm apart)]
        · rw [if_neg fun inside => isSource (within_one.mp inside.2.2),
            Memory.put_of_ne built isSource, elsewhere outside]

theorem transferUpward_placed {done : Nat}
    (destMapped : Mapped memory.slots (dest + done) n)
    (srcMapped : Mapped memory.slots (src + done) n)
    (forward : dest < src ∨ src + (done + n) ≤ dest)
    (constructors : environment.elements.constructorAllocator = true)
    (ready : tidy → Objects memory.slots (src + done) n ∧
      (∀ index < n, (memory.slots (dest + done + index)).holds = false) ∧
      Apart (dest + done) n (src + done) n)
    (accepted : ∀ index < n, environment.refusal (memory.constructions + index) = none) :
    ∃ after,
      transferUpward environment transfer (fun _ => false) dest src done n memory =
        .ok () after ∧
      Placed environment transfer tidy memory (dest + done) (src + done) n after := by
  induction n generalizing done memory with
  | zero => exact ⟨memory, rfl, Placed.nothing⟩
  | succ n hypothesis =>
      have destCurrent := destMapped 0 (Nat.succ_pos n)
      have srcCurrent := srcMapped 0 (Nat.succ_pos n)
      rw [Nat.add_zero] at destCurrent srcCurrent
      obtain ⟨middle, ran, first⟩ : ∃ middle,
          constructFrom environment transfer (dest + done) (src + done) memory =
            .ok () middle ∧
          Placed environment transfer tidy memory (dest + done) (src + done) 1 middle := by
        apply constructFrom_placed destCurrent srcCurrent (by omega) constructors
        · intro is
          obtain ⟨objects, free, _⟩ := ready is
          exact ⟨objects 0 (Nat.succ_pos n), free 0 (Nat.succ_pos n)⟩
        · exact accepted 0 (Nat.succ_pos n)
      have next : ∃ after, transferUpward environment transfer (fun _ => false) dest src
          (done + 1) n middle = .ok () after ∧
          Placed environment transfer tidy middle (dest + (done + 1)) (src + (done + 1)) n
            after := by
        apply hypothesis
        · intro index bound
          rw [first.storage.mapped, show dest + (done + 1) + index =
            dest + done + (index + 1) by omega]
          exact destMapped (index + 1) (Nat.succ_lt_succ bound)
        · intro index bound
          rw [first.storage.mapped, show src + (done + 1) + index =
            src + done + (index + 1) by omega]
          exact srcMapped (index + 1) (Nat.succ_lt_succ bound)
        · omega
        · intro is
          obtain ⟨objects, free, apart⟩ := ready is
          have keeps (address : Nat) (other : address ≠ dest + done) :
              (middle.slots address).holds = (memory.slots address).holds := by
            apply first.holdsElsewhere
            unfold Within
            omega
          refine ⟨?_, ?_, ?_⟩
          · intro index bound
            have notDest : src + (done + 1) + index ≠ dest + done := by
              intro same
              apply apart (dest + done)
              · unfold Within
                omega
              · unfold Within
                omega
            rw [keeps _ notDest, show src + (done + 1) + index =
              src + done + (index + 1) by omega]
            exact objects (index + 1) (Nat.succ_lt_succ bound)
          · intro index bound
            rw [keeps _ (by omega), show dest + (done + 1) + index =
              dest + done + (index + 1) by omega]
            exact free (index + 1) (Nat.succ_lt_succ bound)
          · apply Apart.within apart
            · intro address within
              unfold Within at within ⊢
              omega
            · intro address within
              unfold Within at within ⊢
              omega
        · intro index bound
          rw [first.counted constructors, Nat.add_assoc, Nat.add_comm 1]
          exact accepted (index + 1) (Nat.succ_lt_succ bound)
      obtain ⟨after, rest, placed⟩ := next
      refine ⟨after, ?_, first.cons placed (by omega)⟩
      have idle : destroyIf environment false (dest + done) memory = .ok () memory := rfl
      unfold transferUpward
      rw [bind_of_ok idle, bind_of_ok (onFailure_of_ok ran)]
      exact rest

theorem copyOctets_placed (destMapped : Mapped memory.slots dest n)
    (srcMapped : Mapped memory.slots src n)
    (raw : environment.elements.constructorAllocator = false) :
    Placed environment transfer tidy memory dest src n (memory.copyOctets dest src n) where
  values := by
    intro index bound
    have inside : Within dest n (dest + index) := by
      unfold Within
      omega
    simp only [Memory.copyOctets, inside, if_true, Nat.add_sub_cancel_left]
  elsewhere := by
    intro address outside
    simp only [Memory.copyOctets, outside, if_false, raw, Bool.false_eq_true, false_and]
  storage := copyOctets_kept destMapped srcMapped
  counted := by
    intro constructors
    rw [raw] at constructors
    cases constructors
  events := by
    refine ⟨_, (List.append_assoc ..).symm, ?_⟩
    intro event member
    obtain member | member := List.mem_append.mp member
    · obtain ⟨index, inside, same⟩ := List.mem_map.mp member
      rw [List.mem_reverse, List.mem_range] at inside
      cases same
      refine ⟨.inl ?_, fun _ => rfl⟩
      unfold Within
      dsimp only
      omega
    · obtain ⟨index, inside, same⟩ := List.mem_map.mp member
      rw [List.mem_reverse, List.mem_range] at inside
      cases same
      refine ⟨.inr ?_, fun _ => rfl⟩
      unfold Within
      dsimp only
      omega

variable (environment transfer) in
theorem transferToRawNoOverlap_placed
    (movable : environment.elements.constructorAllocator = false →
      OctetsMovable environment.elements dest src n)
    (forward : environment.elements.constructorAllocator = true →
      dest < src ∨ src + n ≤ dest)
    (destMapped : Mapped memory.slots dest n) (srcMapped : Mapped memory.slots src n)
    (accepted : Accepted environment memory n)
    (ready : environment.elements.constructorAllocator = true → tidy →
      Objects memory.slots src n ∧ Vacant memory.slots dest n ∧ Apart dest n src n) :
    ∃ after, transferToRawNoOverlap environment transfer dest src n memory = .ok () after ∧
      Placed environment transfer tidy memory dest src n after := by
  unfold transferToRawNoOverlap
  cases constructors : environment.elements.constructorAllocator with
  | true =>
      simp only [if_true]
      apply transferUpward_placed destMapped srcMapped
      · rw [Nat.zero_add]
        exact forward constructors
      · exact constructors
      · intro is
        obtain ⟨objects, vacant, apart⟩ := ready constructors is
        refine ⟨objects, ?_, apart⟩
        intro index bound
        rw [Nat.add_zero, vacant index bound]
        rfl
      · exact accepted constructors
  | false =>
      exact ⟨_, memcpy_of_movable (movable constructors) destMapped srcMapped,
        copyOctets_placed destMapped srcMapped constructors⟩

end Transfers

section Dirty

variable {environment : Environment α} {transfer : Transfer} {tidy : Prop}
  {memory : Memory α} {dest src n dirtyMemoryFinish : Nat} {clears : Nat → Bool}

theorem placed_of_order {order : List Nat}
    (dirty : ∀ address, clears address ↔ address < dirtyMemoryFinish)
    (constructors : environment.elements.constructorAllocator = true)
    (unhurried : Unhurried dest src n order) (complete : ∀ index, index ∈ order ↔ index < n)
    (length : order.length = n)
    (storage : SameStorage memory
      (memory.transferred environment transfer clears dest src order)) :
    Placed environment transfer tidy memory dest src n
      (memory.transferred environment transfer clears dest src order) := by
  have done := transferDone_of_order dirty constructors unhurried complete rfl storage
  obtain ⟨events, logged, account, _⟩ := done.events
  refine ⟨done.values, done.elsewhere, storage, fun _ => ?_, events.reverse, logged, ?_⟩
  · rw [← length]
    rfl
  · intro event member
    rw [List.mem_reverse] at member
    exact ⟨(account.places event member).imp_right And.right,
      fun _ => account.proper event member⟩

section Directions

variable (transfer) (dirty : ∀ address, clears address ↔ address < dirtyMemoryFinish)
  (transferable : Transferable environment memory clears dest src n)
  (accepted : ∀ index < n, environment.refusal (memory.constructions + index) = none)

include dirty transferable accepted

theorem dirtyUpward_placed (distinct : dest ≠ src) (nonnull : n ≠ 0 → dest ≠ 0)
    (forward : dest < src ∨ src + n ≤ dest) :
    ∃ after, transferUpward environment transfer clears dest src 0 n memory = .ok () after ∧
      Placed environment transfer tidy memory dest src n after := by
  have kept : KeptBy memory
      (transferUpward environment transfer clears dest src 0 n memory) :=
    transferUpward_kept transfer _ (by rw [Nat.zero_add]; exact transferable.mapped)
      (by rw [Nat.zero_add]; exact transferable.objects.mapped)
  obtain ⟨_, ran⟩ | ⟨index, bound, _, refusal, _, first, _⟩ :=
    transferUpward_ends transfer transferable distinct nonnull forward
  · rw [ran] at kept
    exact ⟨_, ran, placed_of_order dirty transferable.constructors
      (Unhurried.upward distinct forward (Nat.le_refl n)) (fun index => List.mem_range)
      List.length_range kept⟩
  · have fine := accepted index bound
    rw [first.2] at fine
    cases fine

theorem dirtyDownward_placed (backward : src < dest) :
    ∃ after, transferDownward environment transfer clears dest src n n memory =
        .ok () after ∧
      Placed environment transfer tidy memory dest src n after := by
  have kept : KeptBy memory
      (transferDownward environment transfer clears dest src n n memory) :=
    transferDownward_kept transfer _ (Nat.le_refl n) transferable.mapped
      transferable.objects.mapped
  obtain ⟨_, ran⟩ | ⟨index, bound, _, refusal, _, first, _⟩ :=
    transferDownward_ends transfer transferable backward
  · rw [ran] at kept
    refine ⟨_, ran, placed_of_order dirty transferable.constructors
      (Unhurried.downward backward) ?_ ?_ kept⟩
    · intro index
      rw [mem_descending]
      omega
    · unfold descending
      simp
  · have fine := accepted _ (show n - (index + 1) < n by omega)
    rw [first.2] at fine
    cases fine

end Directions

variable (transfer) in
/-- A transfer to places that may hold objects below an address, or be sources too. -/
theorem transferToDirty_placed (distinct : dest ≠ src ∨ n = 0)
    (fits : environment.elements.constructorAllocator = false →
      n * environment.elements.size < environment.elements.sizeRange)
    (destMapped : Mapped memory.slots dest n) (srcMapped : Mapped memory.slots src n)
    (live : environment.elements.constructorAllocator = true → 0 < n →
      dest ≠ 0 ∧ Objects memory.slots src n ∧
        ∀ index < n, (memory.slots (dest + index)).holds ↔ dest + index < dirtyMemoryFinish)
    (accepted : Accepted environment memory n) :
    ∃ after,
      transferToDirty environment transfer dest dirtyMemoryFinish src n memory =
        .ok () after ∧
      Placed environment transfer tidy memory dest src n after := by
  unfold transferToDirty
  by_cases same : dest = src
  · rw [if_pos same]
    cases distinct.resolve_left (not_not.mpr same)
    exact ⟨memory, rfl, Placed.nothing⟩
  rw [if_neg same]
  unfold transferToDirtyNoOverlap
  cases constructors : environment.elements.constructorAllocator with
  | false =>
      refine ⟨memory.copyOctets dest src n, ?_,
        copyOctets_placed destMapped srcMapped constructors⟩
      cases overlap : areRegionsOverlap dest src n with
      | false =>
          exact memcpy_of_movable ⟨fits constructors, .inr overlap⟩ destMapped srcMapped
      | true => exact memmove_of_mapped (fits constructors) destMapped srcMapped
  | true =>
      have dirty (address : Nat) : decide (address < dirtyMemoryFinish) = true ↔
          address < dirtyMemoryFinish := decide_eq_true_iff
      have transferable : Transferable environment memory
          (fun address => decide (address < dirtyMemoryFinish)) dest src n := by
        refine ⟨constructors, fun index bound => ?_, destMapped, fun index bound => ?_⟩
        · exact (live constructors (Nat.zero_lt_of_lt bound)).2.1 index bound
        · rw [Bool.eq_iff_iff, dirty]
          exact (live constructors (Nat.zero_lt_of_lt bound)).2.2 index bound
      have nonnull (some : n ≠ 0) : dest ≠ 0 :=
        (live constructors (Nat.pos_of_ne_zero some)).1
      have upward (forward : dest < src ∨ src + n ≤ dest) : ∃ after,
          transferUpward environment transfer (fun address =>
              decide (address < dirtyMemoryFinish)) dest src 0 n memory = .ok () after ∧
            Placed environment transfer tidy memory dest src n after :=
        dirtyUpward_placed transfer dirty transferable (accepted constructors) same nonnull
          forward
      cases overlap : areRegionsOverlap dest src n with
      | false => exact upward (apart_of_overlap overlap)
      | true =>
          rw [if_pos rfl, if_pos rfl]
          by_cases before : dest < src
          · rw [if_pos before]
            exact upward (.inl before)
          · rw [if_neg before]
            exact dirtyDownward_placed transfer dirty transferable (accepted constructors)
              (by omega)

end Dirty

structure Vacated (environment : Environment α) (tidy : Prop) (memory : Memory α)
    (p n : Nat) (after : Memory α) : Prop where
  slots : ∀ address, after.slots address =
    if environment.elements.constructorAllocator ∧ p ≠ 0 ∧ Within p n address then .vacant
    else memory.slots address
  storage : SameStorage memory after
  counted : after.constructions = memory.constructions
  events : Grown (fun event => Within p n event.address ∧ (tidy → event.proper))
    memory.log after.log

section Destructions

variable {environment : Environment α} {tidy : Prop} {memory after : Memory α} {p n : Nat}

theorem Vacated.raw (raw : environment.elements.constructorAllocator = false) :
    Vacated environment tidy memory p n memory where
  slots := by
    intro address
    rw [raw, if_neg fun inside => by cases inside.1]
  storage := SameStorage.refl memory
  counted := rfl
  events := Grown.refl _

theorem Vacated.outside (vacated : Vacated environment tidy memory p n after) {address : Nat}
    (notInside : ¬Within p n address) : after.slots address = memory.slots address := by
  rw [vacated.slots, if_neg fun inside => notInside inside.2.2]

theorem destroyFrom_vacated (mapped : Mapped memory.slots p n) (nonnull : p ≠ 0)
    (constructors : environment.elements.constructorAllocator = true)
    (ready : tidy → Objects memory.slots p n) :
    ∃ after, destroyFrom environment p n memory = .ok () after ∧
      Vacated environment tidy memory p n after := by
  induction n generalizing p memory with
  | zero =>
      refine ⟨memory, rfl, ?_, SameStorage.refl memory, rfl, Grown.refl _⟩
      intro address
      rw [if_neg]
      intro inside
      unfold Within at inside
      omega
  | succ n hypothesis =>
      have current := mapped 0 (Nat.succ_pos n)
      rw [Nat.add_zero] at current
      let middle := (memory.note .destroyed p).put p .vacant
      have same : SameStorage memory middle :=
        (SameStorage.note memory _ p).trans (SameStorage.put current rfl)
      have next : ∃ after, destroyFrom environment (p + 1) n middle = .ok () after ∧
          Vacated environment tidy middle (p + 1) n after := by
        apply hypothesis
        · intro index bound
          rw [same.mapped, Nat.add_right_comm]
          exact mapped (index + 1) (Nat.succ_lt_succ bound)
        · exact Nat.succ_ne_zero p
        · intro is index bound
          have object := ready is (index + 1) (Nat.succ_lt_succ bound)
          rw [← Nat.add_assoc, Nat.add_right_comm] at object
          rwa [show middle.slots (p + 1 + index) = memory.slots (p + 1 + index) from
            Memory.put_of_ne _ (by omega) _]
      obtain ⟨after, rest, vacated⟩ := next
      refine ⟨after, ?_, ?_, same.trans vacated.storage, vacated.counted, ?_⟩
      · unfold destroyFrom
        rw [bind_of_ok (destroy_of_mapped current constructors)]
        exact rest
      · intro address
        rw [vacated.slots]
        by_cases first : address = p
        · have inside : Within p (n + 1) address := by
            unfold Within
            omega
          have notLater : ¬Within (p + 1) n address := by
            unfold Within
            omega
          rw [if_neg fun later => notLater later.2.2,
            if_pos ⟨constructors, nonnull, inside⟩, first]
          exact Memory.put_self _ p _
        · have same : Within (p + 1) n address ↔ Within p (n + 1) address := by
            unfold Within
            omega
          rw [show middle.slots address = memory.slots address from
            Memory.put_of_ne _ first _]
          simp only [constructors, nonnull, same, ne_eq, Nat.succ_ne_zero,
            not_false_eq_true]
      · have one : Grown (fun event => Within p (n + 1) event.address ∧
            (tidy → event.proper)) memory.log middle.log := by
          apply Grown.cons
          refine ⟨⟨Nat.le_refl p, Nat.lt_add_of_pos_right (Nat.succ_pos n)⟩, ?_⟩
          intro is
          have object := ready is 0 (Nat.succ_pos n)
          rwa [Nat.add_zero] at object
        apply one.trans
        apply vacated.events.weaken
        intro event allowed
        refine ⟨?_, allowed.2⟩
        have inside := allowed.1
        unfold Within at inside ⊢
        omega

variable (environment) in
theorem destroyN_vacated (mapped : Mapped memory.slots p n)
    (ready : environment.elements.constructorAllocator = true → p ≠ 0 → tidy →
      Objects memory.slots p n) :
    ∃ after, destroyN environment p n memory = .ok () after ∧
      Vacated environment tidy memory p n after := by
  unfold destroyN
  cases constructors : environment.elements.constructorAllocator with
  | false => exact ⟨memory, rfl, Vacated.raw constructors⟩
  | true =>
      by_cases null : p = 0
      · rw [if_neg (by simp [null])]
        refine ⟨memory, rfl, ?_, SameStorage.refl memory, rfl, Grown.refl _⟩
        intro address
        rw [if_neg fun inside => inside.2.1 null]
      · rw [if_pos (by simp [null])]
        exact destroyFrom_vacated mapped null constructors (ready constructors null)

end Destructions

end CommonSerialization.Containers
