import CommonSerialization.Containers.Placed

namespace CommonSerialization.Containers

open StateExcept Storage

/-! Transfers in which a construction may be refused: where they reach, and what the first
refusal leaves. -/

section Makes

variable {environment : Environment α} {memory : Memory α} {address dest src n : Nat}

/-- A computation that makes some constructions and does not end with a status. -/
def Makes (memory : Memory α) (made : Nat)
    (result : EStateM.Result Fault (Memory α) β) : Prop :=
  Ended (fun _ after => after.constructions = memory.constructions + made)
    (fun fault _ => ∀ status, fault ≠ .status status) result

theorem Makes.bind {first : MProc α β} {next : β → MProc α γ} {made later total : Nat}
    (sum : made + later = total) (makes : Makes memory made (first memory))
    (rest : ∀ value middle, middle.constructions = memory.constructions + made →
      Makes middle later (next value middle)) :
    Makes memory total ((first >>= next) memory) := by
  apply Ended.bind makes
  intro value middle counted
  apply (rest value middle counted).weaken
  · intro _ after more
    rw [more, counted, Nat.add_assoc, sum]
  · intro _ _ other
    exact other

theorem Makes.onFailure {proc : MProc α β} {cleanup : MProc α Unit} {made : Nat}
    (makes : Makes memory made (proc memory)) :
    Makes memory made (onFailure proc cleanup memory) := by
  unfold Containers.onFailure
  cases ran : proc memory with
  | ok value after =>
      rw [ran] at makes
      exact makes
  | error fault after =>
      rw [ran] at makes
      cases fault with
      | status status => exact absurd rfl (makes status)
      | exception => exact makes
      | undefinedBehaviour => exact makes
      | outOfFuel => exact makes

theorem access_makes : Makes memory 0 (access address memory) := by
  unfold access
  rw [bind_of_ok (get_apply memory)]
  split
  · rfl
  · exact fun _ same => by cases same

theorem destroyIf_makes (dirty : Bool) :
    Makes memory 0 (destroyIf environment dirty address memory) := by
  unfold destroyIf
  split
  · unfold destroy
    split
    · apply Makes.bind (Nat.zero_add 0) access_makes
      intro _ _ _
      rfl
    · rfl
  · rfl

theorem constructFrom_makes (transfer : Transfer)
    (accepted : environment.refusal memory.constructions = none) :
    Makes memory 1 (constructFrom environment transfer dest src memory) := by
  have taken : Makes memory 0 (take environment src memory) := by
    unfold take
    apply Makes.bind (Nat.zero_add 0) access_makes
    intro _ _ _
    rfl
  unfold constructFrom
  apply taken.bind (Nat.zero_add 1)
  intro value middle counted
  apply Makes.bind (Nat.add_zero 1)
  · apply Makes.onFailure
    unfold construct
    apply Makes.bind (Nat.zero_add 1) access_makes
    intro _ last same
    rw [bind_of_ok (get_apply last), same, counted, Nat.add_zero, Nat.add_zero, accepted]
    show (_ : Nat) = _
    rw [same, counted]
  · intro _ _ _
    cases transfer <;> rfl

theorem transferUpward_makes (transfer : Transfer) (clears : Nat → Bool) {done : Nat}
    (accepted : ∀ index < n, environment.refusal (memory.constructions + index) = none) :
    Makes memory n (transferUpward environment transfer clears dest src done n memory) := by
  induction n generalizing done memory with
  | zero => rfl
  | succ n hypothesis =>
      unfold transferUpward
      apply Makes.bind (Nat.zero_add (n + 1)) (destroyIf_makes _)
      intro _ cleared same
      apply Makes.bind (Nat.add_comm 1 n)
      · apply Makes.onFailure
        apply constructFrom_makes
        rw [same]
        exact accepted 0 (Nat.succ_pos n)
      · intro _ made counted
        apply hypothesis
        intro index bound
        rw [counted, same, Nat.add_zero, Nat.add_assoc, Nat.add_comm 1]
        exact accepted (index + 1) (Nat.succ_lt_succ bound)

end Makes

/-- Nothing but what is at some addresses has changed, and nothing has happened but at some
addresses. -/
structure Touches (changed used : Nat → Prop) (before after : Memory α) : Prop where
  slots : ∀ {address}, ¬changed address → after.slots address = before.slots address
  events : Grown (fun event => used event.address) before.log after.log

namespace Touches

variable {changed used : Nat → Prop} {before middle after memory : Memory α} {address : Nat}

theorem refl (memory : Memory α) : Touches changed used memory memory :=
  ⟨fun _ => rfl, Grown.refl _⟩

theorem trans (before middle after : Memory α) (first : Touches changed used before middle)
    (second : Touches changed used middle after) : Touches changed used before after :=
  ⟨fun free => (second.slots free).trans (first.slots free), first.events.trans second.events⟩

theorem note (memory : Memory α) (action : Action) (here : used address) :
    Touches changed used memory (memory.note action address) :=
  ⟨fun _ => rfl, Grown.cons _ here⟩

theorem put (memory : Memory α) (slot : Slot α) (here : changed address) :
    Touches changed used memory (memory.put address slot) where
  slots := by
    intro other free
    apply Memory.put_of_ne
    intro same
    rw [same] at free
    exact free here
  events := Grown.refl _

end Touches

section Frames

variable {environment : Environment α} {changed used : Nat → Prop} {transfer : Transfer}
  {address dest src n : Nat}

theorem access_touches : Moves (Touches changed used) (access address : MProc α Unit) := by
  apply Moves.get_bind
  intro memory
  apply Moves.ite
  · exact fun _ => Moves.pure Touches.refl ()
  · exact fun _ => Moves.throw Touches.refl _

theorem take_touches (src : used address) :
    Moves (Touches changed used) (take environment address) := by
  apply Moves.bind Touches.trans access_touches
  intro _
  apply Moves.get_bind
  intro memory
  exact Touches.note memory _ src

theorem construct_touches (value : Option α) (dest : changed address ∧ used address) :
    Moves (Touches changed used) (construct environment address value) := by
  apply Moves.bind Touches.trans access_touches
  intro _
  apply Moves.get_bind
  intro memory
  have noted (action : Action) (slot : Slot α) :
      Touches changed used memory ((memory.note action address).put address slot) :=
    Touches.trans _ _ _ (Touches.note memory action dest.2) (Touches.put _ slot dest.1)
  cases refused : environment.refusal memory.constructions with
  | none =>
      obtain ⟨slots, events⟩ := noted .constructed (.ofValue value)
      exact ⟨slots, events⟩
  | some refusal =>
      obtain ⟨slots, events⟩ := noted .refused (.ofValue refusal.left)
      exact ⟨slots, events⟩

theorem leave_touches (change : α → α) (src : transfer = .move → changed address) :
    Moves (Touches changed used) (leave transfer change address) := by
  cases transfer with
  | copy => exact Moves.pure Touches.refl ()
  | move => exact Moves.modify fun memory => Touches.put memory _ (src rfl)

theorem constructFrom_touches (isDest : changed dest ∧ used dest) (isSrc : used src)
    (moves : transfer = .move → changed src) :
    Moves (Touches changed used) (constructFrom environment transfer dest src) := by
  apply Moves.bind Touches.trans (take_touches isSrc)
  intro value
  apply Moves.bind Touches.trans
  · exact onFailure_moves Touches.refl Touches.trans (construct_touches value isDest)
      (leave_touches _ moves)
  · exact fun _ => leave_touches _ moves

theorem destroy_touches (here : changed address ∧ used address) :
    Moves (Touches changed used) (destroy environment address) := by
  apply Moves.ite
  · intro _
    apply Moves.bind Touches.trans access_touches
    exact fun _ => Moves.modify fun memory => Touches.trans _ _ _
      (Touches.note memory .destroyed here.2) (Touches.put _ .vacant here.1)
  · exact fun _ => Moves.pure Touches.refl ()

theorem destroyFrom_touches {p : Nat}
    (here : ∀ address, Within p n address → changed address ∧ used address) :
    Moves (Touches changed used) (destroyFrom environment p n) := by
  induction n generalizing p with
  | zero => exact Moves.pure Touches.refl ()
  | succ n hypothesis =>
      apply Moves.bind Touches.trans
      · exact destroy_touches (here p (by unfold Within; omega))
      · intro _
        apply hypothesis
        intro address inside
        exact here address (by unfold Within at inside ⊢; omega)

theorem destroyN_touches {p : Nat}
    (here : ∀ address, Within p n address → changed address ∧ used address) :
    Moves (Touches changed used) (destroyN environment p n) :=
  Moves.ite (fun _ => destroyFrom_touches here) fun _ => Moves.pure Touches.refl ()

theorem destroyIf_touches (dirty : Bool) (here : changed address ∧ used address) :
    Moves (Touches changed used) (destroyIf environment dirty address) :=
  Moves.ite (fun _ => destroy_touches here) fun _ => Moves.pure Touches.refl ()

section Loops

variable (isDest : ∀ address, Within dest n address → changed address ∧ used address)
  (isSrc : ∀ address, Within src n address → used address ∧ (transfer = .move → changed address))

include isDest isSrc

theorem transferElement_touches (dirty : Bool) {index : Nat} (bound : index < n)
    {cleanup : MProc α Unit} (cleans : Moves (Touches changed used) cleanup) :
    Moves (Touches changed used) (do
      destroyIf environment dirty (dest + index)
      onFailure (constructFrom environment transfer (dest + index) (src + index)) cleanup) := by
  have place := isDest (dest + index) (by unfold Within; omega)
  obtain ⟨taken, moves⟩ := isSrc (src + index) (by unfold Within; omega)
  apply Moves.bind Touches.trans (destroyIf_touches dirty place)
  exact fun _ => onFailure_moves Touches.refl Touches.trans
    (constructFrom_touches place taken moves) cleans

theorem transferUpward_touches (clears : Nat → Bool) {done left : Nat} (total : done + left = n) :
    Moves (Touches changed used)
      (transferUpward environment transfer clears dest src done left) := by
  induction left generalizing done with
  | zero => exact Moves.pure Touches.refl ()
  | succ left hypothesis =>
      unfold transferUpward
      rw [← bind_assoc]
      apply Moves.bind Touches.trans
      · apply transferElement_touches isDest isSrc _ (by omega)
        apply destroyN_touches
        intro address inside
        exact isDest address (by unfold Within at inside ⊢; omega)
      · exact fun _ => hypothesis (by omega)

variable (constructors : environment.elements.constructorAllocator = true)

include constructors

theorem transferToRawNoOverlap_touches :
    Moves (Touches changed used)
      (transferToRawNoOverlap environment transfer dest src n) := by
  unfold transferToRawNoOverlap
  rw [if_pos constructors]
  exact transferUpward_touches isDest isSrc _ (Nat.zero_add n)

end Loops

end Frames

section Halts

/-- An element that a move comes to at a turn, when the construction of another turn is
refused: it has been moved, it has been tried, or it is as before. -/
def turned (environment : Environment α) (refused turn : Nat) (slot : Slot α) : Slot α :=
  if turn < refused then slot.map environment.afterMove
  else if turn = refused then slot.map environment.afterRefusedMove
  else slot

/-- A transfer has ended with a refused construction, and what was constructed before it is
destroyed again. -/
structure Halted (environment : Environment α) (transfer : Transfer) (memory : Memory α)
    (dest src n : Nat) (turnOf : Nat → Nat) (refused : Nat) (left : Option α)
    (after : Memory α) : Prop where
  takenBack : ∀ index < n, turnOf index < refused → after.slots (dest + index) = .vacant
  left : ∀ index < n, turnOf index = refused → after.slots (dest + index) = .ofValue left
  elsewhere : ∀ address, (∀ index < n, address = dest + index → refused < turnOf index) →
    after.slots address =
      if transfer = .move ∧ Within src n address then
        turned environment refused (turnOf (address - src)) (memory.slots address)
      else memory.slots address

variable {environment : Environment α} {memory : Memory α} {transfer : Transfer}
  {dest src n refused : Nat} {refusal : Refusal α}

theorem FirstRefusal.later {count made index : Nat}
    (first : FirstRefusal environment count (made + index) refusal) :
    FirstRefusal environment (count + made) index refusal := by
  refine ⟨?_, ?_⟩
  · intro earlier before
    rw [Nat.add_assoc]
    exact first.1 (made + earlier) (Nat.add_lt_add_left before made)
  · rw [Nat.add_assoc]
    exact first.2

theorem constructFrom_halted (destMapped : (memory.slots dest).mapped)
    (srcMapped : (memory.slots src).mapped) (distinct : dest ≠ src)
    (constructors : environment.elements.constructorAllocator = true)
    (first : environment.refusal memory.constructions = some refusal) :
    ∃ after,
      constructFrom environment transfer dest src memory =
        .error (.status refusal.status) after ∧
      SameStorage memory after ∧ after.slots dest = .ofValue refusal.left ∧
      ∀ address, address ≠ dest → after.slots address =
        if transfer = .move ∧ address = src then
          (memory.slots address).map environment.afterRefusedMove
        else memory.slots address := by
  have kept : KeptBy memory (constructFrom environment transfer dest src memory) :=
    constructFrom_kept transfer destMapped srcMapped
  have taken : take environment src memory = .ok _ _ := take_of_mapped srcMapped
  rw [if_pos constructors] at taken
  have failed := construct_of_refusal
    (show ((memory.note .taken src).slots dest).mapped from destMapped)
    (memory.slots src).value? first
  have ran {cleaned : Memory α}
      (cleanup : leave transfer environment.afterRefusedMove src
        { ((memory.note .taken src).note .refused dest).put dest (.ofValue refusal.left) with
          constructions := memory.constructions + 1 } = .ok () cleaned) :
      constructFrom environment transfer dest src memory =
        .error (.status refusal.status) cleaned := by
    unfold constructFrom
    rw [bind_of_ok taken]
    exact bind_of_error (onFailure_of_status failed cleanup)
  cases transfer with
  | copy =>
      have whole := ran rfl
      rw [whole] at kept
      refine ⟨_, whole, kept, Function.update_self .., ?_⟩
      intro address other
      rw [if_neg fun both => by cases both.1]
      exact Function.update_of_ne other _ _
  | move =>
      have whole := ran rfl
      rw [whole] at kept
      refine ⟨_, whole, kept, ?_, ?_⟩
      · exact (Function.update_of_ne distinct _ _).trans (Function.update_self ..)
      · intro address other
        by_cases isSrc : address = src
        · rw [if_pos ⟨rfl, isSrc⟩, isSrc]
          apply (Function.update_self ..).trans
          exact congrArg (Slot.map _) (Function.update_of_ne distinct.symm _ _)
        · rw [if_neg fun both => isSrc both.2]
          exact (Function.update_of_ne isSrc _ _).trans (Function.update_of_ne other _ _)

/-- The loop goes on where a part of it has ended. -/
theorem transferUpward_add (transfer : Transfer) (clears : Nat → Bool) (first last : Nat)
    {done : Nat} :
    transferUpward environment transfer clears dest src done (first + last) =
      (transferUpward environment transfer clears dest src done first >>= fun _ =>
        transferUpward environment transfer clears dest src (done + first) last) := by
  induction first generalizing done with
  | zero =>
      rw [Nat.zero_add, Nat.add_zero]
      rfl
  | succ first hypothesis =>
      rw [Nat.succ_add]
      simp only [transferUpward, bind_assoc, hypothesis]
      rw [Nat.add_assoc, Nat.add_comm 1]

theorem turned_of_stopped (bound : refused < n) (address : Nat) (slot : Slot α) :
    (if address = src + refused then
        (if Within src refused address then slot.map environment.afterMove else slot).map
          environment.afterRefusedMove
      else if Within src refused address then slot.map environment.afterMove else slot) =
      if Within src n address then turned environment refused (address - src) slot else slot := by
  have isMoved : Within src refused address ↔
      Within src n address ∧ address - src < refused := by
    unfold Within
    omega
  have isTried : address = src + refused ↔
      Within src n address ∧ address - src = refused := by
    unfold Within
    omega
  unfold turned
  simp only [isMoved, isTried]
  by_cases inside : Within src n address
  · simp only [inside, true_and]
    by_cases same : address - src = refused
    · simp only [same, Nat.lt_irrefl, if_true, if_false]
    · simp only [same, if_true, if_false]
  · simp only [inside, false_and, if_false]

theorem destroyIf_done (dirty : Bool) (mapped : (memory.slots dest).mapped)
    (constructors : environment.elements.constructorAllocator = true) :
    ∃ cleared, destroyIf environment dirty dest memory = .ok () cleared ∧
      SameStorage memory cleared ∧ cleared.constructions = memory.constructions ∧
      (∀ address, address ≠ dest → cleared.slots address = memory.slots address) ∧
      Grown (fun event => event.address = dest) memory.log cleared.log := by
  cases dirty with
  | false => exact ⟨memory, rfl, SameStorage.refl memory, rfl, fun _ _ => rfl, Grown.refl _⟩
  | true =>
      exact ⟨_, destroy_of_mapped mapped constructors,
        (SameStorage.note memory _ dest).trans (SameStorage.put mapped rfl), rfl,
        fun _ other => Function.update_of_ne other _ _, Grown.cons _ rfl⟩

theorem transferElement_passed (transfer : Transfer) (dirty : Bool) (cleanup : MProc α Unit)
    (destMapped : (memory.slots dest).mapped) (srcMapped : (memory.slots src).mapped)
    (distinct : dest ≠ src)
    (constructors : environment.elements.constructorAllocator = true)
    (accepted : environment.refusal memory.constructions = none) :
    ∃ cleared after,
      destroyIf environment dirty dest memory = .ok () cleared ∧
      onFailure (constructFrom environment transfer dest src) cleanup cleared =
        .ok () after ∧
      Placed environment transfer False memory dest src 1 after := by
  obtain ⟨cleared, cleaned, kept, counted, others, events⟩ :=
    destroyIf_done dirty destMapped constructors
  obtain ⟨after, ran, placed⟩ : ∃ after,
      constructFrom environment transfer dest src cleared = .ok () after ∧
      Placed environment transfer False cleared dest src 1 after := by
    apply constructFrom_placed _ _ distinct constructors False.elim
    · rwa [counted]
    · rwa [kept.mapped]
    · rwa [kept.mapped]
  refine ⟨cleared, after, cleaned, onFailure_of_ok ran, ?_, ?_, kept.trans placed.storage, ?_,
    ?_⟩
  · intro index less
    rw [placed.values index less]
    exact others _ (by omega)
  · intro address outside
    rw [placed.elsewhere address outside, others address (by unfold Within at outside; omega)]
  · intro _
    rw [placed.counted constructors, counted]
  · apply Grown.trans (events.weaken fun event here => ?_) placed.events
    exact ⟨.inl (by unfold Within; omega), False.elim⟩

theorem transferUpward_passed (transfer : Transfer) (clears : Nat → Bool) {done : Nat}
    (destMapped : Mapped memory.slots (dest + done) n)
    (srcMapped : Mapped memory.slots (src + done) n)
    (forward : dest < src ∨ src + (done + n) ≤ dest)
    (constructors : environment.elements.constructorAllocator = true)
    (accepted : ∀ index < n, environment.refusal (memory.constructions + index) = none) :
    ∃ after,
      transferUpward environment transfer clears dest src done n memory = .ok () after ∧
      Placed environment transfer False memory (dest + done) (src + done) n after := by
  induction n generalizing done memory with
  | zero => exact ⟨memory, rfl, Placed.nothing⟩
  | succ n hypothesis =>
      have destCurrent := destMapped 0 (Nat.succ_pos n)
      have srcCurrent := srcMapped 0 (Nat.succ_pos n)
      rw [Nat.add_zero] at destCurrent srcCurrent
      obtain ⟨cleared, middle, cleaned, ran, first⟩ := transferElement_passed transfer
        (clears (dest + done)) (destroyN environment dest done) destCurrent srcCurrent
        (by omega) constructors (accepted 0 (Nat.succ_pos n))
      obtain ⟨after, rest, placed⟩ : ∃ after,
          transferUpward environment transfer clears dest src (done + 1) n middle =
            .ok () after ∧
          Placed environment transfer False middle (dest + (done + 1)) (src + (done + 1)) n
            after := by
        apply hypothesis
        · intro index bound
          rw [first.storage.mapped, show dest + (done + 1) + index =
            dest + done + (index + 1) by omega]
          exact destMapped (index + 1) (Nat.succ_lt_succ bound)
        · intro index bound
          rw [first.storage.mapped, show src + (done + 1) + index =
            src + done + (index + 1) by omega]
          exact srcMapped (index + 1) (Nat.succ_lt_succ bound)
        · omega
        · intro index bound
          rw [first.counted constructors, Nat.add_assoc, Nat.add_comm 1]
          exact accepted (index + 1) (Nat.succ_lt_succ bound)
      refine ⟨after, ?_, first.cons placed (by omega)⟩
      unfold transferUpward
      rw [bind_of_ok cleaned, bind_of_ok ran]
      exact rest

theorem transferUpward_halted (transfer : Transfer) (clears : Nat → Bool) (past : Nat)
    (destMapped : Mapped memory.slots dest n) (srcMapped : Mapped memory.slots src n)
    (nonnull : dest ≠ 0) (forward : dest < src ∨ src + n ≤ dest)
    (constructors : environment.elements.constructorAllocator = true)
    (bound : refused < n)
    (first : FirstRefusal environment memory.constructions refused refusal) :
    ∃ after,
      transferUpward environment transfer clears dest src 0 (n + past) memory =
        .error (.status refusal.status) after ∧
      Halted environment transfer memory dest src n id refused refusal.left after := by
  obtain ⟨middle, ran, placed⟩ : ∃ middle,
      transferUpward environment transfer clears dest src 0 refused memory = .ok () middle ∧
      Placed environment transfer False memory dest src refused middle := by
    apply transferUpward_passed transfer clears
    · exact fun index less => destMapped index (by omega)
    · exact fun index less => srcMapped index (by omega)
    · omega
    · exact constructors
    · exact first.1
  obtain ⟨cleared, cleaned, keptClear, counted, others, _⟩ :=
    destroyIf_done (clears (dest + refused))
      (placed.storage.mappedRange destMapped refused bound) constructors
  obtain ⟨stopped, failed, kept, atDest, elsewhere⟩ : ∃ stopped,
      constructFrom environment transfer (dest + refused) (src + refused) cleared =
        .error (.status refusal.status) stopped ∧
      SameStorage cleared stopped ∧ stopped.slots (dest + refused) = .ofValue refusal.left ∧
      ∀ address, address ≠ dest + refused → stopped.slots address =
        if transfer = .move ∧ address = src + refused then
          (cleared.slots address).map environment.afterRefusedMove
        else cleared.slots address := by
    apply constructFrom_halted _ _ (by omega) constructors
    · rw [counted, placed.counted constructors]
      exact first.2
    · rw [keptClear.mapped]
      exact placed.storage.mappedRange destMapped refused bound
    · rw [keptClear.mapped]
      exact placed.storage.mappedRange srcMapped refused bound
  obtain ⟨after, vacating, vacated⟩ : ∃ after,
      destroyN environment dest refused stopped = .ok () after ∧
      Vacated environment False stopped dest refused after := by
    apply destroyN_vacated environment
    · intro index less
      exact ((placed.storage.trans keptClear).trans kept).mappedRange destMapped index (by omega)
    · exact fun _ _ => False.elim
  refine ⟨after, ?_, ?_, ?_, ?_⟩
  · rw [show n + past = refused + ((n - refused - 1 + past) + 1) by omega, transferUpward_add,
      bind_of_ok ran, Nat.zero_add]
    unfold transferUpward
    rw [bind_of_ok cleaned]
    exact bind_of_error (onFailure_of_status failed vacating)
  · intro index _ before
    rw [vacated.slots, if_pos ⟨constructors, nonnull, by unfold Within; exact
      ⟨Nat.le_add_right _ _, Nat.add_lt_add_left before dest⟩⟩]
  · intro index _ same
    rw [vacated.outside (by unfold Within; simp only [id] at same; omega),
      show index = refused from same, atDest]
  · intro address free
    have notMade : ¬Within dest refused address := by
      intro inside
      unfold Within at inside
      have later := free (address - dest) (by omega) (by omega)
      simp only [id] at later
      omega
    have notLeft : address ≠ dest + refused := by
      intro same
      exact Nat.lt_irrefl refused (free refused bound same)
    rw [vacated.outside notMade, elsewhere address notLeft, others address notLeft,
      placed.elsewhere address notMade]
    by_cases moves : transfer = .move
    · simp only [moves, constructors, true_and, id]
      exact turned_of_stopped bound address (memory.slots address)
    · simp only [moves, false_and, and_false, if_false]

theorem transferToRawNoOverlap_halted (transfer : Transfer)
    (destMapped : Mapped memory.slots dest n) (srcMapped : Mapped memory.slots src n)
    (nonnull : dest ≠ 0) (forward : dest < src ∨ src + n ≤ dest)
    (constructors : environment.elements.constructorAllocator = true)
    (bound : refused < n)
    (first : FirstRefusal environment memory.constructions refused refusal) :
    ∃ after,
      transferToRawNoOverlap environment transfer dest src n memory =
        .error (.status refusal.status) after ∧
      Halted environment transfer memory dest src n id refused refusal.left after := by
  unfold transferToRawNoOverlap
  rw [if_pos constructors]
  exact transferUpward_halted transfer _ 0 destMapped srcMapped nonnull forward constructors
    bound first

section Orders

variable {clears : Nat → Bool} {index count base : Nat} {order : List Nat} {value : α}
  {turnOf : Nat → Nat}

variable (transfer) (transferable : Transferable environment memory clears dest src n)
  (bound : refused < n)
  (first : FirstRefusal environment memory.constructions refused refusal)

include transferable bound first

end Orders

section Told

variable {clears : Nat → Bool} {done p : Nat} {status : Status} {after : Memory α}

end Told

end Halts

end CommonSerialization.Containers
