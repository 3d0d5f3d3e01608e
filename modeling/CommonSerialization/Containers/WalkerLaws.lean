import CommonSerialization.Containers.WalkerRuns

namespace CommonSerialization.Containers

open StateExcept Storage Transitions

/-! What is written with a walker, and what is read back. -/

namespace Walk

def WriteFails (walk : Walk α) (p n offset : Nat) : Status → Prop :=
  Vector.Refuses walk.store p n (max walk.size (offset + n)) False

inductive ReadFails (walk : Walk α) (p n : Nat) : Status → Prop
  | invalid (null : p = 0) (some : n ≠ 0) : ReadFails walk p n .errorInvalidArgument
  | overflow (atEnd : walk.tell = walk.size) (some : n ≠ 0) :
      ReadFails walk p n .errorOverflow

/-- Elements have taken the place of those from the cursor on, or nothing has happened,
for a reason. -/
def Writes (walk : Walk α) (p n : Nat) (result : EStateM.Result Fault (Walk α) Unit) : Prop :=
  Ended (fun _ after =>
      after.store.contents = walk.store.contents.take walk.tell ++
        stretch walk.memory.slots p n ++ walk.store.contents.drop (walk.tell + n) ∧
      after.tell = walk.tell + n)
    (fun fault after =>
      (∃ status, fault = .status status ∧ walk.WriteFails p n walk.tell status) ∧
        after.store.contents = walk.store.contents ∧ after.tell = walk.tell) result

/-- The elements from the cursor on have been copied, as many as there are, or nothing has
happened, for a reason. -/
def Reads (walk : Walk α) (p n : Nat) (result : EStateM.Result Fault (Walk α) Nat) : Prop :=
  Ended (fun nReal after =>
      nReal = min n (walk.size - walk.tell) ∧
      stretch after.memory.slots p nReal = (walk.store.contents.drop walk.tell).take n ∧
      after.store.contents = walk.store.contents ∧ after.tell = walk.tell + nReal)
    (fun fault after =>
      (∃ status, fault = .status status ∧ walk.ReadFails p n status) ∧
        after.store.contents = walk.store.contents ∧ after.tell = walk.tell) result

end Walk

section Laws

variable {environment : Environment α} {walk : Walk α} {p q n c : Nat}

theorem write_edited (whole : Whole environment.elements walk.store)
    (unrefused : Unrefused environment walk.memory) (inside : walk.tell ≤ walk.size)
    (orderly : (VectorCall.replace p n walk.tell).Orderly environment walk.store) :
    Ended (fun _ after => Edited environment.elements walk.store (fun _ => False)
          (Within p n) True (spliced walk.store p n walk.tell (walk.tell + n)) after.store ∧
        after.tell = walk.tell + n)
      (fun fault after =>
        (∃ status, fault = .status status ∧ walk.WriteFails p n walk.tell status) ∧
          Unchanged walk.store after.store ∧ after.tell = walk.tell)
      (Walker.write environment p n walk) := by
  obtain ⟨given, noWrap⟩ := orderly
  have same : min walk.tell walk.size = walk.tell := Nat.min_eq_left inside
  have ended : Ended (fun _ after => Edited environment.elements walk.store (fun _ => False)
        (Within p n) True (spliced walk.store p n walk.tell (walk.tell + n)) after ∧
        (p ≠ 0 ∨ n = 0))
      (fun fault after =>
        (∃ status, fault = .status status ∧ walk.WriteFails p n walk.tell status) ∧
          Unchanged walk.store after)
      ((VectorCall.replace p n walk.tell).run environment walk.store) := by
    by_cases argument : p ≠ 0 ∨ n = 0
    · apply Ended.bind (Vector.replace_edited whole given noWrap
          (fun _ _ => unrefused.accepted _) |>.weaken
        (fun _ _ ended => ended.2) fun _ _ rejected => ?_)
      · exact fun _ _ edited => ⟨edited, argument⟩
      · obtain ⟨⟨status, same, reason⟩, unchanged⟩ := rejected
        exact ⟨⟨status, same, reason.within inside⟩, unchanged⟩
    · have refused : Vector.replace environment p n walk.tell walk.store =
          .error (.status .errorInvalidArgument) walk.store := by
        unfold Vector.replace
        rw [bind_of_ok (get_apply walk.store), if_pos (by omega)]
        rfl
      show Ended _ _ (ignore (Vector.replace environment p n walk.tell) walk.store)
      unfold ignore
      rw [bind_of_error refused]
      exact ⟨⟨_, rfl, .invalid (by omega) (by omega)⟩, rfl, rfl, rfl, rfl, rfl⟩
  apply (WalkerCall.run_ended (show (WalkerCall.write p n).vectorCall environment walk = _
    from rfl) ended fun _ _ failed => ⟨_, failed.1.choose_spec.1⟩).weaken
  · intro _ after reached
    obtain ⟨⟨edited, argument⟩, position⟩ := reached
    refine ⟨edited, ?_⟩
    have cursor : after.tell =
        (min walk.tell walk.size + n) % environment.elements.sizeRange := position
    rw [cursor, same, Nat.mod_eq_of_lt (noWrap inside argument)]
  · intro fault after reached
    obtain ⟨⟨status, unchanged⟩, position⟩ := reached
    have cursor : after.tell = min walk.tell walk.size := position
    exact ⟨status, unchanged, cursor.trans same⟩

theorem write_writes (whole : Whole environment.elements walk.store)
    (unrefused : Unrefused environment walk.memory) (inside : walk.tell ≤ walk.size)
    (orderly : (VectorCall.replace p n walk.tell).Orderly environment walk.store) :
    walk.Writes p n (Walker.write environment p n walk) := by
  apply (write_edited whole unrefused inside orderly).weaken
  · exact fun _ _ ended => ⟨ended.1.contents, ended.2⟩
  · exact fun _ _ failed => ⟨failed.1, failed.2.1.contents, failed.2.2⟩

theorem read_reads (whole : Whole environment.elements walk.store)
    (unrefused : Unrefused environment walk.memory) (inside : walk.tell ≤ walk.size)
    (orderly : (VectorCall.copyN walk.tell n p).Orderly environment walk.store) :
    walk.Reads p n (Walker.read environment p n walk) := by
  have range : walk.size < environment.elements.sizeRange :=
    whole.standing.sizeInRange
  apply (WalkerCall.read_ended (Vector.copyN_edited whole orderly.1 orderly.2
    fun _ => unrefused.accepted _)).weaken
  · intro nReal after reached
    obtain ⟨pNew, ⟨place, edited, copied⟩, real, position⟩ := reached
    have count : nReal = min n (walk.size - walk.tell) := by
      rw [real, place, Nat.add_sub_cancel_left]
      rfl
    refine ⟨count, ?_, edited.contents, ?_⟩
    · rw [count]
      exact copied
    · rw [position, Nat.mod_eq_of_lt (by omega)]
  · intro fault after failed
    obtain ⟨⟨⟨status, same, reason⟩, unchanged⟩, position⟩ := failed
    refine ⟨⟨status, same, ?_⟩, unchanged.contents, position⟩
    cases reason with
    | invalid null some => exact .invalid null some
    | overflow past =>
        obtain out | ⟨atEnd, some⟩ := past
        · exact absurd inside (Nat.not_le.mpr out)
        · exact .overflow atEnd some
    | noMemory grows => exact absurd grows (Nat.not_lt_zero _)

/-- What is written at a position is read from it, unless the write fails or there is
nowhere to read it to. -/
theorem seek_write_seek_read (whole : Whole environment.elements walk.store)
    (unrefused : Unrefused environment walk.memory) (within : c ≤ walk.size)
    (orderly : (VectorCall.replace p n c).Orderly environment walk.store)
    (target : q ≠ 0 ∨ n = 0 → Foreign environment walk.store q n)
    (noWrap : c + n < environment.elements.sizeRange) :
    Ended (fun nReal after => nReal = n ∧
        stretch after.memory.slots q n = stretch walk.memory.slots p n)
      (fun fault _ => ∃ status, fault = .status status ∧
        (walk.WriteFails p n c status ∨ q = 0 ∧ n ≠ 0))
      ((do
        Walker.seek c
        Walker.write environment p n
        Walker.seek c
        Walker.read environment q n) walk) := by
  have sought (state : Walk α) (bound : c ≤ state.size) :
      Walker.seek c state = .ok () ⟨state.memory, ⟨state.walker.m_vector, c⟩⟩ := by
    unfold Walker.seek
    rw [bind_of_ok (WalkerCall.setValidOffset_apply c), Nat.min_eq_left bound,
      bind_of_ok (get_apply _)]
    show (if c ≤ state.size then return () else _ : WProc α Unit) _ = _
    rw [if_pos bound]
    rfl
  let start : Walk α := ⟨walk.memory, ⟨walk.walker.m_vector, c⟩⟩
  have written := write_edited (show Whole environment.elements start.store from whole)
    unrefused within orderly
  rw [bind_of_ok (sought walk within)]
  refine Ended.bind (written.weaken (fun _ _ ended => ended) ?_) ?_
  · intro fault after failed
    obtain ⟨⟨status, same, reason⟩, _⟩ := failed
    exact ⟨status, same, .inl reason⟩
  intro _ middle reached
  obtain ⟨edited, _⟩ := reached
  have length : middle.size = c + n + (walk.size - (c + n)) := by
    have lengths := congrArg List.length edited.contents
    rw [length_contents, length_spliced within] at lengths
    exact lengths
  let again : Walk α := ⟨middle.memory, ⟨middle.walker.m_vector, c⟩⟩
  have count : Vector.copiedN again.store c n = n := by
    show min n (middle.size - c) = n
    omega
  have placed : q ≠ 0 ∨ n = 0 → Foreign environment again.store q n := fun argument =>
    (Vector.Foreign.later (target argument) edited).1
  have copies : (VectorCall.copyN c n q).Orderly environment again.store := by
    refine ⟨?_, fun _ _ => noWrap⟩
    rw [count]
    exact placed
  have read := read_reads (show Whole environment.elements again.store from edited.whole)
    (unrefused.later edited.kept.constructions) (show c ≤ middle.size by omega) copies
  rw [bind_of_ok (sought middle (by omega))]
  apply read.weaken
  · intro nReal after result
    obtain ⟨real, copied, _, _⟩ := result
    have all : nReal = n := by
      rw [real]
      show min n (middle.size - c) = n
      omega
    refine ⟨all, ?_⟩
    rw [all] at copied
    rw [copied]
    have contents : again.store.contents = spliced walk.store p n c (c + n) := edited.contents
    rw [contents]
    unfold spliced
    have first : (walk.store.contents.take c).length = c := Vector.length_first within
    show (List.drop c _).take n = _
    rw [List.append_assoc, List.drop_left' first, List.take_left' length_stretch]
    rfl
  · intro fault after failed
    obtain ⟨⟨status, same, reason⟩, _⟩ := failed
    refine ⟨status, same, .inr ?_⟩
    cases reason with
    | invalid null some => exact ⟨null, some⟩
    | overflow atEnd some =>
        have past : c = middle.size := atEnd
        omega

end Laws

section Orderly

variable (environment : Environment α) (walk : Walk α)

/-- When a call does to the elements what it does to a sequence. -/
structure WalkerCall.Orderly (call : WalkerCall α) : Prop where
  unrefused : Unrefused environment walk.memory
  vector : ∀ made, call.vectorCall environment walk = some made →
    made.Orderly environment walk.store
  read : ∀ p n, call = .read p n →
    (VectorCall.copyN walk.tell n p).Orderly environment walk.store

inductive WalkerAction (α : Type)
  | call (call : WalkerCall α)
  | outside

def WalkerAction.Allowed : WalkerAction α → Prop
  | call made => made.Allowed environment walk
  | outside => True

def WalkerAction.Orderly : WalkerAction α → Prop
  | call made => made.Orderly environment walk
  | outside => True

end Orderly

inductive WalkerStep (environment : Environment α) :
    Walk α → WalkerAction α → Walk α → Prop
  | call {walk : Walk α} (call : WalkerCall α) :
      WalkerStep environment walk (.call call) (final (call.run environment walk))
  | outside {walk : Walk α} {memory : Memory α}
      (changed : Meanwhile environment.elements walk.store memory) :
      WalkerStep environment walk .outside ⟨memory, walk.walker⟩

/-- What is written at the cursor, and what is read from it. -/
structure WalkerLaws (environment : Environment α) (walk : Walk α) : Prop where
  write : ∀ p n, (VectorCall.replace p n walk.tell).Orderly environment walk.store →
    walk.Writes p n (Walker.write environment p n walk)
  read : ∀ p n, (VectorCall.copyN walk.tell n p).Orderly environment walk.store →
    walk.Reads p n (Walker.read environment p n walk)
  back : ∀ c p q n, c ≤ walk.size →
    (VectorCall.replace p n c).Orderly environment walk.store →
    (q ≠ 0 ∨ n = 0 → Foreign environment walk.store q n) →
    c + n < environment.elements.sizeRange →
    Ended (fun nReal after => nReal = n ∧
        stretch after.memory.slots q n = stretch walk.memory.slots p n)
      (fun fault _ => ∃ status, fault = .status status ∧
        (walk.WriteFails p n c status ∨ q = 0 ∧ n ≠ 0))
      ((do
        Walker.seek c
        Walker.write environment p n
        Walker.seek c
        Walker.read environment q n) walk)

section Runs

variable {environment : Environment α} {walk next : Walk α} {call : WalkerCall α}
  {action : WalkerAction α} {memory : Memory α} {manager : AllocationManager}

theorem WalkerCall.run_whole (whole : Whole environment.elements walk.store)
    (allowed : call.Allowed environment walk) (orderly : call.Orderly environment walk) :
    Ended (fun _ after => Whole environment.elements after.store)
      (fun _ after => Whole environment.elements after.store) (call.run environment walk) := by
  cases same : call.vectorCall environment walk with
  | some made =>
      have ended := made.run_follows whole orderly.unrefused (orderly.vector made same)
      apply (run_ended same ended fun _ _ failed => failed.1).weaken
      · exact fun _ _ reached => reached.1.whole
      · exact fun _ _ failed => failed.1.2.whole
  | none =>
      cases call with
      | reserveFromCurrentOffset n =>
          simp only [vectorCall] at same
          split at same
          · rename_i wraps
            simp only [run]
            unfold Walker.reserveFromCurrentOffset
            rw [bind_of_ok (get_apply walk), if_pos wraps]
            exact whole
          · cases same
      | read p n =>
          obtain ⟨target, noWrap⟩ := orderly.read p n rfl
          apply Ended.bind ((read_ended (Vector.copyN_edited whole target noWrap
            fun _ => orderly.unrefused.accepted _)).weaken (fun _ _ reached => reached)
              fun _ _ failed => ?_)
          · exact fun _ _ reached => reached.choose_spec.1.2.1.whole
          · have follows : _ ∧ Follows environment.elements walk.store True .keep _ :=
              Vector.Rejected.follows whole failed.1
            exact follows.2.whole
      | readArithmeticValue sizeofValue =>
          simp only [run]
          obtain ⟨present, short⟩ := readArithmeticValue_run whole.standing allowed.given
          obtain fits | past := Nat.lt_or_ge walk.size (sizeofValue + walk.tell)
          · rw [bind_of_error (short fits)]
            exact whole
          · obtain ⟨after, ran, slots, storage⟩ := present past
            rw [bind_of_ok ran]
            have standing := (Kept.sameStorage whole.standing storage
              whole.standing.fits.size).standing
            exact (Whole.stays whole standing (fun _ => congrFun storage.blocks _)
              fun _ _ => congrFun slots _).1
      | subscript offset =>
          simp only [run]
          unfold Walker.subscript
          rw [bind_assoc, bind_of_ok (setValidOffset_apply offset)]
          exact whole
      | seek offset =>
          simp only [run]
          unfold Walker.seek
          rw [bind_of_ok (setValidOffset_apply offset), bind_of_ok (get_apply _)]
          split
          · exact whole
          · exact whole
      | _ => cases same

theorem Meanwhile.onTrack (onTrack : OnTrack environment.elements walk)
    (changed : Meanwhile environment.elements walk.store memory) :
    OnTrack environment.elements ⟨memory, walk.walker⟩ := by
  have stepped : VectorStep environment walk.store .outside ⟨memory, walk.store.vector⟩ :=
    .outside changed.outside
  have allowed : VectorAction.outside.Allowed environment walk.store := trivial
  exact ⟨stepped.standing onTrack.standing allowed, onTrack.inside⟩

theorem WalkerStep.onTrack (onTrack : OnTrack environment.elements walk)
    (allowed : action.Allowed environment walk)
    (stepped : WalkerStep environment walk action next) :
    OnTrack environment.elements next := by
  cases stepped with
  | call call =>
      have ended := call.run_onTrack onTrack allowed
      cases ran : call.run environment walk with
      | ok value after =>
          rw [ran] at ended
          exact ended
      | error fault after =>
          rw [ran] at ended
          exact ended.2
  | outside changed => exact changed.onTrack onTrack

theorem WalkerStep.whole (whole : Whole environment.elements walk.store)
    (careful : action.Allowed environment walk ∧ action.Orderly environment walk)
    (stepped : WalkerStep environment walk action next) :
    Whole environment.elements next.store := by
  cases stepped with
  | call call =>
      have ended := call.run_whole whole careful.1 careful.2
      cases ran : call.run environment walk with
      | ok value after =>
          rw [ran] at ended
          exact ended
      | error fault after =>
          rw [ran] at ended
          exact ended
  | outside changed => exact (changed.follows whole).1

/-- In every run of calls that are allowed, from an empty walker and with others at work
between them, the cursor is not past the end.  If they are orderly too, what is written
takes its place at the cursor and is read from there. -/
theorem walker_laws (sound : Sound environment.elements memory)
    (provided : Provided environment.elements memory manager) :
    (∀ walk, Reaches (WalkerStep environment)
        (fun walk action => action.Allowed environment walk)
        ⟨memory, ⟨Vector.empty manager, 0⟩⟩ walk → walk.tell ≤ walk.size) ∧
      ∀ walk, Reaches (WalkerStep environment)
        (fun walk action => action.Allowed environment walk ∧ action.Orderly environment walk)
        ⟨memory, ⟨Vector.empty manager, 0⟩⟩ walk →
        Unrefused environment walk.memory → WalkerLaws environment walk := by
  have started : OnTrack environment.elements
      (⟨memory, ⟨Vector.empty manager, 0⟩⟩ : Walk α) :=
    ⟨standing_empty sound provided, Nat.zero_le _⟩
  have inside (walk : Walk α) (reached : Reaches (WalkerStep environment)
      (fun walk action => action.Allowed environment walk)
      ⟨memory, ⟨Vector.empty manager, 0⟩⟩ walk) : walk.tell ≤ walk.size :=
    (reached.invariant started WalkerStep.onTrack).inside
  refine ⟨inside, fun walk reached unrefused => ?_⟩
  let holds : Walk α → Prop := fun walk => Whole environment.elements walk.store
  have empty : holds ⟨memory, ⟨Vector.empty manager, 0⟩⟩ := whole_empty sound provided
  have whole : holds walk := reached.invariant empty WalkerStep.whole
  have order := inside walk (reached.weaken fun _ _ both => both.1)
  exact
    { write := fun _ _ => write_writes whole unrefused order
      read := fun _ _ => read_reads whole unrefused order
      back := fun _ _ _ _ => seek_write_seek_read whole unrefused }

end Runs

section Octets

private theorem octet_size : 0 < 1 := Nat.one_pos

private def octets : Elements := ⟨⟨false, false⟩, 1, octet_size, false⟩

private def octetHeap : Environment Nat :=
  Environment.exact octets (fun memory => 1000 * (memory.requests + 1)) id fun _ => none

private def noOctets : Walk Nat :=
  ⟨.empty, ⟨Vector.empty (.strategic .heap .doubleOfDataSize), 0⟩⟩

theorem walker_laws_appended :
    ∃ walk : Walk Nat, walk.store.contents = [.object 1, .object 2, .object 3] ∧
      walk.tell ≤ walk.size ∧ WalkerLaws octetHeap walk := by
  have raw : octets.constructorAllocator ≠ true := by decide
  have accepted (walk : Walk Nat) : Unrefused octetHeap walk.memory :=
    fun constructors => absurd constructors raw
  have fits : AllocationManager.RequestFits octets (.strategic .heap .doubleOfDataSize) 3 := by
    show 3 * 2 * 1 < 2 ^ 64
    decide
  have allowed : (WalkerAction.call (.pushBackArithmeticValue [1, 2, 3])).Allowed octetHeap
      noOctets := by
    refine ⟨?_, trivial⟩
    intro made same
    cases same
    exact ⟨by decide, fun _ _ => ⟨fits, fun constructors => absurd constructors raw⟩⟩
  have orderly : (WalkerAction.call (.pushBackArithmeticValue [1, 2, 3])).Orderly octetHeap
      noOctets := by
    refine ⟨accepted noOctets, ?_, fun _ _ same => by cases same⟩
    intro made same
    cases same
    exact ⟨by decide, fun _ _ => fits⟩
  have provided : Provided octets (.empty : Memory Nat)
      (.strategic .heap .doubleOfDataSize) := trivial
  have laws := walker_laws (show Sound octetHeap.elements _ from Sound.empty) provided
  have reached : Reaches (WalkerStep octetHeap)
      (fun walk action => action.Allowed octetHeap walk ∧ action.Orderly octetHeap walk)
      noOctets _ :=
    Reaches.start.next ⟨allowed, orderly⟩ (.call (.pushBackArithmeticValue [1, 2, 3]))
  exact ⟨_, by decide, laws.1 _ (reached.weaken fun _ _ both => both.1),
    laws.2 _ reached (accepted _)⟩

end Octets

section Refusals

private theorem widget_size : 0 < 24 := Nat.succ_pos 23

private def widgets : Elements := ⟨⟨false, false⟩, 24, widget_size, true⟩

private theorem widget_refused : statusSuccess .errorNoMemory = false := rfl

private def widgetHeap : Environment Nat :=
  Environment.exact widgets (fun memory => 1000 * (memory.requests + 1)) id fun index =>
    if index = 1 then some ⟨.errorNoMemory, widget_refused, none⟩ else none

private def oneWidget : Walk Nat where
  memory := { (.empty : Memory Nat) with
    slots := fun address => if address = 500 then .object 9 else .unmapped }
  walker := ⟨Vector.empty (.strategic .heap .doubleOfDataSize), 0⟩

/-- The element that is in the walker cannot be moved to more space: the walker is empty
then, and the cursor where it was. -/
theorem cursor_past_end :
    ∃ walk : Walk Nat, Reaches (WalkerStep widgetHeap) (fun _ _ => True) oneWidget walk ∧
      walk.tell = 1 ∧ walk.size = 0 := by
  have first : Reaches (WalkerStep widgetHeap) (fun _ _ => True) oneWidget _ :=
    Reaches.start.next trivial (.call (.pushBack 500))
  have second : Reaches (WalkerStep widgetHeap) (fun _ _ => True) oneWidget _ :=
    first.next trivial (.call (.reserve 10))
  exact ⟨_, second, by decide, by decide⟩

end Refusals

end CommonSerialization.Containers
