import CommonSerialization.Containers.CallSizes
import CommonSerialization.Containers.Walker

namespace CommonSerialization.Containers

open StateExcept Storage Transitions

/-! Where the cursor of a walker is, in whole runs of its functions. -/

inductive WalkerCall (α : Type)
  | init (rhs : Walker)
  | initMove (rhs : Walker)
  | initVector (rhs : Vector)
  | initVectorMove (rhs : Vector)
  | setSize (n : Nat)
  | reserve (n : Nat)
  | reserveFromCurrentOffset (n : Nat)
  | pushBack (value : Nat)
  | pushBackMove (value : Nat)
  | pushBackN (p n : Nat)
  | pushBackArithmeticValue (value : List α)
  | replace (p n offset : Nat)
  | insert (p n offset : Nat)
  | insertRange (sources : List Nat) (destBegin : Nat)
  | erase (offset n : Nat)
  | eraseRange (destBegin destEnd : Nat)
  | write (p n : Nat)
  | read (p n : Nat)
  | readArithmeticValue (sizeofValue : Nat)
  | subscript (offset : Nat)
  | seek (offset : Nat)
  | clear
  | invalidate
  | release

namespace WalkerCall

section Meaning

variable (environment : Environment α)

def run : WalkerCall α → WProc α Unit
  | init rhs => Walker.init environment rhs
  | initMove rhs => Walker.initMove environment rhs
  | initVector rhs => Walker.initVector environment rhs
  | initVectorMove rhs => Walker.initVectorMove environment rhs
  | setSize n => Walker.setSize environment n
  | reserve n => Walker.reserve environment n
  | reserveFromCurrentOffset n => Walker.reserveFromCurrentOffset environment n
  | pushBack value => Walker.pushBack environment value
  | pushBackMove value => Walker.pushBackMove environment value
  | pushBackN p n => Walker.pushBackN environment p n
  | pushBackArithmeticValue value => Walker.pushBackArithmeticValue environment value
  | replace p n offset => Walker.replace environment p n offset
  | insert p n offset => Walker.insert environment p n offset
  | insertRange sources destBegin => Walker.insertRange environment sources destBegin
  | erase offset n => Walker.erase environment offset n
  | eraseRange destBegin destEnd => Walker.eraseRange environment destBegin destEnd
  | write p n => Walker.write environment p n
  | read p n => do
      let _ ← Walker.read environment p n
      return ()
  | readArithmeticValue sizeofValue => do
      let _ ← Walker.readArithmeticValue environment sizeofValue
      return ()
  | subscript offset => do
      let _ ← Walker.subscript offset
      return ()
  | seek offset => Walker.seek offset
  | clear => Walker.clear environment
  | invalidate => Walker.invalidate environment
  | release => do
      let _ ← Walker.release
      return ()

variable (walk after : Walk α)

def vectorCall : WalkerCall α → Option (VectorCall α)
  | init rhs => some (.init rhs.m_vector)
  | initMove rhs => some (.initMove rhs.m_vector)
  | initVector rhs => some (.init rhs)
  | initVectorMove rhs => some (.initMove rhs)
  | setSize n => some (.setSize n)
  | reserve n => some (.reserve n)
  | reserveFromCurrentOffset n =>
      let needed := (walk.tell + n) % environment.elements.sizeRange
      if needed < walk.tell then none else some (.reserve needed)
  | pushBack value => some (.pushBack value)
  | pushBackMove value => some (.pushBackMove value)
  | pushBackN p n => some (.pushBackN p n)
  | pushBackArithmeticValue value => some (.pushBackArithmeticValue value)
  | replace p n offset => some (.replace p n offset)
  | insert p n offset => some (.insert p n offset)
  | insertRange sources destBegin => some (.insertRange sources destBegin)
  | erase offset n => some (.erase offset n)
  | eraseRange destBegin destEnd => some (.eraseRange destBegin destEnd)
  | write p n => some (.replace p n walk.tell)
  | read _ _ | readArithmeticValue _ | subscript _ | seek _ => none
  | clear => some .clear
  | invalidate => some .invalidate
  | release => some .release

def place (it : Nat) : Nat :=
  min (difference environment.elements it walk.walker.m_vector.m_p) walk.size

/-- Where the cursor goes if the call on the vector returns a value. -/
def cursor : WalkerCall α → Nat
  | init rhs | initMove rhs => rhs.m_offset
  | setSize _ | pushBack _ | pushBackMove _ | pushBackN _ _ | pushBackArithmeticValue _ =>
      after.size
  | replace _ n offset => (min offset walk.size + n) % environment.elements.sizeRange
  | write _ n => (min walk.tell walk.size + n) % environment.elements.sizeRange
  | insert _ _ offset =>
      (min offset walk.size + difference environment.elements after.size walk.size) %
        environment.elements.sizeRange
  | insertRange _ destBegin =>
      (place environment walk destBegin +
        difference environment.elements after.size walk.size) % environment.elements.sizeRange
  | erase offset _ => min offset walk.size
  | eraseRange destBegin _ => place environment walk destBegin
  | initVector _ | initVectorMove _ | clear | invalidate | release => 0
  | _ => walk.tell

def cursorFailed : WalkerCall α → Nat
  | setSize _ | pushBack _ | pushBackMove _ | pushBackN _ _ | pushBackArithmeticValue _ =>
      after.size
  | replace _ _ offset | insert _ _ offset | erase offset _ => min offset walk.size
  | write _ _ => min walk.tell walk.size
  | insertRange _ destBegin | eraseRange destBegin _ => place environment walk destBegin
  | release => 0
  | _ => walk.tell

end Meaning

section Ends

variable {environment : Environment α} {walk : Walk α} {good : Store α → Prop}
  {bad : Fault → Store α → Prop}

theorem setValidOffset_apply (offset : Nat) :
    Walker.setValidOffset offset walk =
      .ok () ⟨walk.memory, ⟨walk.walker.m_vector, min offset walk.size⟩⟩ := by
  have least : (if offset < walk.size then offset else walk.size) = min offset walk.size := by
    split <;> omega
  rw [← least]
  rfl

theorem onVector_ended {proc : VProc α β} {good : β → Store α → Prop}
    (ended : Ended good bad (proc walk.store)) :
    Ended (fun value after => good value after.store ∧ after.tell = walk.tell)
      (fun fault after => bad fault after.store ∧ after.tell = walk.tell)
      (Walker.onVector proc walk) :=
  ended.onPart (fun _ _ holds => ⟨holds, rfl⟩) (fun _ _ holds => ⟨holds, rfl⟩)

theorem endingAtEnd_ended {proc : VProc α Unit}
    (ended : Ended (fun _ => good) bad (proc walk.store))
    (status : ∀ fault after, bad fault after → ∃ status, fault = .status status) :
    Ended (fun _ after => good after.store ∧ after.tell = after.size)
      (fun fault after => bad fault after.store ∧ after.tell = after.size)
      (Walker.endingAtEnd proc walk) := by
  unfold Walker.endingAtEnd
  cases ran : proc walk.store with
  | ok value after =>
      rw [ran] at ended
      have ranOn : Walker.onVector proc walk =
          .ok value ⟨after.memory, ⟨after.vector, walk.tell⟩⟩ := onPart_of_ok ran
      rw [bind_of_ok (onFailure_of_ok ranOn)]
      exact ⟨ended, rfl⟩
  | error fault after =>
      rw [ran] at ended
      have ranOn : Walker.onVector proc walk =
          .error fault ⟨after.memory, ⟨after.vector, walk.tell⟩⟩ := onPart_of_error ran
      obtain ⟨reason, isStatus⟩ := status fault after ended
      rw [isStatus] at ranOn ended
      have whole : onFailure (Walker.onVector proc) Walker.toEnd walk =
          .error (.status reason)
            ⟨after.memory, ⟨after.vector, after.vector.m_dataSize⟩⟩ :=
        onFailure_of_status ranOn rfl
      rw [bind_of_error whole]
      exact ⟨ended, rfl⟩

theorem positioned_ended {proc : VProc α Unit} {offset : Nat} {next : WProc α Unit}
    {cursor : Walk α → Nat} (ended : Ended (fun _ => good) bad (proc walk.store))
    (last : ∀ after : Walk α, good after.store → after.tell = min offset walk.size →
      Ended (fun _ last => last.store = after.store ∧ last.tell = cursor last)
        (fun _ _ => False) (next after)) :
    Ended (fun _ after => good after.store ∧ after.tell = cursor after)
      (fun fault after => bad fault after.store ∧ after.tell = min offset walk.size)
      ((do
        Walker.setValidOffset offset
        Walker.onVector proc
        next) walk) := by
  have changed : Ended (fun _ after => good after.store ∧ after.tell = min offset walk.size)
      (fun fault after => bad fault after.store ∧ after.tell = min offset walk.size)
      (Walker.onVector proc
        ⟨walk.memory, ⟨walk.walker.m_vector, min offset walk.size⟩⟩) :=
    onVector_ended ended
  rw [bind_of_ok (setValidOffset_apply offset)]
  apply Ended.bind changed
  intro _ middle reached
  apply (last middle reached.1 reached.2).weaken
  · intro _ after finished
    rw [finished.1]
    exact ⟨reached.1, finished.2⟩
  · intro _ _ impossible
    exact impossible.elim

theorem advance_ended {after : Walk α} {position : Nat} (same : after.tell = position)
    (n : Nat) :
    Ended (fun _ last => last.store = after.store ∧
        last.tell = (position + n) % environment.elements.sizeRange)
      (fun _ _ => False) (Walker.advance environment n after) := by
  rw [← same]
  exact ⟨rfl, rfl⟩

variable {call : WalkerCall α} {made : VectorCall α}

/-- A call that may change the vector ends as the one on the vector does, and it is known
where the cursor is then. -/
theorem run_ended (same : call.vectorCall environment walk = some made)
    (ended : Ended (fun _ => good) bad (made.run environment walk.store))
    (status : ∀ fault after, bad fault after → ∃ status, fault = .status status) :
    Ended (fun _ after => good after.store ∧
        after.tell = call.cursor environment walk after)
      (fun fault after => bad fault after.store ∧
        after.tell = call.cursorFailed environment walk after)
      (call.run environment walk) := by
  have settled (offset : Nat) {proc : VProc α Unit}
      (ended : Ended (fun _ => good) bad (proc walk.store)) :
      Ended (fun _ after => good after.store ∧ after.tell = offset)
        (fun fault after => bad fault after.store ∧ after.tell = walk.tell)
        ((do
          Walker.onVector proc
          Walker.setOffset offset) walk) := by
    apply Ended.bind (onVector_ended ended)
    intro _ middle reached
    exact ⟨reached.1, rfl⟩
  cases call with
  | init rhs | initMove rhs | initVector rhs | initVectorMove rhs =>
      cases same
      exact settled _ ended
  | setSize n | pushBack value | pushBackMove value | pushBackN p n
  | pushBackArithmeticValue value =>
      cases same
      exact endingAtEnd_ended ended status
  | reserve n =>
      cases same
      exact onVector_ended ended
  | reserveFromCurrentOffset n =>
      simp only [vectorCall] at same
      split at same
      · cases same
      · rename_i noWrap
        cases same
        simp only [run]
        unfold Walker.reserveFromCurrentOffset
        rw [bind_of_ok (get_apply walk), if_neg noWrap]
        exact onVector_ended ended
  | replace p n offset | write p n =>
      cases same
      apply positioned_ended ended
      intro after _ position
      exact advance_ended position n
  | insert p n offset =>
      cases same
      apply positioned_ended ended
      intro after _ position
      exact advance_ended position (difference _ after.size walk.size)
  | insertRange sources destBegin =>
      cases same
      apply positioned_ended ended
      intro after _ position
      exact advance_ended position (difference _ after.size walk.size)
  | erase offset n =>
      cases same
      rw [show run environment (erase offset n) = Walker.erase environment offset n from rfl]
      unfold Walker.erase
      rw [bind_of_ok (setValidOffset_apply offset)]
      exact onVector_ended ended
  | eraseRange destBegin destEnd =>
      cases same
      simp only [run]
      unfold Walker.eraseRange
      rw [bind_of_ok (get_apply walk), bind_of_ok (setValidOffset_apply _)]
      exact onVector_ended ended
  | read p n | readArithmeticValue sizeofValue | subscript offset | seek offset => cases same
  | clear | invalidate =>
      cases same
      exact settled 0 ended
  | release =>
      cases same
      exact ⟨ended, rfl⟩

end Ends

end WalkerCall

structure OnTrack (elements : Elements) (walk : Walk α) : Prop where
  standing : Standing elements walk.store
  inside : walk.tell ≤ walk.size

def EndsOnTrack (elements : Elements) (result : EStateM.Result Fault (Walk α) Unit) : Prop :=
  Ended (fun _ after => OnTrack elements after)
    (fun fault after => (∃ status, fault = .status status) ∧ OnTrack elements after) result

namespace WalkerCall

section Conditions

variable (environment : Environment α) (walk : Walk α)

/-- `init` empties the vector first: if it fails, the cursor stays where it was. -/
def Survives (rhs : Vector) : Prop :=
  walk.tell = 0 ∨
    rhs.m_dataSize ≤ walk.walker.m_vector.m_allocatedSize ∧
      Unrefused environment walk.memory

def Given : WalkerCall α → Prop
  | init rhs => rhs.m_offset ≤ rhs.m_vector.m_dataSize ∧ Survives environment walk rhs.m_vector
  | initMove rhs => rhs.m_offset ≤ rhs.m_vector.m_dataSize
  | initVector rhs => Survives environment walk rhs
  | read p n => (VectorCall.copyN walk.tell n p).Allowed environment walk.store
  | readArithmeticValue sizeofValue =>
      sizeofValue + walk.tell < environment.elements.sizeRange
  | _ => True

/-- When a call keeps the walker as it should be. -/
structure Allowed (call : WalkerCall α) : Prop where
  vector : ∀ made, call.vectorCall environment walk = some made →
    made.Allowed environment walk.store
  given : call.Given environment walk

end Conditions

section Cursors

variable {environment : Environment α} {walk after : Walk α} {call : WalkerCall α}
  {made : VectorCall α} {first second : Nat}

theorem difference_le (order : second ≤ first) :
    difference environment.elements first second ≤ first - second := by
  unfold difference
  rw [Nat.sub_add_comm order, Nat.add_mod_right]
  exact Nat.mod_le _ _

theorem place_le : place environment walk first ≤ walk.size := Nat.min_le_right _ _

theorem place_le_sub (order : walk.walker.m_vector.m_p ≤ first) :
    place environment walk first ≤ first - walk.walker.m_vector.m_p :=
  Nat.le_trans (Nat.min_le_left _ _) (difference_le order)

theorem cursor_le (inside : walk.tell ≤ walk.size) (given : call.Given environment walk)
    (same : call.vectorCall environment walk = some made)
    (sized : made.Sized walk.store after.size) :
    call.cursor environment walk after ≤ after.size := by
  have grown {n position : Nat} (before : position ≤ walk.size)
      (size : after.size = walk.size + n) :
      (position + difference environment.elements after.size walk.size) %
        environment.elements.sizeRange ≤ after.size := by
    have less : difference environment.elements after.size walk.size ≤
        after.size - walk.size := difference_le (by omega)
    have wraps := Nat.mod_le (position + difference environment.elements after.size walk.size)
      environment.elements.sizeRange
    omega
  have replaced {n offset : Nat} (size : after.size = max walk.size (offset + n)) :
      (min offset walk.size + n) % environment.elements.sizeRange ≤ after.size := by
    have wraps := Nat.mod_le (min offset walk.size + n) environment.elements.sizeRange
    omega
  cases call with
  | init rhs =>
      cases same
      exact Nat.le_trans given.1 (Nat.le_of_eq sized.symm)
  | initMove rhs =>
      cases same
      exact Nat.le_trans given (Nat.le_of_eq sized.symm)
  | initVector rhs | initVectorMove rhs | clear | invalidate | release => exact Nat.zero_le _
  | setSize n | pushBack value | pushBackMove value | pushBackN p n
  | pushBackArithmeticValue value => exact Nat.le_refl _
  | reserve n =>
      cases same
      exact Nat.le_trans inside (Nat.le_of_eq sized.symm)
  | reserveFromCurrentOffset n =>
      simp only [vectorCall] at same
      split at same
      · cases same
      · cases same
        exact Nat.le_trans inside (Nat.le_of_eq sized.symm)
  | replace p n offset | write p n =>
      cases same
      exact replaced sized
  | insert p n offset =>
      cases same
      exact grown (Nat.min_le_right _ _) sized
  | insertRange sources destBegin =>
      cases same
      exact grown place_le sized
  | erase offset n =>
      cases same
      have size : after.size = walk.size - min n (walk.size - offset) := sized
      show min offset walk.size ≤ after.size
      omega
  | eraseRange destBegin destEnd =>
      cases same
      exact Nat.le_trans (place_le_sub sized.1) sized.2.1
  | read p n | readArithmeticValue sizeofValue | subscript offset | seek offset => cases same

theorem cursorFailed_le (inside : walk.tell ≤ walk.size)
    (same : call.vectorCall environment walk = some made)
    (emptied : ∀ rhs, made = .init rhs → walk.tell = 0)
    (sized : made.SizedFailed walk.store after.size) :
    call.cursorFailed environment walk after ≤ after.size := by
  have stays (size : after.size = walk.size) {position : Nat} (before : position ≤ walk.size) :
      position ≤ after.size := Nat.le_trans before (Nat.le_of_eq size.symm)
  cases call with
  | init rhs | initVector rhs =>
      cases same
      exact Nat.le_trans (Nat.le_of_eq (emptied _ rfl)) (Nat.zero_le _)
  | setSize n | pushBack value | pushBackMove value | pushBackN p n
  | pushBackArithmeticValue value => exact Nat.le_refl _
  | initMove rhs | initVectorMove rhs | reserve n | clear | invalidate =>
      cases same
      exact stays sized inside
  | reserveFromCurrentOffset n =>
      simp only [vectorCall] at same
      split at same
      · cases same
      · cases same
        exact stays sized inside
  | replace p n offset | insert p n offset | erase offset n | write p n =>
      cases same
      exact stays sized (Nat.min_le_right _ _)
  | insertRange sources destBegin =>
      cases same
      cases sized with
      | inl size => exact stays size place_le
      | inr bounds => exact Nat.le_trans (place_le_sub bounds.1) bounds.2
  | eraseRange destBegin destEnd =>
      cases same
      exact stays sized place_le
  | release => exact Nat.zero_le _
  | read p n | readArithmeticValue sizeofValue | subscript offset | seek offset => cases same

end Cursors

section Calls

variable {environment : Environment α} {walk : Walk α} {store : Store α} {call : WalkerCall α}
  {memory : Memory α}

/-- Without another block, and without a construction that is refused, `init` does not
fail. -/
theorem init_noStatus {rhs : Vector} (standing : Standing environment.elements store)
    (enough : rhs.m_dataSize ≤ store.vector.m_allocatedSize)
    (unrefused : Unrefused environment store.memory) :
    NoStatus (Vector.init environment rhs store) := by
  obtain ⟨cleared, ran, same⟩ := Vector.clear_kept environment standing
  have accepted : Accepted environment cleared rhs.m_dataSize :=
    (unrefused.later same.constructions).accepted _
  have copied : NoStatus (copyToRawNoOverlap environment store.vector.m_p rhs.m_p
      rhs.m_dataSize cleared) := by
    unfold copyToRawNoOverlap transferToRawNoOverlap
    cases constructors : environment.elements.constructorAllocator with
    | true => exact (transferUpward_makes .copy _ (accepted constructors)).noStatus
    | false => exact memcpy_noStatus _
  let between : Store α := ⟨cleared, ⟨store.vector.m_p, 0, store.vector.m_allocatedSize,
    store.vector.m_AllocationManager.assign rhs.m_AllocationManager⟩⟩
  have ended : NoStatus (Vector.onMemory (copyToRawNoOverlap environment store.vector.m_p
      rhs.m_p rhs.m_dataSize) between) :=
    Ended.onPart copied (fun _ _ _ => trivial) fun _ _ other => other
  unfold Vector.init
  rw [bind_of_ok ran, bind_of_ok (modify_apply _ _), bind_of_ok (get_apply _),
    onlyIf_neg (Nat.not_lt.mpr enough)]
  show NoStatus ((Vector.onMemory _ >>= fun _ => Vector.setDataSize rhs.m_dataSize) between)
  exact Ended.bind ended fun _ _ _ => trivial

theorem load_ended {p n : Nat} (mapped : Mapped memory.slots p n) :
    ∃ after, Walker.load p n memory = .ok (stretch memory.slots p n) after ∧
      after.slots = memory.slots ∧ SameStorage memory after := by
  induction n generalizing p memory with
  | zero => exact ⟨memory, rfl, rfl, SameStorage.refl memory⟩
  | succ n hypothesis =>
      have first := mapped 0 (Nat.succ_pos n)
      rw [Nat.add_zero] at first
      obtain ⟨after, ran, slots, same⟩ : ∃ after,
          Walker.load (p + 1) n (memory.note .read p) =
            .ok (stretch memory.slots (p + 1) n) after ∧
          after.slots = memory.slots ∧ SameStorage (memory.note .read p) after := by
        apply hypothesis
        intro index inside
        rw [Nat.add_assoc, Nat.add_comm 1]
        exact mapped (index + 1) (Nat.succ_lt_succ inside)
      have reached : access p memory = .ok () memory := by
        unfold access
        rw [bind_of_ok (get_apply memory), if_pos first]
        rfl
      refine ⟨after, ?_, slots, same.mapped, same.blocks, same.requests, same.ungranted,
        same.denied, same.constructions⟩
      unfold Walker.load
      rw [bind_of_ok reached, bind_of_ok (get_apply memory), bind_of_ok (set_apply _ _),
        bind_of_ok ran]
      have split : stretch memory.slots p (1 + n) =
          stretch memory.slots p 1 ++ stretch memory.slots (p + 1) n := stretch_add
      rw [Nat.add_comm n 1, split]
      rfl

theorem read_ended {p n : Nat} {good : Nat → Store α → Prop} {bad : Fault → Store α → Prop}
    (ended : Ended good bad (Vector.copyN environment walk.tell n p walk.store)) :
    Ended (fun nReal after => ∃ pNew, good pNew after.store ∧ nReal = pNew - p ∧
        after.tell = (walk.tell + nReal) % environment.elements.sizeRange)
      (fun fault after => bad fault after.store ∧ after.tell = walk.tell)
      (Walker.read environment p n walk) := by
  unfold Walker.read
  rw [bind_of_ok (get_apply walk)]
  apply Ended.bind (onVector_ended ended)
  intro pNew middle reached
  refine ⟨pNew, reached.1, rfl, ?_⟩
  rw [← reached.2]
  rfl

theorem readArithmeticValue_run (standing : Standing environment.elements walk.store)
    {sizeofValue : Nat}
    (inRange : sizeofValue + walk.tell < environment.elements.sizeRange) :
    (sizeofValue + walk.tell ≤ walk.size → ∃ after,
      Walker.readArithmeticValue environment sizeofValue walk =
        .ok (stretch walk.memory.slots (walk.walker.m_vector.m_p + walk.tell) sizeofValue)
          ⟨after, ⟨walk.walker.m_vector, walk.tell + sizeofValue⟩⟩ ∧
      after.slots = walk.memory.slots ∧ SameStorage walk.memory after) ∧
    (walk.size < sizeofValue + walk.tell →
      Walker.readArithmeticValue environment sizeofValue walk =
        .error (.status .errorOverflow) walk) := by
  unfold Walker.readArithmeticValue
  rw [bind_of_ok (get_apply walk), Nat.mod_eq_of_lt inRange]
  constructor
  · intro present
    have mapped : Mapped walk.memory.slots (walk.walker.m_vector.m_p + walk.tell)
        sizeofValue := by
      intro index inside
      rw [Nat.add_assoc]
      have element : walk.tell + index < walk.walker.m_vector.m_dataSize :=
        Nat.lt_of_lt_of_le (show walk.tell + index < sizeofValue + walk.tell by omega) present
      exact standing.elementsMapped _ element
    obtain ⟨after, ran, slots, same⟩ := load_ended mapped
    refine ⟨after, ?_, slots, same⟩
    have ranOn : Walker.onVector (Vector.onMemory (Walker.load
        (walk.walker.m_vector.m_p + walk.tell) sizeofValue)) walk =
          .ok (stretch walk.memory.slots (walk.walker.m_vector.m_p + walk.tell) sizeofValue)
            ⟨after, walk.walker⟩ := onPart_of_ok (onPart_of_ok ran)
    have position : (walk.tell + sizeofValue) % environment.elements.sizeRange =
        walk.tell + sizeofValue := Nat.mod_eq_of_lt (by omega)
    rw [if_pos present, bind_of_ok ranOn]
    show EStateM.Result.ok _ (⟨after, ⟨_, (walk.tell + sizeofValue) % _⟩⟩ : Walk α) = _
    rw [position]
  · intro short
    rw [if_neg (Nat.not_le.mpr short)]
    rfl

theorem read_onTrack (onTrack : OnTrack environment.elements walk) {p n : Nat}
    (allowed : (VectorCall.copyN walk.tell n p).Allowed environment walk.store) :
    EndsOnTrack environment.elements ((read p n).run environment walk) := by
  apply Ended.bind ((read_ended (Vector.copyN_kept onTrack.standing allowed)).weaken
    (fun _ _ holds => holds) _)
  · intro nReal after reached
    obtain ⟨pNew, ⟨still, _, same⟩, isReal, position⟩ := reached
    have size : after.size = walk.size := congrArg Vector.m_dataSize still.vector
    have real : nReal = min n (walk.size - walk.tell) := by
      rw [isReal, same, Nat.add_sub_cancel_left]
      rfl
    have wraps := Nat.mod_le (walk.tell + nReal) environment.elements.sizeRange
    have inside := onTrack.inside
    refine ⟨(still.kept onTrack.standing).standing, ?_⟩
    rw [position, size]
    omega
  · intro fault after failed
    obtain ⟨⟨status, still⟩, position⟩ := failed
    refine ⟨status, (still.kept onTrack.standing).standing, ?_⟩
    rw [position, show after.size = walk.size from congrArg Vector.m_dataSize still.vector]
    exact onTrack.inside

theorem look_onTrack (onTrack : OnTrack environment.elements walk)
    (given : call.Given environment walk)
    (same : call.vectorCall environment walk = none) :
    EndsOnTrack environment.elements (call.run environment walk) := by
  have positioned (offset : Nat) : OnTrack environment.elements
      ⟨walk.memory, ⟨walk.walker.m_vector, min offset walk.size⟩⟩ :=
    ⟨onTrack.standing, Nat.min_le_right _ _⟩
  cases call with
  | reserveFromCurrentOffset n =>
      simp only [vectorCall] at same
      split at same
      · rename_i wraps
        simp only [run]
        unfold Walker.reserveFromCurrentOffset
        rw [bind_of_ok (get_apply walk), if_pos wraps]
        exact ⟨⟨_, rfl⟩, onTrack⟩
      · cases same
  | read p n => exact read_onTrack onTrack given
  | readArithmeticValue sizeofValue =>
      simp only [run]
      obtain ⟨present, short⟩ := readArithmeticValue_run onTrack.standing given
      obtain fits | past := Nat.lt_or_ge walk.size (sizeofValue + walk.tell)
      · rw [bind_of_error (short fits)]
        exact ⟨⟨_, rfl⟩, onTrack⟩
      · obtain ⟨after, ran, _, storage⟩ := present past
        rw [bind_of_ok ran]
        refine ⟨(Kept.sameStorage onTrack.standing storage
          onTrack.standing.fits.size).standing, ?_⟩
        show walk.tell + sizeofValue ≤ walk.size
        omega
  | subscript offset =>
      simp only [run]
      unfold Walker.subscript
      rw [bind_assoc, bind_of_ok (setValidOffset_apply offset)]
      exact positioned offset
  | seek offset =>
      simp only [run]
      unfold Walker.seek
      rw [bind_of_ok (setValidOffset_apply offset), bind_of_ok (get_apply _)]
      split
      · exact positioned offset
      · exact ⟨⟨_, rfl⟩, positioned offset⟩
  | _ => cases same

/-- If `init` fails, the cursor has been at the beginning. -/
theorem survives_ended (onTrack : OnTrack environment.elements walk) {rhs : Vector}
    (survives : Survives environment walk rhs) :
    Ended (fun _ _ => True)
      (fun fault _ => (∃ status, fault = .status status) → walk.tell = 0)
      ((VectorCall.init rhs).run environment walk.store) := by
  obtain first | ⟨enough, unrefused⟩ := survives
  · cases (VectorCall.init rhs).run environment walk.store with
    | ok value after => trivial
    | error fault after => exact fun _ => first
  · apply (init_noStatus onTrack.standing enough unrefused).weaken
    · exact fun _ _ holds => holds
    · intro fault _ other failed
      obtain ⟨status, same⟩ := failed
      exact absurd same (other status)

theorem made_ended (onTrack : OnTrack environment.elements walk)
    (allowed : call.Allowed environment walk) {made : VectorCall α}
    (same : call.vectorCall environment walk = some made) :
    Ended (fun _ after => Standing environment.elements after ∧
        made.Sized walk.store after.vector.m_dataSize)
      (fun fault after => (∃ status, fault = .status status) ∧
        Standing environment.elements after ∧
        made.SizedFailed walk.store after.vector.m_dataSize ∧
        ∀ rhs, made = .init rhs → walk.tell = 0)
      (made.run environment walk.store) := by
  have sized := made.run_sized onTrack.standing (allowed.vector made same)
  have emptied : Ended (fun _ _ => True) (fun fault _ => (∃ status, fault = .status status) →
      ∀ rhs, made = .init rhs → walk.tell = 0) (made.run environment walk.store) := by
    by_cases isInit : ∃ rhs, made = .init rhs
    · obtain ⟨rhs, isInit⟩ := isInit
      have survives : Survives environment walk rhs := by
        have given := allowed.given
        rw [isInit] at same
        cases call with
        | init rhs =>
            cases same
            exact given.2
        | initVector rhs =>
            cases same
            exact given
        | reserveFromCurrentOffset n =>
            simp only [vectorCall] at same
            split at same <;> cases same
        | _ => cases same
      rw [isInit]
      apply (survives_ended onTrack survives).weaken
      · exact fun _ _ holds => holds
      · exact fun _ _ first failed _ _ => first failed
    · cases made.run environment walk.store with
      | ok value after => trivial
      | error fault after => exact fun _ rhs is => absurd ⟨rhs, is⟩ isInit
  apply (Ended.both sized emptied).weaken
  · exact fun _ _ both => both.1
  · exact fun _ _ both => ⟨both.1.1, both.1.2.1, both.1.2.2, both.2 both.1.1⟩

theorem run_onTrack (onTrack : OnTrack environment.elements walk)
    (allowed : call.Allowed environment walk) :
    EndsOnTrack environment.elements (call.run environment walk) := by
  cases same : call.vectorCall environment walk with
  | none => exact look_onTrack onTrack allowed.given same
  | some made =>
      let good := fun after : Store α => Standing environment.elements after ∧
        made.Sized walk.store after.vector.m_dataSize
      have ended : Ended (fun _ => good) _ (made.run environment walk.store) :=
        made_ended onTrack allowed same
      apply (run_ended same ended fun _ _ failed => failed.1).weaken
      · intro _ after reached
        obtain ⟨⟨standing, sized⟩, position⟩ := reached
        refine ⟨standing, ?_⟩
        rw [position]
        exact cursor_le onTrack.inside allowed.given same sized
      · intro fault after reached
        obtain ⟨⟨status, standing, sized, emptied⟩, position⟩ := reached
        refine ⟨status, standing, ?_⟩
        rw [position]
        exact cursorFailed_le onTrack.inside same emptied sized

end Calls

end WalkerCall

end CommonSerialization.Containers
