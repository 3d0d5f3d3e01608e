import CommonSerialization.Containers.RangesKept
import CommonSerialization.Library.Transitions

namespace CommonSerialization.Containers

open StateExcept Storage Transitions

/-! Runs of one vector, among whatever else uses the memory. -/

inductive VectorCall (α : Type)
  | init (rhs : Vector)
  | initMove (rhs : Vector)
  | setSize (n : Nat)
  | reserve (n : Nat)
  | pushBack (value : Nat)
  | pushBackMove (value : Nat)
  | pushBackN (p n : Nat)
  | pushBackArithmeticValue (value : List α)
  | emplaceBack (value : Option α)
  | replace (p n offset : Nat)
  | insert (p n offset : Nat)
  | insertRange (sources : List Nat) (destBegin : Nat)
  | erase (offset n : Nat)
  | eraseRange (destBegin destEnd : Nat)
  | copyN (offset n p : Nat)
  | clear
  | invalidate
  | release

def ignore (proc : VProc α β) : VProc α Unit := do
  let _ ← proc
  return ()

def takeFrom (environment : Environment α) (rhs : Vector) : VProc α Unit := fun store =>
  match Vector.initMove environment ⟨store.memory, store.vector, rhs⟩ with
  | .ok _ after => .ok () ⟨after.memory, after.vector⟩
  | .error fault after => .error fault ⟨after.memory, after.vector⟩

namespace VectorCall

variable (environment : Environment α)

/-- The loop over a range makes at most two turns for every element. -/
def run : VectorCall α → VProc α Unit
  | init rhs => Vector.init environment rhs
  | initMove rhs => takeFrom environment rhs
  | setSize n => Vector.setSize environment n
  | reserve n => Vector.reserve environment n
  | pushBack value => Vector.pushBack environment value
  | pushBackMove value => Vector.pushBackMove environment value
  | pushBackN p n => Vector.pushBackN environment p n
  | pushBackArithmeticValue value => Vector.pushBackArithmeticValue environment value
  | emplaceBack value => Vector.emplaceBack environment value
  | replace p n offset => ignore (Vector.replace environment p n offset)
  | insert p n offset => ignore (Vector.insert environment p n offset)
  | insertRange sources destBegin =>
      ignore (Vector.insertRange environment (2 * sources.length) sources destBegin)
  | erase offset n => Vector.erase environment offset n
  | eraseRange destBegin destEnd => Vector.eraseRange environment destBegin destEnd
  | copyN offset n p => ignore (Vector.copyN environment offset n p)
  | clear => Vector.clear environment
  | invalidate => Vector.invalidate environment
  | release => ignore Vector.release

end VectorCall

structure TakeAllowed (elements : Elements) (store : Store α) (rhs : Vector) : Prop where
  sameType : store.vector.m_AllocationManager.fresh = rhs.m_AllocationManager.fresh
  standing : Standing elements ⟨store.memory, rhs⟩
  apart : ¬store.vector.Owns rhs.m_p

/-- Both functions that erase close the gap with a transfer that does not stand overlap;
this matters for octets. -/
structure EraseAllowed (environment : Environment α) (store : Store α) (offset n : Nat) :
    Prop where
  inRange : n < environment.elements.sizeRange
  short : environment.elements.constructorAllocator = false →
    offset < store.vector.m_dataSize → n ≠ 0 →
    store.vector.m_dataSize - (offset + Vector.erasedN store offset n) ≤
      Vector.erasedN store offset n

/-- When a call keeps the vector as it should be. -/
def VectorCall.Allowed (environment : Environment α) (store : Store α) :
    VectorCall α → Prop
  | init rhs => Vector.InitAllowed environment store rhs
  | initMove rhs => TakeAllowed environment.elements store rhs
  | setSize n => Vector.GrowthAllowed environment store false n
  | reserve n => Vector.GrowthAllowed environment store true n
  | pushBack value =>
      store.vector.m_dataSize + 1 < environment.elements.sizeRange →
        Vector.PushAllowed environment store value
  | pushBackMove value =>
      store.vector.m_dataSize + 1 < environment.elements.sizeRange →
        Vector.AppendAllowed environment store value 1
  | pushBackN p n =>
      n < environment.elements.sizeRange ∧
        (¬(p = 0 ∧ n ≠ 0) →
          store.vector.m_dataSize + n < environment.elements.sizeRange →
          Vector.AppendAllowed environment store p n)
  | pushBackArithmeticValue value =>
      value.length < environment.elements.sizeRange ∧
        (store.vector.m_dataSize + value.length < environment.elements.sizeRange →
          Vector.GrowthAllowed environment store false
            (store.vector.m_dataSize + value.length))
  | emplaceBack _ =>
      store.vector.m_dataSize + 1 < environment.elements.sizeRange →
        Vector.GrowthAllowed environment store false (store.vector.m_dataSize + 1)
  | replace p n offset =>
      ¬(p = 0 ∧ n ≠ 0) → offset ≤ store.vector.m_dataSize →
        Vector.ReplaceAllowed environment store p n offset
  | insert p n offset =>
      n < environment.elements.sizeRange ∧
        (¬(p = 0 ∧ n ≠ 0) → offset ≤ store.vector.m_dataSize →
          store.vector.m_dataSize + n < environment.elements.sizeRange →
          Vector.InsertAllowed environment store p n offset)
  | insertRange sources destBegin =>
      store.vector.m_p ≤ destBegin →
        destBegin ≤ store.vector.m_p + store.vector.m_dataSize →
        Vector.RangeAllowed environment store (destBegin - store.vector.m_p) sources
  | erase offset n => EraseAllowed environment store offset n
  | eraseRange destBegin destEnd =>
      environment.elements.constructorAllocator = false → store.vector.m_p ≤ destBegin →
        destBegin < destEnd →
        store.vector.m_p + store.vector.m_dataSize - destEnd ≤ destEnd - destBegin
  | copyN offset n p =>
      ¬(p = 0 ∧ n ≠ 0) → offset < store.vector.m_dataSize →
        Vector.CopyAllowed environment store offset n p
  | clear => True
  | invalidate => True
  | release => True

def EndsStanding (elements : Elements) (result : EStateM.Result Fault (Store α) Unit) :
    Prop :=
  Ended (fun _ after => Standing elements after)
    (fun fault after => (∃ status, fault = .status status) ∧ Standing elements after) result

section Calls

variable {environment : Environment α} {store : Store α}

theorem Vector.EndsKept.standing {good bad : Nat → Prop}
    {result : EStateM.Result Fault (Store α) Unit}
    (ended : Vector.EndsKept environment.elements store good bad result) :
    EndsStanding environment.elements result := by
  apply ended.weaken
  · intro _ after kept
    exact kept.1.standing
  · intro fault after kept
    exact ⟨kept.1, kept.2.1.standing⟩

theorem endsStanding_ignore {proc : VProc α β} {good : β → Store α → Prop}
    {bad : Fault → Store α → Prop} (ended : Ended good bad (proc store))
    (kept : ∀ value after, good value after → Standing environment.elements after)
    (keptBad : ∀ fault after, bad fault after →
      (∃ status, fault = .status status) ∧ Standing environment.elements after) :
    EndsStanding environment.elements (ignore proc store) := by
  apply Ended.bind (ended.weaken kept keptBad)
  intro _ after standing
  exact standing

theorem takeFrom_standing (standing : Standing environment.elements store) {rhs : Vector}
    (allowed : TakeAllowed environment.elements store rhs) :
    EndsStanding environment.elements (takeFrom environment rhs store) := by
  obtain ⟨memory, ran, kept⟩ := Vector.destroyAndDeallocate_kept environment standing
  let pair : Pair α := ⟨store.memory, store.vector, rhs⟩
  have ranFirst : Pair.onMemory (store.vector.m_AllocationManager.destroyAndDeallocate
      environment store.vector.m_p store.vector.m_dataSize) pair =
        .ok () ⟨memory, store.vector, rhs⟩ := onPart_of_ok ran
  have whole : Vector.initMove environment pair =
      .ok () ⟨memory, rhs, Vector.empty rhs.m_AllocationManager.abandoned⟩ := by
    unfold Vector.initMove
    rw [bind_of_ok (get_apply pair), bind_of_ok ranFirst]
    rfl
  unfold takeFrom
  rw [whole]
  apply allowed.standing.beside kept allowed.apart
  intro other heap
  have sameType := congrArg AllocationManager.allocator allowed.sameType
  have freshHeap := (fresh_heap store.vector.m_AllocationManager).mpr heap
  rw [sameType] at freshHeap
  exact other ((fresh_heap rhs.m_AllocationManager).mp freshHeap)

theorem VectorCall.run_standing (standing : Standing environment.elements store)
    (call : VectorCall α) (allowed : call.Allowed environment store) :
    EndsStanding environment.elements (call.run environment store) := by
  have one := environment.elements.one_lt_sizeRange
  cases call with
  | init rhs => exact (Vector.init_kept standing allowed).standing
  | initMove rhs => exact takeFrom_standing standing allowed
  | setSize n => exact (Vector.setSize_kept standing allowed).standing
  | reserve n => exact (Vector.reserveInternal_kept standing true allowed).standing
  | pushBack value => exact (Vector.pushBack_kept standing one allowed).standing
  | pushBackMove value => exact (Vector.pushBackMove_kept standing one allowed).standing
  | pushBackN p n => exact (Vector.pushBackN_kept standing allowed.1 allowed.2).standing
  | pushBackArithmeticValue value =>
      exact (Vector.pushBackArithmeticValue_kept standing allowed.1 allowed.2).standing
  | emplaceBack value => exact (Vector.emplaceBack_kept standing one allowed value).standing
  | replace p n offset =>
      apply endsStanding_ignore (Vector.replace_kept standing allowed)
      · exact fun _ _ kept => kept.1.standing
      · exact fun _ _ kept => ⟨kept.1, kept.2.1.standing⟩
  | insert p n offset =>
      apply endsStanding_ignore (Vector.insert_kept standing allowed.1 allowed.2)
      · exact fun _ _ kept => kept.1.standing
      · exact fun _ _ kept => ⟨kept.1, kept.2.1.standing⟩
  | insertRange sources destBegin =>
      apply endsStanding_ignore
        (Vector.insertRange_kept standing allowed (Nat.le_refl (2 * sources.length)))
      · exact fun _ _ kept => kept.1.standing
      · exact fun _ _ kept => ⟨kept.1, kept.2.1.standing⟩
  | erase offset n =>
      exact (Vector.erase_kept standing allowed.inRange allowed.short).standing
  | eraseRange destBegin destEnd => exact (Vector.eraseRange_kept standing allowed).standing
  | copyN offset n p =>
      apply endsStanding_ignore (Vector.copyN_kept standing allowed)
      · exact fun _ _ still => (still.1.kept standing).standing
      · exact fun _ _ still => ⟨still.1, (still.2.kept standing).standing⟩
  | clear =>
      obtain ⟨after, ran, same⟩ := Vector.clear_kept environment standing
      show EndsStanding environment.elements (Vector.clear environment store)
      rw [ran]
      exact (Kept.sameStorage standing same (Nat.zero_le _)).standing
  | invalidate =>
      obtain ⟨after, ran, kept⟩ := Vector.invalidate_kept environment standing
      show EndsStanding environment.elements (Vector.invalidate environment store)
      rw [ran]
      exact kept.standing
  | release =>
      obtain ⟨after, ran, kept, _⟩ := Vector.release_kept environment standing
      show EndsStanding environment.elements (ignore Vector.release store)
      unfold ignore
      rw [bind_of_ok ran]
      exact kept.standing

end Calls

/-- What others do meanwhile: anything that leaves the vector's block, and what its
manager hands out, to it. -/
structure Outside (elements : Elements) (store : Store α) (memory : Memory α) : Prop where
  sound : Sound elements memory
  block : memory.blocks store.vector.m_p = store.memory.blocks store.vector.m_p
  provided : Provided elements memory store.vector.m_AllocationManager

inductive VectorAction (α : Type)
  | call (call : VectorCall α)
  | outside

def VectorAction.Allowed (environment : Environment α) (store : Store α) :
    VectorAction α → Prop
  | call made => made.Allowed environment store
  | outside => True

/-- A call takes the vector to where it ends, with a value or a status. -/
inductive VectorStep (environment : Environment α) :
    Store α → VectorAction α → Store α → Prop
  | call {store : Store α} (call : VectorCall α) :
      VectorStep environment store (.call call) (final (call.run environment store))
  | outside {store : Store α} {memory : Memory α}
      (changed : Outside environment.elements store memory) :
      VectorStep environment store .outside ⟨memory, store.vector⟩

section Runs

variable {environment : Environment α} {start store next : Store α} {action : VectorAction α}

theorem VectorStep.standing (standing : Standing environment.elements store)
    (allowed : action.Allowed environment store)
    (stepped : VectorStep environment store action next) :
    Standing environment.elements next := by
  cases stepped with
  | call call =>
      have ended := call.run_standing standing allowed
      cases ran : call.run environment store with
      | ok value after =>
          rw [ran] at ended
          exact ended
      | error fault after =>
          rw [ran] at ended
          exact ended.2
  | outside changed =>
      refine ⟨changed.sound, ⟨standing.fits.size, ?_⟩, changed.provided, standing.small⟩
      obtain none | ⟨nonnull, bytes, held, room⟩ := standing.fits.block
      · exact .inl none
      · exact .inr ⟨nonnull, bytes, changed.block.trans held, room⟩

theorem standing_empty {memory : Memory α} {manager : AllocationManager}
    (sound : Sound environment.elements memory)
    (provided : Provided environment.elements memory manager) :
    Standing environment.elements ⟨memory, Vector.empty manager⟩ := by
  refine ⟨sound, ⟨Nat.le_refl 0, .inl ⟨rfl, rfl⟩⟩, provided, ?_⟩
  show 0 * environment.elements.size < environment.elements.sizeRange
  rw [Nat.zero_mul]
  exact environment.elements.sizeRange_pos

/-- In every run of calls that are allowed, the size is no more than the capacity, and
the capacity no more than the block has room for; every further call returns. -/
theorem vector_fits {memory : Memory α} {manager : AllocationManager}
    (sound : Sound environment.elements memory)
    (provided : Provided environment.elements memory manager)
    (reached : Reaches (VectorStep environment)
      (fun store action => action.Allowed environment store)
      ⟨memory, Vector.empty manager⟩ store) :
    Fits environment.elements store.memory store.vector ∧
      ∀ call : VectorCall α, call.Allowed environment store →
        EndsStanding environment.elements (call.run environment store) := by
  have standing : Standing environment.elements store :=
    reached.invariant (standing_empty sound provided) VectorStep.standing
  exact ⟨standing.fits, VectorCall.run_standing standing⟩

end Runs

section Refusals

private def handleElements : Elements := ⟨⟨false, false⟩, 8, by decide, true⟩

private def secondRefused : Environment Nat :=
  Environment.exact handleElements (fun memory => 1000 * (memory.requests + 1)) id fun index =>
    if index = 1 then some ⟨.errorNoMemory, by decide, none⟩ else none

private def noHandles : Store Nat :=
  ⟨.empty, Vector.empty (.strategic .heap .doubleOfDataSize)⟩

private def oneHandle : Store Nat :=
  final ((VectorCall.emplaceBack (some 7)).run secondRefused noHandles)

private def oneRefused : Store Nat :=
  final ((VectorCall.emplaceBack (some 8)).run secondRefused oneHandle)

private def amongOthers : Store Nat :=
  { oneRefused with
    memory.slots := fun address =>
      if Within 500 2 address then .object (address - 490)
      else oneRefused.memory.slots address }

private def threeHandles : Store Nat :=
  final ((VectorCall.insertRange [500, 501] 1000).run secondRefused amongOthers)

private theorem emplace_allowed (value : Nat) {store : Store Nat}
    (known : store = noHandles ∨ store.vector.m_dataSize < store.vector.m_allocatedSize) :
    (VectorAction.call (.emplaceBack (some value))).Allowed secondRefused store := by
  intro _ grows
  obtain same | room := known
  · rw [same]
    refine ⟨show 1 * 2 * 8 < 2 ^ 64 by decide, ?_⟩
    intro _ index bound
    exact absurd bound (Nat.not_lt_zero index)
  · exact absurd grows (Nat.not_lt.mpr room)

private theorem amongOthers_sound : Sound handleElements amongOthers.memory := by
  apply Sound.single (show amongOthers.memory.blocks = _ from rfl) (by decide)
  unfold Mapped
  decide +kernel

private theorem insert_allowed :
    (VectorAction.call (.insertRange [500, 501] 1000)).Allowed secondRefused amongOthers := by
  intro _ _
  refine ⟨by decide, ?_, ?_, fun _ => ?_, fun _ _ => ?_⟩
  · intro src member
    have here : Within 500 2 src := by
      simp only [List.mem_cons, List.not_mem_nil, or_false] at member
      unfold Within
      omega
    refine ⟨?_, ?_⟩
    · show (if Within 500 2 src then (.object (src - 490) : Slot Nat) else _).mapped = true
      rw [if_pos here]
      rfl
    · rintro ⟨_, bytes, _, lower, _⟩
      have base : 1000 ≤ src := lower
      unfold Within at here
      omega
  · intro _ index later
    have past : 2 ≤ index := later
    exact if_neg (by omega)
  · show 3 * 2 * 8 < 2 ^ 64
    decide
  · show 1 * 2 * 8 < 2 ^ 64
    decide

theorem vector_fits_inserted :
    Reaches (VectorStep secondRefused)
        (fun store action => action.Allowed secondRefused store) noHandles threeHandles ∧
      threeHandles.vector.m_dataSize = 3 ∧
      threeHandles.memory.slots threeHandles.vector.m_p = .object 10 ∧
      Fits handleElements threeHandles.memory threeHandles.vector := by
  have provided : Provided handleElements (.empty : Memory Nat)
      (.strategic .heap .doubleOfDataSize) := trivial
  have reached : Reaches (VectorStep secondRefused)
      (fun store action => action.Allowed secondRefused store) noHandles threeHandles := by
    have first : Reaches _ _ noHandles oneHandle :=
      Reaches.start.next (emplace_allowed 7 (.inl rfl)) (VectorStep.call _)
    have second : Reaches _ _ noHandles oneRefused :=
      first.next (emplace_allowed 8 (.inr (by decide))) (VectorStep.call _)
    have others : VectorStep secondRefused oneRefused .outside amongOthers :=
      .outside ⟨amongOthers_sound, rfl, trivial⟩
    have always : VectorAction.outside.Allowed secondRefused oneRefused := trivial
    have third : Reaches _ _ noHandles amongOthers := second.next always others
    exact third.next insert_allowed (VectorStep.call _)
  exact ⟨reached, by decide +kernel, by decide +kernel,
    (vector_fits Sound.empty provided reached).1⟩

/-- An element that cannot be moved to the new block: the new capacity is recorded, the
old block is kept. -/
theorem capacity_without_block :
    ∃ one ten, VectorStep secondRefused noHandles (.call (.emplaceBack (some 7))) one ∧
      VectorStep secondRefused one (.call (.reserve 10)) ten ∧
      ten.vector.m_allocatedSize = 10 ∧ ten.memory.blocks ten.vector.m_p = some 16 ∧
      ¬Fits handleElements ten.memory ten.vector := by
  refine ⟨_, _, .call (.emplaceBack (some 7)), .call (.reserve 10), by decide, by decide, ?_⟩
  intro fits
  obtain none | ⟨_, bytes, held, room⟩ := fits.block
  · exact absurd none.2 (by decide)
  · have block : _ = some 16 := held.symm.trans (by decide)
    cases block
    exact absurd room (by decide)

end Refusals

end CommonSerialization.Containers
