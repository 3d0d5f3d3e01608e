import CommonSerialization.Containers.ListRuns

namespace CommonSerialization.Containers

open StateExcept Storage Transitions

/-! Objects of a vector, from where they are made to where they are destroyed. -/

/-- Of all slots in the block exactly those of the elements hold objects. -/
structure Living (elements : Elements) (store : Store α) : Prop where
  inBlock : store.vector.m_dataSize ≠ 0 →
    ∃ bytes, store.memory.blocks store.vector.m_p = some bytes ∧
      store.vector.m_dataSize ≤ elements.room bytes
  exactly : ∀ {bytes}, store.memory.blocks store.vector.m_p = some bytes →
    ∀ index < elements.room bytes,
      (store.memory.slots (store.vector.m_p + index)).holds =
        decide (index < store.vector.m_dataSize)

/-- Whether a call returns a value or a status, exactly the elements are objects then, and
it has made objects where none were, used and destroyed them where they were, and freed no
block with one. -/
def EndsLiving (elements : Elements) (store : Store α)
    (result : EStateM.Result Fault (Store α) Unit) : Prop :=
  let living := fun after : Store α => Living elements after ∧
    Grown (fun event => event.proper) store.memory.log after.memory.log
  Ended (fun _ after => living after)
    (fun fault after => (∃ status, fault = .status status) ∧ living after) result

/-- A call that is orderly and tidy. -/
def VectorAction.Careful (environment : Environment α) (store : Store α) :
    VectorAction α → Prop
  | call made => made.Orderly environment store ∧ made.Tidy environment store
  | outside => True

inductive ElementStep (environment : Environment α) :
    Store α → VectorAction α → Store α → Prop
  | call {store : Store α} (call : VectorCall α) :
      ElementStep environment store (.call call) (final (call.run environment store))
  | outside {store : Store α} {memory : Memory α}
      (changed : Meanwhile environment.elements store memory) :
      ElementStep environment store .outside ⟨memory, store.vector⟩

section Lifetimes

variable {environment : Environment α} {store next : Store α} {memory : Memory α}
  {manager : AllocationManager} {action : VectorAction α} {call : VectorCall α}

theorem Whole.living (whole : Whole environment.elements store)
    (constructors : environment.elements.constructorAllocator = true) :
    Living environment.elements store where
  inBlock := by
    intro some
    have size := whole.standing.fits.size
    obtain ⟨_, none⟩ | ⟨_, bytes, held, room⟩ := whole.standing.fits.block
    · omega
    · exact ⟨bytes, held, Nat.le_trans size
        ((Nat.le_div_iff_mul_le environment.elements.size_pos).mpr room)⟩
  exactly := by
    intro bytes held index inside
    obtain element | past := Nat.lt_or_ge index store.vector.m_dataSize
    · rw [decide_eq_true element]
      exact whole.filled.objects constructors index element
    · rw [decide_eq_false (Nat.not_lt.mpr past)]
      exact whole.filled.spare constructors held index inside past

theorem Follows.living {tidy : Prop} {change : Sequences.Action (Slot α)}
    (follows : Follows environment.elements store tidy change next)
    (constructors : environment.elements.constructorAllocator = true) (clean : tidy) :
    Living environment.elements next ∧
      Grown (fun event => event.proper) store.memory.log next.memory.log :=
  ⟨follows.whole.living constructors, follows.events clean⟩

theorem VectorCall.run_living (whole : Whole environment.elements store)
    (constructors : environment.elements.constructorAllocator = true)
    (unrefused : Unrefused environment store.memory)
    (orderly : call.Orderly environment store) (tidy : call.Tidy environment store) :
    EndsLiving environment.elements store (call.run environment store) := by
  apply (call.run_follows whole unrefused orderly).weaken
  · intro _ after follows
    exact follows.living constructors tidy
  · intro fault after failed
    exact ⟨failed.1, failed.2.living constructors tidy⟩

theorem ElementStep.whole (accepted : ∀ index, environment.refusal index = none)
    (whole : Whole environment.elements store)
    (careful : action.Careful environment store)
    (stepped : ElementStep environment store action next) :
    Whole environment.elements next := by
  cases stepped with
  | call call =>
      have ended := call.run_follows whole (fun _ index _ => accepted index) careful.1
      cases ran : call.run environment store with
      | ok value after =>
          rw [ran] at ended
          exact ended.whole
      | error fault after =>
          rw [ran] at ended
          exact ended.2.whole
  | outside changed => exact (changed.follows whole).1

/-- In every run of careful calls from an empty vector, with others at work between them,
exactly the elements are objects, and no further careful call makes an object where one
is, or uses or destroys one where none is, or loses one. -/
theorem vector_lifetimes (constructors : environment.elements.constructorAllocator = true)
    (accepted : ∀ index, environment.refusal index = none)
    (sound : Sound environment.elements memory)
    (provided : Provided environment.elements memory manager)
    (reached : Reaches (ElementStep environment)
      (fun store action => action.Careful environment store)
      ⟨memory, Vector.empty manager⟩ store) :
    Living environment.elements store ∧
      ∀ call : VectorCall α, (VectorAction.call call).Careful environment store →
        EndsLiving environment.elements store (call.run environment store) := by
  have whole : Whole environment.elements store :=
    reached.invariant (whole_empty sound provided) (ElementStep.whole accepted)
  refine ⟨whole.living constructors, fun call careful => ?_⟩
  exact call.run_living whole constructors (fun _ index _ => accepted index) careful.1
    careful.2

end Lifetimes

section Records

private theorem record_size : 0 < 16 := Nat.succ_pos 15

private def records : Elements := ⟨⟨false, false⟩, 16, record_size, true⟩

private def recordHeap : Environment Nat :=
  Environment.exact records (fun memory => 1000 * (memory.requests + 1)) id fun _ => none

private def noRecords : Store Nat :=
  ⟨.empty, Vector.empty (.strategic .heap .doubleOfDataSize)⟩

private theorem emplace_careful (value : Nat) {store : Store Nat}
    (few : store.vector.m_dataSize < 3)
    (manager : store.vector.m_AllocationManager = .strategic .heap .doubleOfDataSize) :
    (VectorAction.call (.emplaceBack (some value))).Careful recordHeap store := by
  refine ⟨⟨?_, fun _ => rfl⟩, trivial⟩
  intro _ _
  rw [manager]
  show (store.vector.m_dataSize + 1) * 2 * 16 < 2 ^ 64
  omega

private def oneRecord : Store Nat :=
  final ((VectorCall.emplaceBack (some 7)).run recordHeap noRecords)

private def otherRecords : Store Nat :=
  { oneRecord with
    memory.slots := fun address =>
      if Within 500 2 address then .object (address - 490)
      else oneRecord.memory.slots address }

private def threeRecords : Store Nat :=
  final ((VectorCall.insertRange [500, 501] 1000).run recordHeap otherRecords)

private def twoRecords : Store Nat :=
  final ((VectorCall.erase 2 1).run recordHeap threeRecords)

private theorem otherRecords_others (store : Store Nat) (address : Nat)
    (sameVector : store.vector.m_p = 1000 ∧ store.vector.m_AllocationManager.allocator = .heap)
    (own : store.own records address) : ¬Within 500 2 address := by
  obtain ⟨_, _, _, lower, _⟩ | ⟨_, _, keeper, _⟩ := own
  · rw [sameVector.1] at lower
    unfold Within
    omega
  · rw [sameVector.2] at keeper
    cases keeper

private theorem otherRecords_meanwhile :
    Meanwhile records oneRecord otherRecords.memory where
  outside := by
    refine ⟨Sound.single (show otherRecords.memory.blocks = _ from rfl) (by decide) ?_, rfl,
      trivial⟩
    unfold Mapped
    decide +kernel
  slots := by
    intro address own
    exact if_neg (otherRecords_others oneRecord address ⟨rfl, rfl⟩ own)

private theorem insert_careful :
    (VectorAction.call (.insertRange [500, 501] 1000)).Careful recordHeap otherRecords := by
  refine ⟨fun _ _ => ⟨?_, ⟨fun _ => ?_, fun _ _ => ?_⟩, fun _ => .inl (by decide)⟩, trivial⟩
  · intro src member
    have here : Within 500 2 src := by
      simp only [List.mem_cons, List.not_mem_nil, or_false] at member
      unfold Within
      omega
    have object : otherRecords.memory.slots (src + 0) = .object (src - 490) := if_pos here
    refine ⟨?_, ?_, fun _ => ?_, show 1 * 16 < 2 ^ 64 by decide⟩
    · intro index only
      rw [Nat.lt_one_iff.mp only, object]
      rfl
    · intro index only own
      rw [Nat.lt_one_iff.mp only] at own
      exact otherRecords_others otherRecords src ⟨rfl, rfl⟩ own here
    · intro index only
      rw [Nat.lt_one_iff.mp only, object]
      rfl
  · show 3 * 2 * 16 < 2 ^ 64
    decide
  · show 1 * 2 * 16 < 2 ^ 64
    decide

theorem vector_lifetimes_inserted :
    Reaches (ElementStep recordHeap)
        (fun store action => action.Careful recordHeap store) noRecords twoRecords ∧
      twoRecords.contents = [.object 10, .object 11] ∧ Living records twoRecords := by
  have provided : Provided records (.empty : Memory Nat)
      (.strategic .heap .doubleOfDataSize) := trivial
  have reached : Reaches (ElementStep recordHeap)
      (fun store action => action.Careful recordHeap store) noRecords twoRecords := by
    have first : Reaches _ _ noRecords oneRecord :=
      Reaches.start.next (emplace_careful 7 (by decide) rfl) (ElementStep.call _)
    have others : ElementStep recordHeap oneRecord .outside otherRecords :=
      .outside otherRecords_meanwhile
    have always : VectorAction.outside.Careful recordHeap oneRecord := trivial
    have second : Reaches _ _ noRecords otherRecords := first.next always others
    have third : Reaches _ _ noRecords threeRecords :=
      second.next insert_careful (ElementStep.call _)
    have erases : (VectorAction.call (.erase 2 1)).Careful recordHeap threeRecords :=
      ⟨⟨by decide, fun _ _ => by decide +kernel⟩, trivial⟩
    exact third.next erases (ElementStep.call _)
  exact ⟨reached, by decide +kernel,
    (vector_lifetimes rfl (fun _ => rfl) Sound.empty provided reached).1⟩

/-- The first of three elements is erased: the second is counted, but destroyed. -/
theorem counted_but_destroyed :
    ∃ store after : Store Nat,
      Reaches (ElementStep recordHeap) (fun _ _ => True) noRecords store ∧
      (VectorCall.erase 0 1).run recordHeap store = .ok () after ∧
      store.contents = [.object 1, .object 2, .object 3] ∧
      after.contents = [.object 2, .vacant] ∧
      ¬EndsLiving records store ((VectorCall.erase 0 1).run recordHeap store) := by
  have first : Reaches (ElementStep recordHeap) (fun _ _ => True) noRecords _ :=
    Reaches.start.next trivial (.call (.emplaceBack (some 1)))
  have second : Reaches (ElementStep recordHeap) (fun _ _ => True) noRecords _ :=
    first.next trivial (.call (.emplaceBack (some 2)))
  have third : Reaches (ElementStep recordHeap) (fun _ _ => True) noRecords _ :=
    second.next trivial (.call (.emplaceBack (some 3)))
  refine ⟨_, _, third, rfl, by decide, by decide, ?_⟩
  intro ended
  have living : Living records _ := ended.1
  have held := living.exactly (show _ = some 96 by decide) 1 (by decide)
  exact absurd held (by decide)

end Records

end CommonSerialization.Containers
