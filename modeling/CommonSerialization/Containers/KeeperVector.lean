import CommonSerialization.Containers.GenericPointerKeeper

namespace CommonSerialization

/-! The vector of keepers, which grows by moving them. -/

namespace GenericPointerKeeper

section Vector

inductive Room
  | doubled
  | requested
  | none
  deriving DecidableEq

def Room.allocatedSize (n : Nat) : Room → Option Nat
  | doubled => some (2 * n)
  | requested => some n
  | none => Option.none

def moveToRawNoOverlap (dest src : Nat) : Nat → Nat → KProc M Unit
  | 0, _ => return ()
  | n + 1, index => do
      constructByMove (.element dest index) (.element src index)
      moveToRawNoOverlap dest src n (index + 1)

def destroyN (block : Nat) : Nat → Nat → KProc M Unit
  | 0, _ => return ()
  | n + 1, index => do
      destruct (.element block index)
      destroyN block n (index + 1)

def reserveInternal (n : Nat) (room : Room) : KProc M Status := do
  let vector := (← get).vector
  if vector.m_allocatedSize < n then
    match room.allocatedSize n with
    | none => return .errorNoMemory
    | some allocatedSize =>
        let block := (← get).blocks + 1
        modify fun state => { state with blocks := block }
        moveToRawNoOverlap block vector.m_p vector.m_dataSize 0
        destroyN vector.m_p vector.m_dataSize 0
        modify fun state =>
          { state with vector := ⟨block, vector.m_dataSize, allocatedSize⟩ }
        return .noError
  else
    return .noError

def appendMoved (rhs : Place) : KProc M Status := do
  let vector := (← get).vector
  constructByMove (.element vector.m_p vector.m_dataSize) rhs
  modify fun state =>
    { state with vector := { vector with m_dataSize := vector.m_dataSize + 1 } }
  return .noError

def pushBack (rhs : Place) (room : Room) : KProc M Status := do
  let status ← reserveInternal ((← get).vector.m_dataSize + 1) room
  if statusSuccess status then
    appendMoved rhs
  else
    return status

def clear : KProc M Unit := do
  let vector := (← get).vector
  destroyN vector.m_p vector.m_dataSize 0
  modify fun state => { state with vector := { vector with m_dataSize := 0 } }

def invalidate : KProc M Unit := do
  clear
  modify fun state => { state with vector := ⟨0, 0, 0⟩ }

end Vector

/-- `ExtendedPointersProcessing<false>::allocateAndDefaultConstruct`, whose local
keeper is the object `name`. -/
def allocateAndDefaultConstruct (max_size : M → Nat) (name : Nat) (manager : M)
    (answer : Option Nat) (room : Room) : KProc M (Option Nat) := do
  store (.object name) (some .empty)
  let p ← allocateAndConstruct max_size (.object name) manager 1 answer
  match p with
  | none =>
      destruct (.object name)
      return none
  | some p =>
      let status ← pushBack (.object name) room
      destruct (.object name)
      return if statusSuccess status then some p else none

end GenericPointerKeeper

namespace Keepers

open GenericPointerKeeper StateExcept

section Loops

variable {state after : Keepers M}

structure Relocated (dest src n index : Nat) (state after : Keepers M) : Prop where
  moved : ∀ other, index ≤ other → other < index + n →
    after.keepers (.element dest other) = state.keepers (.element src other)
  left : ∀ other, index ≤ other → other < index + n →
    after.keepers (.element src other) = some .empty
  others : ∀ place, (∀ other, index ≤ other → other < index + n →
      place ≠ .element dest other ∧ place ≠ .element src other) →
    after.keepers place = state.keepers place
  vector : after.vector = state.vector
  blocks : after.blocks = state.blocks

theorem moveToRawNoOverlap_ok {dest src : Nat} (apart : dest ≠ src) (n : Nat) :
    ∀ (index : Nat) {state : Keepers M}, state.Owned →
      (∀ other, index ≤ other → other < index + n →
        (state.keepers (.element src other)).isSome) →
      (∀ other, index ≤ other → state.keepers (.element dest other) = none) →
      ∃ after, moveToRawNoOverlap dest src n index state = .ok () after ∧ after.Owned ∧
        Relocated dest src n index state after := by
  induction n with
  | zero =>
      intro index state owned _ _
      refine ⟨state, rfl, owned, ⟨?_, ?_, fun _ _ => rfl, rfl, rfl⟩⟩ <;> intros <;> omega
  | succ n induction =>
      intro index state owned alive raw
      obtain ⟨keeper, stored⟩ :=
        Option.isSome_iff_exists.mp (alive index (Nat.le_refl _) (by omega))
      have places : Place.element dest index ≠ .element src index := by simp [apart]
      let middle := (state.put (.element dest index) (some keeper)).put
        (.element src index) (some .empty)
      have frame (place : Place) (notDest : place ≠ .element dest index)
          (notSrc : place ≠ .element src index) :
          middle.keepers place = state.keepers place := by
        rw [put_keepers_of_ne notSrc, put_keepers_of_ne notDest]
      have target : middle.keepers (.element dest index) = some keeper := by
        rw [put_keepers_of_ne places, put_keepers_self]
      obtain ⟨after, ran, kept, rest⟩ := induction (index + 1)
        (owned.move places stored (not_holds_of_dead (raw index (Nat.le_refl _))))
        (fun other low high => by
          rw [frame _ (by simp [apart.symm]) (by simp; omega)]
          exact alive other (by omega) (by omega))
        (fun other low => by
          rw [frame _ (by simp; omega) (by simp [apart])]
          exact raw other (by omega))
      refine ⟨after, ?_, kept, ?_, ?_, ?_, rest.vector, rest.blocks⟩
      · rw [moveToRawNoOverlap, bind_of_ok (constructByMove_ok stored)]
        exact ran
      · intro other low high
        by_cases here : other = index
        · subst here
          rw [rest.others _ fun other' low' _ => by simp [apart]; omega, stored]
          exact target
        · rw [rest.moved other (by omega) (by omega), frame _ (by simp [apart.symm])
            (by simp [here])]
      · intro other low high
        by_cases here : other = index
        · subst here
          rw [rest.others _ fun other' low' _ => by simp [apart.symm]; omega]
          exact put_keepers_self _
        · exact rest.left other (by omega) (by omega)
      · intro place outside
        rw [rest.others place fun other low high => outside other (by omega) (by omega)]
        obtain ⟨notDest, notSrc⟩ := outside index (Nat.le_refl _) (by omega)
        exact frame place notDest notSrc

structure Gone (block n index : Nat) (state after : Keepers M) : Prop where
  gone : ∀ other, index ≤ other → other < index + n →
    after.keepers (.element block other) = none
  others : ∀ place, (∀ other, index ≤ other → other < index + n →
      place ≠ .element block other) →
    after.keepers place = state.keepers place
  vector : after.vector = state.vector
  blocks : after.blocks = state.blocks

theorem destroyN_ok (block n : Nat) :
    ∀ (index : Nat) {state : Keepers M}, state.Owned →
      (∀ other, index ≤ other → other < index + n →
        (state.keepers (.element block other)).isSome) →
      ∃ after, destroyN block n index state = .ok () after ∧ after.Owned ∧
        Gone block n index state after := by
  induction n with
  | zero =>
      intro index state owned _
      refine ⟨state, rfl, owned, ⟨?_, fun _ _ => rfl, rfl, rfl⟩⟩
      intros
      omega
  | succ n induction =>
      intro index state owned alive
      obtain ⟨keeper, stored⟩ :=
        Option.isSome_iff_exists.mp (alive index (Nat.le_refl _) (by omega))
      obtain ⟨middle, destroyed, keptMiddle, frame, dead⟩ := destruct_ok owned stored
      obtain ⟨after, ran, kept, rest⟩ := induction (index + 1) keptMiddle
        (fun other low high => by
          rw [frame.keepers _ (by simp; omega)]
          exact alive other (by omega) (by omega))
      refine ⟨after, ?_, kept, ?_, ?_, rest.vector.trans frame.vector,
        rest.blocks.trans frame.blocks⟩
      · rw [destroyN, bind_of_ok destroyed]
        exact ran
      · intro other low high
        by_cases here : other = index
        · subst here
          rw [rest.others _ fun other' low' _ => by simp; omega]
          exact dead
        · exact rest.gone other (by omega) (by omega)
      · intro place outside
        rw [rest.others place fun other low high => outside other (by omega) (by omega)]
        exact frame.keepers place (outside index (Nat.le_refl _) (by omega))

end Loops

section Vector

/-- Every pointer is settled, and the live elements are those of the vector. -/
structure Sound (state : Keepers M) : Prop extends Owned state where
  elements : ∀ block index, (state.keepers (.element block index)).isSome ↔
    block = state.vector.m_p ∧ index < state.vector.m_dataSize
  bounded : state.vector.m_p ≤ state.blocks

theorem sound_start : (start : Keepers M).Sound where
  settled _ := .unborn rfl fun _ ⟨_, stored, _⟩ => nomatch stored
  fresh _ _ := rfl
  elements block index := by simp [start]
  bounded := Nat.le_refl 0

def contents (state : Keepers M) : List (Option (GenericPointerKeeper M)) :=
  (List.range state.vector.m_dataSize).map fun index =>
    state.keepers (.element state.vector.m_p index)

variable {state : Keepers M}

theorem Sound.frame_object {after : Keepers M} {name : Nat} (sound : state.Sound)
    (owned : after.Owned) (frame : Frame (.object name) state after) :
    after.Sound ∧ after.contents = state.contents := by
  have same (block index : Nat) : after.keepers (.element block index) =
      state.keepers (.element block index) := frame.keepers _ (by simp)
  refine ⟨⟨owned, fun block index => ?_, ?_⟩, ?_⟩
  · rw [same, frame.vector]
    exact sound.elements block index
  · rw [frame.vector, frame.blocks]
    exact sound.bounded
  · simp only [contents, frame.vector, same]

/-- The keepers move into a larger block; they stay in their order. -/
theorem reserveInternal_ok (sound : state.Sound) (n : Nat) (room : Room) :
    ∃ status after, reserveInternal n room state = .ok status after ∧ after.Sound ∧
      after.contents = state.contents ∧
      (∀ name, after.keepers (.object name) = state.keepers (.object name)) ∧
      (status = .noError ∨ status = .errorNoMemory) := by
  by_cases need : state.vector.m_allocatedSize < n
  · cases answer : room.allocatedSize n with
    | none =>
        refine ⟨.errorNoMemory, state, ?_, sound, rfl, fun _ => rfl, .inr rfl⟩
        simp only [reserveInternal, bind, EStateM.bind, get_apply, if_pos need, answer]
        rfl
    | some allocatedSize =>
        let enlarged : Keepers M := { state with blocks := state.blocks + 1 }
        have apart : state.blocks + 1 ≠ state.vector.m_p := by
          have := sound.bounded
          omega
        have enlargedOwned : enlarged.Owned := sound.toOwned.of_same rfl rfl rfl
        obtain ⟨moved, relocation, movedOwned, relocated⟩ :=
          moveToRawNoOverlap_ok apart state.vector.m_dataSize 0 enlargedOwned
            (fun other _ high => (sound.elements _ other).mpr ⟨rfl, by omega⟩)
            (fun other _ => by
              have dead := (sound.elements (state.blocks + 1) other).not.mpr
                fun ⟨same, _⟩ => apart same
              simpa using dead)
        obtain ⟨destroyed, destruction, destroyedOwned, gone⟩ :=
          destroyN_ok state.vector.m_p state.vector.m_dataSize 0 movedOwned
            (fun other low high => by rw [relocated.left other low high]; rfl)
        let after : Keepers M :=
          { destroyed with
            vector := ⟨state.blocks + 1, state.vector.m_dataSize, allocatedSize⟩ }
        have inBlock (index : Nat) (high : index < state.vector.m_dataSize) :
            after.keepers (.element (state.blocks + 1) index) =
              state.keepers (.element state.vector.m_p index) := by
          refine (gone.others _ fun other _ _ => by simp [apart]).trans ?_
          exact relocated.moved index (Nat.zero_le _) (by omega)
        have elsewhere (block index : Nat)
            (outside : ¬(block = state.blocks + 1 ∧ index < state.vector.m_dataSize)) :
            after.keepers (.element block index) = none := by
          by_cases old : block = state.vector.m_p ∧ index < state.vector.m_dataSize
          · obtain ⟨rfl, high⟩ := old
            exact gone.gone index (Nat.zero_le _) (by omega)
          · refine (gone.others _ fun other low high => ?_).trans ?_
            · simp only [ne_eq, Place.element.injEq]
              omega
            · refine (relocated.others _ fun other low high => ?_).trans ?_
              · simp only [ne_eq, Place.element.injEq]
                omega
              · simpa using (sound.elements block index).not.mpr old
        refine ⟨.noError, after, ?_,
          ⟨destroyedOwned.of_same rfl rfl rfl, fun block index => ?_, ?_⟩, ?_, fun name => ?_,
          .inl rfl⟩
        · simp only [reserveInternal, bind, EStateM.bind, get_apply, if_pos need, answer,
            modify_apply]
          rw [show moveToRawNoOverlap (state.blocks + 1) state.vector.m_p
            state.vector.m_dataSize 0 { state with blocks := state.blocks + 1 } =
              .ok () moved from relocation]
          simp only [destruction]
          rfl
        · by_cases inside : block = state.blocks + 1 ∧ index < state.vector.m_dataSize
          · obtain ⟨rfl, high⟩ := inside
            rw [inBlock index high]
            exact iff_of_true ((sound.elements _ index).mpr ⟨rfl, high⟩) ⟨rfl, high⟩
          · rw [elsewhere block index inside]
            exact iff_of_false nofun inside
        · exact Nat.le_of_eq (gone.blocks.trans relocated.blocks).symm
        · apply List.map_congr_left
          intro index member
          exact inBlock index (List.mem_range.mp member)
        · exact (gone.others _ fun _ _ _ => by simp).trans
            (relocated.others _ fun _ _ _ => by simp)
  · refine ⟨.noError, state, ?_, sound, rfl, fun _ => rfl, .inl rfl⟩
    simp only [reserveInternal, bind, EStateM.bind, get_apply, if_neg need]
    rfl

structure Pushed (name : Nat) (keeper : GenericPointerKeeper M) (status : Status)
    (state after : Keepers M) : Prop where
  sound : after.Sound
  outcome : status = .noError ∧ after.contents = state.contents ++ [some keeper] ∧
      after.keepers (.object name) = some .empty ∨
    status = .errorNoMemory ∧ after.contents = state.contents ∧
      after.keepers (.object name) = some keeper
  others : ∀ other, other ≠ name →
    after.keepers (.object other) = state.keepers (.object other)

theorem pushBack_ok (sound : state.Sound) {name : Nat} {keeper : GenericPointerKeeper M}
    (stored : state.keepers (.object name) = some keeper) (room : Room) :
    ∃ status after, pushBack (.object name) room state = .ok status after ∧
      Pushed name keeper status state after := by
  obtain ⟨status, roomy, reserved, roomySound, same, objects, ended⟩ :=
    reserveInternal_ok sound (state.vector.m_dataSize + 1) room
  have kept : roomy.keepers (.object name) = some keeper := (objects name).trans stored
  rcases ended with rfl | rfl
  · have places : Place.element roomy.vector.m_p roomy.vector.m_dataSize ≠ .object name := nofun
    have dead : roomy.keepers (.element roomy.vector.m_p roomy.vector.m_dataSize) = none := by
      simpa using (roomySound.elements roomy.vector.m_p roomy.vector.m_dataSize).not.mpr
        fun inside => Nat.lt_irrefl _ inside.2
    let filled := (roomy.put (.element roomy.vector.m_p roomy.vector.m_dataSize)
      (some keeper)).put (.object name) (some .empty)
    have last : filled.keepers (.element roomy.vector.m_p roomy.vector.m_dataSize) =
        some keeper := by
      rw [put_keepers_of_ne places, put_keepers_self]
    have earlier (block index : Nat)
        (apart : ¬(block = roomy.vector.m_p ∧ index = roomy.vector.m_dataSize)) :
        filled.keepers (.element block index) = roomy.keepers (.element block index) := by
      rw [put_keepers_of_ne (by simp), put_keepers_of_ne (by simpa using apart)]
    have owned : filled.Owned :=
      roomySound.toOwned.move places kept (not_holds_of_dead dead)
    let after : Keepers M :=
      { filled with
        vector := { roomy.vector with m_dataSize := roomy.vector.m_dataSize + 1 } }
    refine ⟨.noError, after, ?_, ⟨⟨owned.of_same rfl rfl rfl, fun block index => ?_,
      roomySound.bounded⟩, .inl ⟨rfl, ?_, put_keepers_self _⟩, fun other apart => ?_⟩⟩
    · have appended : appendMoved (.object name) roomy = .ok .noError after := by
        simp only [appendMoved, bind, EStateM.bind, get_apply, constructByMove_ok kept]
        rfl
      simp only [pushBack, bind, EStateM.bind, get_apply, reserved]
      exact appended
    · show (filled.keepers (.element block index)).isSome ↔
        block = roomy.vector.m_p ∧ index < roomy.vector.m_dataSize + 1
      by_cases newest : block = roomy.vector.m_p ∧ index = roomy.vector.m_dataSize
      · obtain ⟨rfl, rfl⟩ := newest
        rw [last]
        exact iff_of_true rfl ⟨rfl, Nat.lt_succ_self _⟩
      · rw [earlier block index newest, roomySound.elements]
        omega
    · show (List.range (roomy.vector.m_dataSize + 1)).map (fun index =>
          filled.keepers (.element roomy.vector.m_p index)) = _
      rw [List.range_succ, List.map_append, List.map_singleton, last, ← same]
      congr 1
      apply List.map_congr_left
      intro index member
      exact earlier _ index fun newest =>
        Nat.ne_of_lt (List.mem_range.mp member) newest.2
    · refine Eq.trans ?_ (objects other)
      show filled.keepers (.object other) = _
      rw [put_keepers_of_ne (by simpa using apart), put_keepers_of_ne (by simp)]
  · refine ⟨.errorNoMemory, roomy, ?_, roomySound, .inr ⟨rfl, same, kept⟩,
      fun other _ => objects other⟩
    simp only [pushBack, bind, EStateM.bind, get_apply, reserved]
    rfl

theorem clear_ok (sound : state.Sound) :
    ∃ after, clear state = .ok () after ∧ after.Sound ∧ after.contents = [] ∧
      (∀ name, after.keepers (.object name) = state.keepers (.object name)) ∧
      after.vector.m_dataSize = 0 := by
  obtain ⟨destroyed, destruction, owned, gone⟩ :=
    destroyN_ok state.vector.m_p state.vector.m_dataSize 0 sound.toOwned
      (fun other _ high => (sound.elements _ other).mpr ⟨rfl, by omega⟩)
  have dead (block index : Nat) : destroyed.keepers (.element block index) = none := by
    by_cases inside : block = state.vector.m_p ∧ index < state.vector.m_dataSize
    · obtain ⟨rfl, high⟩ := inside
      exact gone.gone index (Nat.zero_le _) (by omega)
    · refine (gone.others _ fun other _ high => ?_).trans ?_
      · simp only [ne_eq, Place.element.injEq]
        omega
      · simpa using (sound.elements block index).not.mpr inside
  refine ⟨{ destroyed with vector := { state.vector with m_dataSize := 0 } }, ?_,
    ⟨owned.of_same rfl rfl rfl, fun block index => ?_, ?_⟩, rfl, fun name => ?_, rfl⟩
  · simp only [clear, bind, EStateM.bind, get_apply, destruction]
    rfl
  · show (destroyed.keepers (.element block index)).isSome ↔ _
    rw [dead]
    exact iff_of_false nofun fun inside => Nat.not_lt_zero _ inside.2
  · exact Nat.le_trans sound.bounded (Nat.le_of_eq gone.blocks.symm)
  · exact gone.others _ fun _ _ _ => by simp

theorem invalidate_ok (sound : state.Sound) :
    ∃ after, invalidate state = .ok () after ∧ after.Sound ∧ after.contents = [] ∧
      ∀ name, after.keepers (.object name) = state.keepers (.object name) := by
  obtain ⟨cleared, ran, kept, _, objects, size⟩ := clear_ok sound
  refine ⟨{ cleared with vector := ⟨0, 0, 0⟩ }, ?_,
    ⟨kept.toOwned.of_same rfl rfl rfl, fun block index => ?_, Nat.zero_le _⟩, rfl, objects⟩
  · rw [invalidate, bind_of_ok ran]
    rfl
  · have dead := (kept.elements block index).not.mpr fun inside => by omega
    exact iff_of_false dead fun inside => Nat.not_lt_zero _ inside.2

/-- The pointer that is returned is the one that the vector now holds; without
one the vector holds what it held. -/
theorem allocateAndDefaultConstruct_ok (max_size : M → Nat) (sound : state.Sound)
    {name : Nat} (free : state.keepers (.object name) = none) (manager : M)
    (answer : Option Nat) (room : Room) :
    ∃ p after, allocateAndDefaultConstruct max_size name manager answer room state =
        .ok p after ∧ after.Sound ∧
      (∀ other, after.keepers (.object other) = state.keepers (.object other)) ∧
      match p with
      | none => after.contents = state.contents
      | some q => ∃ n, answer = some n ∧
          after.contents = state.contents ++ [some ⟨some q, n, some manager⟩] := by
  let begun := state.put (.object name) (some .empty)
  have begunOwned : begun.Owned :=
    sound.toOwned.put (not_holds_of_dead free) fun kept same => by cases same; rfl
  obtain ⟨begunSound, begunContents⟩ :=
    sound.frame_object begunOwned (Frame.put (some .empty))
  obtain ⟨p, allocated, ran, allocatedOwned, frame, kept, there, holds, created⟩ :=
    allocateAndConstruct_ok max_size begunOwned (put_keepers_self _) manager 1 answer
  obtain ⟨allocatedSound, allocatedContents⟩ := begunSound.frame_object allocatedOwned frame
  have objects (other : Nat) (apart : other ≠ name) :
      allocated.keepers (.object other) = state.keepers (.object other) := by
    rw [frame.keepers _ (by simpa using apart), put_keepers_of_ne (by simpa using apart)]
  cases p with
  | none =>
      obtain ⟨after, gone, owned, last, dead⟩ := destruct_ok allocatedOwned there
      obtain ⟨afterSound, contents⟩ := allocatedSound.frame_object owned last
      refine ⟨none, after, ?_, afterSound, fun other => ?_,
        contents.trans (allocatedContents.trans begunContents)⟩
      · rw [allocateAndDefaultConstruct, bind_of_ok (store_ok _ _), bind_of_ok ran]
        exact bind_of_ok gone
      · by_cases same : other = name
        · rw [same, dead, free]
        · rw [last.keepers _ (by simpa using same), objects other same]
  | some q =>
      obtain ⟨answered, deleter⟩ := created q rfl
      have exactly : kept = ⟨some q, kept.m_size, some manager⟩ := by
        rw [← holds, ← deleter]
      obtain ⟨status, pushed, pushing, push⟩ := pushBack_ok allocatedSound there room
      obtain ⟨rest, remains⟩ : ∃ rest, pushed.keepers (.object name) = some rest := by
        rcases push.outcome with ⟨_, _, moved⟩ | ⟨_, _, stays⟩
        · exact ⟨_, moved⟩
        · exact ⟨_, stays⟩
      obtain ⟨after, gone, owned, last, dead⟩ := destruct_ok push.sound.toOwned remains
      obtain ⟨afterSound, contents⟩ := push.sound.frame_object owned last
      have others (other : Nat) :
          after.keepers (.object other) = state.keepers (.object other) := by
        by_cases same : other = name
        · rw [same, dead, free]
        · rw [last.keepers _ (by simpa using same), push.others other same,
            objects other same]
      have returned : allocateAndDefaultConstruct max_size name manager answer room state =
          .ok (if statusSuccess status then some q else none) after := by
        rw [allocateAndDefaultConstruct, bind_of_ok (store_ok _ _), bind_of_ok ran]
        exact (bind_of_ok pushing).trans (bind_of_ok gone)
      rcases push.outcome with ⟨rfl, grown, _⟩ | ⟨rfl, unchanged, _⟩
      · refine ⟨some q, after, returned, afterSound, others, kept.m_size, answered, ?_⟩
        rw [contents, grown, allocatedContents, begunContents, ← exactly]
      · exact ⟨none, after, returned, afterSound, others,
          contents.trans (unchanged.trans (allocatedContents.trans begunContents))⟩

end Vector

end Keepers

end CommonSerialization
