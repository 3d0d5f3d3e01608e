import CommonSerialization.Containers.KeeperVector

namespace CommonSerialization

open GenericPointerKeeper StateExcept Transitions

/-! What a program does with keepers, in any order. -/

inductive KeeperCall (M : Type)
  | construct (name : Nat)
  | constructByMove (name : Nat) (rhs : Place)
  | assignByMove (place rhs : Place)
  | allocateAndConstruct (place : Place) (manager : M) (n : Nat) (answer : Option Nat)
  | destroyAndDeallocate (place : Place)
  | release (place : Place)
  | destruct (name : Nat)
  | pushBack (name : Nat) (room : Room)
  | clear
  | invalidate

namespace Keepers

def call (max_size : M → Nat) : KeeperCall M → KProc M Unit
  | .construct name => store (.object name) (some .empty)
  | .constructByMove name rhs => GenericPointerKeeper.constructByMove (.object name) rhs
  | .assignByMove place rhs => GenericPointerKeeper.assignByMove place rhs
  | .allocateAndConstruct place manager n answer => do
      let _ ← GenericPointerKeeper.allocateAndConstruct max_size place manager n answer
  | .destroyAndDeallocate place => GenericPointerKeeper.destroyAndDeallocate place
  | .release place => do
      let _ ← GenericPointerKeeper.release place
  | .destruct name => GenericPointerKeeper.destruct (.object name)
  | .pushBack name room => do
      let _ ← GenericPointerKeeper.pushBack (.object name) room
  | .clear => GenericPointerKeeper.clear
  | .invalidate => GenericPointerKeeper.invalidate

def Alive (state : Keepers M) (place : Place) : Prop :=
  ∃ keeper, state.keepers place = some keeper

/-- The keepers that are named are alive, and new ones are constructed in
objects that are not. -/
def Legal (state : Keepers M) : KeeperCall M → Prop
  | .construct name => state.keepers (.object name) = none
  | .constructByMove name rhs => state.keepers (.object name) = none ∧ state.Alive rhs
  | .assignByMove place rhs => state.Alive place ∧ state.Alive rhs
  | .allocateAndConstruct place _ _ _ => state.Alive place
  | .destroyAndDeallocate place => state.Alive place
  | .release place => state.Alive place
  | .destruct name => state.Alive (.object name)
  | .pushBack name _ => state.Alive (.object name)
  | .clear => True
  | .invalidate => True

end Keepers

/-- No keeper is assigned to another one. -/
def KeeperCall.returns : KeeperCall M → Prop
  | .assignByMove place rhs => place = rhs
  | _ => True

namespace Keepers

variable {state : Keepers M}

theorem Sound.frame {after : Keepers M} {place : Place} (sound : state.Sound)
    (owned : after.Owned) (frame : Frame place state after) (before : state.Alive place)
    (alive : after.Alive place) : after.Sound := by
  refine ⟨owned, fun block index => ?_, ?_⟩
  · rw [frame.vector, ← sound.elements]
    by_cases here : Place.element block index = place
    · subst here
      exact iff_of_true (Option.isSome_iff_exists.mpr alive)
        (Option.isSome_iff_exists.mpr before)
    · rw [frame.keepers _ here]
  · rw [frame.vector, frame.blocks]
    exact sound.bounded

/-- A legal call ends, and keeps every pointer settled, unless it assigns a
keeper to another one. -/
theorem Sound.call (sound : state.Sound) (max_size : M → Nat) {call : KeeperCall M}
    (legal : state.Legal call) (returns : call.returns) :
    ∃ after, Keepers.call max_size call state = .ok () after ∧ after.Sound := by
  cases call with
  | construct name =>
      have owned : (state.put (.object name) (some .empty)).Owned :=
        sound.toOwned.put (not_holds_of_dead legal) fun kept same => by cases same; rfl
      exact ⟨_, rfl, (sound.frame_object owned (Frame.put _)).1⟩
  | constructByMove name rhs =>
      obtain ⟨free, keeper, stored⟩ := legal
      have apart : Place.object name ≠ rhs := by
        rintro rfl
        rw [free] at stored
        cases stored
      have owned := sound.toOwned.move apart stored (not_holds_of_dead free)
      refine ⟨_, constructByMove_ok stored, owned, fun block index => ?_, sound.bounded⟩
      refine Iff.trans ?_ (sound.elements block index)
      by_cases here : Place.element block index = rhs
      · subst here
        rw [put_keepers_self, stored]
        exact Iff.rfl
      · rw [put_keepers_of_ne here, put_keepers_of_ne (by simp)]
  | assignByMove place rhs =>
      obtain rfl : place = rhs := returns
      refine ⟨state, ?_, sound⟩
      rw [Keepers.call, GenericPointerKeeper.assignByMove, if_pos rfl]
      rfl
  | allocateAndConstruct place manager n answer =>
      obtain ⟨keeper, stored⟩ := legal
      obtain ⟨p, after, ran, owned, frame, kept, there, _⟩ :=
        allocateAndConstruct_ok max_size sound.toOwned stored manager n answer
      exact ⟨after, bind_of_ok ran,
        sound.frame owned frame ⟨keeper, stored⟩ ⟨kept, there⟩⟩
  | destroyAndDeallocate place =>
      obtain ⟨keeper, stored⟩ := legal
      obtain ⟨after, ran, owned, frame, kept, there, _⟩ :=
        destroyAndDeallocate_ok sound.toOwned stored
      exact ⟨after, ran, sound.frame owned frame ⟨keeper, stored⟩ ⟨kept, there⟩⟩
  | release place =>
      obtain ⟨keeper, stored⟩ := legal
      obtain ⟨after, ran, owned, frame, there⟩ := release_ok sound.toOwned stored
      exact ⟨after, bind_of_ok ran, sound.frame owned frame ⟨keeper, stored⟩ ⟨_, there⟩⟩
  | destruct name =>
      obtain ⟨keeper, stored⟩ := legal
      obtain ⟨after, ran, owned, frame, _⟩ := destruct_ok sound.toOwned stored
      exact ⟨after, ran, (sound.frame_object owned frame).1⟩
  | pushBack name room =>
      obtain ⟨keeper, stored⟩ := legal
      obtain ⟨status, after, ran, pushed⟩ := pushBack_ok sound stored room
      exact ⟨after, bind_of_ok ran, pushed.sound⟩
  | clear =>
      obtain ⟨after, ran, kept, _⟩ := clear_ok sound
      exact ⟨after, ran, kept⟩
  | invalidate =>
      obtain ⟨after, ran, kept, _⟩ := invalidate_ok sound
      exact ⟨after, ran, kept⟩

/-- The steps of a program that uses keepers as they can be used. -/
def Uses (state : Keepers M) (call : KeeperCall M) : Prop :=
  state.Legal call ∧ call.returns

theorem sound_of_reaches {max_size : M → Nat}
    (reached : Reaches (fun state action next => call max_size action state = .ok () next)
      Uses start state) : state.Sound := by
  refine reached.invariant sound_start ?_
  intro state action next sound uses ran
  obtain ⟨after, ended, kept⟩ := sound.call max_size uses.1 uses.2
  rw [ran] at ended
  cases ended
  exact kept

/-- Once the keepers are gone, every block that was not released is destroyed,
once and as it was created. -/
theorem Settled.destroyed_of_gone {p : Nat} (settled : state.Settled p)
    (gone : ∀ place, state.keepers place = none) :
    state.history p = [] ∨
      ∃ manager n, state.history p = [.released, .created manager n] ∨
        state.history p = [.destroyed manager n, .created manager n] := by
  cases settled with
  | unborn events _ => exact .inl events
  | held place _ keeper _ =>
      rw [gone place] at keeper
      cases keeper
  | destroyed events _ => exact .inr ⟨_, _, .inr events⟩
  | released events _ => exact .inr ⟨_, _, .inl events⟩

end Keepers

end CommonSerialization
