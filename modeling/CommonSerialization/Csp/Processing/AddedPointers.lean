import CommonSerialization.Csp.Processing.UnmanagedPointers
import Mathlib.Data.List.MinMax

namespace CommonSerialization.Csp

open BodyProcessor GenericPointerKeeper StateExcept Transitions VersionConverter

/-! The container of added pointers owns what a deserialization leaves behind. -/

structure DState.Begins (state : DState P) : Prop where
  history : state.history = []
  distinct : (state.blocks.map Prod.fst).Nodup
  held : ∀ entry ∈ entries state, entry.2 ≠ 0 ∧ ∃ size, (entry.2, size) ∈ state.blocks
  separate : ((entries state).map Prod.snd).Nodup

theorem DState.start_begins (octets : List UInt8) :
    (DState.start octets : DState P).Begins where
  history := rfl
  distinct := List.nodup_nil
  held _ := nofun
  separate := List.nodup_nil

/-- The pointers that were assigned point to distinct objects, each of which the
container holds once. -/
structure HeldOnce (pointeeType : P → Ty P) (state : DState P) : Prop where
  distinct : ((assigned state.history).map Prod.snd).Nodup
  listed : ∀ pointer ∈ assigned state.history,
    (pointeeType pointer.1, pointer.2) ∈ entries state
  once : ∀ pointer ∈ assigned state.history,
    ((entries state).map Prod.snd).count pointer.2 = 1
  inUse : ∀ pointer ∈ assigned state.history, pointer.2 ∈ state.blocks.map Prod.fst

section Owning

variable {pointeeType : P → Ty P}

theorem DState.Begins.owning {state : DState P} (begins : state.Begins) :
    Owning pointeeType (entries state) [] state := by
  refine ⟨begins.distinct, fun _ => nofun, ?_, fun entry member => ?_, begins.separate⟩
  · rw [begins.history]
    rfl
  · obtain ⟨valid, size, inUse⟩ := begins.held entry member
    exact ⟨valid, size, inUse, List.not_mem_nil⟩

theorem Owning.heldOnce {base : List (Ty P × Nat)} {state : DState P}
    (owning : Owning pointeeType base [] state) : HeldOnce pointeeType state := by
  have listed : ∀ pointer ∈ assigned state.history,
      (pointeeType pointer.1, pointer.2) ∈ entries state := by
    intro pointer member
    rw [owning.grown]
    exact List.mem_append_left _ (List.mem_map_of_mem member)
  refine ⟨?_, listed, fun pointer member => ?_, fun pointer member => ?_⟩
  · have separate := owning.separate
    rw [owning.grown, List.map_append, List.map_map] at separate
    exact separate.of_append_left
  · apply List.count_eq_one_of_mem owning.separate
    exact List.mem_map_of_mem (listed pointer member)
  · obtain ⟨_, size, inUse, _⟩ := owning.held _ (listed pointer member)
    exact List.mem_map_of_mem inUse

end Owning

section Results

variable {ctx : DContext P} {pointeeType : P → Ty P}

theorem deserialize_heldOnce (heap : HeapGivesNew ctx)
    (unchecked : ctx.data.checkRecursivePointers = false) (maps : MapsInsert ctx)
    (conversions : Conversions P) (fuel : Nat) (type : Ty P) (target : type.Obj)
    (address : Nat) {before : DState P} (begins : before.Begins) :
    match BodyProcessor.deserialize ctx pointeeType
      (DHandlers.ofTypes ctx conversions pointeeType fuel) type target address before with
    | .ok object after => HeldOnce pointeeType after ∧
        Covered (type.pointersRead ctx.data object) (assigned after.history)
    | .error fault after => isStatus fault → HeldOnce pointeeType after := by
  have handlers : OwningHandlers ctx pointeeType
      (DHandlers.ofTypes ctx conversions pointeeType fuel) :=
    ofTypes_owning ctx heap unchecked maps conversions fuel
  have recorded := deserialize_recorded ctx heap unchecked maps handlers type target address
    before begins.owning
  cases ended : BodyProcessor.deserialize ctx pointeeType
      (DHandlers.ofTypes ctx conversions pointeeType fuel) type target address before with
  | ok object after =>
      rw [ended] at recorded
      obtain ⟨kept, new, grown, covered⟩ := recorded
      have same : assigned after.history = new := by
        have nothing : assigned before.history = [] := congrArg assigned begins.history
        exact grown.trans ((congrArg (new ++ ·) nothing).trans (List.append_nil new))
      exact ⟨kept.heldOnce, by rwa [same]⟩
  | error fault after =>
      rw [ended] at recorded
      exact fun counted => (recorded counted).1.heldOnce

/-- A call that returns has given each pointer it wrote an object of its own,
which the container holds once; the keepers destroy every block once and as it
was created, unless it was released, in any run in which no keeper is assigned
to another one, and only there. -/
theorem pointers_owned (heap : HeapGivesNew ctx)
    (unchecked : ctx.data.checkRecursivePointers = false) (maps : MapsInsert ctx)
    (conversions : Conversions P) (max_size : M → Nat) :
    (∀ fuel type target address (before : DState P), before.Begins →
      match BodyProcessor.deserialize ctx pointeeType
        (DHandlers.ofTypes ctx conversions pointeeType fuel) type target address before with
      | .ok object after => HeldOnce pointeeType after ∧
          Covered (type.pointersRead ctx.data object) (assigned after.history)
      | .error fault after => isStatus fault → HeldOnce pointeeType after) ∧
    ∀ state, Reaches (fun state call next => Keepers.call max_size call state = .ok () next)
        Keepers.Uses .start state →
      (∀ p, state.Settled p) ∧
      ((∀ place, state.keepers place = none) → ∀ p, state.history p = [] ∨
        ∃ manager n, state.history p = [.released, .created manager n] ∨
          state.history p = [.destroyed manager n, .created manager n]) ∧
      (∀ call, state.Legal call →
        ((∃ next, Keepers.call max_size call state = .ok () next) ↔ call.returns)) ∧
      ∀ name manager answer room, state.keepers (.object name) = none →
        ∃ p next, allocateAndDefaultConstruct max_size name manager answer room state =
            .ok p next ∧ next.Sound ∧
          match p with
          | none => next.contents = state.contents
          | some q => ∃ n, answer = some n ∧
              next.contents = state.contents ++ [some ⟨some q, n, some manager⟩] := by
  refine ⟨fun fuel type target address before begins => ?_, fun state reached => ?_⟩
  · exact deserialize_heldOnce heap unchecked maps conversions fuel type target address begins
  · have sound := Keepers.sound_of_reaches reached
    refine ⟨sound.settled, fun gone p => ?_, fun call legal => ?_, ?_⟩
    · exact (sound.settled p).destroyed_of_gone gone
    · constructor
      · rintro ⟨next, ran⟩
        cases call with
        | assignByMove place rhs =>
            by_contra apart
            exact Keepers.assignByMove_undefined apart next ran
        | _ => trivial
      · intro returns
        obtain ⟨next, ran, _⟩ := sound.call max_size legal returns
        exact ⟨next, ran⟩
    · intro name manager answer room free
      obtain ⟨p, next, ran, kept, _, contents⟩ :=
        Keepers.allocateAndDefaultConstruct_ok max_size sound free manager answer room
      exact ⟨p, next, ran, kept, contents⟩

end Results

section Lists

theorem heapGivesNew_unbounded (data : Context.Data) :
    HeapGivesNew (.unbounded data : DContext P) := by
  intro blocks size address given
  cases given
  refine ⟨Nat.succ_ne_zero _, fun member => ?_⟩
  obtain ⟨block, listed, same⟩ := List.mem_map.mp member
  have below : block.1 ≤ (blocks.map fun block => block.1 + block.2).foldr max 0 :=
    List.le_max_of_le' 0 (List.mem_map_of_mem listed) (Nat.le_add_right _ _)
  omega

theorem mapsInsert_unbounded (data : Context.Data) :
    MapsInsert (.unbounded data : DContext P) :=
  fun _ _ _ => List.Subperm.refl _

private def linksContext : Context.Data where
  platform := ⟨false, false⟩
  protocolVersion := 1
  messageType := .data
  commonFlags := .ofUInt32 0
  dataFlags := .ofUInt32 4
  interfaceVersion := 1
  interfaceVersionsNotMatch := false
  isHeapUsedForTemp := false

private def linkTy : Ty Unit :=
  .struct ⟨0, Tags.none, 8, 0, none, .fieldByField .none⟩
    (.cons 0 (.scalar (.integral .unsignedChar .one false)) (.cons 7 (.pointer 8 ()) .nil))

private def linksConversions : Conversions Unit :=
  ⟨fun _ _ => none, fun _ _ => none, fun _ _ _ => none, fun _ _ _ => 0⟩

theorem pointers_owned_links :
    ∃ address after,
      BodyProcessor.deserialize (.unbounded linksContext) (fun _ => linkTy)
          (DHandlers.ofTypes (.unbounded linksContext) linksConversions (fun _ => linkTy) 3)
          (.pointer 8 ()) 0 64 (.start [1, 7, 1, 9, 0]) = .ok address after ∧
        assigned after.history = [((), 48), ((), 16)] ∧
        HeldOnce (fun _ => linkTy) after := by
  have owned := (@pointers_owned Unit (.unbounded linksContext) (fun _ => linkTy)
    Unit (heapGivesNew_unbounded linksContext) rfl (mapsInsert_unbounded linksContext)
    linksConversions (fun _ => 1)).1 3 (.pointer 8 ()) 0 64 (.start [1, 7, 1, 9, 0])
    (DState.start_begins _)
  exact ⟨_, _, rfl, rfl, owned.1⟩

/-- Two keepers, the first with a block, and the first is assigned to the
second. -/
theorem assignByMove_never_ends :
    ¬∀ state : Keepers Unit,
      Reaches (fun state call next => Keepers.call (fun _ => 1) call state = .ok () next)
          Keepers.Legal .start state →
        ∀ call, state.Legal call →
          ∃ next, Keepers.call (fun _ => 1) call state = .ok () next ∧
            ∀ p, next.Settled p := by
  intro everywhere
  let first : Place := .object 0
  let second : Place := .object 1
  let one : Keepers Unit := Keepers.start.put first (some .empty)
  let both : Keepers Unit := one.put second (some .empty)
  let state : Keepers Unit :=
    { (both.note 0 (.created () 1)).put first (some ⟨some 0, 1, some ()⟩) with
      allocations := 1 }
  have oneReached : Reaches (fun state call next => Keepers.call (fun _ => 1) call state =
      .ok () next) Keepers.Legal .start one :=
    .next .start (show Keepers.Legal .start (.construct 0) from rfl) rfl
  have bothReached : Reaches (fun state call next => Keepers.call (fun _ => 1) call state =
      .ok () next) Keepers.Legal .start both :=
    .next oneReached (show Keepers.Legal one (.construct 1) from rfl) rfl
  have reached : Reaches (fun state call next => Keepers.call (fun _ => 1) call state =
      .ok () next) Keepers.Legal .start state :=
    .next bothReached (show Keepers.Legal both (.allocateAndConstruct first () 1 (some 1)) from
      ⟨.empty, rfl⟩) rfl
  obtain ⟨next, ran, _⟩ := everywhere state reached (.assignByMove second first)
    ⟨⟨.empty, rfl⟩, ⟨_, rfl⟩⟩
  have apart : second ≠ first := by decide
  exact Keepers.assignByMove_undefined apart next ran

end Lists

end CommonSerialization.Csp
