import CommonSerialization.Containers.KeeperRuns
import CommonSerialization.Csp.Processing.MismatchGate
import Mathlib.Data.List.Flatten
import Mathlib.Data.List.Nodup
import Mathlib.Data.List.Perm.Subperm

namespace CommonSerialization.Csp

open BodyProcessor StateExcept VersionConverter

/-! The owners of the pointers that a deserialization creates. -/

def assigned (history : List (Event P)) : List (P × Nat) :=
  history.filterMap fun
    | .assigned pointee address => if address = 0 then none else some (pointee, address)
    | _ => none

def entries (state : DState P) : List (Ty P × Nat) :=
  state.addedPointers.map fun added => (added.type, added.address)

/-- The heap never gives the null pointer or a block in use. -/
def HeapGivesNew (ctx : DContext P) : Prop :=
  ∀ blocks size address, ctx.allocate blocks size = some address →
    address ≠ 0 ∧ address ∉ blocks.map Prod.fst

/-- `std::map::insert` adds the element or leaves it out. -/
def MapsInsert (ctx : DContext P) : Prop :=
  ∀ (type : Ty P) (element : type.Obj) (elements : List type.Obj),
    (ctx.mapInsert type element elements).Subperm (element :: elements)

section Owning

variable (pointeeType : P → Ty P) (base : List (Ty P × Nat)) (outside : List (Nat × Nat))

/-- Since the container held `base` it has got each pointer that was assigned,
and nothing else; each points to a block of its own, which is none of those
that something else is responsible for. -/
structure Owning (state : DState P) : Prop where
  distinct : (state.blocks.map Prod.fst).Nodup
  inUse : ∀ block ∈ outside, block ∈ state.blocks
  grown : entries state =
    (assigned state.history).map (fun pointer => (pointeeType pointer.1, pointer.2)) ++ base
  held : ∀ entry ∈ entries state,
    entry.2 ≠ 0 ∧ ∃ size, (entry.2, size) ∈ state.blocks ∧ (entry.2, size) ∉ outside
  separate : ((entries state).map Prod.snd).Nodup

variable {pointeeType base outside}

theorem Owning.of_same {state next : DState P} (owning : Owning pointeeType base outside state)
    (blocks : next.blocks = state.blocks) (added : entries next = entries state)
    (history : assigned next.history = assigned state.history) :
    Owning pointeeType base outside next := by
  obtain ⟨distinct, inUse, grown, held, separate⟩ := owning
  refine ⟨?_, ?_, ?_, ?_, ?_⟩
  · rwa [blocks]
  · rwa [blocks]
  · rwa [added, history]
  · rwa [added, blocks]
  · rwa [added]

theorem Owning.allocated {state : DState P} {address : Nat}
    (owning : Owning pointeeType base outside state) (size : Nat)
    (fresh : address ∉ state.blocks.map Prod.fst) :
    Owning pointeeType base outside { state with blocks := (address, size) :: state.blocks } ∧
      Owning pointeeType base ((address, size) :: outside)
        { state with blocks := (address, size) :: state.blocks } := by
  have distinct : (((address, size) :: state.blocks).map Prod.fst).Nodup :=
    List.nodup_cons.mpr ⟨fresh, owning.distinct⟩
  refine ⟨⟨distinct, ?_, owning.grown, ?_, owning.separate⟩,
    ⟨distinct, ?_, owning.grown, ?_, owning.separate⟩⟩
  · exact fun block member => List.mem_cons_of_mem _ (owning.inUse block member)
  · intro entry member
    obtain ⟨valid, size, listed, apart⟩ := owning.held entry member
    exact ⟨valid, size, List.mem_cons_of_mem _ listed, apart⟩
  · intro block member
    rcases List.mem_cons.mp member with rfl | member
    · exact List.mem_cons_self
    · exact List.mem_cons_of_mem _ (owning.inUse block member)
  · intro entry member
    obtain ⟨valid, size', listed, apart⟩ := owning.held entry member
    refine ⟨valid, size', List.mem_cons_of_mem _ listed, ?_⟩
    rw [List.mem_cons, not_or]
    refine ⟨?_, apart⟩
    rintro same
    obtain rfl : entry.2 = address := congrArg Prod.fst same
    exact fresh (List.mem_map_of_mem listed)

theorem Owning.forget {state : DState P} {block : Nat × Nat}
    (owning : Owning pointeeType base (block :: outside) state) :
    Owning pointeeType base outside state := by
  refine ⟨owning.distinct, fun other member => ?_, owning.grown, fun entry member => ?_,
    owning.separate⟩
  · exact owning.inUse other (List.mem_cons_of_mem _ member)
  · obtain ⟨valid, size, inUse, apart⟩ := owning.held entry member
    exact ⟨valid, size, inUse, fun listed => apart (List.mem_cons_of_mem _ listed)⟩

theorem Owning.freed {state : DState P} {block : Nat × Nat}
    (owning : Owning pointeeType base (block :: outside) state)
    (apart : ∀ other ∈ outside, other.1 ≠ block.1) :
    Owning pointeeType base outside { state with blocks := state.blocks.erase block } := by
  have remains {other : Nat × Nat} (listed : other ∈ state.blocks) (different : other ≠ block) :
      other ∈ state.blocks.erase block :=
    (List.mem_erase_of_ne different).mpr listed
  refine ⟨?_, ?_, owning.grown, ?_, owning.separate⟩
  · exact owning.distinct.sublist (List.erase_sublist.map Prod.fst)
  · intro other member
    refine remains (owning.inUse other (List.mem_cons_of_mem _ member)) ?_
    rintro rfl
    exact apart other member rfl
  · intro entry member
    obtain ⟨valid, size, listed, notOutside⟩ := owning.held entry member
    rw [List.mem_cons, not_or] at notOutside
    exact ⟨valid, size, remains listed notOutside.1, notOutside.2⟩

end Owning

section Found

variable (data : Context.Data)

/-- A struct comes in an older form, from which a conversion makes the object. -/
def converts (decl : StructDecl) : Bool :=
  data.interfaceVersionsNotMatch && decl.iSerializable.any fun versioning =>
    getBestCompatInterfaceVersion versioning data.interfaceVersion !=
      getLatestPrivateVersion versioning

mutual
/-- The pointers of an object that the functions of its structs have read. -/
def Ty.pointersRead : (type : Ty P) → type.Obj → List Nat
  | .scalar _, _ => []
  | .pointer _ _, address => [address]
  | .array element _, object =>
      if element.emptyType then []
      else (List.ofFn object).flatMap element.pointersRead
  | .container _ _ element, object =>
      if element.emptyType then [] else object.2.flatMap element.pointersRead
  | .struct decl fields, object =>
      match decl.function with
      | .generic => []
      | .fieldByField .common =>
          if converts data decl then [] else fields.pointersRead object.1
      | .fieldByField _ => fields.pointersRead object.1

def Fields.pointersRead : (fields : Fields P) → fields.Objs → List Nat
  | .nil, _ => []
  | .cons _ field rest, objects =>
      field.pointersRead objects.2.1 ++ rest.pointersRead objects.2.2
end

mutual
theorem Ty.pointersRead_of_plain : (type : Ty P) → type.plain → (object : type.Obj) →
    type.pointersRead data object = []
  | .scalar _, _, _ => rfl
  | .array element _, plain, object => by
      simp only [Ty.plain] at plain
      simp only [Ty.pointersRead, ite_eq_left_iff]
      intro _
      exact List.flatMap_eq_nil_iff.mpr fun part _ =>
        Ty.pointersRead_of_plain element plain part
  | .struct decl fields, plain, object => by
      simp only [Ty.plain] at plain
      have none := Fields.pointersRead_of_plain fields plain object.1
      simp only [Ty.pointersRead, none]
      split
      · rfl
      · exact ite_self _
      · rfl

theorem Fields.pointersRead_of_plain : (fields : Fields P) → fields.plain →
    (objects : fields.Objs) → fields.pointersRead data objects = []
  | .nil, _, _ => rfl
  | .cons _ field rest, plain, objects => by
      simp only [Fields.plain, Bool.and_eq_true] at plain
      simp only [Fields.pointersRead, Ty.pointersRead_of_plain field plain.1,
        Fields.pointersRead_of_plain rest plain.2, List.append_nil]
end

/-- Each pointer other than null is one of those that were assigned, and at no
two places the same. -/
def Covered (pointers : List Nat) (new : List (P × Nat)) : Prop :=
  (pointers.filter (· ≠ 0)).Subperm (new.map Prod.snd)

theorem Covered.nil (new : List (P × Nat)) : Covered [] new :=
  List.nil_subperm

theorem Covered.append {pointers others : List Nat} {early late : List (P × Nat)}
    (covered : Covered pointers early) (othersCovered : Covered others late) :
    Covered (pointers ++ others) (late ++ early) := by
  unfold Covered
  rw [List.filter_append, List.map_append]
  exact (List.Subperm.append covered othersCovered).trans
    List.perm_append_comm.subperm

theorem Covered.mono {pointers fewer : List Nat} {new : List (P × Nat)}
    (covered : Covered pointers new) (subset : fewer.Subperm pointers) : Covered fewer new :=
  (subset.filter _).trans covered

end Found

def isStatus (fault : Fault) : Prop := ∃ status, fault = .status status

/-- However a call returns, the container has got the pointers that it
assigned. -/
abbrev Recorded (pointeeType : P → Ty P) (base : List (Ty P × Nat))
    (outside : List (Nat × Nat)) (proc : DProc P α) (post : α → List (P × Nat) → Prop) :
    Prop :=
  Logs isStatus (Owning pointeeType base outside) (fun state => assigned state.history) proc
    post

section Recorded

variable (ctx : DContext P) {pointeeType : P → Ty P} {base : List (Ty P × Nat)}
  {outside : List (Nat × Nat)}

theorem Recorded.fail (status : Status) (post : α → List (P × Nat) → Prop) :
    Recorded pointeeType base outside (fail status : DProc P α) post :=
  Logs.throw _ _

theorem Recorded.modify {change : DState P → DState P}
    (blocks : ∀ state, (change state).blocks = state.blocks)
    (added : ∀ state, entries (change state) = entries state)
    (history : ∀ state, assigned (change state).history = assigned state.history) :
    Recorded pointeeType base outside (modify change : DProc P PUnit) fun _ new => new = [] :=
  Logs.modify (fun state owning => owning.of_same (blocks state) (added state) (history state))
    history

theorem moveCursor_recorded (change : DState P → Walker) :
    Recorded pointeeType base outside
      (modify fun state => { state with binaryData := change state } : DProc P PUnit)
      fun _ new => new = [] :=
  Recorded.modify (fun _ => rfl) (fun _ => rfl) fun _ => rfl

theorem readArithmeticValue_recorded (size : Width) :
    Recorded pointeeType base outside (readArithmeticValue ctx size) fun _ new => new = [] := by
  refine Logs.get_bind fun state owning => ?_
  refine Logs.ite (fun _ => ?_) (fun _ => Recorded.fail _ _) state owning
  refine (moveCursor_recorded _).bind ?_
  rintro _ _ rfl
  exact Logs.pure rfl

theorem readPrimitive_recorded (size : Width) :
    Recorded pointeeType base outside (readPrimitive ctx size) fun _ new => new = [] := by
  refine (readArithmeticValue_recorded ctx size).bind ?_
  rintro _ _ rfl
  exact Logs.ite (fun _ => Logs.pure rfl) fun _ => Logs.pure rfl

theorem read_recorded (n : Nat) :
    Recorded pointeeType base outside (read ctx n) fun _ new => new = [] := by
  refine Logs.get_bind fun state owning => ?_
  refine Logs.ite (fun _ => Recorded.fail _ _) (fun _ => ?_) state owning
  refine Logs.ite (fun _ => Logs.throw _ _) fun _ => ?_
  refine (moveCursor_recorded _).bind ?_
  rintro _ _ rfl
  exact Logs.pure rfl

/-- Only types without pointers are copied. -/
theorem readRawData_recorded (type : Ty P) (targets : List type.Obj) :
    Recorded pointeeType base outside (readRawData ctx type targets) fun objects new =>
      type.plain ∧ objects.length = targets.length ∧ new = [] := by
  refine Logs.ite (fun plain => ?_) fun _ => Logs.throw _ _
  refine (read_recorded ctx _).bind ?_
  rintro octets _ rfl
  refine Logs.ite (fun _ => ?_) fun _ => Recorded.fail _ _
  exact Logs.pure ⟨plain, length_overwrite _ type octets targets, rfl⟩

theorem readOriginalValue_recorded (original : Width) :
    Recorded pointeeType base outside (readOriginalValue ctx original) fun _ new =>
      new = [] := by
  intro before owning
  have ended := readPrimitive_recorded ctx original before owning
  unfold readOriginalValue
  split
  · rename_i failed ran
    rw [ran] at ended
    exact fun _ => ended ⟨_, rfl⟩
  · exact ended

theorem deserializeFromAnotherSize_recorded (originalTypeSize : Nat) (type : ScalarType) :
    Recorded pointeeType base outside (deserializeFromAnotherSize ctx originalTypeSize type)
      fun _ new => new = [] := by
  unfold deserializeFromAnotherSize
  split
  · exact Recorded.fail _ _
  · refine Logs.ite (fun _ => readPrimitive_recorded ctx _) fun _ => ?_
    refine (readOriginalValue_recorded ctx _).bind ?_
    rintro _ _ rfl
    refine Logs.ite (fun _ => ?_) fun _ => Logs.pure rfl
    split
    · exact Logs.pure rfl
    · exact Recorded.fail _ _

theorem deserializeArithmetic_recorded (type : ScalarType) :
    Recorded pointeeType base outside (deserializeArithmetic ctx type) fun _ new =>
      new = [] := by
  refine Logs.ite (fun _ => ?_) fun _ => readPrimitive_recorded ctx _
  refine (readPrimitive_recorded ctx .one).bind ?_
  rintro _ _ rfl
  simpa only [List.append_nil] using deserializeFromAnotherSize_recorded ctx _ type

theorem deserializeSizeT_recorded :
    Recorded pointeeType base outside (deserializeSizeT ctx) fun _ new => new = [] := by
  refine (deserializeFromAnotherSize_recorded ctx _ _).bind ?_
  rintro _ _ rfl
  exact Logs.pure rfl

theorem registerObject_recorded (type : Ty P) (address : Nat) :
    Recorded pointeeType base outside (registerObject ctx type address) fun _ new =>
      new = [] :=
  Recorded.modify (fun _ => rfl) (fun _ => rfl) fun _ => rfl

section Heap

variable (heap : HeapGivesNew ctx)

include heap

theorem allocate_cases (size : Nat) (state : DState P) :
    allocate ctx size state = .ok none state ∨
      ∃ address, address ≠ 0 ∧ address ∉ state.blocks.map Prod.fst ∧
        allocate ctx size state = .ok (some address)
          { state with
            blocks := (address, wrap ctx.data.platform size) :: state.blocks } := by
  unfold allocate
  rw [bind_of_ok (get_apply state)]
  cases given : ctx.allocate state.blocks (wrap ctx.data.platform size) with
  | none => exact .inl rfl
  | some address =>
      obtain ⟨valid, fresh⟩ := heap _ _ _ given
      exact .inr ⟨address, valid, fresh, rfl⟩

theorem allocate_recorded (size : Nat) :
    Recorded pointeeType base outside (allocate ctx size) fun _ new => new = [] := by
  intro state owning
  rcases allocate_cases ctx heap size state with none | ⟨address, valid, fresh, ran⟩
  · rw [none]
    exact ⟨owning, [], rfl, rfl⟩
  · rw [ran]
    exact ⟨(owning.allocated _ fresh).1, [], rfl, rfl⟩

theorem reserve_recorded (type : Ty P) (storage : Storage) (n : Nat) :
    Recorded pointeeType base outside (reserve ctx type storage n) fun _ new =>
      new = [] := by
  refine Logs.ite (fun _ => ?_) fun _ => Logs.pure rfl
  refine (allocate_recorded ctx heap _).bind ?_
  rintro address _ rfl
  cases address with
  | none => exact Recorded.fail _ _
  | some address => exact Logs.pure rfl

theorem resize_recorded (type : Ty P) (storage : Storage) (n : Nat) :
    Recorded pointeeType base outside (resize ctx type storage n) fun _ new =>
      new = [] := by
  refine Logs.ite (fun _ => ?_) fun _ => Logs.pure rfl
  refine Logs.ite (fun _ => ?_) fun _ => Logs.throw _ _
  refine (allocate_recorded ctx heap _).bind ?_
  rintro address _ rfl
  cases address with
  | none => exact Logs.throw _ _
  | some address => exact Logs.pure rfl

end Heap

def addPointer (type : Ty P) (address : Nat) (state : DState P) : DState P :=
  { state with
    addedPointers := ⟨address, type, ctx.construct type⟩ :: state.addedPointers }

/-- The calls that leave the type of the object keep the record, too; only a
struct in an older form is made by a conversion. -/
structure OwningHandlers (pointeeType : P → Ty P) (handlers : DHandlers P) : Prop where
  pointee : ∀ base outside pointee address state,
    Owning pointeeType base outside (addPointer ctx (pointeeType pointee) address state) →
      (pointee, address) ∈ assigned state.history →
        Logged isStatus (Owning pointeeType base outside)
          (fun state => assigned state.history) (fun _ _ => True) state
          (handlers.pointee pointee address state)
  fromOldStructIfNeed : ∀ base outside decl fields target address,
    Recorded pointeeType base outside
      (handlers.fromOldStructIfNeed decl fields target address) fun handled _ =>
        handled.1 = .noFurtherProcessingRequired →
          ∀ versioning, decl.iSerializable = some versioning →
            getBestCompatInterfaceVersion versioning ctx.data.interfaceVersion ≠
              getLatestPrivateVersion versioning

section Body

variable (heap : HeapGivesNew ctx) (unchecked : ctx.data.checkRecursivePointers = false)
  {handlers : DHandlers P} (owningHandlers : OwningHandlers ctx pointeeType handlers)

theorem assigned_cons {address : Nat} (valid : address ≠ 0) (pointee : P)
    (history : List (Event P)) :
    assigned (.assigned pointee address :: history) =
      (pointee, address) :: assigned history := by
  simp [assigned, valid]

theorem assignNull_recorded (pointee : P) :
    Recorded pointeeType base outside (assignPointer pointee 0) fun _ new => new = [] :=
  Recorded.modify (fun _ => rfl) (fun _ => rfl) fun _ => rfl

theorem Owning.added {state : DState P} {pointee : P} {address size : Nat}
    (owning : Owning pointeeType base outside state) (valid : address ≠ 0)
    (fresh : address ∉ state.blocks.map Prod.fst) {next : DState P}
    (blocks : next.blocks = (address, size) :: state.blocks)
    (added : next.addedPointers = state.addedPointers)
    (history : assigned next.history = (pointee, address) :: assigned state.history) :
    Owning pointeeType base outside (addPointer ctx (pointeeType pointee) address next) := by
  have entriesAdded : entries (addPointer ctx (pointeeType pointee) address next) =
      (pointeeType pointee, address) :: entries state := by
    simp only [entries, addPointer, added, List.map_cons]
  have roomy := (owning.allocated size fresh).1
  refine ⟨?_, ?_, ?_, ?_, ?_⟩
  · simp only [addPointer, blocks]
    exact roomy.distinct
  · simp only [addPointer, blocks]
    exact roomy.inUse
  · rw [entriesAdded, owning.grown]
    simp only [addPointer, history, List.map_cons, List.cons_append]
  · intro entry member
    rw [entriesAdded, List.mem_cons] at member
    simp only [addPointer, blocks]
    rcases member with rfl | member
    · refine ⟨valid, size, List.mem_cons_self, fun listed => fresh ?_⟩
      exact List.mem_map_of_mem (owning.inUse _ listed)
    · exact roomy.held entry member
  · rw [entriesAdded, List.map_cons, List.nodup_cons]
    refine ⟨fun member => fresh ?_, owning.separate⟩
    obtain ⟨entry, listed, same⟩ := List.mem_map.mp member
    obtain ⟨_, size', inUse, _⟩ := owning.held entry listed
    exact List.mem_map.mpr ⟨_, inUse, same⟩

include heap owningHandlers in
theorem newPointer_recorded (pointee : P) :
    Recorded pointeeType base outside (do
      match ← allocate ctx (pointeeType pointee).sizeof with
      | none =>
          assignPointer pointee 0
          fail .errorNoMemory
      | some address =>
          assignPointer pointee address
          registerObject ctx (pointeeType pointee) address
          handlers.pointee pointee address
          return address) fun address new => Covered [address] new := by
  intro state owning
  rcases allocate_cases ctx heap (pointeeType pointee).sizeof state with
    none | ⟨address, valid, fresh, ran⟩
  · rw [bind_of_ok none]
    refine Logs.bind (assignNull_recorded pointee) ?_ state owning
    rintro _ _ rfl
    exact Recorded.fail _ _
  · rw [bind_of_ok ran]
    let granted : DState P :=
      { state with
        blocks := (address, wrap ctx.data.platform (pointeeType pointee).sizeof) ::
          state.blocks }
    let told := final (assignPointer pointee address granted)
    let noted := final (registerObject ctx (pointeeType pointee) address told)
    have tell : assignPointer pointee address granted = .ok () told := rfl
    have note : registerObject ctx (pointeeType pointee) address told = .ok () noted := rfl
    have history : assigned noted.history = (pointee, address) :: assigned state.history :=
      assigned_cons valid pointee state.history
    have called := owningHandlers.pointee base outside pointee address noted
      (owning.added ctx valid fresh rfl rfl history) (by rw [history]; exact List.mem_cons_self)
    simp only
    rw [bind_of_ok tell, bind_of_ok note]
    cases ended : handlers.pointee pointee address noted with
    | error fault after =>
        rw [ended] at called
        rw [bind_of_error ended]
        intro counted
        obtain ⟨kept, new, grown⟩ := called counted
        exact ⟨kept, new ++ [(pointee, address)], by simpa [history] using grown⟩
    | ok value after =>
        rw [ended] at called
        rw [bind_of_ok ended]
        obtain ⟨kept, new, grown, _⟩ := called
        refine ⟨kept, new ++ [(pointee, address)], by simpa [history] using grown, ?_⟩
        unfold Covered
        exact (List.filter_sublist.subperm).trans
          (List.singleton_subperm_iff.mpr (by simp))

include heap unchecked owningHandlers in
/-- A pointer that is not null points to a new object in the container. -/
theorem deserializePointer_recorded (pointee : P) :
    Recorded pointeeType base outside
      (deserializePointer ctx handlers pointeeType pointee) fun address new =>
        Covered [address] new := by
  refine Logs.ite (fun _ => Recorded.fail _ _) fun _ => ?_
  have marker : Recorded pointeeType base outside (readMarker ctx pointee) fun marker new =>
      (marker = .known 0 ∨ marker = .newPointer) ∧ new = [] := by
    unfold readMarker
    rw [unchecked]
    refine (readPrimitive_recorded ctx .one).bind ?_
    rintro _ _ rfl
    exact Logs.ite (fun _ => Logs.pure ⟨.inl rfl, rfl⟩) fun _ => Logs.pure ⟨.inr rfl, rfl⟩
  refine marker.bind ?_
  rintro marker _ ⟨rfl | rfl, rfl⟩
  · refine (assignNull_recorded pointee).bind ?_
    rintro _ _ rfl
    exact Logs.pure (Covered.nil _)
  · simp only [List.append_nil]
    exact newPointer_recorded ctx heap owningHandlers pointee

theorem deserializeElements_recorded (type : Ty P) {found : type.Obj → List Nat}
    {each : type.Obj → Nat → DProc P type.Obj}
    (eachRecorded : ∀ target address, Recorded pointeeType base outside (each target address)
      fun object new => Covered (found object) new) (n : Nat) :
    ∀ address, Recorded pointeeType base outside
      (deserializeElements ctx type each n address) fun objects new =>
        objects.length = n ∧ Covered (objects.flatMap found) new := by
  induction n with
  | zero => exact fun _ => Logs.pure ⟨rfl, Covered.nil _⟩
  | succ n induction =>
      intro address
      refine (registerObject_recorded ctx type address).bind ?_
      rintro _ _ rfl
      refine (eachRecorded _ address).bind fun object early objectCovered => ?_
      refine (induction (address + type.sizeof)).bind ?_
      rintro objects late ⟨length, covered⟩
      refine Logs.pure ⟨by rw [List.length_cons, length], ?_⟩
      simpa only [List.flatMap_cons, List.nil_append, List.append_nil] using
        objectCovered.append covered

theorem deserializeEachFromAnotherSize_recorded (originalTypeSize : Nat)
    (type : ScalarType) (n : Nat) :
    Recorded pointeeType base outside
      (deserializeEachFromAnotherSize ctx originalTypeSize type n) fun values new =>
        values.length = n ∧ new = [] := by
  induction n with
  | zero => exact Logs.pure ⟨rfl, rfl⟩
  | succ n induction =>
      refine (deserializeFromAnotherSize_recorded ctx originalTypeSize type).bind ?_
      rintro _ _ rfl
      refine induction.bind ?_
      rintro values _ ⟨length, rfl⟩
      exact Logs.pure ⟨by rw [List.length_cons, length], rfl⟩

theorem withinRoom_recorded {room n : Nat} {loop : Nat → DProc P (List α)}
    (post : Nat → List α → List (P × Nat) → Prop)
    (loopRecorded : ∀ n, Recorded pointeeType base outside (loop n) (post n)) :
    Recorded pointeeType base outside (withinRoom room n loop) (post n) := by
  refine (loopRecorded _).bind fun objects new holds => ?_
  refine Logs.ite (fun _ => Logs.throw _ _) fun enough => Logs.pure ?_
  rwa [Nat.min_eq_left (Nat.le_of_not_lt enough)] at holds

theorem deserializeArrayCopy_recorded (room : Nat) (type : Ty P)
    (targets : List type.Obj) :
    Recorded pointeeType base outside (deserializeArrayCopy ctx room type targets)
      fun objects new => type.plain ∧ objects.length = targets.length ∧ new = [] := by
  cases type with
  | pointer | array | container | struct => exact readRawData_recorded ctx _ targets
  | scalar type =>
      refine Logs.ite (fun _ => ?_) fun _ => readRawData_recorded ctx _ targets
      refine (readPrimitive_recorded ctx .one).bind ?_
      rintro originalTypeSize _ rfl
      simp only [List.append_nil]
      refine Logs.ite (fun _ => ?_) fun _ => readRawData_recorded ctx _ targets
      refine withinRoom_recorded (fun n values new =>
        (Ty.scalar type : Ty P).plain ∧ values.length = n ∧ new = []) fun n => ?_
      exact (deserializeEachFromAnotherSize_recorded ctx _ type n).weaken
        fun _ _ holds => ⟨rfl, holds⟩

def FoundN (data : Context.Data) (type : Ty P) (n : Nat) (objects : List type.Obj)
    (new : List (P × Nat)) : Prop :=
  objects.length = n ∧
    (type.emptyType = false → Covered (objects.flatMap (type.pointersRead data)) new)

theorem deserializeN_recorded (type : Ty P) {each : type.Obj → Nat → DProc P type.Obj}
    (eachRecorded : ∀ target address, Recorded pointeeType base outside (each target address)
      fun object new => Covered (type.pointersRead ctx.data object) new)
    (targets : List type.Obj) (room address : Nat) :
    Recorded pointeeType base outside (deserializeN ctx type each targets room address)
      (FoundN ctx.data type targets.length) := by
  refine Logs.ite (fun empty => ?_) fun occupied => ?_
  · exact Logs.pure ⟨rfl, fun occupied => absurd empty (by simp [occupied])⟩
  · refine Logs.ite (fun _ => ?_) fun _ => ?_
    · refine (deserializeArrayCopy_recorded ctx room type targets).weaken ?_
      rintro objects _ ⟨plain, length, rfl⟩
      refine ⟨length, fun _ => ?_⟩
      have none : objects.flatMap (type.pointersRead ctx.data) = [] :=
        List.flatMap_eq_nil_iff.mpr fun object _ =>
          Ty.pointersRead_of_plain ctx.data type plain object
      rw [none]
      exact Covered.nil _
    · refine withinRoom_recorded (FoundN ctx.data type) fun n => ?_
      exact (deserializeElements_recorded ctx type eachRecorded n address).weaken
        fun _ _ holds => ⟨holds.1, fun _ => holds.2⟩

include heap in
theorem deserializeEach_recorded (maps : MapsInsert ctx) (type : Ty P)
    {found : type.Obj → List Nat} {each : type.Obj → Nat → DProc P type.Obj}
    (eachRecorded : ∀ target address, Recorded pointeeType base outside (each target address)
      fun object new => Covered (found object) new) (n : Nat) :
    ∀ (objects : List type.Obj) (before : List (P × Nat)),
      Covered (objects.flatMap found) before →
      Recorded pointeeType base outside (deserializeEach ctx type each n objects)
        fun objects new => Covered (objects.flatMap found) (new ++ before) := by
  induction n with
  | zero => exact fun _ _ covered => Logs.pure covered
  | succ n induction =>
      intro objects before covered
      refine Logs.get_bind fun state owning => ?_
      have entered : Recorded pointeeType base outside
          (modify fun state =>
            { state with temporaryDepth := state.temporaryDepth + 1 } : DProc P PUnit)
          fun _ new => new = [] :=
        Recorded.modify (fun _ => rfl) (fun _ => rfl) fun _ => rfl
      have left : Recorded pointeeType base outside
          (modify fun state =>
            { state with temporaryDepth := state.temporaryDepth - 1 } : DProc P PUnit)
          fun _ new => new = [] :=
        Recorded.modify (fun _ => rfl) (fun _ => rfl) fun _ => rfl
      refine Logs.bind entered ?_ state owning
      rintro _ _ rfl
      refine (eachRecorded _ _).bind fun element early elementCovered => ?_
      refine left.bind ?_
      rintro _ _ rfl
      refine (allocate_recorded ctx heap _).bind ?_
      rintro node _ rfl
      cases node with
      | none => exact Logs.throw _ _
      | some _ =>
          have both : Covered ((element :: objects).flatMap found) (early ++ before) := by
            rw [List.flatMap_cons]
            exact (covered.append elementCovered).mono List.perm_append_comm.subperm
          have inserted : Covered
              ((ctx.mapInsert type element objects).flatMap found) (early ++ before) := by
            obtain ⟨part, same, sublist⟩ := maps type element objects
            refine both.mono (List.Subperm.trans ?_ (sublist.flatMap found).subperm)
            exact (same.flatMap_right found).symm.subperm
          exact (induction _ _ inserted).weaken fun _ _ holds => by simpa using holds

include heap in
theorem deserializeTemplate_recorded (maps : MapsInsert ctx) (kind : ContainerKind)
    (type : Ty P) {each : type.Obj → Nat → DProc P type.Obj}
    (eachRecorded : ∀ target address, Recorded pointeeType base outside (each target address)
      fun object new => Covered (type.pointersRead ctx.data object) new)
    (storage : Storage) :
    Recorded pointeeType base outside (deserializeTemplate ctx kind type each storage)
      fun object new => type.emptyType = false →
        Covered (object.2.flatMap (type.pointersRead ctx.data)) new := by
  refine (deserializeSizeT_recorded ctx).bind ?_
  rintro size _ rfl
  have elements (targets : List type.Obj) (room address : Nat) :
      Recorded pointeeType base outside (deserializeN ctx type each targets room address)
        (FoundN ctx.data type targets.length) :=
    deserializeN_recorded ctx type eachRecorded targets room address
  cases kind with
  | vectorT =>
      refine (reserve_recorded ctx heap type storage size).bind ?_
      rintro reserved _ rfl
      refine (elements _ _ _).bind fun objects new holds => Logs.pure ?_
      simpa using holds.2
  | stdVector =>
      refine (resize_recorded ctx heap type storage size).bind ?_
      rintro resized _ rfl
      refine (elements _ _ _).bind fun objects new holds => Logs.pure ?_
      simpa using holds.2
  | stdBasicString =>
      refine (resize_recorded ctx heap type storage size).bind ?_
      rintro resized _ rfl
      refine (elements _ _ _).bind fun objects new holds => Logs.pure fun occupied => ?_
      have covered := holds.2 occupied
      simp only [List.nil_append, List.append_nil]
      exact covered.mono ((List.take_sublist _ _).flatMap _).subperm
  | stdMap =>
      refine (deserializeEach_recorded ctx heap maps type eachRecorded size [] []
        (Covered.nil _)).bind fun objects new holds => Logs.pure fun _ => ?_
      simpa using holds

theorem deserializeSimplyAssignable_recorded (type : Ty P) (target : type.Obj) :
    Recorded pointeeType base outside (deserializeSimplyAssignable ctx type target)
      fun _ new => new = [] := by
  refine Logs.ite (fun _ => Logs.pure rfl) fun _ => ?_
  refine Logs.ite (fun _ => Logs.pure rfl) fun _ => ?_
  refine Logs.ite (fun _ => Logs.pure rfl) fun _ => ?_
  refine Logs.ite (fun _ => ?_) fun _ => Logs.pure rfl
  refine (readRawData_recorded ctx type [target]).bind ?_
  rintro objects _ ⟨_, _, rfl⟩
  exact Logs.pure rfl

theorem deserializeAnySimplyAssignable_recorded (type : Ty P) (target : type.Obj) :
    Recorded pointeeType base outside (deserializeAnySimplyAssignable ctx type target)
      fun result new => (result.isSome → type.plain) ∧ new = [] := by
  rw [deserializeAnySimplyAssignable_eq]
  refine Logs.ite (fun _ => ?_) fun _ => Logs.pure ⟨nofun, rfl⟩
  refine (readRawData_recorded ctx type [target]).bind ?_
  rintro objects _ ⟨plain, _, rfl⟩
  exact Logs.pure ⟨fun _ => plain, rfl⟩

theorem deserializeGeneric_recorded (type : Ty P) (target : type.Obj) :
    Recorded pointeeType base outside (deserializeGeneric ctx type target) fun _ new =>
      new = [] := by
  refine Logs.ite (fun _ => ?_) fun _ => ?_
  · refine (deserializeSimplyAssignable_recorded ctx type target).bind ?_
    rintro result _ rfl
    exact Logs.ite (fun _ => Recorded.fail _ _) fun _ => Logs.pure rfl
  · exact Logs.ite (fun _ => Logs.pure rfl) fun _ => Logs.throw _ _

/-- What a macro has read it has read without a pointer or converted. -/
def FoundWhole (data : Context.Data) (decl : StructDecl) (fields : Fields P)
    (result : Option (Ty.struct decl fields).Obj) (new : List (P × Nat)) : Prop :=
  ∀ object, result = some object →
    Covered ((Ty.struct decl fields).pointersRead data object) new

theorem foundWhole_of_plain {data : Context.Data} {decl : StructDecl} {fields : Fields P}
    {result : Option (Ty.struct decl fields).Obj} {new : List (P × Nat)}
    (plain : result.isSome → (Ty.struct decl fields).plain) :
    FoundWhole data decl fields result new := by
  rintro object rfl
  rw [Ty.pointersRead_of_plain data _ (plain rfl) object]
  exact Covered.nil _

include owningHandlers in
theorem deserializeCommon_recorded (decl : StructDecl) (fields : Fields P)
    (function : decl.function = .fieldByField .common)
    (target : (Ty.struct decl fields).Obj) (address : Nat) :
    Recorded pointeeType base outside
      (deserializeCommon ctx handlers decl fields target address)
      (FoundWhole ctx.data decl fields) := by
  have copies : Recorded pointeeType base outside
      (deserializeAnySimplyAssignable ctx (.struct decl fields) target)
      (FoundWhole ctx.data decl fields) :=
    (deserializeAnySimplyAssignable_recorded ctx (.struct decl fields) target).weaken
      fun _ _ holds => foundWhole_of_plain holds.1
  unfold deserializeCommon
  split
  · rename_i versioning declared notMatch
    refine (owningHandlers.fromOldStructIfNeed base outside decl fields target address).bind ?_
    rintro ⟨status, object⟩ early handled
    refine Logs.ite (fun done => Logs.pure ?_) fun _ => ?_
    · intro found same
      obtain rfl := Option.some.inj same
      have converted : converts ctx.data decl = true := by
        simp [converts, notMatch, declared, handled done versioning declared]
      simp only [Ty.pointersRead, function, converted, if_true]
      exact Covered.nil _
    · refine Logs.ite (fun _ => Recorded.fail _ _) fun _ => ?_
      refine Logs.ite (fun _ => ?_) fun _ => Recorded.fail _ _
      refine (deserializeAnySimplyAssignable_recorded ctx (.struct decl fields) target).weaken ?_
      exact fun _ _ holds => foundWhole_of_plain holds.1
  · exact copies

theorem readFieldsUnless_recorded (decl : StructDecl) (fields : Fields P)
    (target : (Ty.struct decl fields).Obj)
    {start : DProc P (Option (Ty.struct decl fields).Obj)}
    {fieldByField : DProc P fields.Objs}
    (startRecorded : Recorded pointeeType base outside start (FoundWhole ctx.data decl fields))
    (fieldsRecorded : Recorded pointeeType base outside fieldByField fun objects new =>
      Covered ((Ty.struct decl fields).pointersRead ctx.data (objects, target.2)) new) :
    Recorded pointeeType base outside
      (readFieldsUnless decl fields target start fieldByField) fun object new =>
        Covered ((Ty.struct decl fields).pointersRead ctx.data object) new := by
  refine startRecorded.bind fun result early found => ?_
  cases result with
  | some object => exact Logs.pure (found object rfl)
  | none =>
      refine fieldsRecorded.bind fun objects late covered => Logs.pure ?_
      simpa using (Covered.nil early).append covered

include owningHandlers in
theorem deserializeStruct_recorded (decl : StructDecl) (fields : Fields P)
    (target : (Ty.struct decl fields).Obj) (address : Nat)
    {fieldByField : DProc P fields.Objs}
    (fieldsRecorded : Recorded pointeeType base outside fieldByField fun objects new =>
      Covered (fields.pointersRead ctx.data objects) new) :
    Recorded pointeeType base outside
      (deserializeStruct ctx handlers decl fields target address fieldByField)
      fun object new => Covered ((Ty.struct decl fields).pointersRead ctx.data object) new := by
  have members : Recorded pointeeType base outside fieldByField fun objects new =>
      Covered ((Ty.struct decl fields).pointersRead ctx.data (objects, target.2)) new := by
    refine fieldsRecorded.weaken fun objects new covered => ?_
    simp only [Ty.pointersRead]
    split
    · exact Covered.nil _
    · split
      · exact Covered.nil _
      · exact covered
    · exact covered
  unfold deserializeStruct
  cases function : decl.function with
  | generic =>
      refine (deserializeGeneric_recorded ctx (.struct decl fields) target).weaken ?_
      intro object new _
      simp only [Ty.pointersRead, function]
      exact Covered.nil _
  | fieldByField prologue =>
      cases prologue with
      | none =>
          refine members.bind fun objects new covered => Logs.pure ?_
          simpa using covered
      | anySimplyAssignable =>
          refine readFieldsUnless_recorded ctx decl fields target ?_ members
          exact (deserializeAnySimplyAssignable_recorded ctx _ target).weaken
            fun _ _ holds => foundWhole_of_plain holds.1
      | common =>
          exact readFieldsUnless_recorded ctx decl fields target
            (deserializeCommon_recorded ctx owningHandlers decl fields function target address)
            members

end Body

mutual
/-- However a deserialization returns, the container has got the pointers it
assigned; a value it returns holds these and null pointers. -/
theorem deserialize_recorded (heap : HeapGivesNew ctx)
    (unchecked : ctx.data.checkRecursivePointers = false) (maps : MapsInsert ctx)
    {handlers : DHandlers P} (owningHandlers : OwningHandlers ctx pointeeType handlers) :
    (type : Ty P) → (target : type.Obj) → (address : Nat) →
      Recorded pointeeType base outside
        (BodyProcessor.deserialize ctx pointeeType handlers type target address)
        fun object new => Covered (type.pointersRead ctx.data object) new
  | .scalar type, _, _ =>
      (deserializeArithmetic_recorded ctx type).weaken fun _ _ _ => Covered.nil _
  | .pointer _ pointee, _, _ =>
      deserializePointer_recorded ctx heap unchecked owningHandlers pointee
  | .array element length, target, address => by
      simp only [BodyProcessor.deserialize]
      refine (deserializeN_recorded ctx element (deserialize_recorded heap unchecked maps
        owningHandlers element) (List.ofFn target) _ address).bind fun objects new found => ?_
      refine Logs.pure ?_
      have count : objects.length = length := by rw [found.1, List.length_ofFn]
      simp only [Ty.pointersRead, ofFn_getD objects target count]
      split
      · exact Covered.nil _
      · rename_i occupied
        simpa using found.2 (by simpa using occupied)
  | .container kind _ element, target, _ => by
      simp only [BodyProcessor.deserialize]
      refine (deserializeTemplate_recorded ctx heap maps kind element (deserialize_recorded heap
        unchecked maps owningHandlers element) target.1).weaken fun object new found => ?_
      simp only [Ty.pointersRead]
      split
      · exact Covered.nil _
      · rename_i occupied
        exact found (by simpa using occupied)
  | .struct decl fields, target, address => by
      simp only [BodyProcessor.deserialize]
      exact deserializeStruct_recorded ctx owningHandlers decl fields target address
        (deserializeFields_recorded heap unchecked maps owningHandlers fields target.1 address)

theorem deserializeFields_recorded (heap : HeapGivesNew ctx)
    (unchecked : ctx.data.checkRecursivePointers = false) (maps : MapsInsert ctx)
    {handlers : DHandlers P} (owningHandlers : OwningHandlers ctx pointeeType handlers) :
    (fields : Fields P) → (targets : fields.Objs) → (address : Nat) →
      Recorded pointeeType base outside
        (deserializeFields ctx pointeeType handlers fields targets address)
        fun objects new => Covered (fields.pointersRead ctx.data objects) new
  | .nil, _, _ => Logs.pure (Covered.nil _)
  | .cons padding field rest, targets, address => by
      simp only [deserializeFields]
      refine (deserialize_recorded heap unchecked maps owningHandlers field targets.2.1
        (address + padding)).bind fun object early covered => ?_
      refine (deserializeFields_recorded heap unchecked maps owningHandlers rest targets.2.2
        (address + padding + field.sizeof)).bind fun objects late restCovered => ?_
      refine Logs.pure ?_
      simp only [Fields.pointersRead, List.nil_append]
      exact covered.append restCovered
end

section Conversions

variable {target : Ty P}

/-- Nothing is said of the value. -/
abbrev Told (pointeeType : P → Ty P) (base : List (Ty P × Nat)) (proc : DProc P α) : Prop :=
  ∀ outside, Recorded pointeeType base outside proc fun _ _ => True

theorem answer_told (outcome : Except Status α) : Told pointeeType base (answer outcome) := by
  intro outside
  cases outcome with
  | ok value => exact Logs.pure trivial
  | error status => exact Recorded.fail _ _

/-- The block of a temporary is nobody else's for as long as it is used. -/
theorem withTemporary_told (heap : HeapGivesNew ctx) (size : Nat) {use : Nat → DProc P α}
    (uses : ∀ address, Told pointeeType base (use address)) :
    Told pointeeType base (withTemporary ctx size use) := by
  intro outside
  refine Logs.ite (fun _ => ?_) fun _ => ?_
  · intro state owning
    rcases allocate_cases ctx heap size state with none | ⟨address, valid, fresh, ran⟩
    · rw [bind_of_ok none]
      exact Recorded.fail .errorNoMemory (fun _ _ => True) state owning
    · rw [bind_of_ok ran]
      have apart : ∀ other ∈ outside, other.1 ≠ address := by
        rintro other member rfl
        exact fresh (List.mem_map_of_mem (owning.inUse other member))
      have used := uses address _ _ (owning.allocated
        (wrap ctx.data.platform size) fresh).2
      simp only
      cases ended : use address { state with
          blocks := (address, wrap ctx.data.platform size) :: state.blocks } with
      | error fault after =>
          rw [ended] at used
          rw [bind_of_error ended]
          intro counted
          obtain ⟨kept, new, grown⟩ := used counted
          exact ⟨kept.forget, new, grown⟩
      | ok value after =>
          rw [ended] at used
          rw [bind_of_ok ended]
          obtain ⟨kept, new, grown, _⟩ := used
          exact ⟨kept.freed apart, new, grown, trivial⟩
  · refine Logs.get_bind fun state owning => ?_
    exact uses _ outside state owning

theorem convertToUpperVersion_told (heap : HeapGivesNew ctx) : {source : TopStruct P} →
    (chain : FromVersion P target source) → (value : source.type.Obj) → (object : target.Obj) →
      Told pointeeType base (chain.convertToUpperVersion ctx value object)
  | _, .last _ init, value, object => by
      intro outside
      cases init with
      | none => exact Recorded.fail _ _
      | some init => exact answer_told _ outside
  | _, .cons _ initable next init rest, value, object => by
      simp only [FromVersion.convertToUpperVersion]
      refine withTemporary_told ctx heap _ fun _ outside => ?_
      refine Logs.ite (fun _ => ?_) fun _ => Recorded.fail _ _
      refine (answer_told _ outside).bind fun upper _ _ => ?_
      exact (convertToUpperVersion_told heap rest upper object outside).weaken
        fun _ _ _ => trivial

variable {deserialize : (source : TopStruct P) → source.type.Obj → Nat →
    DProc P source.type.Obj}
  (reads : ∀ source object address, Told pointeeType base (deserialize source object address))

include reads

theorem readTemporary_told (source : TopStruct P) (address : Nat) :
    Told pointeeType base (readTemporary ctx deserialize source address) := by
  intro outside
  refine Logs.bind (Recorded.modify (fun _ => rfl) (fun _ => rfl) fun _ => rfl) ?_
  intro _ _ _
  refine (reads source _ address outside).bind fun value _ _ => ?_
  refine Logs.bind (Recorded.modify (fun _ => rfl) (fun _ => rfl) fun _ => rfl) ?_
  exact fun _ _ _ => Logs.pure trivial

theorem start_told (heap : HeapGivesNew ctx) {source : TopStruct P}
    (chain : FromVersion P target source) (object : target.Obj) :
    Told pointeeType base (FromVersion.start ctx deserialize chain object) := by
  refine withTemporary_told ctx heap _ fun address outside => ?_
  refine (readTemporary_told ctx reads source address outside).bind fun value _ _ => ?_
  exact (convertToUpperVersion_told ctx heap chain value object outside).weaken
    fun _ _ _ => trivial

theorem convert_told (heap : HeapGivesNew ctx) (targetVersion : Nat) : {source : TopStruct P} →
    (chain : FromVersion P target source) → (object : target.Obj) →
      Told pointeeType base (chain.convert ctx deserialize targetVersion object)
  | _, .last source init, object => by
      intro outside
      simp only [FromVersion.convert]
      exact Logs.ite (fun _ => Recorded.fail _ _) fun _ =>
        start_told ctx reads heap _ object outside
  | _, .cons source initable next init rest, object => by
      intro outside
      simp only [FromVersion.convert]
      exact Logs.ite (fun _ => convert_told heap targetVersion rest object outside) fun _ =>
        start_told ctx reads heap _ object outside

/-- Only a struct that is not in its latest form is converted. -/
theorem fromOldStructIfNeed_told (heap : HeapGivesNew ctx) (conversions : Conversions P)
    (decl : StructDecl) (fields : Fields P) (object : (Ty.struct decl fields).Obj) :
    Recorded pointeeType base outside
      (fromOldStructIfNeed ctx conversions deserialize decl fields object) fun handled _ =>
        handled.1 = .noFurtherProcessingRequired →
          ∀ versioning, decl.iSerializable = some versioning →
            getBestCompatInterfaceVersion versioning ctx.data.interfaceVersion ≠
              getLatestPrivateVersion versioning := by
  unfold fromOldStructIfNeed
  split
  · exact Logs.pure nofun
  · rename_i versioning declared
    refine Logs.ite (fun _ => Logs.pure nofun) fun older => ?_
    refine Logs.ite (fun _ => Logs.pure nofun) fun _ => ?_
    have certain : ∀ other, decl.iSerializable = some other →
        getBestCompatInterfaceVersion other ctx.data.interfaceVersion ≠
          getLatestPrivateVersion other := by
      intro other same
      rw [declared] at same
      cases same
      exact older
    unfold fromOldStruct
    split
    · exact Logs.pure nofun
    · refine (convert_told ctx reads heap _ _ object outside).bind fun value _ _ => ?_
      exact Logs.pure fun _ => certain

end Conversions

theorem deserializePointee_apply (handlers : DHandlers P) (pointee : P) (address : Nat)
    (state : DState P) :
    deserializePointee ctx pointeeType handlers pointee address state = (do
      let object ← BodyProcessor.deserialize ctx pointeeType handlers (pointeeType pointee)
        (ctx.construct (pointeeType pointee)) address
      modify fun state : DState P =>
        { state with
          addedPointers := state.addedPointers.map fun added =>
            if added.address = address then ⟨address, pointeeType pointee, object⟩
            else added } : DProc P Unit)
      (addPointer ctx (pointeeType pointee) address state) :=
  rfl

/-- The object at the pointer is filled; the entry stays what it is. -/
theorem deserializePointee_logged {handlers : DHandlers P} {pointee : P} {address : Nat}
    (reads : ∀ type object address, Told pointeeType base
      (BodyProcessor.deserialize ctx pointeeType handlers type object address))
    {state : DState P}
    (owning : Owning pointeeType base outside
      (addPointer ctx (pointeeType pointee) address state))
    (told : (pointee, address) ∈ assigned state.history) :
    Logged isStatus (Owning pointeeType base outside) (fun state => assigned state.history)
      (fun _ _ => True) state
      (deserializePointee ctx pointeeType handlers pointee address state) := by
  let begun := addPointer ctx (pointeeType pointee) address state
  have read := reads (pointeeType pointee) (ctx.construct (pointeeType pointee)) address
    outside begun owning
  rw [deserializePointee_apply]
  cases ended : BodyProcessor.deserialize ctx pointeeType handlers (pointeeType pointee)
      (ctx.construct (pointeeType pointee)) address begun with
  | error fault after =>
      rw [ended] at read
      rw [bind_of_error ended]
      exact read
  | ok object after =>
      rw [ended] at read
      rw [bind_of_ok ended]
      obtain ⟨kept, new, grown, _⟩ := read
      have member : (pointeeType pointee, address) ∈ entries after := by
        have listed : (pointee, address) ∈ assigned after.history := by
          rw [show assigned after.history = new ++ assigned begun.history from grown]
          exact List.mem_append_right _ told
        rw [kept.grown]
        exact List.mem_append_left _ (List.mem_map.mpr ⟨_, listed, rfl⟩)
      have unchanged : (after.addedPointers.map fun added =>
            if added.address = address then
              (⟨address, pointeeType pointee, object⟩ : AddedObject P)
            else added).map (fun added => (added.type, added.address)) = entries after := by
        rw [List.map_map]
        apply List.map_congr_left
        intro added listed
        simp only [Function.comp_apply]
        split
        · rename_i same
          refine List.inj_on_of_nodup_map kept.separate member ?_ same.symm
          exact List.mem_map_of_mem listed
        · rfl
      exact ⟨kept.of_same rfl unchanged rfl, new, grown, trivial⟩

theorem ofTypes_owning (heap : HeapGivesNew ctx)
    (unchecked : ctx.data.checkRecursivePointers = false) (maps : MapsInsert ctx)
    (conversions : Conversions P) (fuel : Nat) :
    OwningHandlers ctx pointeeType (DHandlers.ofTypes ctx conversions pointeeType fuel) := by
  induction fuel with
  | zero =>
      refine ⟨fun _ _ _ _ _ _ _ => nofun, fun base outside decl fields target _ => ?_⟩
      exact fromOldStructIfNeed_told ctx (fun _ _ _ _ => Logs.throw _ _) heap conversions decl
        fields target
  | succ fuel induction =>
      have reads (base : List (Ty P × Nat)) (type : Ty P) (object : type.Obj) (address : Nat) :
          Told pointeeType base (BodyProcessor.deserialize ctx pointeeType
            (DHandlers.ofTypes ctx conversions pointeeType fuel) type object address) :=
        fun _ => (deserialize_recorded ctx heap unchecked maps induction type object
          address).weaken fun _ _ _ => trivial
      refine ⟨fun base outside pointee address state owning told => ?_,
        fun base outside decl fields target _ => ?_⟩
      · exact deserializePointee_logged ctx (reads base) owning told
      · exact fromOldStructIfNeed_told ctx (fun source => reads base source.type) heap
          conversions decl fields target

end Recorded

end CommonSerialization.Csp
