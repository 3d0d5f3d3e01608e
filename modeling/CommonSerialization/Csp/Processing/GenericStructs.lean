import CommonSerialization.Csp.Processing.Delivery

namespace CommonSerialization.Csp.BodyProcessor

open Chunks StateExcept

/-! Structs that carry a simply assignable tag and have no function of their
own: when the functions for every type write and read them. -/

/-- A success leaves all the octets in the output, a failure is an error
status. -/
def WritesWhole (proc : SProc Unit) (octets : List UInt8) : Prop :=
  ∀ before,
    match proc before with
    | .ok _ after => after.binaryData = before.binaryData ++ octets
    | .error fault _ => ∃ status, fault = .status status ∧ !statusSuccess status

/-- After a success the object is made of the octets that were consumed. -/
def ReadsObject (platform : Platform) (type : Ty P)
    (proc : DProc P type.Obj) : Prop :=
  ∀ before object after, proc before = .ok object after →
    after.binaryData =
        { before.binaryData with
          offset := before.binaryData.offset + type.sizeof } ∧
      type.image platform object =
        (before.binaryData.vector.drop before.binaryData.offset).take
          type.sizeof

/-- After a success the objects are made of the octets that were consumed. -/
def ReadsWhole (platform : Platform) (type : Ty P) (count : Nat)
    (proc : DProc P (List type.Obj)) : Prop :=
  ∀ before objects after, proc before = .ok objects after →
    after.binaryData =
        { before.binaryData with
          offset := before.binaryData.offset + type.sizeof * count } ∧
      objects.flatMap (type.image platform) =
        (before.binaryData.vector.drop before.binaryData.offset).take
          (type.sizeof * count)

namespace WritesWhole

theorem pure : WritesWhole (Pure.pure ()) [] :=
  fun _ => (List.append_nil _).symm

theorem fail {status : Status} (error : !statusSuccess status)
    (octets : List UInt8) : WritesWhole (fail status) octets :=
  fun _ => ⟨status, rfl, error⟩

theorem bind {first : SProc Unit} {next : Unit → SProc Unit}
    (firstWrites : WritesWhole first octets)
    (nextWrites : WritesWhole (next ()) moreOctets) :
    WritesWhole (first >>= next) (octets ++ moreOctets) := by
  intro before
  have firstOutcome := firstWrites before
  cases ran : first before with
  | error fault middle =>
      rw [ran] at firstOutcome
      rw [bind_of_error ran]
      exact firstOutcome
  | ok value middle =>
      rw [ran] at firstOutcome
      rw [bind_of_ok ran]
      have nextOutcome := nextWrites middle
      cases nextRan : next () middle with
      | error fault after =>
          rw [nextRan] at nextOutcome
          exact nextOutcome
      | ok value after =>
          rw [nextRan] at nextOutcome
          simp only at firstOutcome nextOutcome ⊢
          rw [nextOutcome, firstOutcome, List.append_assoc]

end WritesWhole

section Serialize

variable (ctx : SContext)

theorem pushBackN_writesWhole (octets : List UInt8) :
    WritesWhole (pushBackN ctx octets) octets := by
  intro before
  have spaced (outcome : EStateM.Result Fault SState Unit)
      (ran : addSpaceIfNeed ctx octets.length before = outcome) :
      outcome = .ok () before ∨
        ∃ status, outcome = .error (.status status) before ∧
          !statusSuccess status := by
    subst ran
    simp only [addSpaceIfNeed, bind, EStateM.bind, get_apply]
    split
    · exact .inr ⟨.errorOverflow, rfl, by decide⟩
    · split
      · exact .inl rfl
      · exact .inr ⟨.errorNoMemory, rfl, by decide⟩
  rcases spaced _ rfl with granted | ⟨status, refused, error⟩
  · rw [pushBackN, bind_of_ok granted]
    rfl
  · rw [pushBackN, bind_of_error refused]
    exact ⟨status, rfl, error⟩

theorem writeRawData_writesWhole (type : Ty P) (plain : type.plain)
    (objects : List type.Obj) :
    WritesWhole (writeRawData ctx type objects)
      (objects.flatMap (type.image ctx.data.platform)) := by
  rw [writeRawData, if_pos plain]
  exact pushBackN_writesWhole ctx _

theorem serializeElements_writesWhole (size : Nat)
    {each : α → Nat → SProc Unit} {octets : α → List UInt8}
    (eachWrites : ∀ object address,
      WritesWhole (each object address) (octets object))
    (objects : List α) (address : Nat) :
    WritesWhole (serializeElements ctx size each objects address)
      (objects.flatMap octets) := by
  induction objects generalizing address with
  | nil => exact .pure
  | cons object rest induction =>
      have written : WritesWhole (each object address >>= fun _ =>
            serializeElements ctx size each rest (address + size))
          (octets object ++ rest.flatMap octets) :=
        (eachWrites object address).bind (induction (address + size))
      simp only [serializeElements, List.flatMap_cons]
      split
      · rw [← List.nil_append (octets object ++ _)]
        refine WritesWhole.bind ?_ written
        exact fun before => (List.append_nil _).symm
      · exact written

theorem serializeElements_silent (size : Nat) {each : α → Nat → SProc Unit}
    (silent : ∀ object address before, each object address before =
      .ok () before) (objects : List α) (address : Nat) (before : SState) :
    ∃ after, serializeElements ctx size each objects address before =
        .ok () after ∧ after.binaryData = before.binaryData := by
  induction objects generalizing address before with
  | nil => exact ⟨before, rfl, rfl⟩
  | cons object rest induction =>
      simp only [serializeElements]
      split
      · obtain ⟨after, ran, unchanged⟩ := induction (address + size)
          { before with
            pointersMap :=
              Function.update before.pointersMap address
                before.binaryData.length }
        refine ⟨after, ?_, unchanged⟩
        rw [bind_of_ok (modify_apply _ _), bind_of_ok (silent _ _ _)]
        exact ran
      · obtain ⟨after, ran, unchanged⟩ := induction (address + size) before
        refine ⟨after, ?_, unchanged⟩
        rw [bind_of_ok (silent _ _ _)]
        exact ran

end Serialize

section Deserialize

variable (ctx : DContext P)

theorem readRawData_readsWhole {type : Ty P} (targets : List type.Obj)
    (unwrapped : type.sizeof * targets.length <
      2 ^ ctx.data.platform.addressBits) :
    ReadsWhole ctx.data.platform type targets.length
      (readRawData ctx type targets) := by
  intro before objects after ran
  obtain ⟨plain, octets, sized, rfl, prefixed, walker⟩ :=
    readRawData_eq_ok ctx ran
  rw [wrap, Nat.mod_eq_of_lt unwrapped] at sized
  rw [flatMap_overwrite plain _ octets targets sized, walker, ← sized]
  exact ⟨rfl, prefixed⟩

/-- The number of octets that is asked for is all a success needs. -/
theorem readRawData_wrapped (type : Ty P) (plain : type.plain)
    (targets : List type.Obj) :
    ∃ octets objects after,
      readRawData ctx type targets (.start octets) = .ok objects after ∧
        after.binaryData.offset =
          wrap ctx.data.platform (type.sizeof * targets.length) := by
  let bytesSize := wrap ctx.data.platform (type.sizeof * targets.length)
  have small : bytesSize < 2 ^ ctx.data.platform.addressBits :=
    Nat.mod_lt _ (Nat.two_pow_pos _)
  have length : (List.replicate bytesSize (0 : UInt8)).length = bytesSize :=
    List.length_replicate
  obtain ⟨octets, after, ran, same, walker⟩ :=
    read_reads ctx (List.replicate bytesSize 0)
      (.start (List.replicate bytesSize 0)) [] (by simp [DState.start])
      (by simp [DState.start]) (by simpa [DState.start] using small)
  rw [length] at ran walker
  refine ⟨List.replicate bytesSize 0,
    overwrite ctx.data.platform type octets targets, after, ?_, ?_⟩
  · rw [readRawData, if_pos plain]
    refine (bind_of_ok ran).trans ?_
    rw [if_pos (by rw [same, length])]
    rfl
  · simp [walker, DState.start, bytesSize]

/-- A loop whose elements are all refused ends well only without elements. -/
theorem deserializeElements_refused (type : Ty P)
    {each : type.Obj → Nat → DProc P type.Obj} {status : Status}
    (refused : ∀ target address, each target address = fail status)
    {n address : Nat} {before after : DState P} {objects : List type.Obj}
    (ran : deserializeElements ctx type each n address before =
      .ok objects after) : n = 0 := by
  cases n with
  | zero => rfl
  | succ n =>
      obtain ⟨_, registered, _, rest⟩ := bind_eq_ok ran
      rw [refused] at rest
      cases rest

theorem deserializeElements_silent (type : Ty P)
    {each : type.Obj → Nat → DProc P type.Obj}
    (silent : ∀ target address before, each target address before =
      .ok target before) (n address : Nat) (before : DState P) :
    ∃ after, deserializeElements ctx type each n address before =
        .ok (List.replicate n (ctx.construct type)) after ∧
      after.binaryData = before.binaryData := by
  induction n generalizing address before with
  | zero => exact ⟨before, rfl, rfl⟩
  | succ n induction =>
      obtain ⟨registered, ran, walker⟩ :
          ∃ after, registerObject ctx type address before = .ok () after ∧
            after.binaryData = before.binaryData := ⟨_, rfl, rfl⟩
      obtain ⟨after, rest, unchanged⟩ :=
        induction (address + type.sizeof) registered
      refine ⟨after, ?_, by rw [unchanged, walker]⟩
      rw [deserializeElements, bind_of_ok ran, bind_of_ok (silent _ _ _),
        bind_of_ok rest]
      rfl

end Deserialize

section Generic

variable (data : Context.Data) (decl : StructDecl) (fields : Fields P)
  (generic : decl.function = .generic)
  (tagged : (Ty.struct decl fields).anySimplyAssignable)
  (plain : fields.plain) (inhabited : 0 < (Ty.struct decl fields).sizeof)

include tagged generic

theorem serialize_generic_eq (ctx : SContext) (handlers : SHandlers P)
    (object : (Ty.struct decl fields).Obj) (address : Nat) :
    serialize ctx handlers (.struct decl fields) object address =
      if copiesStruct ctx.data (.struct decl fields) then
        writeRawData ctx (.struct decl fields) [object]
      else if leavesToFields ctx.data (.struct decl fields) then
        return ()
      else
        fail .errorNotSupportedSerializationSettingsForStruct := by
  simp only [serialize, serializeStruct, generic, serializeGeneric, tagged,
    serializeSimplyAssignable_eq]
  cases copiesStruct ctx.data (.struct decl fields) <;>
    cases leavesToFields ctx.data (.struct decl fields) <;>
    simp [statusSuccess, Status.code]

theorem deserialize_generic_eq (ctx : DContext P) (pointeeType : P → Ty P)
    (handlers : DHandlers P) (target : (Ty.struct decl fields).Obj)
    (address : Nat) :
    deserialize ctx pointeeType handlers (.struct decl fields) target address =
      if copiesStruct ctx.data (.struct decl fields) then do
        let objects ← readRawData ctx (.struct decl fields) [target]
        return objects.headD target
      else if leavesToFields ctx.data (.struct decl fields) then
        return target
      else
        fail .errorNotSupportedSerializationSettingsForStruct := by
  simp only [deserialize, deserializeStruct, generic, deserializeGeneric,
    tagged, deserializeSimplyAssignable_eq]
  cases copiesStruct ctx.data (.struct decl fields) <;>
    cases leavesToFields ctx.data (.struct decl fields) <;>
    simp [statusSuccess, Status.code]

omit tagged generic in
theorem copiesStruct_of_leavesToFields {type : Ty P}
    (leaves : leavesToFields data type = true) :
    copiesStruct data type = false := by
  simp [copiesStruct, leaves]

include plain inhabited

theorem serialize_writesWhole_iff (object : (Ty.struct decl fields).Obj) :
    (∀ (ctx : SContext) (handlers : SHandlers P) (address : Nat),
      ctx.data = data →
        WritesWhole (serialize ctx handlers (.struct decl fields) object address)
          ((Ty.struct decl fields).image data.platform object)) ↔
      leavesToFields data (.struct decl fields) = false := by
  constructor
  · intro writes
    by_contra leaves
    rw [Bool.not_eq_false] at leaves
    have written := writes (.unbounded data) .none 0 rfl .empty
    have copies := copiesStruct_of_leavesToFields data leaves
    rw [serialize_generic_eq decl fields generic tagged,
      SContext.unbounded_data, copies,
      if_neg (by decide), if_pos leaves] at written
    have octets : (Ty.struct decl fields).image data.platform object = [] :=
      written.symm
    have length := Ty.length_image data.platform (.struct decl fields) plain
      object
    rw [octets, List.length_nil] at length
    omega
  · intro decided ctx handlers address same
    subst same
    rw [serialize_generic_eq decl fields generic tagged]
    split
    · have whole :=
        writeRawData_writesWhole ctx (.struct decl fields) plain [object]
      simpa only [List.flatMap_cons, List.flatMap_nil, List.append_nil]
        using whole
    · rw [if_neg (by simp [decided])]
      exact .fail (by decide) _

theorem serializeN_writesWhole_iff
    (objects : List (Ty.struct decl fields).Obj) :
    (∀ (ctx : SContext) (handlers : SHandlers P) (address : Nat),
      ctx.data = data →
        WritesWhole
          (serializeN ctx (.struct decl fields)
            (serialize ctx handlers (.struct decl fields)) objects address)
          (objects.flatMap ((Ty.struct decl fields).image data.platform))) ↔
      objects = [] ∨ (Ty.struct decl fields).emptyType = false ∧
        leavesToFields data (.struct decl fields) = false := by
  have sized := Ty.length_image data.platform (.struct decl fields) plain
  constructor
  · intro writes
    have written := writes (.unbounded data) .none 0 rfl .empty
    have silent (after : SState)
        (ran : serializeN (.unbounded data) (.struct decl fields)
          (serialize (.unbounded data) .none (.struct decl fields)) objects 0
          .empty = .ok () after) (unchanged : after.binaryData = []) :
        objects = [] := by
      rw [ran] at written
      have octets : objects.flatMap
          ((Ty.struct decl fields).image data.platform) = [] := by
        rw [← unchanged]
        exact written.symm
      have length := length_flatMap fun object (_ : object ∈ objects) =>
        sized object
      rw [octets, List.length_nil] at length
      rcases Nat.mul_eq_zero.mp length.symm with zero | none
      · omega
      · exact List.length_eq_zero_iff.mp none
    by_cases empty : (Ty.struct decl fields).emptyType
    · left
      exact silent .empty (by rw [serializeN, if_pos empty]; rfl) rfl
    · by_cases leaves : leavesToFields data (.struct decl fields)
      · left
        have copies := copiesStruct_of_leavesToFields data leaves
        have each (object : (Ty.struct decl fields).Obj) (address : Nat)
            (before : SState) :
            serialize (.unbounded data) .none (.struct decl fields) object
              address before = .ok () before := by
          rw [serialize_generic_eq decl fields generic tagged,
            SContext.unbounded_data, copies,
            if_neg (by decide), if_pos leaves]
          rfl
        obtain ⟨after, ran, unchanged⟩ :=
          serializeElements_silent (.unbounded data)
            (Ty.struct decl fields).sizeof each objects 0 .empty
        refine silent after ?_ unchanged
        rw [serializeN, if_neg empty, copiesArray_struct,
          SContext.unbounded_data, copies,
          if_neg (by decide)]
        exact ran
      · exact .inr ⟨by simpa using empty, by simpa using leaves⟩
  · intro condition ctx handlers address same
    subst same
    unfold serializeN
    split
    · rename_i empty
      rcases condition with rfl | ⟨inhabited, _⟩
      · exact .pure
      · rw [empty] at inhabited
        cases inhabited
    · rw [copiesArray_struct]
      split
      · exact writeRawData_writesWhole ctx (.struct decl fields) plain objects
      · rename_i loops
        rcases condition with rfl | ⟨_, decided⟩
        · exact .pure
        · refine serializeElements_writesWhole ctx _ (fun object address => ?_)
            objects address
          rw [serialize_generic_eq decl fields generic tagged, if_neg loops,
            if_neg (by simp [decided])]
          exact .fail (by decide) _

omit plain in
theorem deserialize_readsObject_iff
    (bounded : (Ty.struct decl fields).sizeof < 2 ^ data.platform.addressBits)
    (target : (Ty.struct decl fields).Obj) :
    (∀ (ctx : DContext P) (pointeeType : P → Ty P) (handlers : DHandlers P)
        (address : Nat), ctx.data = data →
      ReadsObject data.platform (.struct decl fields)
        (deserialize ctx pointeeType handlers (.struct decl fields) target
          address)) ↔
      leavesToFields data (.struct decl fields) = false := by
  constructor
  · intro reads
    by_contra leaves
    rw [Bool.not_eq_false] at leaves
    have copies := copiesStruct_of_leavesToFields data leaves
    have silent : deserialize (.unbounded data) (fun _ => .struct decl fields)
        .none (.struct decl fields) target 0 (.start []) =
          .ok target (.start []) := by
      rw [deserialize_generic_eq decl fields generic tagged,
        DContext.unbounded_data,
        copies, if_neg (by decide), if_pos leaves]
      rfl
    have walker := (reads _ _ _ _ rfl _ _ _ silent).1
    have offset := congrArg Walker.offset walker
    simp only [DState.start] at offset
    omega
  · intro decided ctx pointeeType handlers address same
    subst same
    intro before object after ran
    rw [deserialize_generic_eq decl fields generic tagged] at ran
    split at ran
    · obtain ⟨objects, state, readObjects, chosen⟩ := bind_eq_ok ran
      cases chosen
      obtain ⟨walker, images⟩ := readRawData_readsWhole ctx [target]
        (by simpa using bounded) _ _ _ readObjects
      have count := readRawData_length ctx readObjects
      obtain ⟨only, rfl⟩ := List.length_eq_one_iff.mp count
      simpa using And.intro walker images
    · rw [if_neg (by simp [decided])] at ran
      cases ran

section Runs

variable (targets : List (Ty.struct decl fields).Obj)

omit plain inhabited in
theorem deserializeN_handedOver (notEmpty : (Ty.struct decl fields).emptyType = false)
    (leaves : leavesToFields data (.struct decl fields)) :
    ∃ objects after, deserializeN (.unbounded data) (.struct decl fields)
        (deserialize (.unbounded data) (fun _ => .struct decl fields) .none
          (.struct decl fields)) targets targets.length 0 (.start []) = .ok objects after ∧
      after.binaryData.offset = 0 := by
  have copies := copiesStruct_of_leavesToFields data leaves
  have each (target : (Ty.struct decl fields).Obj) (address : Nat) (before : DState P) :
      deserialize (.unbounded data) (fun _ => .struct decl fields) .none
        (.struct decl fields) target address before = .ok target before := by
    rw [deserialize_generic_eq decl fields generic tagged, DContext.unbounded_data, copies,
      if_neg (by decide), if_pos leaves]
    rfl
  obtain ⟨after, ran, unchanged⟩ :=
    deserializeElements_silent (.unbounded data) (.struct decl fields) each
      targets.length 0 (.start [])
  refine ⟨?objects, after, ?ran, ?nothing⟩
  case ran =>
    rw [deserializeN, notEmpty, if_neg (by decide), copiesArray_struct,
      DContext.unbounded_data, copies, if_neg (by decide), withinRoom, Nat.min_self,
      bind_of_ok ran, if_neg (by omega)]
    rfl
  case nothing =>
    rw [unchanged]
    rfl

omit generic tagged inhabited in
/-- Elements that are copied: what their size in octets is after it has wrapped is read. -/
theorem deserializeN_wrapped (notEmpty : (Ty.struct decl fields).emptyType = false)
    (copies : copiesStruct data (.struct decl fields)) :
    ∃ octets objects after, deserializeN (.unbounded data) (.struct decl fields)
        (deserialize (.unbounded data) (fun _ => .struct decl fields) .none
          (.struct decl fields)) targets targets.length 0 (.start octets) =
        .ok objects after ∧
      after.binaryData.offset =
        (Ty.struct decl fields).sizeof * targets.length % 2 ^ data.platform.addressBits := by
  obtain ⟨octets, objects, after, ran, walker⟩ :=
    readRawData_wrapped (.unbounded data) (.struct decl fields) plain targets
  refine ⟨octets, objects, after, ?_, walker⟩
  rw [deserializeN, notEmpty, if_neg (by decide), copiesArray_struct,
    DContext.unbounded_data, if_pos copies]
  exact ran

omit plain inhabited in
theorem deserializeN_readsWhole
    (condition : targets = [] ∨ (Ty.struct decl fields).emptyType = false ∧
      leavesToFields data (.struct decl fields) = false ∧
      (copiesStruct data (.struct decl fields) →
        (Ty.struct decl fields).sizeof * targets.length < 2 ^ data.platform.addressBits))
    (ctx : DContext P) (pointeeType : P → Ty P) (handlers : DHandlers P) (room address : Nat)
    (same : ctx.data = data) :
    ReadsWhole data.platform (.struct decl fields) targets.length
      (deserializeN ctx (.struct decl fields)
        (deserialize ctx pointeeType handlers (.struct decl fields)) targets
        room address) := by
  subst same
  have unwrapped (copies : copiesStruct ctx.data (.struct decl fields)) :
      (Ty.struct decl fields).sizeof * targets.length <
        2 ^ ctx.data.platform.addressBits := by
    rcases condition with rfl | ⟨_, _, fits⟩
    · exact Nat.two_pow_pos _
    · exact fits copies
  intro before objects after ran
  unfold deserializeN at ran
  split at ran
  · rename_i empty
    rcases condition with rfl | ⟨inhabited, _⟩
    · cases ran
      simp
    · rw [empty] at inhabited
      cases inhabited
  · rw [copiesArray_struct] at ran
    split at ran
    · rename_i copies
      exact readRawData_readsWhole ctx targets (unwrapped copies) _ _ _ ran
    · rename_i loops
      obtain ⟨_, looped⟩ := withinRoom_eq_ok ran
      rcases condition with rfl | ⟨_, decided, _⟩
      · cases looped
        simp
      · have refused (target : (Ty.struct decl fields).Obj) (address : Nat) :
            deserialize ctx pointeeType handlers (.struct decl fields) target
                address =
              fail .errorNotSupportedSerializationSettingsForStruct := by
          rw [deserialize_generic_eq decl fields generic tagged,
            if_neg loops, if_neg (by simp [decided])]
        have count := deserializeElements_refused ctx (.struct decl fields)
          refused looped
        rw [count] at looped
        cases looped
        simp [count]

end Runs

theorem deserializeN_readsWhole_iff
    (targets : List (Ty.struct decl fields).Obj) :
    (∀ (ctx : DContext P) (pointeeType : P → Ty P) (handlers : DHandlers P)
        (room address : Nat), ctx.data = data →
      ReadsWhole data.platform (.struct decl fields) targets.length
        (deserializeN ctx (.struct decl fields)
          (deserialize ctx pointeeType handlers (.struct decl fields)) targets
          room address)) ↔
      targets = [] ∨ (Ty.struct decl fields).emptyType = false ∧
        leavesToFields data (.struct decl fields) = false ∧
        (copiesStruct data (.struct decl fields) →
          (Ty.struct decl fields).sizeof * targets.length <
            2 ^ data.platform.addressBits) := by
  constructor
  · intro reads
    by_cases none : targets = []
    · exact .inl none
    right
    have some : 0 < (Ty.struct decl fields).sizeof * targets.length :=
      Nat.mul_pos inhabited (List.length_pos_iff.mpr none)
    have consumes (octets : List UInt8) (objects : List _) (after : DState P)
        (ran : deserializeN (.unbounded data) (.struct decl fields)
          (deserialize (.unbounded data) (fun _ => .struct decl fields) .none
            (.struct decl fields)) targets targets.length 0 (.start octets) =
          .ok objects after) :
        after.binaryData.offset =
          (Ty.struct decl fields).sizeof * targets.length := by
      rw [(reads _ _ _ _ _ rfl _ _ _ ran).1]
      simp [DState.start]
    have notEmpty : (Ty.struct decl fields).emptyType = false := by
      by_contra empty
      rw [Bool.not_eq_false] at empty
      have moved := consumes [] targets (.start []) (by
        rw [deserializeN, if_pos empty]
        rfl)
      simp only [DState.start] at moved
      omega
    refine ⟨notEmpty, ?_, ?_⟩
    · by_contra leaves
      rw [Bool.not_eq_false] at leaves
      obtain ⟨objects, after, ran, walker⟩ :=
        deserializeN_handedOver data decl fields generic tagged targets notEmpty leaves
      have moved := consumes _ _ _ ran
      omega
    · intro copies
      obtain ⟨octets, objects, after, ran, walker⟩ :=
        deserializeN_wrapped data decl fields plain targets notEmpty copies
      have moved := consumes _ _ _ ran
      have small := Nat.mod_lt ((Ty.struct decl fields).sizeof * targets.length)
        (Nat.two_pow_pos data.platform.addressBits)
      omega
  · exact deserializeN_readsWhole data decl fields generic tagged targets

/-- The generic functions keep a tagged struct, alone and in arrays and
vectors, exactly when nothing hands it over to functions for its fields; in an
array it must not be tagged empty, and the size in octets of the array being
read must not wrap around. -/
theorem generic_keeps_value_iff
    (bounded : (Ty.struct decl fields).sizeof < 2 ^ data.platform.addressBits) :
    (∀ object : (Ty.struct decl fields).Obj,
      (∀ (ctx : SContext) (handlers : SHandlers P) (address : Nat),
        ctx.data = data →
          WritesWhole
            (serialize ctx handlers (.struct decl fields) object address)
            ((Ty.struct decl fields).image data.platform object)) ↔
        leavesToFields data (.struct decl fields) = false) ∧
    (∀ objects : List (Ty.struct decl fields).Obj,
      (∀ (ctx : SContext) (handlers : SHandlers P) (address : Nat),
        ctx.data = data →
          WritesWhole
            (serializeN ctx (.struct decl fields)
              (serialize ctx handlers (.struct decl fields)) objects address)
            (objects.flatMap
              ((Ty.struct decl fields).image data.platform))) ↔
        objects = [] ∨ (Ty.struct decl fields).emptyType = false ∧
          leavesToFields data (.struct decl fields) = false) ∧
    (∀ target : (Ty.struct decl fields).Obj,
      (∀ (ctx : DContext P) (pointeeType : P → Ty P) (handlers : DHandlers P)
          (address : Nat), ctx.data = data →
        ReadsObject data.platform (.struct decl fields)
          (deserialize ctx pointeeType handlers (.struct decl fields) target
            address)) ↔
        leavesToFields data (.struct decl fields) = false) ∧
    (∀ targets : List (Ty.struct decl fields).Obj,
      (∀ (ctx : DContext P) (pointeeType : P → Ty P) (handlers : DHandlers P)
          (room address : Nat), ctx.data = data →
        ReadsWhole data.platform (.struct decl fields) targets.length
          (deserializeN ctx (.struct decl fields)
            (deserialize ctx pointeeType handlers (.struct decl fields)) targets
            room address)) ↔
        targets = [] ∨ (Ty.struct decl fields).emptyType = false ∧
          leavesToFields data (.struct decl fields) = false ∧
          (copiesStruct data (.struct decl fields) →
            (Ty.struct decl fields).sizeof * targets.length <
              2 ^ data.platform.addressBits)) :=
  ⟨serialize_writesWhole_iff data decl fields generic tagged plain inhabited,
    serializeN_writesWhole_iff data decl fields generic tagged plain inhabited,
    deserialize_readsObject_iff data decl fields generic tagged inhabited
      bounded,
    deserializeN_readsWhole_iff data decl fields generic tagged plain
      inhabited⟩

end Generic

section Counter

private def counterContext (commonFlags : BitVec 32) : Context.Data where
  platform := ⟨false, false⟩
  protocolVersion := 1
  messageType := .data
  commonFlags := .ofUInt32 commonFlags
  dataFlags := .ofUInt32 0
  interfaceVersion := 1
  interfaceVersionsNotMatch := false
  isHeapUsedForTemp := true

private def counterTy : Ty Empty :=
  .struct ⟨0, { Tags.none with simplyAssignable := true }, 4, 0, none, .generic⟩
    (.cons 0 (.scalar (.integral .unsignedInt .four false)) .nil)

private def counter : counterTy.Obj := ((nofun, 7#32, ()), nofun)

theorem generic_keeps_counter :
    WritesWhole
      (serialize (.unbounded (counterContext 0)) .none counterTy counter 0)
      (counterTy.image ⟨false, false⟩ counter) := by
  have kept := generic_keeps_value_iff (counterContext 0) _ _ rfl rfl rfl
    (by decide) (by decide : counterTy.sizeof < 2 ^ 64)
  exact (kept.1 counter).mpr rfl (.unbounded (counterContext 0)) .none 0 rfl

/-- With the endianness difference flag the struct is lost on both sides, and
both sides report success. -/
theorem generic_loses_counter :
    (counterContext 4).endiannessNotMatch = false ∧
      ¬WritesWhole
        (serialize (.unbounded (counterContext 4)) .none counterTy counter 0)
        (counterTy.image ⟨false, false⟩ counter) ∧
      serialize (.unbounded (counterContext 4)) .none counterTy counter 0
        .empty = .ok () .empty ∧
      deserialize (.unbounded (counterContext 4)) Empty.elim .none counterTy
        counter 0 (.start [9, 0, 0, 0]) = .ok counter (.start [9, 0, 0, 0]) := by
  refine ⟨rfl, ?_, rfl, rfl⟩
  intro writes
  have nothing : ([] : List UInt8) = [7, 0, 0, 0] := writes .empty
  cases nothing

end Counter

end CommonSerialization.Csp.BodyProcessor
