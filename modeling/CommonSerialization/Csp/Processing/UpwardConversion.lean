import CommonSerialization.Csp.Processing.DownwardConversion
import CommonSerialization.Csp.Processing.FlagEnforcement

namespace CommonSerialization.Csp

open BodyProcessor VersionConverter StateExcept

/-! `FromVersion`: a struct is read in the form it has in the message, which is
then converted from version to version. -/

section Chain

variable {target : Ty P}

/-- The versions of the forms of a chain, the oldest first. -/
def FromVersion.versions : {source : TopStruct P} → FromVersion P target source → List Nat
  | source, .last _ _ => [getLatestPrivateVersion source.versioning]
  | source, .cons _ _ _ _ rest =>
      getLatestPrivateVersion source.versioning :: FromVersion.versions rest

/-- Each form is made from the one before it and from no other. -/
def FromVersion.Stepwise : {source : TopStruct P} → FromVersion P target source → Prop
  | _, .last _ init => init.isSome = true
  | _, .cons _ initable _ _ rest => initable = false ∧ FromVersion.Stepwise rest

/-- The chain from the form on that a message of a version has. -/
def FromVersion.skip (targetVersion : Nat) : {source : TopStruct P} →
    FromVersion P target source → Σ source, FromVersion P target source
  | _, .last source init => ⟨source, .last source init⟩
  | _, .cons source initable next init rest =>
      if getLatestPrivateVersion next.versioning ≤ targetVersion then
        FromVersion.skip targetVersion rest
      else
        ⟨source, .cons source initable next init rest⟩

def FromVersion.length : {source : TopStruct P} → FromVersion P target source → Nat
  | _, .last _ _ => 1
  | _, .cons _ _ _ _ rest => FromVersion.length rest + 1

def FromVersion.composed : {source : TopStruct P} → FromVersion P target source →
    source.type.Obj → target.Obj → Except Status target.Obj
  | _, .last _ init, source, object =>
      match init with
      | some init => init source object
      | none => .error .errorNoSuchHandler
  | _, .cons _ _ _ init rest, source, object => do
      let upper ← init source
      FromVersion.composed rest upper object

theorem FromVersion.head_versions {source : TopStruct P}
    (chain : FromVersion P target source) :
    ∃ newer, FromVersion.versions chain =
      getLatestPrivateVersion source.versioning :: newer := by
  cases chain with
  | last source init => exact ⟨[], rfl⟩
  | cons source initable next init rest => exact ⟨_, rfl⟩

/-- The form that is read is the newest one that the version knows. -/
theorem FromVersion.skip_isGreatest {targetVersion : Nat} : {source : TopStruct P} →
    (chain : FromVersion P target source) →
    (FromVersion.versions chain).Pairwise (· < ·) →
    getLatestPrivateVersion source.versioning ≤ targetVersion →
    IsGreatest
      {version | version ∈ FromVersion.versions chain ∧ version ≤ targetVersion}
      (getLatestPrivateVersion (FromVersion.skip targetVersion chain).1.versioning)
  | _, .last source init, _, known => by
      refine ⟨⟨List.mem_singleton.mpr rfl, known⟩, ?_⟩
      rintro version ⟨member, _⟩
      rw [List.mem_singleton.mp member]
      exact Nat.le_refl _
  | _, .cons source initable next init rest, increasing, known => by
      obtain ⟨below, restIncreasing⟩ := List.pairwise_cons.mp increasing
      simp only [FromVersion.skip]
      split
      · rename_i newer
        obtain ⟨⟨member, reached⟩, greatest⟩ :=
          FromVersion.skip_isGreatest rest restIncreasing newer
        refine ⟨⟨List.mem_cons_of_mem _ member, reached⟩, ?_⟩
        rintro version ⟨listed, bounded⟩
        rcases List.mem_cons.mp listed with rfl | inRest
        · exact Nat.le_of_lt (below _ member)
        · exact greatest ⟨inRest, bounded⟩
      · rename_i reached
        refine ⟨⟨List.mem_cons_self, known⟩, ?_⟩
        rintro version ⟨listed, bounded⟩
        rcases List.mem_cons.mp listed with rfl | inRest
        · exact Nat.le_refl _
        · obtain ⟨newer, versions⟩ := FromVersion.head_versions rest
          rw [versions] at inRest restIncreasing
          rcases List.mem_cons.mp inRest with rfl | later
          · exact absurd bounded reached
          · have above := (List.pairwise_cons.mp restIncreasing).1 version later
            exact absurd (Nat.le_trans (Nat.le_of_lt above) bounded) reached

theorem FromVersion.stepwise_skip {targetVersion : Nat} : {source : TopStruct P} →
    (chain : FromVersion P target source) → FromVersion.Stepwise chain →
    FromVersion.Stepwise (FromVersion.skip targetVersion chain).2
  | _, .last source init, stepwise => stepwise
  | _, .cons source initable next init rest, stepwise => by
      simp only [FromVersion.skip]
      by_cases newer : getLatestPrivateVersion next.versioning ≤ targetVersion
      · rw [if_pos newer]
        exact FromVersion.stepwise_skip rest stepwise.2
      · rw [if_neg newer]
        exact stepwise

end Chain

section Temporaries

variable {ctx : DContext P}

/-- A computation that looks at nothing ends as an outcome says; it leaves the
state as it was when it succeeds. -/
def Answers (proc : DProc P α) : Except Status α → Prop
  | .ok value => ∀ state, proc state = .ok value state
  | .error status => ∀ state, ∃ after, proc state = .error (.status status) after

theorem answer_answers (outcome : Except Status α) :
    Answers (answer outcome : DProc P α) outcome := by
  cases outcome with
  | ok value => exact fun _ => rfl
  | error status => exact fun state => ⟨state, rfl⟩

theorem allocate_of_granted (granted : HeapGrants ctx) (size : Nat) (state : DState P) :
    ∃ address, allocate ctx size state = .ok (some address)
      { state with
        blocks := (address, wrap ctx.data.platform size) :: state.blocks } := by
  obtain ⟨address, found⟩ := granted state.blocks (wrap ctx.data.platform size)
  refine ⟨address, ?_⟩
  simp only [allocate, bind, EStateM.bind, get_apply, found]
  rfl

/-- A temporary that nobody looks at leaves no trace. -/
theorem withTemporary_answers (granted : HeapGrants ctx) {size : Nat}
    {use : Nat → DProc P α} {outcome : Except Status α}
    (uses : ∀ address, Answers (use address) outcome) :
    Answers (withTemporary ctx size use) outcome := by
  unfold withTemporary
  by_cases heap : ctx.data.isHeapUsedForTemp = true
  · rw [if_pos heap]
    cases outcome with
    | ok value =>
        intro state
        obtain ⟨address, allocated⟩ := allocate_of_granted granted size state
        rw [bind_of_ok allocated]
        simp only
        rw [bind_of_ok (uses address _), bind_of_ok (modify_apply _ _)]
        simp only [List.erase_cons_head, pure_apply]
    | error status =>
        intro state
        obtain ⟨address, allocated⟩ := allocate_of_granted granted size state
        obtain ⟨after, failed⟩ := uses address
          { state with blocks := (address, wrap ctx.data.platform size) :: state.blocks }
        rw [bind_of_ok allocated]
        exact ⟨after, bind_of_error failed⟩
  · rw [if_neg heap]
    cases outcome with
    | ok value => exact fun state => uses _ state
    | error status => exact fun state => uses _ state

theorem FromVersion.length_pos {target : Ty P} {source : TopStruct P}
    (chain : FromVersion P target source) : 0 < FromVersion.length chain := by
  cases chain with
  | last source init => exact Nat.zero_lt_one
  | cons source initable next init rest => exact Nat.zero_lt_succ _

/-- A chain of more than two forms is never gone through: its first step asks
for an `init` that only the newest form gives the target. -/
theorem FromVersion.convertToUpperVersion_answers (granted : HeapGrants ctx)
    {target : Ty P} {source : TopStruct P} (chain : FromVersion P target source)
    (stepwise : FromVersion.Stepwise chain) (value : source.type.Obj)
    (object : target.Obj) :
    Answers (chain.convertToUpperVersion ctx value object)
      (if FromVersion.length chain ≤ 2 then FromVersion.composed chain value object
      else .error .errorNoSuchHandler) := by
  cases chain with
  | last source init =>
      obtain ⟨init, rfl⟩ := Option.isSome_iff_exists.mp stepwise
      exact answer_answers (init value object)
  | cons source initable next init rest =>
      simp only [FromVersion.convertToUpperVersion]
      refine withTemporary_answers granted fun address => ?_
      cases rest with
      | last next last =>
          obtain ⟨last, rfl⟩ := Option.isSome_iff_exists.mp stepwise.2
          have both := answer_answers (P := P) (do
            let upper ← init value
            last upper object)
          rw [answer_bind] at both
          exact both
      | cons next nextInitable newer nextInit newest =>
          have missing : FromVersion.initable
              (.cons next nextInitable newer nextInit newest) = false := stepwise.2.1
          have long : ¬FromVersion.length (.cons source initable next init
              (.cons next nextInitable newer nextInit newest)) ≤ 2 := by
            have positive := FromVersion.length_pos newest
            simp only [FromVersion.length]
            omega
          rw [if_neg long, missing]
          exact fun state => ⟨state, rfl⟩

end Temporaries

section Read

/-- A run ends as a value that has been read makes it end: it reads nothing
more. -/
def Continues (read : EStateM.Result Fault (DState P) α)
    (outcome : α → Except Status β) (run : EStateM.Result Fault (DState P) β) : Prop :=
  match read with
  | .error fault _ => ∃ after, run = .error fault after
  | .ok value state =>
      match outcome value with
      | .error status => ∃ after, run = .error (.status status) after
      | .ok result => ∃ after, run = .ok result after ∧
          after.binaryData = state.binaryData ∧ after.pointersMap = state.pointersMap ∧
          after.addedPointers = state.addedPointers

theorem Continues.bind {read : EStateM.Result Fault (DState P) α}
    {outcome : α → Except Status β} {proc : DProc P β} {state : DState P}
    (continues : Continues read outcome (proc state)) {next : β → DProc P γ} {result : β → γ}
    (ends : ∀ value middle, ∃ after, next value middle = .ok (result value) after ∧
      after.binaryData = middle.binaryData ∧ after.pointersMap = middle.pointersMap ∧
      after.addedPointers = middle.addedPointers) :
    Continues read (fun value => (outcome value).map result) ((proc >>= next) state) := by
  unfold Continues at continues ⊢
  cases read with
  | error fault failed =>
      obtain ⟨after, ran⟩ := continues
      exact ⟨after, bind_of_error ran⟩
  | ok value middle =>
      simp only at continues ⊢
      cases ended : outcome value with
      | error status =>
          rw [ended] at continues
          obtain ⟨after, ran⟩ := continues
          exact ⟨after, bind_of_error ran⟩
      | ok made =>
          rw [ended] at continues
          obtain ⟨last, ran, walker, pointers, added⟩ := continues
          obtain ⟨after, nextRan, nextWalker, nextPointers, nextAdded⟩ := ends made last
          refine ⟨after, ?_, nextWalker.trans walker, nextPointers.trans pointers,
            nextAdded.trans added⟩
          rw [bind_of_ok ran, nextRan]

variable {ctx : DContext P} {target : Ty P}
  (deserialize : (source : TopStruct P) → source.type.Obj → Nat →
    DProc P source.type.Obj)

def formRead (ctx : DContext P) (source : TopStruct P) (state : DState P) :
    Option (EStateM.Result Fault (DState P) source.type.Obj) :=
  (temporaryPlace ctx source.type.sizeof state).map fun place =>
    deserialize source (ctx.construct source.type) place.1 place.2

theorem readTemporary_continues (ctx : DContext P) {source : TopStruct P} {next : source.type.Obj → DProc P β}
    {outcome : source.type.Obj → Except Status β}
    (answers : ∀ value, Answers (next value) (outcome value)) (address : Nat)
    (state : DState P) :
    Continues
      (deserialize source (ctx.construct source.type) address
        { state with temporaryDepth := state.temporaryDepth + 1 })
      outcome ((readTemporary ctx deserialize source address >>= next) state) := by
  unfold Continues readTemporary
  rw [bind_assoc, bind_of_ok (modify_apply _ state)]
  cases ran : deserialize source (ctx.construct source.type) address
    { state with temporaryDepth := state.temporaryDepth + 1 } with
  | error fault failed => exact ⟨failed, by rw [bind_assoc, bind_of_error ran]⟩
  | ok value read =>
      simp only [bind_assoc, bind_of_ok ran, bind_of_ok (modify_apply _ read), pure_bind]
      have answered := answers value
      cases ended : outcome value with
      | error status =>
          rw [ended] at answered
          exact answered _
      | ok result =>
          rw [ended] at answered
          exact ⟨_, answered _, rfl, rfl, rfl⟩

theorem start_continues (granted : HeapGrants ctx) {source : TopStruct P}
    (chain : FromVersion P target source) (object : target.Obj)
    {outcome : source.type.Obj → Except Status target.Obj}
    (answers : ∀ value, Answers (chain.convertToUpperVersion ctx value object)
      (outcome value)) (state : DState P) :
    ∃ read, formRead deserialize ctx source state = some read ∧
      Continues read outcome (FromVersion.start ctx deserialize chain object state) := by
  unfold formRead temporaryPlace FromVersion.start withTemporary
  by_cases heap : ctx.data.isHeapUsedForTemp = true
  · obtain ⟨address, allocated⟩ := allocate_of_granted granted source.type.sizeof state
    simp only [if_pos heap, allocated, bind_of_ok allocated]
    refine ⟨_, rfl, ?_⟩
    have same : (fun value => (outcome value).map id) = outcome := by
      funext value
      cases outcome value <;> rfl
    rw [← same]
    have reads := readTemporary_continues deserialize ctx answers address
      { state with
        blocks := (address, wrap ctx.data.platform source.type.sizeof) :: state.blocks }
    exact reads.bind fun value middle => ⟨_, rfl, rfl, rfl, rfl⟩
  · simp only [if_neg heap, bind_of_ok (get_apply state)]
    exact ⟨_, rfl, readTemporary_continues deserialize ctx answers _ state⟩

/-- A run has read one value of a form and nothing else, and has ended as the
`init` functions have. -/
def Upgrades (ctx : DContext P) (source : TopStruct P)
    (composed : source.type.Obj → Except Status target.Obj)
    (run : EStateM.Result Fault (DState P) (Status × target.Obj)) (state : DState P) : Prop :=
  ∃ read, formRead deserialize ctx source state = some read ∧
    Continues read
      (fun value => (composed value).map fun upgraded => (.noFurtherProcessingRequired, upgraded))
      run

/-- No value can be read, or the `init` functions say of the value in the input
that there is no handler. -/
def NothingToUpgrade (ctx : DContext P) (source : TopStruct P)
    (composed : source.type.Obj → Except Status target.Obj) (state : DState P) : Prop :=
  ∀ value read, formRead deserialize ctx source state = some (.ok value read) →
    composed value = .error .errorNoSuchHandler

theorem FromVersion.convert_eq {targetVersion : Nat}
    (represented : targetVersion < Context.Traits.kInterfaceVersionUndefined)
    (object : target.Obj) : {source : TopStruct P} → (chain : FromVersion P target source) →
    chain.convert ctx deserialize targetVersion object =
      FromVersion.start ctx deserialize (FromVersion.skip targetVersion chain).2 object
  | _, .last source init => by
      simp only [FromVersion.convert, FromVersion.skip]
      exact if_neg (Nat.not_le_of_lt represented)
  | _, .cons source initable next init rest => by
      simp only [FromVersion.convert, FromVersion.skip]
      by_cases newer : getLatestPrivateVersion next.versioning ≤ targetVersion
      · rw [if_pos newer, if_pos newer]
        exact FromVersion.convert_eq represented object rest
      · rw [if_neg newer, if_neg newer]

theorem upgrades_iff (granted : HeapGrants ctx) {source : TopStruct P}
    (chain : FromVersion P target source) (stepwise : FromVersion.Stepwise chain)
    (object : target.Obj) (state : DState P) :
    Upgrades deserialize ctx source (fun value => FromVersion.composed chain value object)
        ((do
          let value ← FromVersion.start ctx deserialize chain object
          return (Status.noFurtherProcessingRequired, value)) state) state ↔
      FromVersion.length chain ≤ 2 ∨
        NothingToUpgrade deserialize ctx source
          (fun value => FromVersion.composed chain value object) state := by
  obtain ⟨read, found, continues⟩ := start_continues deserialize granted chain object
    (fun value => FromVersion.convertToUpperVersion_answers granted chain stepwise value object)
    state
  have ends : Continues read _ ((do
      let value ← FromVersion.start ctx deserialize chain object
      return (Status.noFurtherProcessingRequired, value)) state) :=
    continues.bind fun value middle => ⟨middle, rfl, rfl, rfl, rfl⟩
  by_cases short : FromVersion.length chain ≤ 2
  · simp only [if_pos short] at ends
    exact ⟨fun _ => .inl short, fun _ => ⟨read, found, ends⟩⟩
  · simp only [if_neg short] at ends
    constructor
    · rintro ⟨other, otherFound, upgraded⟩
      cases found.symm.trans otherFound
      refine .inr fun value middle reads => ?_
      cases found.symm.trans reads
      obtain ⟨after, failed⟩ := ends
      unfold Continues at upgraded
      simp only at upgraded
      cases composed : FromVersion.composed chain value object with
      | error status =>
          rw [composed] at upgraded
          obtain ⟨_, ran⟩ := upgraded
          rw [failed] at ran
          cases ran
          exact composed
      | ok result =>
          rw [composed] at upgraded
          obtain ⟨_, ran, _⟩ := upgraded
          rw [failed] at ran
          cases ran
    · intro condition
      have nothing := condition.resolve_left short
      refine ⟨read, found, ?_⟩
      cases read with
      | error fault failed => exact ends
      | ok value middle =>
          unfold Continues
          simp only [nothing value middle found]
          exact ends

end Read

section Main

variable (ctx : DContext P) (conversions : Conversions P) (pointeeType : P → Ty P)

abbrev readForm (fuel : Nat) (source : TopStruct P) :
    source.type.Obj → Nat → DProc P source.type.Obj :=
  BodyProcessor.deserialize ctx pointeeType (DHandlers.ofTypes ctx conversions pointeeType fuel)
    source.type

/-- `fromOldStructIfNeed` reads the newest form that the version of the message
knows; what it makes of the value is the composition of the `init` functions if
and only if at most two of them are left, or there is nothing to convert. -/
theorem fromOldStructIfNeed_upgrades_iff {decl : StructDecl} {fields : Fields P}
    {versioning : Versioning} {first : TopStruct P}
    {chain : FromVersion P (.struct decl fields) first} {latest : Nat}
    (declared : decl.iSerializable = some versioning)
    (defined : conversions.fromOldStruct decl fields = some ⟨first, chain⟩)
    (listed : versioning.kPrivateVersions = latest :: (FromVersion.versions chain).reverse)
    (decreasing : versioning.kPrivateVersions.Pairwise (· > ·))
    (representable : latest ≤ Context.Traits.kInterfaceVersionUndefined)
    (stepwise : FromVersion.Stepwise chain)
    (known : getLatestPrivateVersion first.versioning ≤ ctx.data.interfaceVersion)
    (older : ctx.data.interfaceVersion < latest) (granted : HeapGrants ctx)
    (object : (Ty.struct decl fields).Obj) (fuel : Nat) (state : DState P) :
    let remaining := FromVersion.skip
      (getBestCompatInterfaceVersion versioning ctx.data.interfaceVersion) chain
    let composed := fun value => FromVersion.composed remaining.2 value object
    IsGreatest
        {version | version ∈ FromVersion.versions chain ∧ version ≤ ctx.data.interfaceVersion}
        (getLatestPrivateVersion remaining.1.versioning) ∧
      (Upgrades (readForm ctx conversions pointeeType fuel) ctx remaining.1 composed
          (fromOldStructIfNeed ctx conversions (readForm ctx conversions pointeeType fuel) decl
            fields object state) state ↔
        FromVersion.length remaining.2 ≤ 2 ∨
          NothingToUpgrade (readForm ctx conversions pointeeType fuel) ctx remaining.1 composed
            state) := by
  intro remaining composed
  obtain ⟨above, chainDecreasing⟩ := List.pairwise_cons.mp (listed ▸ decreasing)
  have increasing : (FromVersion.versions chain).Pairwise (· < ·) :=
    List.pairwise_reverse.mp chainDecreasing
  have oldest : getLatestPrivateVersion first.versioning ∈ FromVersion.versions chain := by
    obtain ⟨newer, versions⟩ := FromVersion.head_versions chain
    rw [versions]
    exact List.mem_cons_self
  have oldestListed : getLatestPrivateVersion first.versioning ∈ versioning.kPrivateVersions := by
    rw [listed]
    exact List.mem_cons_of_mem latest (List.mem_reverse.mpr oldest)
  obtain ⟨⟨bestListed, bestKnown⟩, bestGreatest⟩ :=
    getBestCompatInterfaceVersion_isGreatest decreasing ⟨_, oldestListed, known⟩
  have bestOlder := Nat.lt_of_le_of_lt bestKnown older
  have bestMember : getBestCompatInterfaceVersion versioning ctx.data.interfaceVersion ∈
      FromVersion.versions chain := by
    rw [listed] at bestListed
    rcases List.mem_cons.mp bestListed with same | inChain
    · exact absurd same (Nat.ne_of_lt bestOlder)
    · exact List.mem_reverse.mp inChain
  have newest : getLatestPrivateVersion versioning = latest := by
    rw [getLatestPrivateVersion, listed, List.headD_cons]
  have represented := Nat.lt_of_lt_of_le bestOlder representable
  refine ⟨?_, ?_⟩
  · obtain ⟨⟨member, reached⟩, greatest⟩ := FromVersion.skip_isGreatest chain increasing
      (bestGreatest ⟨oldestListed, known⟩)
    refine ⟨⟨member, Nat.le_trans reached bestKnown⟩, fun version known => ?_⟩
    refine Nat.le_trans (bestGreatest ⟨?_, known.2⟩) (greatest ⟨bestMember, Nat.le_refl _⟩)
    rw [listed]
    exact List.mem_cons_of_mem latest (List.mem_reverse.mpr known.1)
  · have run := upgrades_iff (readForm ctx conversions pointeeType fuel) granted remaining.2
      (FromVersion.stepwise_skip chain stepwise) object state
    rw [← FromVersion.convert_eq _ represented object chain] at run
    have started : fromOldStructIfNeed ctx conversions
        (readForm ctx conversions pointeeType fuel) decl fields object = (do
          let value ← chain.convert ctx (readForm ctx conversions pointeeType fuel)
            (getBestCompatInterfaceVersion versioning ctx.data.interfaceVersion) object
          return (.noFurtherProcessingRequired, value)) := by
      simp only [fromOldStructIfNeed, declared, newest, fromOldStruct, defined]
      rw [if_neg (Nat.ne_of_lt bestOlder), if_neg (Nat.ne_of_lt represented)]
    rw [started]
    exact run

section Journal

private def journalVersioning (versions : List Nat) : Versioning :=
  ⟨versions.headD 0, versions, 0, 0⟩

private def journalDecl (versions : List Nat) : StructDecl :=
  ⟨versions.headD 0, .none, 1, 0, some (journalVersioning versions), .fieldByField .common⟩

private abbrev journalFields (size : Width) : Fields Empty :=
  .cons 0 (.scalar (.integral .unsignedLong size false)) .nil

private def journal (versions : List Nat) (size : Width) : TopStruct Empty where
  kId := .ofNat (versions.headD 0)
  interface := ⟨.kNull, 3, .ofUInt32 0, .ofUInt32 0⟩
  decl := journalDecl versions
  fields := journalFields size
  versioning := journalVersioning versions
  declared := rfl

private abbrev Journal (versions : List Nat) (size : Width) : Type :=
  (Ty.struct (journalDecl versions) (journalFields size)).Obj

private def journalObject (versions : List Nat) (size : Width) (value : Nat) :
    Journal versions size :=
  ((nofun, BitVec.ofNat _ value, ()), nofun)

private def journalInit (object : Journal older olderSize) :
    Except Status (Journal newer newerSize) :=
  .ok (journalObject newer newerSize object.1.2.1.toNat)

private def shortChain : FromVersion Empty
    (.struct (journalDecl [3, 2, 1]) (journalFields .eight)) (journal [1] .two) :=
  .cons (journal [1] .two) false (journal [2, 1] .four) journalInit
    (.last (journal [2, 1] .four) (some fun value _ => journalInit value))

private def longChain : FromVersion Empty
    (.struct (journalDecl [3, 2, 1, 0]) (journalFields .eight)) (journal [0] .one) :=
  .cons (journal [0] .one) false (journal [1, 0] .two) journalInit
    (.cons (journal [1, 0] .two) false (journal [2, 1, 0] .four) journalInit
      (.last (journal [2, 1, 0] .four) (some fun value _ => journalInit value)))

private def journalConversions : Conversions Empty where
  toOldStruct _ _ := none
  fromOldStruct
    | ⟨3, ⟨false, false, false, false, false, false⟩, 1, 0,
        some ⟨3, [3, 2, 1], 0, 0⟩, .fieldByField .common⟩,
      .cons 0 (.scalar (.integral .unsignedLong .eight false)) .nil => some ⟨_, shortChain⟩
    | ⟨3, ⟨false, false, false, false, false, false⟩, 1, 0,
        some ⟨3, [3, 2, 1, 0], 0, 0⟩, .fieldByField .common⟩,
      .cons 0 (.scalar (.integral .unsignedLong .eight false)) .nil => some ⟨_, longChain⟩
    | _, _ => none
  heapSlot _ _ _ := none
  stackSlot _ _ _ := 0

private def journalReader (interfaceVersion : Nat) (heap : Bool) : DContext Empty :=
  .unbounded
    { platform := ⟨false, false⟩
      protocolVersion := 1
      messageType := .data
      commonFlags := .ofUInt32 0
      dataFlags := .ofUInt32 0
      interfaceVersion := interfaceVersion
      interfaceVersionsNotMatch := true
      isHeapUsedForTemp := heap }

private def journalNew (versions : List Nat) : Journal versions .eight :=
  journalObject versions .eight 0

private def JournalUpgraded {versions : List Nat} {first : TopStruct Empty}
    (chain : FromVersion Empty (.struct (journalDecl versions) (journalFields .eight)) first)
    (interfaceVersion : Nat) (heap : Bool) (octets : List UInt8) : Prop :=
  let ctx := journalReader interfaceVersion heap
  let read := readForm ctx journalConversions Empty.elim 0
  Upgrades read ctx first
    (fun value => FromVersion.composed chain value (journalNew versions))
    (fromOldStructIfNeed ctx journalConversions read (journalDecl versions)
      (journalFields .eight) (journalNew versions) (.start octets)) (.start octets)

/-- Two steps, from the first version of the shorter history to the third. -/
theorem fromOldStructIfNeed_upgrades_journal : JournalUpgraded shortChain 1 true [7, 1] := by
  have defined : journalConversions.fromOldStruct (journalDecl [3, 2, 1])
      (journalFields .eight) = some ⟨_, shortChain⟩ := rfl
  refine (fromOldStructIfNeed_upgrades_iff (journalReader 1 true) journalConversions
    Empty.elim rfl defined rfl (by decide) (by decide) ⟨rfl, rfl⟩ (by decide) (by decide)
    (fun _ _ => ⟨_, rfl⟩) (journalNew [3, 2, 1]) 0 (.start [7, 1])).2.mpr ?_
  exact .inl (by decide)

/-- Three steps end with no handler, with temporaries on the heap or on the
stack. -/
theorem longChain_not_upgraded :
    ¬JournalUpgraded longChain 0 true [7] ∧ ¬JournalUpgraded longChain 0 false [7] := by
  refine ⟨?_, ?_⟩ <;>
  · rintro ⟨_, ⟨⟩, _, ran, _⟩
    cases ran

end Journal

end Main

end CommonSerialization.Csp
