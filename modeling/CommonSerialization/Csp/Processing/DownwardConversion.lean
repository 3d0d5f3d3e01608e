import CommonSerialization.Csp.Processing.Placement
import Mathlib.Order.Bounds.Basic

namespace CommonSerialization.Csp

open BodyProcessor VersionConverter StateExcept

/-! `ToVersion`: a struct is written in the newest of its forms that the version
of the message knows. -/

section BestVersion

theorem find?_isGreatest {versions : List Nat} (decreasing : versions.Pairwise (· > ·))
    {bound : Nat} (covered : ∃ version ∈ versions, version ≤ bound) :
    ∃ best, (versions.find? fun version => decide (version ≤ bound)) = some best ∧
      IsGreatest {version | version ∈ versions ∧ version ≤ bound} best := by
  induction versions with
  | nil =>
      obtain ⟨_, member, _⟩ := covered
      exact absurd member List.not_mem_nil
  | cons version older ih =>
      obtain ⟨above, olderDecreasing⟩ := List.pairwise_cons.mp decreasing
      by_cases known : version ≤ bound
      · refine ⟨version, by simp [known], ⟨List.mem_cons_self, known⟩, ?_⟩
        rintro other ⟨member, _⟩
        rcases List.mem_cons.mp member with rfl | inOlder
        · exact Nat.le_refl _
        · exact Nat.le_of_lt (above other inOlder)
      · obtain ⟨witness, member, below⟩ := covered
        have inOlder : witness ∈ older := by
          rcases List.mem_cons.mp member with rfl | inOlder
          · exact absurd below known
          · exact inOlder
        obtain ⟨best, found, ⟨bestMember, bestBelow⟩, greatest⟩ :=
          ih olderDecreasing ⟨witness, inOlder, below⟩
        refine ⟨best, by simpa [known] using found,
          ⟨List.mem_cons_of_mem version bestMember, bestBelow⟩, ?_⟩
        rintro other ⟨otherMember, otherBelow⟩
        rcases List.mem_cons.mp otherMember with rfl | otherOlder
        · exact absurd otherBelow known
        · exact greatest ⟨otherOlder, otherBelow⟩

theorem getBestCompatInterfaceVersion_isGreatest {versioning : Versioning}
    (decreasing : versioning.kPrivateVersions.Pairwise (· > ·)) {interfaceVersion : Nat}
    (covered : ∃ version ∈ versioning.kPrivateVersions, version ≤ interfaceVersion) :
    IsGreatest
      {version | version ∈ versioning.kPrivateVersions ∧ version ≤ interfaceVersion}
      (getBestCompatInterfaceVersion versioning interfaceVersion) := by
  obtain ⟨best, found, greatest⟩ := find?_isGreatest decreasing covered
  unfold getBestCompatInterfaceVersion
  rwa [found]

/-- A struct is in its latest form in every version that knows that form. -/
theorem getBestCompatInterfaceVersion_of_latest {versioning : Versioning}
    (listed : versioning.kPrivateVersions ≠ []) {interfaceVersion : Nat}
    (known : getLatestPrivateVersion versioning ≤ interfaceVersion) :
    getBestCompatInterfaceVersion versioning interfaceVersion =
      getLatestPrivateVersion versioning := by
  unfold getBestCompatInterfaceVersion getLatestPrivateVersion at *
  cases versions : versioning.kPrivateVersions with
  | nil => exact absurd versions listed
  | cons version older =>
      rw [versions] at known
      simp only [List.headD_cons] at known
      simp [known]

end BestVersion

section Chain

def ToVersion.versions : {source : Ty P} → ToVersion P source → List Nat
  | _, .nil => []
  | _, .cons older _ rest =>
      getLatestPrivateVersion older.versioning :: ToVersion.versions rest

/-- The form that the first `init` functions of a chain make of an object: those
up to an index. -/
def ToVersion.composed : {source : Ty P} → ToVersion P source → source.Obj → Nat →
    Except Status (Σ older : TopStruct P, older.type.Obj)
  | _, .nil, _, _ => .error .errorInternal
  | _, .cons older init _, object, 0 => do
      let value ← init object
      return ⟨older, value⟩
  | _, .cons _ init rest, object, index + 1 => do
      let value ← init object
      ToVersion.composed rest value index

theorem ToVersion.version_composed : {source : Ty P} → (chain : ToVersion P source) →
    {object : source.Obj} → {index : Nat} → {form : Σ older : TopStruct P, older.type.Obj} →
    ToVersion.composed chain object index = .ok form →
    (ToVersion.versions chain)[index]? = some (getLatestPrivateVersion form.1.versioning)
  | _, .nil, _, _, _, composed => by cases composed
  | _, .cons older init rest, object, index, form, composed => by
      cases index with
      | zero =>
          simp only [ToVersion.composed] at composed
          cases initialized : init object with
          | error status =>
              rw [initialized] at composed
              cases composed
          | ok value =>
              rw [initialized] at composed
              cases composed
              rfl
      | succ index =>
          simp only [ToVersion.composed] at composed
          cases initialized : init object with
          | error status =>
              rw [initialized] at composed
              cases composed
          | ok value =>
              rw [initialized] at composed
              exact ToVersion.version_composed rest composed

variable {conversions : Conversions P}

theorem slotOf_tempOn (ctx : SContext) (granted : TemporariesGranted conversions) (heap : Bool)
    (level index size : Nat) :
    ∃ address, slotOf (ctx.tempOn heap) conversions level index size = pure address := by
  cases heap with
  | true =>
      obtain ⟨address, _, slot⟩ := slotOf_heap ctx granted level index size
      exact ⟨address, slot⟩
  | false => exact ⟨_, rfl⟩

theorem answer_bind (outcome : Except Status α) (next : α → Except Status β) :
    (answer (outcome >>= next) : Proc σ β) =
      answer outcome >>= fun value => answer (next value) := by
  cases outcome with
  | ok value => rfl
  | error status => rfl

/-- The conversion stops at the form of the target version. -/
theorem ToVersion.convert_eq (ctx : SContext) (granted : TemporariesGranted conversions) (heap : Bool)
    (serialize : (older : TopStruct P) → older.type.Obj → Nat → SProc Unit)
    {targetVersion : Nat} (level : Nat) : {source : Ty P} → (chain : ToVersion P source) →
    (ToVersion.versions chain).Pairwise (· > ·) → {index : Nat} →
    (ToVersion.versions chain)[index]? = some targetVersion → (object : source.Obj) →
    (start : Nat) →
    ∃ address,
      chain.convert (ctx.tempOn heap) conversions serialize targetVersion level object start =
        do
          let form ← answer (ToVersion.composed chain object index)
          serialize form.1 form.2 address
  | _, .nil, _, index, reached, _, _ => by
      simp [ToVersion.versions] at reached
  | _, .cons older init rest, decreasing, index, reached, object, start => by
      obtain ⟨place, slot⟩ := slotOf_tempOn ctx granted heap level start
        older.type.sizeof
      obtain ⟨above, restDecreasing⟩ := List.pairwise_cons.mp decreasing
      cases index with
      | zero =>
          have same : getLatestPrivateVersion older.versioning = targetVersion := by
            simpa [ToVersion.versions] using reached
          refine ⟨place, ?_⟩
          simp only [ToVersion.convert, slot, pure_bind, same, lt_irrefl, if_false,
            ToVersion.composed, answer_bind, bind_assoc]
          rfl
      | succ index =>
          have restReached : (ToVersion.versions rest)[index]? = some targetVersion := by
            simpa [ToVersion.versions] using reached
          have newer : targetVersion < getLatestPrivateVersion older.versioning :=
            above targetVersion (List.mem_of_getElem? restReached)
          have goesOn (value : older.type.Obj) :=
            ToVersion.convert_eq ctx granted heap serialize level rest restDecreasing
              restReached value (start + 1)
          simp only [ToVersion.convert, slot, pure_bind, if_pos newer, ToVersion.composed,
            answer_bind, bind_assoc]
          cases initialized : init object with
          | error status => exact ⟨place, rfl⟩
          | ok value =>
              obtain ⟨address, converted⟩ := goesOn value
              exact ⟨address, converted⟩

end Chain

section Main

/-- What the caller of a serialization gets. -/
def sent : EStateM.Result Fault SState α → Except Fault α × List UInt8
  | .ok value state => (.ok value, state.binaryData)
  | .error fault state => (.error fault, state.binaryData)

theorem sent_of_alike {targets : Set Nat} {ctx : SContext}
    {result other : EStateM.Result Fault SState α}
    (alike : Alike (Agree targets ctx) result other) : sent result = sent other := by
  cases alike with
  | ok value after => simp only [sent, after.binaryData]
  | error fault after => simp only [sent, after.binaryData]

variable {ctx : SContext} {conversions : Conversions P} {memory : Memory P}

theorem ToVersion.keeps_univ : {source : Ty P} → (chain : ToVersion P source) →
    ToVersion.Keeps Set.univ chain
  | _, .nil => trivial
  | _, .cons _ _ rest => ⟨fun _ _ _ _ => Ty.pointsInto_univ _ _, ToVersion.keeps_univ rest⟩

/-- Without recursive pointers nothing looks at an address. -/
theorem undisturbed_univ (conversions : Conversions P) (memory : Memory P)
    (unchecked : ctx.data.checkRecursivePointers = false) :
    Undisturbed Set.univ ctx conversions memory where
  memory _ _ _ _ _ := Ty.pointsInto_univ _ _
  inits _ _ chain _ := ToVersion.keeps_univ chain
  temporaries checked := by simp [unchecked] at checked

abbrev toOldForm (ctx : SContext) (conversions : Conversions P) (memory : Memory P)
    (fuel : Nat) (heap : Bool) (decl : StructDecl) (fields : Fields P)
    (object : (Ty.struct decl fields).Obj) : SProc Status :=
  (SHandlers.ofMemory (ctx.tempOn heap) conversions memory (fuel + 1)).toOldStructIfNeed decl
    fields object

theorem toOldForm_of_latest {decl : StructDecl} {fields : Fields P} {versioning : Versioning}
    (declared : decl.iSerializable = some versioning)
    (latest : getBestCompatInterfaceVersion versioning ctx.data.interfaceVersion =
      getLatestPrivateVersion versioning) (fuel : Nat) (heap : Bool)
    (object : (Ty.struct decl fields).Obj) :
    toOldForm ctx conversions memory fuel heap decl fields object = pure .noError := by
  simp only [toOldForm, SHandlers.ofMemory, toOldStructIfNeed, declared]
  exact if_pos latest

theorem toOldForm_of_older (memory : Memory P) {decl : StructDecl} {fields : Fields P} {versioning : Versioning}
    {chain : ToVersion P (.struct decl fields)}
    (declared : decl.iSerializable = some versioning)
    (defined : conversions.toOldStruct decl fields = some chain)
    (decreasing : (ToVersion.versions chain).Pairwise (· > ·))
    (granted : TemporariesGranted conversions) {targetVersion : Nat}
    (target : getBestCompatInterfaceVersion versioning ctx.data.interfaceVersion =
      targetVersion) (older : targetVersion < getLatestPrivateVersion versioning)
    (represented : targetVersion ≠ Context.Traits.kInterfaceVersionUndefined) {index : Nat}
    (reached : (ToVersion.versions chain)[index]? = some targetVersion) (fuel : Nat)
    (heap : Bool) (object : (Ty.struct decl fields).Obj) :
    ∃ address, toOldForm ctx conversions memory fuel heap decl fields object = do
      let form ← answer (ToVersion.composed chain object index)
      BodyProcessor.serialize (ctx.tempOn heap)
        (SHandlers.ofMemory (ctx.tempOn heap) conversions memory fuel) form.1.type form.2
        address
      return .noFurtherProcessingRequired := by
  obtain ⟨address, converted⟩ := ToVersion.convert_eq ctx granted heap
    (fun older => BodyProcessor.serialize (ctx.tempOn heap)
      (SHandlers.ofMemory (ctx.tempOn heap) conversions memory fuel) older.type)
    (fuel + 1) chain decreasing reached object 0
  refine ⟨address, ?_⟩
  have version : getBestCompatInterfaceVersion versioning
      (ctx.tempOn heap).data.interfaceVersion = targetVersion := target
  simp only [toOldForm, SHandlers.ofMemory, toOldStructIfNeed, declared, version]
  rw [if_neg (Nat.ne_of_lt older), if_neg represented]
  simp only [toOldStruct, defined, converted, bind_assoc]

/-- `toOldStructIfNeed` writes the newest form that the version of the message
knows, and nothing of it depends on where the temporaries lie. -/
theorem toOldStructIfNeed_converts (ctx : SContext) (conversions : Conversions P)
    (memory : Memory P) {decl : StructDecl} {fields : Fields P} {versioning : Versioning}
    {chain : ToVersion P (.struct decl fields)} {latest : Nat}
    (declared : decl.iSerializable = some versioning)
    (defined : conversions.toOldStruct decl fields = some chain)
    (listed : versioning.kPrivateVersions = latest :: ToVersion.versions chain)
    (decreasing : versioning.kPrivateVersions.Pairwise (· > ·))
    (representable : latest ≤ Context.Traits.kInterfaceVersionUndefined)
    (covered : ∃ version ∈ versioning.kPrivateVersions, version ≤ ctx.data.interfaceVersion)
    (granted : TemporariesGranted conversions) (object : (Ty.struct decl fields).Obj)
    (undisturbed : ctx.data.checkRecursivePointers = true →
      ∃ targets, Undisturbed targets ctx conversions memory ∧
        (Ty.struct decl fields).PointsInto targets object)
    (fuel : Nat) :
    let best := getBestCompatInterfaceVersion versioning ctx.data.interfaceVersion
    let run := fun heap => toOldForm ctx conversions memory fuel heap decl fields object
    IsGreatest
        {version | version ∈ versioning.kPrivateVersions ∧
          version ≤ ctx.data.interfaceVersion} best ∧
      (best = latest → ∀ heap, run heap = pure .noError) ∧
      (∀ index, (ToVersion.versions chain)[index]? = some best → ∀ heap,
        (∀ status, ToVersion.composed chain object index = .error status →
          run heap = fail status) ∧
        ∀ form, ToVersion.composed chain object index = .ok form →
          (form.1.versioning.kPrivateVersions ≠ [] →
            toOldForm ctx conversions memory fuel heap form.1.decl form.1.fields form.2 =
              pure .noError) ∧
          ∃ address, run heap = do
            BodyProcessor.serialize (ctx.tempOn heap)
              (SHandlers.ofMemory (ctx.tempOn heap) conversions memory fuel) form.1.type
              form.2 address
            return .noFurtherProcessingRequired) ∧
      ∀ state, sent (run true state) = sent (run false state) := by
  intro best run
  have greatest := getBestCompatInterfaceVersion_isGreatest decreasing covered
  have newest : getLatestPrivateVersion versioning = latest := by
    rw [getLatestPrivateVersion, listed, List.headD_cons]
  refine ⟨greatest, fun same heap => ?_, fun index reached heap => ?_, fun state => ?_⟩
  · exact toOldForm_of_latest declared (same.trans newest.symm) fuel heap object
  · obtain ⟨above, chainDecreasing⟩ := List.pairwise_cons.mp (listed ▸ decreasing)
    have older : best < latest := above best (List.mem_of_getElem? reached)
    obtain ⟨address, written⟩ := toOldForm_of_older memory declared defined
      chainDecreasing granted rfl (newest.symm ▸ older)
      (Nat.ne_of_lt (Nat.lt_of_lt_of_le older representable)) reached fuel heap object
    refine ⟨fun status failed => ?_, fun form composed => ⟨fun listedForm => ?_, address, ?_⟩⟩
    · simp only [run, written, failed]
      rfl
    · have version := (ToVersion.version_composed chain composed).symm.trans reached
      refine toOldForm_of_latest form.1.declared ?_ fuel heap form.2
      refine getBestCompatInterfaceVersion_of_latest listedForm ?_
      rw [Option.some.inj version]
      exact greatest.1.2
    · simp only [run, written, composed]
      rfl
  · have agree (targets : Set Nat) : Agree targets ctx state state :=
      ⟨rfl, fun _ _ _ => rfl⟩
    cases checked : ctx.data.checkRecursivePointers with
    | false =>
        have matching := ofMemory_matches granted
          (undisturbed_univ conversions memory checked) (fuel + 1)
        exact sent_of_alike (matching.toOldStructIfNeed decl fields object
          (Ty.pointsInto_univ _ object) state state (agree _))
    | true =>
        obtain ⟨targets, apart, inside⟩ := undisturbed checked
        have matching := ofMemory_matches granted apart (fuel + 1)
        exact sent_of_alike (matching.toOldStructIfNeed decl fields object inside state state
          (agree targets))

section Ledger

private def ledgerVersioning (versions : List Nat) : Versioning :=
  ⟨versions.headD 0, versions, 0, 0⟩

private def ledgerDecl (versions : List Nat) : StructDecl :=
  ⟨versions.headD 0, .none, 1, 0, some (ledgerVersioning versions), .fieldByField .common⟩

private abbrev ledgerFields (size : Width) : Fields Empty :=
  .cons 0 (.scalar (.integral .unsignedLong size false)) .nil

private def ledger (versions : List Nat) (size : Width) : TopStruct Empty where
  kId := .ofNat (versions.headD 0)
  interface := ⟨.kNull, 2, .ofUInt32 0, .ofUInt32 0⟩
  decl := ledgerDecl versions
  fields := ledgerFields size
  versioning := ledgerVersioning versions
  declared := rfl

private def ledgerInit (size older : Width)
    (object : (Ty.struct (ledgerDecl versions) (ledgerFields size)).Obj) :
    Except Status (Ty.struct (ledgerDecl olderVersions) (ledgerFields older)).Obj :=
  if object.1.2.1.toNat < 2 ^ (8 * older.bytes) then
    .ok ((nofun, BitVec.ofNat _ object.1.2.1.toNat, ()), nofun)
  else
    .error .errorValueOverflow

private def ledgerChain :
    ToVersion Empty (.struct (ledgerDecl [2, 1, 0]) (ledgerFields .four)) :=
  .cons (ledger [1, 0] .two) (ledgerInit .four .two)
    (.cons (ledger [0] .one) (ledgerInit .two .one) .nil)

private def ledgerConversions : Conversions Empty where
  toOldStruct
    | ⟨2, ⟨false, false, false, false, false, false⟩, 1, 0,
        some ⟨2, [2, 1, 0], 0, 0⟩, .fieldByField .common⟩,
      .cons 0 (.scalar (.integral .unsignedLong .four false)) .nil => some ledgerChain
    | _, _ => none
  fromOldStruct _ _ := none
  heapSlot level index _ := some (4096 + 64 * level + 16 * index)
  stackSlot level index _ := 65536 + 64 * level + 16 * index

private def ledgerContext : SContext :=
  .unbounded
    { platform := ⟨false, false⟩
      protocolVersion := 1
      messageType := .data
      commonFlags := .ofUInt32 0
      dataFlags := .ofUInt32 0
      interfaceVersion := 0
      interfaceVersionsNotMatch := true
      isHeapUsedForTemp := true }

private def ledgerMemory : Memory Empty := ⟨Empty.elim, nofun⟩

private def ledgerObject (value : BitVec 32) : (ledger [2, 1, 0] .four).type.Obj :=
  ((nofun, value, ()), nofun)

theorem toOldStructIfNeed_converts_ledger :
    (∀ heap, ∃ address,
      toOldForm ledgerContext ledgerConversions ledgerMemory 0 heap (ledgerDecl [2, 1, 0])
        (ledgerFields .four) (ledgerObject 7) = do
          BodyProcessor.serialize (ledgerContext.tempOn heap)
            (SHandlers.ofMemory (ledgerContext.tempOn heap) ledgerConversions ledgerMemory 0)
            (ledger [0] .one).type ((nofun, 7#8, ()), nofun) address
          return .noFurtherProcessingRequired) ∧
      (∀ heap, toOldForm ledgerContext ledgerConversions ledgerMemory 0 heap
        (ledgerDecl [2, 1, 0]) (ledgerFields .four) (ledgerObject 256) =
          fail .errorValueOverflow) := by
  have defined : ledgerConversions.toOldStruct (ledgerDecl [2, 1, 0]) (ledgerFields .four) =
      some ledgerChain := rfl
  have converts (value : BitVec 32) := toOldStructIfNeed_converts ledgerContext
    ledgerConversions ledgerMemory rfl defined rfl (by decide) (by decide)
    ⟨0, by decide, by decide⟩ (fun _ _ _ => ⟨_, rfl⟩) (ledgerObject value)
    (fun checked => absurd checked (by decide)) 0
  refine ⟨fun heap => ?_, fun heap => ?_⟩
  · exact ((converts 7).2.2.1 1 rfl heap).2 _ rfl |>.2
  · exact ((converts 256).2.2.1 1 rfl heap).1 _ rfl

end Ledger

end Main

end CommonSerialization.Csp
