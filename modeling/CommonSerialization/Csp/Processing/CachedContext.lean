import CommonSerialization.Csp.Processing.DataContext
import CommonSerialization.Library.Transitions
import Mathlib.Tactic.IntervalCases

namespace CommonSerialization.Csp.CachedContext

open Transitions

/-! `context::Common` and `context::Data` with the values that they keep beside
what these are computed from. -/

structure Common where
  messageType : Context.Message
  protocolVersion : UInt8
  protocolVersionsNotMatch : Bool
  endiannessNotMatch : Bool
  bitness32 : Bool
  bigEndianFormat : Bool
  endiannessDifference : Bool
  deriving DecidableEq

structure Data extends Common where
  interfaceVersion : BitVec 32
  dataFlags : Context.DataFlags
  interfaceVersionsNotMatch : Bool
  forTempUseHeap : Bool
  alignmentMayBeNotEqual : Bool
  sizeOfPrimitivesMayBeNotEqual : Bool
  allowUnmanagedPointers : Bool
  checkRecursivePointers : Bool
  simplyAssignableTagsOptimizationsAreTurnedOff : Bool
  deriving DecidableEq

def getLatestProtocolVersion : UInt8 :=
  UInt8.ofNat Context.Traits.getLatestProtocolVersion

def isProtocolVersionSameAsLatestOur (foreignProtocolVersion : UInt8) : Bool :=
  getLatestProtocolVersion == foreignProtocolVersion

section Common

variable (platform : Platform)

namespace Common

def getCommonFlags (ctx : Common) : Context.CommonFlags :=
  .ofUInt32 ((if ctx.bitness32 then Context.CommonFlags.kBitness32 else 0) |||
    (if ctx.bigEndianFormat then Context.CommonFlags.kBigEndianFormat else 0) |||
    (if ctx.endiannessDifference then Context.CommonFlags.kEndiannessDifference else 0))

def setMessageType (ctx : Common) (messageType : Context.Message) : Common :=
  { ctx with messageType := messageType }

/-- The one mutator of the version asks whether the versions are the same. -/
def setProtocolVersion (ctx : Common) (protocolVersion : UInt8) : Common :=
  { ctx with
    protocolVersion := protocolVersion
    protocolVersionsNotMatch := isProtocolVersionSameAsLatestOur protocolVersion }

def setCommonFlags (ctx : Common) (commonFlags : Context.CommonFlags) : Common :=
  { ctx with
    bitness32 := commonFlags.bitness32
    bigEndianFormat := commonFlags.bigEndianFormat
    endiannessDifference := commonFlags.endiannessDifference
    endiannessNotMatch := commonFlags.bigEndianFormat != platform.isBigEndianPlatform }

def construct (protocolVersion : UInt8) (messageType : Context.Message)
    (commonFlags : Context.CommonFlags) : Common :=
  setCommonFlags platform
    { messageType := messageType
      protocolVersion := protocolVersion
      protocolVersionsNotMatch := getLatestProtocolVersion != protocolVersion
      endiannessNotMatch := false
      bitness32 := false
      bigEndianFormat := false
      endiannessDifference := false } commonFlags

def resetToDefaultsExceptDataContents (ctx : Common) : Common :=
  { ctx with
    protocolVersion := getLatestProtocolVersion
    messageType := .data }

end Common

namespace Data

def setInterfaceVersion (ctx : Data) (interfaceVersion : BitVec 32) : Data :=
  { ctx with interfaceVersion := interfaceVersion }

def setDataFlags (ctx : Data) (dataFlags : Context.DataFlags) : Data :=
  { ctx with
    dataFlags := dataFlags
    alignmentMayBeNotEqual := dataFlags.alignmentMayBeNotEqual
    sizeOfPrimitivesMayBeNotEqual := dataFlags.sizeOfIntegersMayBeNotEqual
    allowUnmanagedPointers := dataFlags.allowUnmanagedPointers
    checkRecursivePointers := dataFlags.checkRecursivePointers
    simplyAssignableTagsOptimizationsAreTurnedOff :=
      dataFlags.simplyAssignableTagsOptimizationsAreTurnedOff }

def construct (common : Common) (dataFlags : Context.DataFlags) (forTempUseHeap : Bool)
    (interfaceVersion : BitVec 32) : Data :=
  setDataFlags
    { common with
      interfaceVersion := interfaceVersion
      dataFlags := .ofUInt32 0
      interfaceVersionsNotMatch := false
      forTempUseHeap := forTempUseHeap
      alignmentMayBeNotEqual := false
      sizeOfPrimitivesMayBeNotEqual := false
      allowUnmanagedPointers := false
      checkRecursivePointers := false
      simplyAssignableTagsOptimizationsAreTurnedOff := false } dataFlags

def resetToDefaultsExceptDataContents (ctx : Data) : Data :=
  setDataFlags
    { ctx with
      toCommon := ctx.toCommon.resetToDefaultsExceptDataContents
      interfaceVersion := BitVec.ofNat 32 Context.Traits.kInterfaceVersionUndefined
      interfaceVersionsNotMatch := false } (.ofUInt32 0)

/-- `clear` of the base calls the overridden reset. -/
def clear (ctx : Data) : Data :=
  setDataFlags
    { ctx.resetToDefaultsExceptDataContents with
      interfaceVersion := BitVec.ofNat 32 Context.Traits.kInterfaceVersionUndefined
      interfaceVersionsNotMatch := false } (.ofUInt32 0)

end Data

end Common

section Calls

inductive Object
  | common (ctx : Common)
  | data (ctx : Data)

def Object.base : Object → Common
  | common ctx => ctx
  | data ctx => ctx.toCommon

inductive Setter
  | setProtocolVersion (protocolVersion : UInt8)
  | setMessageType (messageType : Context.Message)
  | setCommonFlags (commonFlags : Context.CommonFlags)
  | setInterfaceVersion (interfaceVersion : BitVec 32)
  | setDataFlags (dataFlags : Context.DataFlags)

variable (platform : Platform)

def Object.change (change : Common → Common) : Object → Object
  | common ctx => common (change ctx)
  | data ctx => data { ctx with toCommon := change ctx.toCommon }

/-- Only a data context has the last two mutators. -/
def Setter.call : Setter → Object → Object
  | setProtocolVersion version, object => object.change (·.setProtocolVersion version)
  | setMessageType messageType, object => object.change (·.setMessageType messageType)
  | setCommonFlags flags, object => object.change (Common.setCommonFlags platform · flags)
  | setInterfaceVersion version, .data ctx => .data (ctx.setInterfaceVersion version)
  | setDataFlags flags, .data ctx => .data (ctx.setDataFlags flags)
  | setInterfaceVersion _, .common ctx => .common ctx
  | setDataFlags _, .common ctx => .common ctx

/-- The reader of header fields; only the platform and the byte order of the
format matter to it. -/
def reader (commonFlags : Context.CommonFlags) : DContext Empty :=
  .unbounded
    { platform := platform
      protocolVersion := Context.Traits.getLatestProtocolVersion
      messageType := .data
      commonFlags := commonFlags
      dataFlags := .ofUInt32 0
      interfaceVersion := Context.Traits.kInterfaceVersionUndefined
      interfaceVersionsNotMatch := false
      isHeapUsedForTemp := true }

/-- The common context is always in little-endian format. -/
def readSpecial (size : Width) (input : DState Empty) :
    Option (Word size × DState Empty) :=
  match readPrimitive (reader platform (.ofUInt32 0)) size input with
  | .ok value input => some (value, input)
  | .error _ _ => none

def typeAndFlags (input : DState Empty) : List Setter :=
  match readSpecial platform .two input with
  | none => []
  | some (messageType, input) =>
      .setMessageType (.ofCode messageType) ::
        match readSpecial platform .four input with
        | none => []
        | some (intFlags, _) => [.setCommonFlags (.ofUInt32 intFlags)]

/-- `common::ContextProcessor::deserialize`: the mutators it calls on a context
with a protocol version. -/
def deserialize (minimumSupportedVersion : UInt8) (input : DState Empty) : List Setter :=
  match readSpecial platform .two input with
  | none => []
  | some (version, input) =>
      let version := UInt8.ofNat version.toNat
      .setProtocolVersion version ::
        if version < minimumSupportedVersion ∨ getLatestProtocolVersion < version then []
        else typeAndFlags platform input

def deserializeNoChecks (input : DState Empty) : List Setter :=
  match readSpecial platform .two input with
  | none => []
  | some (version, input) =>
      .setProtocolVersion (UInt8.ofNat version.toNat) :: typeAndFlags platform input

def deserializeData (ctx : Common) (input : DState Empty) : List Setter :=
  let memory := reader platform ctx.getCommonFlags
  match Csp.Data.readId memory input with
  | .error _ _ => []
  | .ok _ input =>
      match readPrimitive memory .four input with
      | .error _ _ => []
      | .ok version input =>
          .setInterfaceVersion version ::
            match readPrimitive memory .four input with
            | .error _ _ => []
            | .ok intFlags _ => [.setDataFlags (.ofUInt32 intFlags)]

/-- A call on a context; the walker of a header is the caller's and is what it
is at the call. -/
inductive Call
  | set (setter : Setter)
  | deserialize (input : DState Empty)
  | deserializeNoChecks (input : DState Empty)
  | deserializeData (input : DState Empty)
  | resetToDefaultsExceptDataContents
  | clear

/-- A context beside the common flags that were last set on it. -/
structure Tracked where
  object : Object
  lastCommonFlags : Context.CommonFlags

def Tracked.set (tracked : Tracked) (setter : Setter) : Tracked where
  object := setter.call platform tracked.object
  lastCommonFlags :=
    match setter with
    | .setCommonFlags flags => flags
    | _ => tracked.lastCommonFlags

def Tracked.setAll (tracked : Tracked) (setters : List Setter) : Tracked :=
  setters.foldl (Tracked.set platform) tracked

def Object.reset : Object → Object
  | common ctx => common ctx.resetToDefaultsExceptDataContents
  | data ctx => data ctx.resetToDefaultsExceptDataContents

def Object.clear : Object → Object
  | common ctx => common ctx.resetToDefaultsExceptDataContents
  | data ctx => data ctx.clear

def Tracked.call (tracked : Tracked) : Call → Tracked
  | .set setter => tracked.set platform setter
  | .deserialize input =>
      tracked.setAll platform
        (CachedContext.deserialize platform tracked.object.base.protocolVersion input)
  | .deserializeNoChecks input =>
      tracked.setAll platform (CachedContext.deserializeNoChecks platform input)
  | .deserializeData input =>
      tracked.setAll platform (CachedContext.deserializeData platform tracked.object.base input)
  | .resetToDefaultsExceptDataContents => { tracked with object := tracked.object.reset }
  | .clear => { tracked with object := tracked.object.clear }

abbrev World := List Tracked

inductive Action
  | newCommon (protocolVersion : UInt8) (messageType : Context.Message)
      (commonFlags : Context.CommonFlags)
  | newData (protocolVersion : UInt8) (commonFlags : Context.CommonFlags)
      (dataFlags : Context.DataFlags) (forTempUseHeap : Bool) (interfaceVersion : BitVec 32)
  | copyToData (index : Nat) (dataFlags : Context.DataFlags) (forTempUseHeap : Bool)
      (interfaceVersion : BitVec 32)
  | call (index : Nat) (call : Call)

def World.act (world : World) : Action → World
  | .newCommon protocolVersion messageType commonFlags =>
      ⟨.common (.construct platform protocolVersion messageType commonFlags), commonFlags⟩ ::
        world
  | .newData protocolVersion commonFlags dataFlags forTempUseHeap interfaceVersion =>
      ⟨.data (.construct (.construct platform protocolVersion .data commonFlags) dataFlags
        forTempUseHeap interfaceVersion), commonFlags⟩ :: world
  | .copyToData index dataFlags forTempUseHeap interfaceVersion =>
      match world[index]? with
      | none => world
      | some source =>
          ⟨.data (.construct source.object.base dataFlags forTempUseHeap interfaceVersion),
            source.lastCommonFlags⟩ :: world
  | .call index call => world.modify index (·.call platform call)

end Calls

section Coherence

variable (platform : Platform)

/-- The values that the common part keeps are those they stand for. -/
structure Common.Coherent (ctx : Common) (lastCommonFlags : Context.CommonFlags) :
    Prop where
  protocolVersionsNotMatch :
    ctx.protocolVersionsNotMatch = true ↔ ctx.protocolVersion ≠ getLatestProtocolVersion
  endiannessNotMatch :
    ctx.endiannessNotMatch = true ↔ ctx.bigEndianFormat ≠ platform.isBigEndianPlatform
  getCommonFlags : ctx.getCommonFlags = lastCommonFlags

structure Data.Coherent (ctx : Data) : Prop where
  alignmentMayBeNotEqual :
    ctx.alignmentMayBeNotEqual = ctx.dataFlags.alignmentMayBeNotEqual
  sizeOfPrimitivesMayBeNotEqual :
    ctx.sizeOfPrimitivesMayBeNotEqual = ctx.dataFlags.sizeOfIntegersMayBeNotEqual
  allowUnmanagedPointers :
    ctx.allowUnmanagedPointers = ctx.dataFlags.allowUnmanagedPointers
  checkRecursivePointers :
    ctx.checkRecursivePointers = ctx.dataFlags.checkRecursivePointers
  simplyAssignableTagsOptimizationsAreTurnedOff :
    ctx.simplyAssignableTagsOptimizationsAreTurnedOff =
      ctx.dataFlags.simplyAssignableTagsOptimizationsAreTurnedOff

def Object.Coherent : Object → Context.CommonFlags → Prop
  | common ctx, flags => ctx.Coherent platform flags
  | data ctx, flags => ctx.toCommon.Coherent platform flags ∧ ctx.Coherent

def Tracked.Coherent (tracked : Tracked) : Prop :=
  tracked.object.Coherent platform tracked.lastCommonFlags

def World.Coherent (world : World) : Prop :=
  ∀ tracked ∈ world, tracked.Coherent platform

def Setter.KeepsVersion : Setter → Prop
  | setProtocolVersion _ => False
  | _ => True

/-- What a call on a coherent context must be to keep it so: the mutator of the
version is not reached, and a reset does not change the version. -/
def Tracked.Meets (tracked : Tracked) : Call → Prop
  | .set setter => setter.KeepsVersion
  | .deserialize input => readSpecial platform .two input = none
  | .deserializeNoChecks input => readSpecial platform .two input = none
  | .deserializeData _ => True
  | .resetToDefaultsExceptDataContents | .clear =>
      tracked.object.base.protocolVersion = getLatestProtocolVersion

def World.Meets (world : World) : Action → Prop
  | .call index call => ∀ tracked, world[index]? = some tracked → tracked.Meets platform call
  | _ => True

variable {platform} {ctx : Common} {flags : Context.CommonFlags}

/-- The three bits are all there is in a word of common flags. -/
theorem getCommonFlags_setCommonFlags (ctx : Common) (flags : Context.CommonFlags) :
    (ctx.setCommonFlags platform flags).getCommonFlags = flags := by
  obtain ⟨word, valid⟩ := flags
  have small : word.toNat < 8 := by
    rw [← valid, BitVec.toNat_and]
    exact Nat.lt_succ_of_le Nat.and_le_right
  apply Context.FlagWord.ext
  show ((if (word &&& 1#32 != 0) = true then 1#32 else 0) |||
    (if (word &&& 2#32 != 0) = true then 2#32 else 0) |||
    (if (word &&& 4#32 != 0) = true then 4#32 else 0)) &&& 7#32 = word
  obtain ⟨number, bounded, rfl⟩ : ∃ number < 8, word = BitVec.ofNat 32 number :=
    ⟨word.toNat, small, by simp⟩
  interval_cases number <;> decide

section Kept

theorem Common.Coherent.setMessageType (coherent : ctx.Coherent platform flags)
    (messageType : Context.Message) :
    (ctx.setMessageType messageType).Coherent platform flags :=
  ⟨coherent.protocolVersionsNotMatch, coherent.endiannessNotMatch, coherent.getCommonFlags⟩

theorem Common.Coherent.setCommonFlags (coherent : ctx.Coherent platform flags)
    (newFlags : Context.CommonFlags) :
    (ctx.setCommonFlags platform newFlags).Coherent platform newFlags :=
  ⟨coherent.protocolVersionsNotMatch, bne_iff_ne, getCommonFlags_setCommonFlags ctx newFlags⟩

theorem Common.coherent_construct (protocolVersion : UInt8) (messageType : Context.Message)
    (commonFlags : Context.CommonFlags) :
    (Common.construct platform protocolVersion messageType commonFlags).Coherent platform
      commonFlags := by
  refine ⟨?_, bne_iff_ne, getCommonFlags_setCommonFlags _ _⟩
  exact bne_iff_ne.trans ne_comm

def Common.Misled (ctx : Common) : Prop :=
  ¬(ctx.protocolVersionsNotMatch = true ↔ ctx.protocolVersion ≠ getLatestProtocolVersion)

theorem Common.Misled.not_coherent (misled : ctx.Misled) :
    ¬ctx.Coherent platform flags :=
  fun coherent => misled coherent.protocolVersionsNotMatch

/-- The mutator of the version always leaves the wrong answer. -/
theorem Common.misled_setProtocolVersion (ctx : Common) (protocolVersion : UInt8) :
    (ctx.setProtocolVersion protocolVersion).Misled := by
  intro answer
  simp only [setProtocolVersion, isProtocolVersionSameAsLatestOur, beq_iff_eq] at answer
  by_cases same : getLatestProtocolVersion = protocolVersion
  · exact answer.mp same same.symm
  · exact same (answer.mpr (Ne.symm same))

/-- A reset changes the version and not what is kept beside it. -/
theorem Common.Coherent.reset_iff (coherent : ctx.Coherent platform flags) :
    ctx.resetToDefaultsExceptDataContents.Coherent platform flags ↔
      ctx.protocolVersion = getLatestProtocolVersion := by
  constructor
  · intro reset
    by_contra other
    exact reset.protocolVersionsNotMatch.mp
      (coherent.protocolVersionsNotMatch.mpr other) rfl
  · intro latest
    refine ⟨?_, coherent.endiannessNotMatch, coherent.getCommonFlags⟩
    have kept := coherent.protocolVersionsNotMatch
    rwa [latest] at kept

theorem Data.coherent_setDataFlags (ctx : Data) (dataFlags : Context.DataFlags) :
    (ctx.setDataFlags dataFlags).Coherent :=
  ⟨rfl, rfl, rfl, rfl, rfl⟩

end Kept

section Steps

variable {object : Object} {tracked : Tracked} {world : World}

theorem Object.Coherent.base (coherent : object.Coherent platform flags) :
    object.base.Coherent platform flags := by
  cases object with
  | common ctx => exact coherent
  | data ctx => exact coherent.1

theorem Object.Coherent.change (coherent : object.Coherent platform flags)
    {change : Common → Common} {newFlags : Context.CommonFlags} :
    (object.change change).Coherent platform newFlags ↔
      (change object.base).Coherent platform newFlags := by
  cases object with
  | common ctx => exact Iff.rfl
  | data ctx =>
      have cached : Data.Coherent { ctx with toCommon := change ctx.toCommon } :=
        ⟨coherent.2.1, coherent.2.2, coherent.2.3, coherent.2.4, coherent.2.5⟩
      exact ⟨fun both => both.1, fun base => ⟨base, cached⟩⟩

theorem Object.base_change (change : Common → Common) :
    (object.change change).base = change object.base := by
  cases object <;> rfl

/-- Only the mutator of the version changes what is known of it. -/
theorem Setter.KeepsVersion.base {setter : Setter} (keeps : setter.KeepsVersion)
    (object : Object) :
    (setter.call platform object).base.protocolVersion = object.base.protocolVersion ∧
      (setter.call platform object).base.protocolVersionsNotMatch =
        object.base.protocolVersionsNotMatch := by
  cases setter with
  | setProtocolVersion version => exact keeps.elim
  | setMessageType | setCommonFlags =>
      simp only [Setter.call, Object.base_change]
      exact ⟨rfl, rfl⟩
  | setInterfaceVersion | setDataFlags => cases object <;> exact ⟨rfl, rfl⟩

theorem Tracked.Coherent.set_iff (coherent : tracked.Coherent platform) (setter : Setter) :
    (tracked.set platform setter).Coherent platform ↔ setter.KeepsVersion := by
  obtain ⟨object, lastCommonFlags⟩ := tracked
  have whole : object.Coherent platform lastCommonFlags := coherent
  cases setter with
  | setProtocolVersion version =>
      refine iff_of_false ?_ (fun keeps => keeps)
      intro kept
      exact (object.base.misled_setProtocolVersion version).not_coherent
        (whole.change.mp kept)
  | setMessageType messageType =>
      exact iff_of_true (whole.change.mpr (whole.base.setMessageType messageType)) trivial
  | setCommonFlags newFlags =>
      exact iff_of_true (whole.change.mpr (whole.base.setCommonFlags newFlags)) trivial
  | setInterfaceVersion version =>
      refine iff_of_true ?_ trivial
      cases object with
      | common ctx => exact coherent
      | data ctx => exact ⟨whole.1, whole.2.1, whole.2.2, whole.2.3, whole.2.4, whole.2.5⟩
  | setDataFlags dataFlags =>
      refine iff_of_true ?_ trivial
      cases object with
      | common ctx => exact coherent
      | data ctx => exact ⟨whole.1, ctx.coherent_setDataFlags dataFlags⟩

theorem Tracked.Coherent.setAll {setters : List Setter}
    (keep : ∀ setter ∈ setters, setter.KeepsVersion) : ∀ {tracked : Tracked},
    tracked.Coherent platform → (tracked.setAll platform setters).Coherent platform := by
  induction setters with
  | nil => exact fun coherent => coherent
  | cons setter rest induction =>
      intro tracked coherent
      apply induction fun other member => keep other (List.mem_cons_of_mem _ member)
      exact (coherent.set_iff setter).mpr (keep setter List.mem_cons_self)

/-- No other mutator puts the answer right. -/
theorem misled_setAll {setters : List Setter}
    (keep : ∀ setter ∈ setters, setter.KeepsVersion) : ∀ {tracked : Tracked},
    tracked.object.base.Misled →
      (tracked.setAll platform setters).object.base.Misled := by
  induction setters with
  | nil => exact fun misled => misled
  | cons setter rest induction =>
      intro tracked misled
      apply induction fun other member => keep other (List.mem_cons_of_mem _ member)
      have moved : (tracked.set platform setter).object =
          setter.call platform tracked.object := rfl
      obtain ⟨version, notMatch⟩ := (keep setter List.mem_cons_self).base tracked.object
      rw [Common.Misled, moved, version, notMatch]
      exact misled

/-- Once the mutator of the version has been called a decoding is lost. -/
theorem Tracked.not_coherent_setAll {setters : List Setter} (version : UInt8)
    (keep : ∀ setter ∈ setters, setter.KeepsVersion) :
    ¬(tracked.setAll platform (.setProtocolVersion version :: setters)).Coherent
      platform := by
  intro coherent
  have misled : (tracked.set platform (.setProtocolVersion version)).object.base.Misled := by
    have moved : (tracked.set platform (.setProtocolVersion version)).object =
        tracked.object.change (·.setProtocolVersion version) := rfl
    rw [moved, Object.base_change]
    exact Common.misled_setProtocolVersion _ version
  exact (misled_setAll keep misled).not_coherent (Object.Coherent.base coherent)

theorem keepsVersion_typeAndFlags (input : DState Empty) :
    ∀ setter ∈ typeAndFlags platform input, setter.KeepsVersion := by
  intro setter member
  unfold typeAndFlags at member
  split at member
  · cases member
  · rcases List.mem_cons.mp member with rfl | member
    · trivial
    · split at member
      · cases member
      · rw [List.mem_singleton.mp member]
        trivial

theorem keepsVersion_deserializeData (input : DState Empty) :
    ∀ setter ∈ deserializeData platform ctx input, setter.KeepsVersion := by
  intro setter member
  simp only [deserializeData] at member
  split at member
  · cases member
  · split at member
    · cases member
    · rcases List.mem_cons.mp member with rfl | member
      · trivial
      · split at member
        · cases member
        · rw [List.mem_singleton.mp member]
          trivial

theorem Object.Coherent.reset_iff (coherent : object.Coherent platform flags) :
    object.reset.Coherent platform flags ↔
      object.base.protocolVersion = getLatestProtocolVersion := by
  cases object with
  | common ctx => exact Common.Coherent.reset_iff coherent
  | data ctx =>
      refine Iff.trans ?_ (Common.Coherent.reset_iff coherent.1)
      exact ⟨fun both => both.1, fun base => ⟨base, Data.coherent_setDataFlags _ _⟩⟩

theorem Object.Coherent.clear_iff (coherent : object.Coherent platform flags) :
    object.clear.Coherent platform flags ↔
      object.base.protocolVersion = getLatestProtocolVersion := by
  cases object with
  | common ctx => exact Common.Coherent.reset_iff coherent
  | data ctx =>
      refine Iff.trans ?_ (Common.Coherent.reset_iff coherent.1)
      exact ⟨fun both => both.1, fun base => ⟨base, Data.coherent_setDataFlags _ _⟩⟩

/-- A call keeps a context coherent exactly when it meets the condition. -/
theorem Tracked.Coherent.call_iff (coherent : tracked.Coherent platform) (call : Call) :
    (tracked.call platform call).Coherent platform ↔ tracked.Meets platform call := by
  cases call with
  | set setter => exact coherent.set_iff setter
  | deserialize input =>
      simp only [Tracked.call, Tracked.Meets, deserialize]
      split
      · rename_i unread
        exact iff_of_true coherent unread
      · rename_i read
        refine iff_of_false ?_ (by rw [read]; nofun)
        apply not_coherent_setAll
        split
        · exact fun _ member => absurd member List.not_mem_nil
        · exact keepsVersion_typeAndFlags _
  | deserializeNoChecks input =>
      simp only [Tracked.call, Tracked.Meets, deserializeNoChecks]
      split
      · rename_i unread
        exact iff_of_true coherent unread
      · rename_i read
        refine iff_of_false ?_ (by rw [read]; nofun)
        exact not_coherent_setAll _ (keepsVersion_typeAndFlags _)
  | deserializeData input =>
      exact iff_of_true (Tracked.Coherent.setAll (keepsVersion_deserializeData input) coherent)
        trivial
  | resetToDefaultsExceptDataContents => exact Object.Coherent.reset_iff coherent
  | clear => exact Object.Coherent.clear_iff coherent

theorem World.Coherent.act_iff (coherent : world.Coherent platform) (action : Action) :
    (world.act platform action).Coherent platform ↔ world.Meets platform action := by
  cases action with
  | newCommon protocolVersion messageType commonFlags =>
      refine iff_of_true ?_ trivial
      exact List.forall_mem_cons.mpr ⟨Common.coherent_construct _ _ _, coherent⟩
  | newData protocolVersion commonFlags dataFlags forTempUseHeap interfaceVersion =>
      refine iff_of_true (List.forall_mem_cons.mpr ⟨⟨?_, ?_⟩, coherent⟩) trivial
      · exact Common.coherent_construct protocolVersion .data commonFlags
      · exact Data.coherent_setDataFlags _ dataFlags
  | copyToData index dataFlags forTempUseHeap interfaceVersion =>
      refine iff_of_true ?_ trivial
      simp only [World.act]
      split
      · exact coherent
      · rename_i source found
        refine List.forall_mem_cons.mpr ⟨⟨?_, ?_⟩, coherent⟩
        · exact Object.Coherent.base (coherent source (List.mem_of_getElem? found))
        · exact Data.coherent_setDataFlags _ dataFlags
  | call index call =>
      constructor
      · intro kept tracked found
        have member : tracked.call platform call ∈ world.act platform (.call index call) := by
          apply List.mem_of_getElem? (i := index)
          simp [World.act, found]
        exact ((coherent tracked (List.mem_of_getElem? found)).call_iff call).mp
          (kept _ member)
      · intro meets tracked member
        obtain ⟨position, found⟩ := List.getElem?_of_mem member
        simp only [World.act, List.getElem?_modify] at found
        obtain ⟨before, present, rfl⟩ := Option.map_eq_some_iff.mp found
        have known := coherent before (List.mem_of_getElem? present)
        split
        · rename_i same
          subst same
          exact (known.call_iff call).mpr (meets before present)
        · exact known

end Steps

/-- In a run whose steps all meet the condition every context is coherent, and a
step that does not meet it leaves one that is not. -/
theorem contexts_coherent_iff (platform : Platform) {world : World}
    (reached : Reaches (fun world action next => next = World.act platform world action)
      (World.Meets platform) [] world) :
    world.Coherent platform ∧
      ∀ action, (world.act platform action).Coherent platform ↔
        world.Meets platform action := by
  have coherent : world.Coherent platform := by
    refine reached.invariant ?_ ?_
    · exact fun _ member => absurd member List.not_mem_nil
    · rintro state action _ holds meets rfl
      exact (World.Coherent.act_iff holds action).mpr meets
  exact ⟨coherent, World.Coherent.act_iff coherent⟩

section Session

private def session : List Action :=
  [.newCommon 1 .data (.ofUInt32 2), .copyToData 0 (.ofUInt32 4) true 3,
    .call 0 (.set (.setCommonFlags (.ofUInt32 5))), .call 1 .clear]

private def visited (actions : List Action) : World :=
  actions.foldl (World.act ⟨false, false⟩) []

private theorem reaches_act {world : World}
    (reached : Reaches (fun world action next => next = World.act ⟨false, false⟩ world action)
      (World.Meets ⟨false, false⟩) [] world) (action : Action)
    (met : world.Meets ⟨false, false⟩ action) :
    Reaches (fun world action next => next = World.act ⟨false, false⟩ world action)
      (World.Meets ⟨false, false⟩) [] (world.act ⟨false, false⟩ action) :=
  reached.next met rfl

theorem contexts_coherent_session : World.Coherent ⟨false, false⟩ (visited session) := by
  refine (contexts_coherent_iff ⟨false, false⟩ ?_).1
  refine reaches_act (reaches_act (reaches_act (reaches_act .start
    (.newCommon 1 .data (.ofUInt32 2)) trivial) (.copyToData 0 (.ofUInt32 4) true 3) trivial)
    (.call 0 (.set (.setCommonFlags (.ofUInt32 5)))) fun _ _ => trivial) (.call 1 .clear) ?_
  intro tracked found
  cases found
  rfl

private def headerInput : DState Empty :=
  .start [1, 0, 1, 0, 0, 0, 0, 0]

/-- After the mutator, or the decoder, has set the latest version a context says
that it differs; after a reset it goes on saying so of another version. -/
theorem version_misreported :
    ¬World.Coherent ⟨false, false⟩ (visited [.newCommon 1 .data (.ofUInt32 0),
        .call 0 (.set (.setProtocolVersion 1))]) ∧
      ¬World.Coherent ⟨false, false⟩ (visited [.newCommon 1 .data (.ofUInt32 0),
        .call 0 (.deserialize headerInput)]) ∧
      ¬World.Coherent ⟨false, false⟩ (visited [.newCommon 0 .data (.ofUInt32 0),
        .call 0 .resetToDefaultsExceptDataContents]) := by
  refine ⟨fun coherent => ?_, fun coherent => ?_, fun coherent => ?_⟩ <;>
    exact absurd (coherent _ List.mem_cons_self).protocolVersionsNotMatch (by decide)

end Session

section Abstraction

/-- The context as the body's processing sees it, with the words only. -/
def Data.toContext (platform : Platform) (ctx : Data) : Context.Data where
  platform := platform
  protocolVersion := ctx.protocolVersion.toNat
  messageType := ctx.messageType
  commonFlags := ctx.getCommonFlags
  dataFlags := ctx.dataFlags
  interfaceVersion := ctx.interfaceVersion.toNat
  interfaceVersionsNotMatch := ctx.interfaceVersionsNotMatch
  isHeapUsedForTemp := ctx.forTempUseHeap

variable {platform : Platform} {ctx : Data}

theorem Common.getCommonFlags_bits (ctx : Common) :
    ctx.getCommonFlags.bitness32 = ctx.bitness32 ∧
      ctx.getCommonFlags.bigEndianFormat = ctx.bigEndianFormat ∧
      ctx.getCommonFlags.endiannessDifference = ctx.endiannessDifference := by
  have bits : ∀ bitness32 bigEndianFormat endiannessDifference : Bool,
      let flags : Context.CommonFlags :=
        .ofUInt32 ((if bitness32 then Context.CommonFlags.kBitness32 else 0) |||
          (if bigEndianFormat then Context.CommonFlags.kBigEndianFormat else 0) |||
          (if endiannessDifference then Context.CommonFlags.kEndiannessDifference else 0))
      flags.bitness32 = bitness32 ∧ flags.bigEndianFormat = bigEndianFormat ∧
        flags.endiannessDifference = endiannessDifference := by
    decide
  exact bits ctx.bitness32 ctx.bigEndianFormat ctx.endiannessDifference

/-- In a coherent context every value that is kept is the one that the words
give. -/
theorem Object.Coherent.toContext {flags : Context.CommonFlags}
    (coherent : (Object.data ctx).Coherent platform flags) :
    (ctx.toContext platform).commonFlags = flags ∧
      (ctx.toContext platform).bitness32 = ctx.bitness32 ∧
      (ctx.toContext platform).bigEndianFormat = ctx.bigEndianFormat ∧
      (ctx.toContext platform).endiannessDifference = ctx.endiannessDifference ∧
      (ctx.toContext platform).endiannessNotMatch = ctx.endiannessNotMatch ∧
      (ctx.toContext platform).alignmentMayBeNotEqual = ctx.alignmentMayBeNotEqual ∧
      (ctx.toContext platform).sizeOfIntegersMayBeNotEqual =
        ctx.sizeOfPrimitivesMayBeNotEqual ∧
      (ctx.toContext platform).allowUnmanagedPointers = ctx.allowUnmanagedPointers ∧
      (ctx.toContext platform).checkRecursivePointers = ctx.checkRecursivePointers ∧
      (ctx.toContext platform).simplyAssignableTagsOptimizationsAreTurnedOff =
        ctx.simplyAssignableTagsOptimizationsAreTurnedOff := by
  obtain ⟨base, data⟩ := coherent
  obtain ⟨bitness32, bigEndianFormat, endiannessDifference⟩ :=
    ctx.toCommon.getCommonFlags_bits
  have notMatch : (ctx.bigEndianFormat != platform.isBigEndianPlatform) =
      ctx.endiannessNotMatch := by
    rw [Bool.eq_iff_iff, base.endiannessNotMatch]
    exact bne_iff_ne
  refine ⟨base.getCommonFlags, bitness32, bigEndianFormat, endiannessDifference, ?_,
    data.1.symm, data.2.symm, data.3.symm, data.4.symm, data.5.symm⟩
  rw [← notMatch, ← bigEndianFormat]
  rfl

end Abstraction

end Coherence

end CommonSerialization.Csp.CachedContext
