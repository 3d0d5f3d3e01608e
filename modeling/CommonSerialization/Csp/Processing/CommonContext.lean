import CommonSerialization.Csp.Processing.Primitives

namespace CommonSerialization.Csp

open StateExcept

/-! The common context at the beginning of every message. -/

namespace Common

/-- The message says how its byte order differs from the platform's. -/
def endiannessIsDeclared (data : Context.Data) : Bool :=
  !(data.endiannessNotMatch && !data.endiannessDifference)

/-- The common context is in little-endian format whatever the flags. -/
def commonContextSpecial (data : Context.Data) : Context.Data :=
  data.setCommonFlags (.ofUInt32 0)

def serializeNoChecks (ctx : SContext) : SProc Unit := do
  let special : SContext := { ctx with data := commonContextSpecial ctx.data }
  writePrimitive special .two (BitVec.ofNat _ ctx.data.protocolVersion)
  writePrimitive special .two ctx.data.messageType.code
  writePrimitive special .four ctx.data.commonFlags.flags

def serialize (ctx : SContext) : SProc Unit :=
  if !Context.Traits.isProtocolVersionSupported ctx.data.protocolVersion then
    fail .errorNotSupportedProtocolVersion
  else if !endiannessIsDeclared ctx.data then
    fail .errorNotCompatibleCommonFlagsSettings
  else
    serializeNoChecks ctx

def deserializeFlags (special : DContext P) (data : Context.Data) :
    DProc P Context.Data := do
  let messageType ← readPrimitive special .two
  let intFlags ← readPrimitive special .four
  if endiannessIsDeclared (data.setCommonFlags (.ofUInt32 intFlags)) then
    return (data.setCommonFlags (.ofUInt32 intFlags)).setMessageType
      (.ofCode messageType)
  else
    fail .errorNotCompatibleCommonFlagsSettings

/-- The context as the header describes it; the protocol version it had before
is the lowest one that is accepted. -/
def deserialize (ctx : DContext P) : DProc P Context.Data := do
  let special : DContext P :=
    { ctx with data := commonContextSpecial ctx.data }
  let version ← readPrimitive special .two
  if version.toNat % 256 < ctx.data.protocolVersion ∨
      Context.Traits.getLatestProtocolVersion < version.toNat % 256 then
    fail .errorNotSupportedProtocolVersion
  else
    deserializeFlags special
      (ctx.data.setProtocolVersion (version.toNat % 256))

def deserializeNoChecks (ctx : DContext P) : DProc P Context.Data := do
  let special : DContext P :=
    { ctx with data := commonContextSpecial ctx.data }
  let version ← readPrimitive special .two
  let messageType ← readPrimitive special .two
  let intFlags ← readPrimitive special .four
  return ((ctx.data.setProtocolVersion (version.toNat % 256)).setMessageType
    (.ofCode messageType)).setCommonFlags (.ofUInt32 intFlags)

/-- What `deserialize` leaves in the context, also when it fails. -/
def contextAfter (ctx : DContext P) (state : DState P) : Context.Data :=
  let special : DContext P :=
    { ctx with data := commonContextSpecial ctx.data }
  match readPrimitive special .two state with
  | .error _ _ => ctx.data
  | .ok version state =>
      let data := ctx.data.setProtocolVersion (version.toNat % 256)
      if version.toNat % 256 < ctx.data.protocolVersion ∨
          Context.Traits.getLatestProtocolVersion < version.toNat % 256 then
        data
      else
        match readPrimitive special .two state with
        | .error _ _ => data
        | .ok messageType state =>
            match readPrimitive special .four state with
            | .error _ _ => data.setMessageType (.ofCode messageType)
            | .ok intFlags _ =>
                (data.setCommonFlags (.ofUInt32 intFlags)).setMessageType
                  (.ofCode messageType)

theorem contextAfter_of_deserialize {ctx : DContext P} {data : Context.Data}
    {before after : DState P} (ran : deserialize ctx before = .ok data after) :
    contextAfter ctx before = data := by
  obtain ⟨version, _, versionRead, ran⟩ := bind_eq_ok ran
  split at ran
  · cases ran
  · rename_i supported
    obtain ⟨messageType, _, typeRead, ran⟩ := bind_eq_ok ran
    obtain ⟨intFlags, _, flagsRead, ran⟩ := bind_eq_ok ran
    split at ran
    · cases ran
      simp only [contextAfter, versionRead, if_neg supported, typeRead, flagsRead]
    · cases ran

theorem endiannessIsDeclared_of_serialize {ctx : SContext}
    {before after : SState} (ran : serialize ctx before = .ok () after) :
    endiannessIsDeclared ctx.data := by
  unfold serialize at ran
  split at ran
  · cases ran
  · split at ran
    · cases ran
    · rename_i declared
      simpa using declared

theorem endiannessIsDeclared_of_deserialize {ctx : DContext P}
    {data : Context.Data} {before after : DState P}
    (ran : deserialize ctx before = .ok data after) :
    endiannessIsDeclared data ∧ data.platform = ctx.data.platform := by
  obtain ⟨version, _, _, versionRead⟩ := bind_eq_ok ran
  split at versionRead
  · cases versionRead
  · obtain ⟨messageType, _, _, typeRead⟩ := bind_eq_ok versionRead
    obtain ⟨intFlags, _, _, flagsRead⟩ := bind_eq_ok typeRead
    split at flagsRead
    · rename_i declared
      cases flagsRead
      exact ⟨declared, rfl⟩
    · cases flagsRead

/-- Parties of different byte orders that both accept the flags have declared
the difference. -/
theorem endiannessDifference_of_declared {sender receiver : Context.Data}
    (sameFlags : receiver.commonFlags = sender.commonFlags)
    (senderDeclared : endiannessIsDeclared sender)
    (receiverDeclared : endiannessIsDeclared receiver)
    (differ : receiver.platform.isBigEndianPlatform ≠
      sender.platform.isBigEndianPlatform) :
    sender.endiannessDifference = true := by
  have sameDifference :
      receiver.endiannessDifference = sender.endiannessDifference := by
    simp only [Context.Data.endiannessDifference, sameFlags]
  have sameFormat : receiver.bigEndianFormat = sender.bigEndianFormat := by
    simp only [Context.Data.bigEndianFormat, sameFlags]
  simp only [endiannessIsDeclared, Context.Data.endiannessNotMatch, sameFormat,
    sameDifference] at senderDeclared receiverDeclared
  cases sent : sender.platform.isBigEndianPlatform <;>
    cases received : receiver.platform.isBigEndianPlatform <;>
    cases format : sender.bigEndianFormat <;>
    simp_all

end Common

end CommonSerialization.Csp
