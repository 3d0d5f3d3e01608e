import CommonSerialization.Csp.Context.Flags

namespace CommonSerialization.Context

/-- A `uint16_t` enumeration: a value from a message need not be named. -/
inductive Message
  | status
  | data
  | getSettings
  | unnamed (code : BitVec 16)
  deriving DecidableEq, Repr

namespace Message

def code : Message → BitVec 16
  | status => 0
  | data => 1
  | getSettings => 2
  | unnamed code => code

def ofCode (code : BitVec 16) : Message :=
  if code = 0 then status
  else if code = 1 then data
  else if code = 2 then getSettings
  else unnamed code

end Message

/-- What a data context holds besides its containers.  The booleans the source
keeps beside the flag words are read from the words here. -/
structure Data where
  platform : Platform
  protocolVersion : Nat
  messageType : Message
  commonFlags : CommonFlags
  dataFlags : DataFlags
  interfaceVersion : Nat
  interfaceVersionsNotMatch : Bool
  isHeapUsedForTemp : Bool
  deriving DecidableEq

namespace Traits

def kProtocolVersions : List Nat := [1]

def getLatestProtocolVersion : Nat := kProtocolVersions.headD 0

def isProtocolVersionSupported (foreignProtocolVersion : Nat) : Bool :=
  kProtocolVersions.contains foreignProtocolVersion

def kInterfaceVersionUndefined : Nat := 0xffffffff

def isInterfaceVersionSupported (version minVersion maxVersion : Nat) : Bool :=
  decide (version ≤ maxVersion) && decide (minVersion ≤ version)

end Traits

namespace Data

def setProtocolVersion (ctx : Data) (protocolVersion : Nat) : Data :=
  { ctx with protocolVersion := protocolVersion }

def setMessageType (ctx : Data) (messageType : Message) : Data :=
  { ctx with messageType := messageType }

def setCommonFlags (ctx : Data) (commonFlags : CommonFlags) : Data :=
  { ctx with commonFlags := commonFlags }

def setInterfaceVersion (ctx : Data) (interfaceVersion : Nat) : Data :=
  { ctx with interfaceVersion := interfaceVersion }

def setDataFlags (ctx : Data) (dataFlags : DataFlags) : Data :=
  { ctx with dataFlags := dataFlags }

def setInterfaceVersionsNotMatch (ctx : Data) (notMatch : Bool) : Data :=
  { ctx with interfaceVersionsNotMatch := notMatch }

def bitness32 (ctx : Data) : Bool :=
  ctx.commonFlags.bitness32

def bigEndianFormat (ctx : Data) : Bool :=
  ctx.commonFlags.bigEndianFormat

def endiannessDifference (ctx : Data) : Bool :=
  ctx.commonFlags.endiannessDifference

def endiannessNotMatch (ctx : Data) : Bool :=
  ctx.bigEndianFormat != ctx.platform.isBigEndianPlatform

def alignmentMayBeNotEqual (ctx : Data) : Bool :=
  ctx.dataFlags.alignmentMayBeNotEqual

def sizeOfIntegersMayBeNotEqual (ctx : Data) : Bool :=
  ctx.dataFlags.sizeOfIntegersMayBeNotEqual

def allowUnmanagedPointers (ctx : Data) : Bool :=
  ctx.dataFlags.allowUnmanagedPointers

def checkRecursivePointers (ctx : Data) : Bool :=
  ctx.dataFlags.checkRecursivePointers

def simplyAssignableTagsOptimizationsAreTurnedOff (ctx : Data) : Bool :=
  ctx.dataFlags.simplyAssignableTagsOptimizationsAreTurnedOff

end Data

end CommonSerialization.Context
