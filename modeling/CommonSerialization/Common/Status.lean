import CommonSerialization.Library.StateExcept

namespace CommonSerialization

inductive Status
  | noError
  | noFurtherProcessingRequired
  | errorNoMemory
  | errorOverflow
  | errorInvalidArgument
  | errorNotSupportedProtocolVersion
  | errorNotSupportedInterfaceVersion
  | errorInvalidHash
  | errorMismatchOfProtocolVersions
  | errorMismatchOfInterfaceVersions
  | errorMismatchOfStructId
  | errorNoSuchHandler
  | errorInternal
  | errorNotSupportedSerializationSettingsForStruct
  | errorInvalidType
  | errorDataCorrupted
  | errorNotCompatibleCommonFlagsSettings
  | errorNotCompatibleDataFlagsSettings
  | errorMoreEntires
  | errorNotInited
  | errorNoSupportedInterfaces
  | errorNotSupportedInterface
  | errorTypeSizeIsTooBig
  | errorValueOverflow
  | errorNotAvailible
  | errorAlreadyInited
  deriving DecidableEq, Repr

namespace Status

def code : Status → Int
  | noError => 0
  | noFurtherProcessingRequired => 1
  | errorNoMemory => -1
  | errorOverflow => -2
  | errorInvalidArgument => -3
  | errorNotSupportedProtocolVersion => -4
  | errorNotSupportedInterfaceVersion => -5
  | errorInvalidHash => -6
  | errorMismatchOfProtocolVersions => -7
  | errorMismatchOfInterfaceVersions => -8
  | errorMismatchOfStructId => -9
  | errorNoSuchHandler => -10
  | errorInternal => -11
  | errorNotSupportedSerializationSettingsForStruct => -12
  | errorInvalidType => -13
  | errorDataCorrupted => -14
  | errorNotCompatibleCommonFlagsSettings => -15
  | errorNotCompatibleDataFlagsSettings => -16
  | errorMoreEntires => -17
  | errorNotInited => -18
  | errorNoSupportedInterfaces => -19
  | errorNotSupportedInterface => -20
  | errorTypeSizeIsTooBig => -21
  | errorValueOverflow => -22
  | errorNotAvailible => -23
  | errorAlreadyInited => -24

end Status

def statusSuccess (status : Status) : Bool :=
  decide (0 ≤ status.code)

/-- How a call ends without a success status: it returns an error status, an
exception leaves it, its behaviour is undefined, or the recursion bound of the
model is too small. -/
inductive Fault
  | status (status : Status)
  | exception
  | undefinedBehaviour
  | outOfFuel
  deriving DecidableEq, Repr

/-- A computation of the library.  A returned value stands for a success status;
`AGS_CS_RUN` is the monadic bind. -/
abbrev Proc (σ α : Type) := EStateM Fault σ α

def fail (status : Status) : Proc σ α := throw (.status status)

@[simp] theorem fail_apply (status : Status) (state : σ) :
    (fail status : Proc σ α) state = .error (.status status) state := rfl

end CommonSerialization
