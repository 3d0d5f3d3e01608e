import CommonSerialization.Common.Status
import CommonSerialization.Common.Uuid
import CommonSerialization.Csp.Context.Data
import Mathlib.Data.List.Basic

namespace CommonSerialization.Csp.Messaging

open Context StateExcept

/-! The settings of the parties and what they have in common. -/

def kProtocolVersionUndefined : UInt8 := 0xff

structure InterfaceVersion where
  id : Uuid
  version : UInt32
  deriving DecidableEq

def InterfaceVersion.undefined : InterfaceVersion := ⟨.ofNat 0, 0xffffffff⟩

structure CspPartySettings where
  protocolVersions : List UInt8
  mandatoryCommonFlags : CommonFlags
  forbiddenCommonFlags : CommonFlags
  interfaces : List InterfaceVersion
  deriving DecidableEq

abbrev Room := Nat → Bool

namespace CspPartySettings

def empty : CspPartySettings := ⟨[], .ofUInt32 0, .ofUInt32 0, []⟩

def isValid (settings : CspPartySettings) : Bool :=
  decide (0 < settings.protocolVersions.length) &&
    !(settings.mandatoryCommonFlags.inter settings.forbiddenCommonFlags).isSet &&
    decide (0 < settings.interfaces.length)

def getLatestProtocolVersion (settings : CspPartySettings) : UInt8 :=
  settings.protocolVersions.headD kProtocolVersionUndefined

def getOldestProtocolVersion (settings : CspPartySettings) : UInt8 :=
  settings.protocolVersions.getLastD kProtocolVersionUndefined

end CspPartySettings

/-- A member function of a party: its settings stay as they are when it
fails. -/
abbrev SettingsProc := Proc CspPartySettings

section CompatibleSettings

variable (room : Room)

def initSettings (rhs : CspPartySettings) : SettingsProc Unit := do
  if room rhs.protocolVersions.length then
    modify fun settings =>
      { settings with
        protocolVersions := rhs.protocolVersions
        mandatoryCommonFlags := rhs.mandatoryCommonFlags
        forbiddenCommonFlags := rhs.forbiddenCommonFlags }
    if room rhs.interfaces.length then
      modify fun settings => { settings with interfaces := rhs.interfaces }
    else
      fail .errorNoMemory
  else
    fail .errorNoMemory

def pushProtocolVersion (version : UInt8) : SettingsProc Unit := do
  let settings ← get
  if room (settings.protocolVersions.length + 1) then
    set { settings with protocolVersions := settings.protocolVersions ++ [version] }
  else
    fail .errorNoMemory

def pushInterface (interface : InterfaceVersion) : SettingsProc Unit := do
  let settings ← get
  if room (settings.interfaces.length + 1) then
    set { settings with interfaces := settings.interfaces ++ [interface] }
  else
    fail .errorNoMemory

def pushCommonVersions (rhs : List UInt8) : List UInt8 → SettingsProc Unit
  | [] => return ()
  | lhsVersion :: rest => do
      match rhs.find? fun rhsVersion => lhsVersion == rhsVersion with
      | some _ => pushProtocolVersion room lhsVersion
      | none => pure ()
      pushCommonVersions rhs rest

def pushCommonInterfaces (rhs : List InterfaceVersion) :
    List InterfaceVersion → SettingsProc Unit
  | [] => return ()
  | lhsInterface :: rest => do
      match rhs.find? fun rhsInterface => lhsInterface.id == rhsInterface.id with
      | some rhsInterface =>
          pushInterface room ⟨lhsInterface.id,
            if lhsInterface.version < rhsInterface.version then
              lhsInterface.version
            else rhsInterface.version⟩
      | none => pure ()
      pushCommonInterfaces rhs rest

def getCompatibleSettings (lhs rhs : CspPartySettings) : SettingsProc Unit := do
  pushCommonVersions room rhs.protocolVersions lhs.protocolVersions
  if (← get).protocolVersions.length = 0 then
    fail .errorNotSupportedProtocolVersion
  else
    modify fun settings =>
      { settings with
        mandatoryCommonFlags :=
          lhs.mandatoryCommonFlags.union rhs.mandatoryCommonFlags
        forbiddenCommonFlags :=
          lhs.forbiddenCommonFlags.union rhs.forbiddenCommonFlags }
    let settings ← get
    if (settings.mandatoryCommonFlags.inter settings.forbiddenCommonFlags).isSet then
      fail .errorNotCompatibleCommonFlagsSettings
    else
      pushCommonInterfaces room rhs.interfaces lhs.interfaces
      if (← get).interfaces.length = 0 then
        fail .errorNoSupportedInterfaces

end CompatibleSettings

/-- What the server answers to the two requests of a client that has not been
initialised. -/
structure ServerAnswers where
  getServerProtocolVersions : Except Status (List UInt8)
  getServerSettings : UInt8 → Except Status CspPartySettings

/-- The settings and validity of a client, and the settings of the server that
it hands to its caller. -/
structure Client where
  settings : CspPartySettings
  valid : Bool
  serverSettings : CspPartySettings

namespace Client

def fresh : Client := ⟨.empty, false, .empty⟩

abbrev ClientProc := Proc Client

def answer (outcome : Except Status α) : ClientProc α :=
  match outcome with
  | .ok value => return value
  | .error status => fail status

def onSettings (proc : SettingsProc Unit) : ClientProc Unit := fun client =>
  match proc client.settings with
  | .ok value settings => .ok value { client with settings := settings }
  | .error fault settings => .error fault { client with settings := settings }

def onServerSettings (proc : SettingsProc Unit) : ClientProc Unit := fun client =>
  match proc client.serverSettings with
  | .ok value settings => .ok value { client with serverSettings := settings }
  | .error fault settings =>
      .error fault { client with serverSettings := settings }

/-- The inner loop over the versions of the client; it relies on their
order. -/
def findsClientVersion (serverProtocolVersion : UInt8) : List UInt8 → Bool
  | [] => false
  | clientProtocolVersion :: rest =>
      if clientProtocolVersion < serverProtocolVersion then
        false
      else if serverProtocolVersion = clientProtocolVersion then
        true
      else
        findsClientVersion serverProtocolVersion rest

def tempServerProtocolVersion (clientVersions : List UInt8) : List UInt8 → UInt8
  | [] => kProtocolVersionUndefined
  | serverProtocolVersion :: rest =>
      if findsClientVersion serverProtocolVersion clientVersions ∧
          serverProtocolVersion ≠ kProtocolVersionUndefined then
        serverProtocolVersion
      else
        tempServerProtocolVersion clientVersions rest

def becomeValid : ClientProc Unit := do
  let client ← get
  set { client with valid := client.settings.isValid }
  if client.settings.isValid then
    return ()
  else
    fail .errorNotInited

def begin (settings : CspPartySettings) (rest : ClientProc Unit) :
    ClientProc Unit := do
  if (← get).valid then
    fail .errorAlreadyInited
  else if !settings.isValid then
    fail .errorInvalidArgument
  else
    modify fun client => { client with settings := .empty }
    rest

def initBySettings (room : Room) (settings : CspPartySettings) :
    ClientProc Unit :=
  begin settings do
    onSettings (initSettings room settings)
    becomeValid

def init (room : Room) (answers : ServerAnswers)
    (clientSettings : CspPartySettings) : ClientProc Unit :=
  begin clientSettings do
    let serverVersions ← answer answers.getServerProtocolVersions
    let version :=
      tempServerProtocolVersion clientSettings.protocolVersions serverVersions
    if version = kProtocolVersionUndefined then
      onServerSettings (initSettings room
        { CspPartySettings.empty with protocolVersions := serverVersions })
      fail .errorNotSupportedProtocolVersion
    else
      let serverSettings ← answer (answers.getServerSettings version)
      modify fun client => { client with serverSettings := serverSettings }
      onSettings (getCompatibleSettings room clientSettings serverSettings)
      becomeValid

end Client

end CommonSerialization.Csp.Messaging
