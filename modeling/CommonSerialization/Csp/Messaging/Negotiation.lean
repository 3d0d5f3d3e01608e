import CommonSerialization.Csp.Messaging.Settings
import Mathlib.Data.List.Sort

namespace CommonSerialization.Csp.Messaging

open Context StateExcept

/-! The settings two parties agree on when a client is initialised. -/

section Common

variable {room : Room} (memory : ∀ n, room n)

include memory

theorem pushCommonVersions_apply (rhs lhs : List UInt8) (settings : CspPartySettings) :
    pushCommonVersions room rhs lhs settings =
      .ok () { settings with
        protocolVersions :=
          settings.protocolVersions ++ lhs.filter fun version => version ∈ rhs } := by
  induction lhs generalizing settings with
  | nil => simp [pushCommonVersions]
  | cons version rest induction =>
      rw [pushCommonVersions]
      by_cases shared : version ∈ rhs
      · obtain ⟨found, hfound⟩ : ∃ found, rhs.find? (version == ·) = some found := by
          rw [← Option.isSome_iff_exists, List.find?_isSome]
          exact ⟨version, shared, beq_self_eq_true version⟩
        have pushed : pushProtocolVersion room version settings =
            .ok () { settings with
              protocolVersions := settings.protocolVersions ++ [version] } := by
          simp only [pushProtocolVersion, bind, EStateM.bind, get_apply, memory,
            if_true, set_apply]
        rw [hfound]
        simp only
        rw [bind_of_ok pushed, induction]
        simp [shared]
      · have absent : rhs.find? (version == ·) = none := by
          rw [List.find?_eq_none]
          intro other member same
          exact shared (eq_of_beq same ▸ member)
        rw [absent]
        simp only
        rw [induction]
        simp [shared]

def commonInterfaces (rhs lhs : List InterfaceVersion) : List InterfaceVersion :=
  lhs.filterMap fun lhsInterface =>
    (rhs.find? fun rhsInterface => lhsInterface.id == rhsInterface.id).map
      fun rhsInterface => ⟨lhsInterface.id,
        if lhsInterface.version < rhsInterface.version then lhsInterface.version
        else rhsInterface.version⟩

theorem pushCommonInterfaces_apply (rhs lhs : List InterfaceVersion)
    (settings : CspPartySettings) :
    pushCommonInterfaces room rhs lhs settings =
      .ok () { settings with
        interfaces := settings.interfaces ++ commonInterfaces rhs lhs } := by
  have pushed (interface : InterfaceVersion) (settings : CspPartySettings) :
      pushInterface room interface settings =
        .ok () { settings with
          interfaces := settings.interfaces ++ [interface] } := by
    simp only [pushInterface, bind, EStateM.bind, get_apply, memory, if_true,
      set_apply]
  induction lhs generalizing settings with
  | nil => simp [pushCommonInterfaces, commonInterfaces]
  | cons interface rest induction =>
      rw [pushCommonInterfaces]
      cases found : rhs.find? fun other => interface.id == other.id with
      | some other =>
          simp only
          rw [bind_of_ok (pushed _ _), induction]
          simp [commonInterfaces, found]
      | none =>
          simp only
          rw [induction]
          simp [commonInterfaces, found]

def common (lhs rhs : CspPartySettings) : CspPartySettings where
  protocolVersions :=
    lhs.protocolVersions.filter fun version => version ∈ rhs.protocolVersions
  mandatoryCommonFlags := lhs.mandatoryCommonFlags.union rhs.mandatoryCommonFlags
  forbiddenCommonFlags := lhs.forbiddenCommonFlags.union rhs.forbiddenCommonFlags
  interfaces := commonInterfaces rhs.interfaces lhs.interfaces

theorem getCompatibleSettings_of_valid {lhs rhs : CspPartySettings}
    (valid : (common lhs rhs).isValid) :
    getCompatibleSettings room lhs rhs .empty = .ok () (common lhs rhs) := by
  simp only [CspPartySettings.isValid, Bool.and_eq_true, decide_eq_true_eq,
    Bool.not_eq_true'] at valid
  obtain ⟨⟨versions, flags⟩, interfaces⟩ := valid
  rw [getCompatibleSettings, bind_of_ok (pushCommonVersions_apply memory _ _ _),
    bind_of_ok (get_apply _), if_neg (by exact Nat.ne_of_gt versions),
    bind_of_ok (modify_apply _ _), bind_of_ok (get_apply _),
    if_neg (by exact Bool.eq_false_iff.mp flags),
    bind_of_ok (pushCommonInterfaces_apply memory _ _ _),
    bind_of_ok (get_apply _), if_neg (by exact Nat.ne_of_gt interfaces)]
  rfl

theorem getCompatibleSettings_of_invalid {lhs rhs : CspPartySettings}
    (invalid : (common lhs rhs).isValid = false) :
    ∃ status settings,
      getCompatibleSettings room lhs rhs .empty = .error (.status status) settings := by
  rw [getCompatibleSettings, bind_of_ok (pushCommonVersions_apply memory _ _ _),
    bind_of_ok (get_apply _)]
  split
  · exact ⟨_, _, rfl⟩
  · rename_i versions
    rw [bind_of_ok (modify_apply _ _), bind_of_ok (get_apply _)]
    split
    · exact ⟨_, _, rfl⟩
    · rename_i flags
      rw [bind_of_ok (pushCommonInterfaces_apply memory _ _ _),
        bind_of_ok (get_apply _)]
      split
      · exact ⟨_, _, rfl⟩
      · rename_i interfaces
        have valid : (common lhs rhs).isValid := by
          simp only [CspPartySettings.isValid, Bool.and_eq_true,
            decide_eq_true_eq, Bool.not_eq_true']
          exact ⟨⟨Nat.pos_of_ne_zero versions, Bool.eq_false_iff.mpr flags⟩,
            Nat.pos_of_ne_zero interfaces⟩
        rw [valid] at invalid
        cases invalid

end Common

section Versions

theorem findsClientVersion_iff {version : UInt8} {clientVersions : List UInt8}
    (decreasing : clientVersions.Pairwise (· > ·)) :
    Client.findsClientVersion version clientVersions ↔ version ∈ clientVersions := by
  induction clientVersions with
  | nil => simp [Client.findsClientVersion]
  | cons clientVersion rest induction =>
      obtain ⟨above, restDecreasing⟩ := List.pairwise_cons.mp decreasing
      rw [Client.findsClientVersion, List.mem_cons]
      split
      · rename_i below
        simp only [Bool.false_eq_true, false_iff, not_or]
        constructor
        · rintro rfl
          exact UInt8.lt_irrefl _ below
        · intro member
          exact UInt8.lt_asymm below (above version member)
      · split
        · rename_i same
          simp [same]
        · rename_i other
          rw [induction restDecreasing]
          simp [other]

theorem tempServerProtocolVersion_eq {clientVersions : List UInt8}
    (decreasing : clientVersions.Pairwise (· > ·))
    (reserved : kProtocolVersionUndefined ∉ clientVersions)
    (serverVersions : List UInt8) :
    Client.tempServerProtocolVersion clientVersions serverVersions =
      (serverVersions.filter fun version => version ∈ clientVersions).headD
        kProtocolVersionUndefined := by
  induction serverVersions with
  | nil => rfl
  | cons version rest induction =>
      simp only [Client.tempServerProtocolVersion,
        findsClientVersion_iff decreasing]
      by_cases shared : version ∈ clientVersions
      · have defined : version ≠ kProtocolVersionUndefined := by
          rintro rfl
          exact reserved shared
        rw [if_pos ⟨shared, defined⟩, List.filter_cons_of_pos (by simpa using shared)]
        rfl
      · rw [if_neg (fun both => shared both.1), induction,
          List.filter_cons_of_neg (by simpa using shared)]

/-- Both parties find the common versions in the same order. -/
theorem filter_mem_comm {first second : List UInt8}
    (firstDecreasing : first.Pairwise (· > ·))
    (secondDecreasing : second.Pairwise (· > ·)) :
    (first.filter fun version => version ∈ second) =
      second.filter fun version => version ∈ first := by
  apply (firstDecreasing.filter _).eq_of_mem_iff (secondDecreasing.filter _)
  intro version
  simp only [List.mem_filter, decide_eq_true_eq]
  exact and_comm

end Versions

section Agreement

/-- No flag that a party demands is forbidden by a party. -/
def FlagsAgree (client server : CspPartySettings) : Prop :=
  ∀ bit, (client.mandatoryCommonFlags.has bit ∨ server.mandatoryCommonFlags.has bit) →
    ¬(client.forbiddenCommonFlags.has bit ∨ server.forbiddenCommonFlags.has bit)

structure Agreeable (client server : CspPartySettings) : Prop where
  version : ∃ version, version ∈ client.protocolVersions ∧
    version ∈ server.protocolVersions
  interface : ∃ interface ∈ client.interfaces, ∃ other ∈ server.interfaces,
    interface.id = other.id
  flags : FlagsAgree client server

theorem Agreeable.swap {client server : CspPartySettings}
    (agreeable : Agreeable client server) : Agreeable server client where
  version := by
    obtain ⟨version, inClient, inServer⟩ := agreeable.version
    exact ⟨version, inServer, inClient⟩
  interface := by
    obtain ⟨interface, inClient, other, inServer, same⟩ := agreeable.interface
    exact ⟨other, inServer, interface, inClient, same.symm⟩
  flags bit demanded forbidden :=
    agreeable.flags bit demanded.symm forbidden.symm

theorem find?_of_mem {interfaces : List InterfaceVersion}
    (distinct : (interfaces.map InterfaceVersion.id).Nodup)
    {interface : InterfaceVersion} (member : interface ∈ interfaces) :
    (interfaces.find? fun other => interface.id == other.id) = some interface := by
  induction interfaces with
  | nil => cases member
  | cons head rest induction =>
      rw [List.map_cons, List.nodup_cons] at distinct
      rcases List.mem_cons.mp member with rfl | inRest
      · rw [List.find?_cons_of_pos (by exact beq_self_eq_true _)]
      · have other : interface.id ≠ head.id := by
          intro same
          exact distinct.1 (same ▸ List.mem_map_of_mem inRest)
        rw [List.find?_cons_of_neg (by simpa using other),
          induction distinct.2 inRest]

theorem mem_commonInterfaces {rhs lhs : List InterfaceVersion}
    (distinct : (rhs.map InterfaceVersion.id).Nodup) (interface : InterfaceVersion) :
    interface ∈ commonInterfaces rhs lhs ↔
      ∃ first ∈ lhs, ∃ second ∈ rhs, first.id = second.id ∧
        interface = ⟨first.id, min first.version second.version⟩ := by
  have smaller (first second : UInt32) :
      (if first < second then first else second) = min first second := by
    rw [UInt32.min_def]
    split
    · rename_i less
      rw [if_pos (UInt32.le_of_lt less)]
    · rename_i notLess
      split
      · rename_i atMost
        exact UInt32.le_antisymm (UInt32.not_lt.mp notLess) atMost
      · rfl
  simp only [commonInterfaces, List.mem_filterMap, Option.map_eq_some_iff, smaller]
  constructor
  · rintro ⟨first, inLhs, second, found, rfl⟩
    have same := List.find?_some found
    exact ⟨first, inLhs, second, List.mem_of_find?_eq_some found,
      eq_of_beq same, rfl⟩
  · rintro ⟨first, inLhs, second, inRhs, same, rfl⟩
    refine ⟨first, inLhs, second, ?_, rfl⟩
    rw [same]
    exact find?_of_mem distinct inRhs

theorem isValid_iff (settings : CspPartySettings) :
    settings.isValid ↔ settings.protocolVersions ≠ [] ∧
      (∀ bit, settings.mandatoryCommonFlags.has bit →
        ¬settings.forbiddenCommonFlags.has bit) ∧ settings.interfaces ≠ [] := by
  have flags :
      (settings.mandatoryCommonFlags.inter settings.forbiddenCommonFlags).isSet = false ↔
        ∀ bit, settings.mandatoryCommonFlags.has bit →
          ¬settings.forbiddenCommonFlags.has bit := by
    rw [← Bool.not_eq_true, FlagWord.isSet_inter]
    simp
  simp only [CspPartySettings.isValid, Bool.and_eq_true, decide_eq_true_eq,
    Bool.not_eq_true', flags, List.length_pos_iff, and_assoc]

theorem common_isValid_iff {client server : CspPartySettings}
    (distinct : (server.interfaces.map InterfaceVersion.id).Nodup) :
    (common client server).isValid ↔ Agreeable client server := by
  rw [isValid_iff]
  constructor
  · rintro ⟨versions, flags, interfaces⟩
    obtain ⟨version, shared⟩ := List.exists_mem_of_ne_nil _ versions
    obtain ⟨interface, sharedInterface⟩ := List.exists_mem_of_ne_nil _ interfaces
    obtain ⟨first, inClient, second, inServer, same, _⟩ :=
      (mem_commonInterfaces distinct interface).mp sharedInterface
    refine ⟨⟨version, by simpa [common] using shared⟩,
      ⟨first, inClient, second, inServer, same⟩, ?_⟩
    intro bit demanded forbidden
    exact flags bit (by simpa [common] using demanded) (by simpa [common] using forbidden)
  · rintro ⟨⟨version, inClient, inServer⟩,
      ⟨first, firstMember, second, secondMember, same⟩, flags⟩
    refine ⟨List.ne_nil_of_mem (a := version) (by simp [common, inClient, inServer]),
      ?_, ?_⟩
    · intro bit demanded forbidden
      exact flags bit (by simpa [common] using demanded) (by simpa [common] using forbidden)
    · exact List.ne_nil_of_mem ((mem_commonInterfaces distinct _).mpr
        ⟨first, firstMember, second, secondMember, same, rfl⟩)

end Agreement

/-- What a party may list: versions of the library in decreasing order, and no
interface twice. -/
structure Listed (library : List UInt8) (settings : CspPartySettings) : Prop where
  decreasing : settings.protocolVersions.Pairwise (· > ·)
  supported : ∀ version ∈ settings.protocolVersions, version ∈ library
  distinct : (settings.interfaces.map InterfaceVersion.id).Nodup

/-- The server's versions and settings reach the client as they are. -/
structure Delivers (answers : ServerAnswers) (server : CspPartySettings) : Prop where
  versions : answers.getServerProtocolVersions = .ok server.protocolVersions
  settings : ∀ version ∈ server.protocolVersions,
    answers.getServerSettings version = .ok server

section Init

variable {room : Room} {answers : ServerAnswers}
  {clientSettings server : CspPartySettings} {client : Client}

theorem onSettings_ok {proc : SettingsProc Unit} {settings : CspPartySettings}
    (ran : proc client.settings = .ok () settings) :
    Client.onSettings proc client = .ok () { client with settings := settings } := by
  simp only [Client.onSettings, ran]

theorem onSettings_error {proc : SettingsProc Unit} {settings : CspPartySettings}
    {fault : Fault} (ran : proc client.settings = .error fault settings) :
    Client.onSettings proc client =
      .error fault { client with settings := settings } := by
  simp only [Client.onSettings, ran]

theorem begin_of_invalid (unused : client.valid = false)
    (invalid : clientSettings.isValid = false) (rest : Client.ClientProc Unit) :
    Client.begin clientSettings rest client =
      .error (.status .errorInvalidArgument) client := by
  rw [Client.begin, bind_of_ok (get_apply _), if_neg (by simp [unused]),
    if_pos (by simp [invalid]), fail_apply]

theorem begin_of_valid (unused : client.valid = false)
    (valid : clientSettings.isValid) (rest : Client.ClientProc Unit) :
    Client.begin clientSettings rest client =
      rest { client with settings := .empty } := by
  rw [Client.begin, bind_of_ok (get_apply _), if_neg (by simp [unused]),
    if_neg (by simp [valid]), bind_of_ok (modify_apply _ _)]

def requestedVersion (clientSettings server : CspPartySettings) : UInt8 :=
  Client.tempServerProtocolVersion clientSettings.protocolVersions
    server.protocolVersions

theorem requestedVersion_eq
    (clientDecreasing : clientSettings.protocolVersions.Pairwise (· > ·))
    (serverDecreasing : server.protocolVersions.Pairwise (· > ·))
    (reserved : kProtocolVersionUndefined ∉ clientSettings.protocolVersions) :
    requestedVersion clientSettings server =
      (common clientSettings server).getLatestProtocolVersion := by
  rw [requestedVersion, tempServerProtocolVersion_eq clientDecreasing reserved,
    filter_mem_comm serverDecreasing clientDecreasing]
  rfl

theorem init_of_agreeable (memory : ∀ n, room n) (unused : client.valid = false)
    (clientValid : clientSettings.isValid)
    (valid : (common clientSettings server).isValid)
    (delivers : Delivers answers server)
    (defined : requestedVersion clientSettings server ≠ kProtocolVersionUndefined)
    (offered : requestedVersion clientSettings server ∈ server.protocolVersions) :
    Client.init room answers clientSettings client =
      .ok () ⟨common clientSettings server, true, server⟩ := by
  rw [Client.init, begin_of_valid unused clientValid, delivers.versions,
    Client.answer, bind_of_ok (pure_apply _ _)]
  change (if requestedVersion clientSettings server = _ then _ else _ :
    Client.ClientProc Unit) _ = _
  rw [if_neg defined]
  change (Client.answer (answers.getServerSettings
    (requestedVersion clientSettings server)) >>= _ : Client.ClientProc Unit) _ = _
  rw [delivers.settings _ offered, Client.answer, bind_of_ok (pure_apply _ _),
    bind_of_ok (modify_apply _ _),
    bind_of_ok (onSettings_ok (getCompatibleSettings_of_valid memory valid)),
    Client.becomeValid, bind_of_ok (get_apply _), bind_of_ok (set_apply _ _),
    if_pos valid]
  simp only [valid, pure_apply]

theorem init_of_not_agreeable (memory : ∀ n, room n) (unused : client.valid = false)
    (invalid : (common clientSettings server).isValid = false)
    (delivers : Delivers answers server)
    (offered : requestedVersion clientSettings server ≠ kProtocolVersionUndefined →
      requestedVersion clientSettings server ∈ server.protocolVersions) :
    ∃ status after,
      Client.init room answers clientSettings client =
        .error (.status status) after ∧ after.valid = false := by
  rw [Client.init]
  by_cases clientValid : clientSettings.isValid = true
  · rw [begin_of_valid unused clientValid, delivers.versions, Client.answer,
      bind_of_ok (pure_apply _ _)]
    change ∃ status after,
      (if requestedVersion clientSettings server = _ then _ else _ :
        Client.ClientProc Unit) _ = .error (.status status) after ∧
          after.valid = false
    split
    · have copied : initSettings room { CspPartySettings.empty with
            protocolVersions := server.protocolVersions } client.serverSettings =
          .ok () { CspPartySettings.empty with
            protocolVersions := server.protocolVersions } := by
        simp only [initSettings, memory, if_true]
        rfl
      have stored : Client.onServerSettings (initSettings room
          { CspPartySettings.empty with
            protocolVersions := server.protocolVersions })
          { client with settings := .empty } =
          .ok () ⟨.empty, client.valid, { CspPartySettings.empty with
            protocolVersions := server.protocolVersions }⟩ := by
        simp only [Client.onServerSettings, copied]
      rw [bind_of_ok stored]
      exact ⟨_, _, rfl, unused⟩
    · rename_i defined
      change ∃ status after,
        (Client.answer (answers.getServerSettings
          (requestedVersion clientSettings server)) >>= _ : Client.ClientProc Unit) _ =
            .error (.status status) after ∧ after.valid = false
      obtain ⟨status, settings, failed⟩ :=
        getCompatibleSettings_of_invalid memory invalid
      rw [delivers.settings _ (offered defined), Client.answer,
        bind_of_ok (pure_apply _ _), bind_of_ok (modify_apply _ _),
        bind_of_error (onSettings_error failed)]
      exact ⟨_, _, rfl, unused⟩
  · rw [begin_of_invalid unused (Bool.eq_false_iff.mpr clientValid)]
    exact ⟨_, _, rfl, unused⟩

/-- Two initialisations end alike: only the settings of clients that stay
invalid may differ. -/
def SameOutcome (first second : EStateM.Result Fault Client Unit) : Prop :=
  match first, second with
  | .ok _ firstClient, .ok _ secondClient => firstClient = secondClient
  | .error firstFault firstClient, .error secondFault secondClient =>
      firstFault = secondFault ∧ firstClient.valid = secondClient.valid ∧
        firstClient.serverSettings = secondClient.serverSettings
  | _, _ => False

theorem SameOutcome.refl (outcome : EStateM.Result Fault Client Unit) :
    SameOutcome outcome outcome := by
  cases outcome with
  | ok => rfl
  | error => exact ⟨rfl, rfl, rfl⟩

theorem begin_like_fresh (unused : client.valid = false)
    (rest : Client.ClientProc Unit) :
    SameOutcome (Client.begin clientSettings rest client)
      (Client.begin clientSettings rest
        { Client.fresh with serverSettings := client.serverSettings }) := by
  by_cases valid : clientSettings.isValid = true
  · rw [begin_of_valid unused valid, begin_of_valid rfl valid, unused]
    exact .refl _
  · have invalid := Bool.eq_false_iff.mpr valid
    rw [begin_of_invalid unused invalid, begin_of_invalid rfl invalid]
    exact ⟨rfl, unused, rfl⟩

end Init

structure Negotiated (client server result : CspPartySettings) : Prop where
  decreasing : result.protocolVersions.Pairwise (· > ·)
  versions : ∀ version, version ∈ result.protocolVersions ↔
    version ∈ client.protocolVersions ∧ version ∈ server.protocolVersions
  mandatory : ∀ bit, result.mandatoryCommonFlags.has bit ↔
    client.mandatoryCommonFlags.has bit ∨ server.mandatoryCommonFlags.has bit
  forbidden : ∀ bit, result.forbiddenCommonFlags.has bit ↔
    client.forbiddenCommonFlags.has bit ∨ server.forbiddenCommonFlags.has bit
  interfaces : ∀ interface, interface ∈ result.interfaces ↔
    ∃ first ∈ client.interfaces, ∃ second ∈ server.interfaces,
      first.id = second.id ∧
        interface = ⟨first.id, min first.version second.version⟩
  distinct : (result.interfaces.map InterfaceVersion.id).Nodup

structure GreatestRequested (client server result : CspPartySettings) : Prop where
  latest : requestedVersion client server = result.getLatestProtocolVersion
  offered : requestedVersion client server ∈ server.protocolVersions
  known : requestedVersion client server ∈ client.protocolVersions
  greatest : ∀ version ∈ client.protocolVersions,
    version ∈ server.protocolVersions → version ≤ requestedVersion client server

structure SameSets (first second : CspPartySettings) : Prop where
  versions : first.protocolVersions = second.protocolVersions
  mandatory : first.mandatoryCommonFlags = second.mandatoryCommonFlags
  forbidden : first.forbiddenCommonFlags = second.forbiddenCommonFlags
  interfaces : ∀ interface,
    interface ∈ first.interfaces ↔ interface ∈ second.interfaces

theorem smallerVersion_comm (first second : UInt32) :
    min first second = min second first := by
  rw [UInt32.min_def, UInt32.min_def]
  split
  · rename_i atMost
    split
    · rename_i atLeast
      exact UInt32.le_antisymm atMost atLeast
    · rfl
  · rename_i greater
    rw [if_pos ((UInt32.le_total first second).resolve_left greater)]

section Negotiation

variable {library : List UInt8} {clientSettings server : CspPartySettings}

theorem ids_commonInterfaces_sublist (rhs lhs : List InterfaceVersion) :
    ((commonInterfaces rhs lhs).map InterfaceVersion.id).Sublist
      (lhs.map InterfaceVersion.id) := by
  induction lhs with
  | nil => exact .slnil
  | cons interface rest induction =>
      rw [commonInterfaces, List.filterMap_cons]
      cases rhs.find? fun other => interface.id == other.id with
      | none => exact induction.cons _
      | some other => exact induction.cons_cons _

theorem negotiated_common (clientListed : Listed library clientSettings)
    (serverListed : Listed library server) :
    Negotiated clientSettings server (common clientSettings server) where
  decreasing := clientListed.decreasing.filter _
  versions version := by simp [common]
  mandatory bit := by simp [common]
  forbidden bit := by simp [common]
  interfaces := mem_commonInterfaces serverListed.distinct
  distinct := (ids_commonInterfaces_sublist _ _).nodup clientListed.distinct

theorem greatestRequested_common (clientListed : Listed library clientSettings)
    (serverListed : Listed library server)
    (reserved : kProtocolVersionUndefined ∉ library)
    (shared : (common clientSettings server).protocolVersions ≠ []) :
    GreatestRequested clientSettings server (common clientSettings server) := by
  have latest := requestedVersion_eq clientListed.decreasing
    serverListed.decreasing fun listed =>
      reserved (clientListed.supported _ listed)
  have negotiated := negotiated_common clientListed serverListed
  obtain ⟨greatest, rest, versions⟩ := List.exists_cons_of_ne_nil shared
  have requested : requestedVersion clientSettings server = greatest := by
    rw [latest, CspPartySettings.getLatestProtocolVersion, versions]
    rfl
  have both := (negotiated.versions greatest).mp (by rw [versions]; exact .head _)
  refine ⟨latest, requested ▸ both.2, requested ▸ both.1, ?_⟩
  intro version inClient inServer
  have member := (negotiated.versions version).mpr ⟨inClient, inServer⟩
  have decreasing := negotiated.decreasing
  rw [versions] at member decreasing
  rw [requested]
  rcases List.mem_cons.mp member with rfl | inRest
  · exact UInt8.le_refl _
  · exact UInt8.le_of_lt ((List.pairwise_cons.mp decreasing).1 version inRest)

theorem sameSets_common (clientListed : Listed library clientSettings)
    (serverListed : Listed library server) :
    SameSets (common server clientSettings) (common clientSettings server) where
  versions := filter_mem_comm serverListed.decreasing clientListed.decreasing
  mandatory := FlagWord.ext_has fun bit => by
    simp only [common, FlagWord.has_union, Bool.or_comm]
  forbidden := FlagWord.ext_has fun bit => by
    simp only [common, FlagWord.has_union, Bool.or_comm]
  interfaces interface := by
    rw [(negotiated_common serverListed clientListed).interfaces,
      (negotiated_common clientListed serverListed).interfaces]
    constructor
    · rintro ⟨first, firstMember, second, secondMember, same, rfl⟩
      exact ⟨second, secondMember, first, firstMember, same.symm,
        by rw [same, smallerVersion_comm]⟩
    · rintro ⟨first, firstMember, second, secondMember, same, rfl⟩
      exact ⟨second, secondMember, first, firstMember, same.symm,
        by rw [same, smallerVersion_comm]⟩

theorem init_ok (reserved : kProtocolVersionUndefined ∉ library)
    (clientListed : Listed library clientSettings)
    (serverListed : Listed library server)
    (agreeable : Agreeable clientSettings server)
    {room : Room} (memory : ∀ n, room n) {answers : ServerAnswers}
    (delivers : Delivers answers server) {client : Client}
    (unused : client.valid = false) :
    Client.init room answers clientSettings client =
      .ok () ⟨common clientSettings server, true, server⟩ := by
  have valid := (common_isValid_iff serverListed.distinct).mpr agreeable
  have greatest := greatestRequested_common clientListed serverListed reserved
    ((isValid_iff _).mp valid).1
  have clientValid : clientSettings.isValid := by
    obtain ⟨interface, member, _⟩ := agreeable.interface
    exact (isValid_iff _).mpr ⟨List.ne_nil_of_mem greatest.known,
      fun bit demanded forbidden =>
        agreeable.flags bit (.inl demanded) (.inl forbidden),
      List.ne_nil_of_mem member⟩
  refine init_of_agreeable memory unused clientValid valid delivers ?_
    greatest.offered
  intro undefined
  exact reserved (undefined ▸ clientListed.supported _ greatest.known)

theorem init_error (reserved : kProtocolVersionUndefined ∉ library)
    (clientListed : Listed library clientSettings)
    (serverListed : Listed library server)
    (disagreeable : ¬Agreeable clientSettings server)
    {room : Room} (memory : ∀ n, room n) {answers : ServerAnswers}
    (delivers : Delivers answers server) {client : Client}
    (unused : client.valid = false) :
    ∃ status after,
      Client.init room answers clientSettings client =
        .error (.status status) after ∧ after.valid = false := by
  have invalid : (common clientSettings server).isValid = false := by
    rw [← Bool.not_eq_true, common_isValid_iff serverListed.distinct]
    exact disagreeable
  refine init_of_not_agreeable memory unused invalid delivers ?_
  intro defined
  have shared : (common clientSettings server).protocolVersions ≠ [] := by
    intro nothing
    apply defined
    rw [requestedVersion_eq clientListed.decreasing serverListed.decreasing
      fun listed => reserved (clientListed.supported _ listed),
      CspPartySettings.getLatestProtocolVersion, nothing]
    rfl
  exact (greatestRequested_common clientListed serverListed reserved shared).offered

/-- A client is initialised exactly by a server it can agree with, both sides
reach the same settings, and a failed attempt leaves no trace in the next
one. -/
theorem init_negotiates (reserved : kProtocolVersionUndefined ∉ library)
    (clientListed : Listed library clientSettings)
    (serverListed : Listed library server)
    {room : Room} (memory : ∀ n, room n) {answers : ServerAnswers}
    (delivers : Delivers answers server) {client : Client}
    (unused : client.valid = false) :
    ((∃ after, Client.init room answers clientSettings client = .ok () after) ↔
      Agreeable clientSettings server) ∧
    (∀ after, Client.init room answers clientSettings client = .ok () after →
      after.valid ∧
      Negotiated clientSettings server after.settings ∧
      GreatestRequested clientSettings server after.settings ∧
      ∀ exchanged, Delivers exchanged clientSettings →
        ∀ other : Client, other.valid = false →
          ∃ swapped,
            Client.init room exchanged server other = .ok () swapped ∧
            SameSets swapped.settings after.settings) ∧
    (∀ fault after,
      Client.init room answers clientSettings client = .error fault after →
      after.valid = false ∧
      ∀ laterRoom laterSettings,
        (∀ laterAnswers, SameOutcome
          (Client.init laterRoom laterAnswers laterSettings after)
          (Client.init laterRoom laterAnswers laterSettings
            { Client.fresh with serverSettings := after.serverSettings })) ∧
        SameOutcome (Client.initBySettings laterRoom laterSettings after)
          (Client.initBySettings laterRoom laterSettings
            { Client.fresh with serverSettings := after.serverSettings })) := by
  by_cases agreeable : Agreeable clientSettings server
  · have ran := init_ok reserved clientListed serverListed agreeable memory
      delivers unused
    have valid := (common_isValid_iff serverListed.distinct).mpr agreeable
    refine ⟨iff_of_true ⟨_, ran⟩ agreeable, ?_, ?_⟩
    · intro after succeeded
      rw [ran] at succeeded
      cases succeeded
      refine ⟨rfl, negotiated_common clientListed serverListed,
        greatestRequested_common clientListed serverListed reserved
          ((isValid_iff _).mp valid).1, ?_⟩
      intro exchanged exchangedDelivers other otherUnused
      exact ⟨_, init_ok reserved serverListed clientListed agreeable.swap memory
        exchangedDelivers otherUnused, sameSets_common clientListed serverListed⟩
    · intro fault after failed
      rw [ran] at failed
      cases failed
  · obtain ⟨status, stopped, ran, stoppedInvalid⟩ := init_error reserved
      clientListed serverListed agreeable memory delivers unused
    refine ⟨iff_of_false ?_ agreeable, ?_, ?_⟩
    · rintro ⟨after, succeeded⟩
      rw [ran] at succeeded
      cases succeeded
    · intro after succeeded
      rw [ran] at succeeded
      cases succeeded
    · intro fault after failed
      rw [ran] at failed
      cases failed
      exact ⟨stoppedInvalid, fun laterRoom laterSettings =>
        ⟨fun laterAnswers => begin_like_fresh stoppedInvalid _,
          begin_like_fresh stoppedInvalid _⟩⟩

end Negotiation

section Parties

private def anyRoom : Room := fun _ => true

private def sensors : InterfaceVersion := ⟨.ofNat 1, 3⟩

private def answersOf (server : CspPartySettings) : ServerAnswers where
  getServerProtocolVersions := .ok server.protocolVersions
  getServerSettings _ := .ok server

private def newClient : CspPartySettings :=
  ⟨[4, 2, 1], .ofUInt32 4, .ofUInt32 0, [sensors, ⟨.ofNat 2, 1⟩]⟩

private def oldServer : CspPartySettings :=
  ⟨[3, 2, 1], .ofUInt32 0, .ofUInt32 1, [⟨.ofNat 1, 2⟩]⟩

private theorem newClient_listed : Listed [4, 3, 2, 1] newClient where
  decreasing := by decide
  supported := by simp [newClient]
  distinct := by decide

private theorem oldServer_listed : Listed [4, 3, 2, 1] oldServer where
  decreasing := by decide
  supported := by simp [oldServer]
  distinct := by decide

theorem init_newClient :
    ∃ after, Client.init anyRoom (answersOf oldServer) newClient .fresh =
      .ok () after := by
  have reserved : kProtocolVersionUndefined ∉ [(4 : UInt8), 3, 2, 1] := by decide
  refine (init_negotiates reserved newClient_listed oldServer_listed
    (fun _ => rfl) ⟨rfl, fun _ _ => rfl⟩ rfl).1.mpr ?_
  rw [← common_isValid_iff oldServer_listed.distinct]
  decide

private def lastVersion : CspPartySettings :=
  ⟨[kProtocolVersionUndefined], .ofUInt32 0, .ofUInt32 0, [sensors]⟩

/-- The value that stands for no version is not found, though both parties
list it. -/
theorem init_lastVersion :
    Listed [kProtocolVersionUndefined] lastVersion ∧
      Delivers (answersOf lastVersion) lastVersion ∧
      Agreeable lastVersion lastVersion ∧
      ¬∃ after, Client.init anyRoom (answersOf lastVersion) lastVersion .fresh =
        .ok () after := by
  refine ⟨⟨by decide, by simp [lastVersion], by decide⟩, ⟨rfl, fun _ _ => rfl⟩, ?_, ?_⟩
  · rw [← common_isValid_iff (by decide)]
    decide
  · rintro ⟨after, ran⟩
    cases ran

end Parties

end CommonSerialization.Csp.Messaging
