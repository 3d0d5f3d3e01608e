import CommonSerialization.Csp.Messaging.Server

namespace CommonSerialization.Csp.Messaging.Server

open StateExcept

/-! How a message reaches its handler, and what a run leaves of the reply. -/

section Steps

theorem statusOf_of_ok {proc : ServerProc P Unit} {before after : ServerState P}
    (ran : proc before = .ok () after) :
    statusOf proc before = .ok .noError after := by
  simp only [statusOf, ran]

theorem statusOf_of_status {proc : ServerProc P Unit} {before after : ServerState P}
    {status : Status} (ran : proc before = .error (.status status) after) :
    statusOf proc before = .ok status after := by
  simp only [statusOf, ran]

theorem statusOf_of_fault {proc : ServerProc P Unit} {before after : ServerState P}
    {fault : Fault} (ran : proc before = .error fault after)
    (other : ∀ status, fault ≠ .status status) :
    statusOf proc before = .error fault after := by
  unfold statusOf
  rw [ran]
  split
  · rename_i equality
    cases equality
  · rename_i equality
    cases equality
    exact absurd rfl (other _)
  · rename_i equality
    cases equality
    rfl

theorem fault_of_statusOf {proc : ServerProc P Unit} {before after : ServerState P}
    {fault : Fault} (ran : statusOf proc before = .error fault after) :
    proc before = .error fault after ∧ ∀ status, fault ≠ .status status := by
  unfold statusOf at ran
  split at ran
  · cases ran
  · cases ran
  · rename_i other outcome
    cases ran
    exact ⟨outcome, fun status => other status⟩

theorem final_statusOf {proc : ServerProc P Unit} {before after : ServerState P}
    {status : Status} (ran : statusOf proc before = .ok status after) :
    final (proc before) = after := by
  unfold statusOf at ran
  split at ran <;> rename_i outcome <;> cases ran <;> rw [outcome] <;> rfl

end Steps

section Writing

variable (server : Server P) (data : Context.Data) (proc : SContext → SProc Unit)
  (state : ServerState P)

theorem writing_of_writes {octets : List UInt8}
    (writes : Writes data.platform (proc ⟨data, server.grants⟩) octets
      (fun _ => True))
    (room : state.binOutput.length + octets.length < 2 ^ data.platform.addressBits) :
    writing server data proc state =
      .ok () { state with binOutput := state.binOutput ++ octets } := by
  obtain ⟨_, output, ran, _, appended⟩ :=
    writes { SState.empty with binaryData := state.binOutput } room
  unfold writing
  simp only [ran, appended]

theorem writing_of_breaks {octets : List UInt8}
    (breaks : Breaks data.platform (proc ⟨data, server.grants⟩) octets)
    (room : state.binOutput.length + octets.length < 2 ^ data.platform.addressBits) :
    ∃ status, writing server data proc state =
      .error (.status status) { state with binOutput := state.binOutput ++ octets } := by
  obtain ⟨status, output, ran, appended⟩ :=
    breaks { SState.empty with binaryData := state.binOutput } room
  refine ⟨status, ?_⟩
  unfold writing
  simp only [ran, appended]

theorem writing_of_refused {status : Status}
    (refused : proc ⟨data, server.grants⟩
        { SState.empty with binaryData := state.binOutput } =
      .error (.status status)
        { SState.empty with binaryData := state.binOutput }) :
    writing server data proc state = .error (.status status) state := by
  unfold writing
  simp only [refused]

end Writing

section StatusReply

variable (server : Server P) (status : Status) (state : ServerState P)

theorem writeStatus_of_written (written : state.binOutput.length ≠ 0) :
    writeStatus server status state = .ok status state := by
  unfold writeStatus
  rw [bind_of_ok (get_apply state), if_neg written]
  rfl

theorem writeStatus_of_writable (unbounded : ∀ size n, server.grants size n = true)
    (empty : state.binOutput = [])
    (writable : StatusMessage.Writable (statusData server state.data)) :
    writeStatus server status state =
      .ok status
        { state with
          binOutput := StatusMessage.fullContextOctets (statusData server state.data) status } := by
  have none : state.binOutput.length = 0 := by rw [empty]; rfl
  have granted : Unbounded ⟨statusData server state.data, server.grants⟩ := unbounded
  have writes := StatusMessage.serializeFullContext_writes granted status
    (show (false : Bool) ∨ _ from .inr writable)
  have written := writing_of_writes server (statusData server state.data)
    (fun ctx => StatusMessage.serializeFullContext ctx status false) state writes (by
      rw [none, StatusMessage.length_fullContextOctets]
      simp only [Platform.addressBits]
      split <;> decide)
  unfold writeStatus
  rw [bind_of_ok (get_apply state), if_pos none, bind_of_ok (statusOf_of_ok written),
    empty]
  rfl

/-- The status of the write replaces only a success status. -/
theorem writeStatus_of_refused
    (refused : ¬StatusMessage.Writable (statusData server state.data)) :
    ∃ result, writeStatus server status state = .ok result state := by
  by_cases none : state.binOutput.length = 0
  · obtain ⟨refusal, failed⟩ := StatusMessage.serializeFullContext_refused
      ⟨statusData server state.data, server.grants⟩ refused status
      { SState.empty with binaryData := state.binOutput }
    have left := writing_of_refused server (statusData server state.data)
      (fun ctx => StatusMessage.serializeFullContext ctx status false) state failed
    refine ⟨setNewError status refusal, ?_⟩
    unfold writeStatus
    rw [bind_of_ok (get_apply state), if_pos none, bind_of_ok (statusOf_of_status left)]
    rfl
  · exact ⟨status, writeStatus_of_written server status state none⟩

/-- Only an empty reply is filled. -/
theorem writeStatus_fills (unbounded : ∀ size n, server.grants size n = true) :
    ∃ result octets, writeStatus server status state =
        .ok result { state with binOutput := octets } ∧
      (state.binOutput ≠ [] → octets = state.binOutput) ∧
      (state.binOutput = [] → octets = [] ∨ octets.length = 12) := by
  by_cases empty : state.binOutput = []
  · by_cases writable : StatusMessage.Writable (statusData server state.data)
    · refine ⟨_, _, writeStatus_of_writable server status state unbounded empty writable,
        fun written => absurd empty written, fun _ => .inr ?_⟩
      exact StatusMessage.length_fullContextOctets _ _
    · obtain ⟨result, left⟩ := writeStatus_of_refused server status state writable
      exact ⟨result, state.binOutput, left, fun _ => rfl, fun _ => .inl empty⟩
  · exact ⟨status, state.binOutput,
      writeStatus_of_written server status state (by simpa using empty), fun _ => rfl,
      fun written => absurd written empty⟩

end StatusReply

section Reading

variable {server : Server P} {before after : ServerState P}

theorem reading_of_ok {proc : DContext P → DProc P α} {value : α}
    (ran : reading server proc before = .ok value after) :
    ∃ input, proc { server.memory with data := before.data } before.input =
        .ok value input ∧ after = { before with input := input } := by
  unfold reading at ran
  split at ran
  · rename_i outcome
    cases ran
    exact ⟨_, outcome, rfl⟩
  · cases ran

theorem readCommonContext_of_ok (ran : readCommonContext server before = .ok () after) :
    ∃ data input, Common.deserialize { server.memory with data := before.data }
        before.input = .ok data input ∧
      after = { before with data := data, input := input } := by
  unfold readCommonContext at ran
  rw [bind_of_ok (get_apply before), setData, bind_of_ok (modify_apply _ before)] at ran
  obtain ⟨input, headerRead, rfl⟩ := reading_of_ok ran
  obtain ⟨data, _, deserialized, returned⟩ := bind_eq_ok headerRead
  cases returned
  exact ⟨data, input, deserialized, by
    rw [Common.contextAfter_of_deserialize deserialized]⟩

theorem readCommonContext_of_deserialized {data : Context.Data} {input : DState P}
    (deserialized : Common.deserialize { server.memory with data := before.data }
      before.input = .ok data input) :
    readCommonContext server before =
      .ok () { before with data := data, input := input } := by
  unfold readCommonContext
  rw [bind_of_ok (get_apply before), setData, bind_of_ok (modify_apply _ before)]
  simp only [reading, bind_of_ok deserialized, pure_apply,
    Common.contextAfter_of_deserialize deserialized]

theorem readCommonContext_of_refused {fault : Fault} {input : DState P}
    (refused : Common.deserialize { server.memory with data := before.data }
      before.input = .error fault input) :
    ∃ data, readCommonContext server before =
      .error fault { before with data := data, input := input } := by
  unfold readCommonContext
  rw [bind_of_ok (get_apply before), setData, bind_of_ok (modify_apply _ before)]
  simp only [reading, bind_of_error refused]
  exact ⟨_, rfl⟩

/-- The data context is in the message beside the common context. -/
theorem readDataContext_of_ok {id : Uuid}
    (ran : readDataContext server before = .ok id after) :
    ∃ data input, after = { before with data := data, input := input } ∧
      data.platform = before.data.platform ∧
      data.commonFlags = before.data.commonFlags ∧
      data.protocolVersion = before.data.protocolVersion := by
  unfold readDataContext at ran
  rw [setData, bind_of_ok (modify_apply _ before)] at ran
  obtain ⟨header, _, headerRead, ran⟩ := bind_eq_ok ran
  obtain ⟨input, deserialized, rfl⟩ := reading_of_ok headerRead
  cases ran
  obtain ⟨_, _, _, deserialized⟩ := bind_eq_ok deserialized
  obtain ⟨_, _, _, deserialized⟩ := bind_eq_ok deserialized
  obtain ⟨_, _, _, deserialized⟩ := bind_eq_ok deserialized
  cases deserialized
  exact ⟨_, input, rfl, rfl, rfl, rfl⟩

end Reading

section Arrival

variable (server : Server P)

def arrive : ServerProc P Nat := do
  readCommonContext server
  let data := (← get).data
  if data.messageType = .data ∧
      statusSuccess (testCommonFlagsCompatibility data.commonFlags
        server.settings.forbiddenCommonFlags server.settings.mandatoryCommonFlags) then
    let id ← readDataContext server
    match server.registrar.aquireHandler id with
    | .ok number =>
        acquire [number]
        return number
    | .error status => fail status
  else
    fail .errorDataCorrupted

variable {server} {before state : ServerState P} {number : Nat}

def callHandler (server : Server P) (number : Nat) : ServerProc P Status := do
  let status ← statusOf (handleDataCommon server number)
  release number
  return status

theorem handleByType_of_arrive (arrived : arrive server before = .ok number state) :
    ∃ headed, readCommonContext server before = .ok () headed ∧
      handleByType server headed =
        (do
          let status ← callHandler server number
          if !statusSuccess status then fail status) state := by
  obtain ⟨_, headed, headerRead, arrived⟩ := bind_eq_ok arrived
  rw [bind_of_ok (get_apply headed)] at arrived
  refine ⟨headed, headerRead, ?_⟩
  split at arrived
  · rename_i accepted
    obtain ⟨id, opened, contextRead, arrived⟩ := bind_eq_ok arrived
    unfold handleByType
    rw [bind_of_ok (get_apply headed)]
    simp only [accepted, if_true]
    unfold handleData
    rw [bind_of_ok contextRead]
    cases answer : server.registrar.aquireHandler id with
    | error status =>
        simp only [answer] at arrived
        cases arrived
    | ok handled =>
        simp only [answer] at arrived
        cases arrived
        simp only [dispatch, answer]
        rfl
  · cases arrived

theorem handleMessage_of_arrive (arrived : arrive server before = .ok number state) :
    handleMessage server before =
      (do
        let status ← callHandler server number
        writeStatus server (if statusSuccess status then .noError else status)) state := by
  obtain ⟨headed, headerRead, byType⟩ := handleByType_of_arrive arrived
  unfold handleMessage
  rw [bind_of_ok (statusOf_of_ok headerRead)]
  cases handled : callHandler server number state with
  | error fault after =>
      rw [bind_of_error handled] at byType
      have other : ∀ status, fault ≠ .status status := by
        cases ran : statusOf (handleDataCommon server number) state with
        | ok status middle =>
            simp only [callHandler, bind_of_ok ran] at handled
            cases handled
        | error failure middle =>
            rw [callHandler, bind_of_error ran] at handled
            cases handled
            exact (fault_of_statusOf ran).2
      rw [bind_of_error handled]
      exact bind_of_error (statusOf_of_fault byType other)
  | ok status after =>
      rw [bind_of_ok handled] at byType
      rw [bind_of_ok handled]
      by_cases success : statusSuccess status
      · rw [success] at byType
        rw [if_pos success]
        exact bind_of_ok (statusOf_of_ok byType)
      · rw [if_pos (by simp [success])] at byType
        rw [if_neg success]
        exact bind_of_ok (statusOf_of_status byType)

/-- What the handler leaves is what the message leaves, except that a status
message may fill an empty reply. -/
theorem final_handleMessage (unbounded : ∀ size n, server.grants size n = true)
    (arrived : arrive server before = .ok number state) :
    let after := final (handleDataCommon server number state)
    let last := final (handleMessage server before)
    last.invocations = after.invocations ∧
      (after.binOutput ≠ [] → last.binOutput = after.binOutput) ∧
      (after.binOutput = [] → last.binOutput = [] ∨ last.binOutput.length = 12) := by
  intro after last
  have whole : last = final (handleMessage server before) := rfl
  rw [handleMessage_of_arrive arrived] at whole
  cases ran : statusOf (handleDataCommon server number) state with
  | error fault failed =>
      have handled : after = failed := by
        simp only [after, (fault_of_statusOf ran).1, final_error]
      have failedCall : callHandler server number state = .error fault failed := by
        rw [callHandler, bind_of_error ran]
      rw [bind_of_error failedCall, final_error, ← handled] at whole
      rw [whole]
      exact ⟨rfl, fun _ => rfl, fun empty => .inl empty⟩
  | ok status handled =>
      have called : callHandler server number state =
          .ok status { handled with acquired := handled.acquired.erase number } := by
        rw [callHandler, bind_of_ok ran]
        rfl
      have same : after = handled := final_statusOf ran
      obtain ⟨result, octets, written, kept, filled⟩ := writeStatus_fills server
        (if statusSuccess status then .noError else status)
        { handled with acquired := handled.acquired.erase number } unbounded
      rw [bind_of_ok called, written, final_ok] at whole
      rw [whole, same]
      exact ⟨rfl, kept, filled⟩

theorem arrive_from_start {request : List UInt8}
    (arrived : arrive server (start server request) = .ok number state) :
    state.invocations = [] ∧ state.binOutput = [] ∧
      Common.endiannessIsDeclared (statusData server state.data) := by
  obtain ⟨_, headed, headerRead, arrived⟩ := bind_eq_ok arrived
  rw [bind_of_ok (get_apply headed)] at arrived
  obtain ⟨common, input, deserialized, rfl⟩ := readCommonContext_of_ok headerRead
  split at arrived
  · obtain ⟨id, opened, contextRead, arrived⟩ := bind_eq_ok arrived
    obtain ⟨data, rest, equality, platform, flags, _⟩ :=
      readDataContext_of_ok contextRead
    obtain ⟨declared, samePlatform⟩ :=
      Common.endiannessIsDeclared_of_deserialize deserialized
    have same : Common.endiannessIsDeclared (statusData server data) =
        Common.endiannessIsDeclared common := by
      have origin : common.platform = server.platform := samePlatform
      simp only [Common.endiannessIsDeclared, statusData, StatusMessage.statusContext,
        Context.Data.endiannessNotMatch, Context.Data.bigEndianFormat,
        Context.Data.endiannessDifference, flags, origin]
    cases answer : server.registrar.aquireHandler id with
    | error status =>
        simp only [answer] at arrived
        cases arrived
    | ok handled =>
        simp only [answer] at arrived
        cases arrived
        rw [equality]
        exact ⟨rfl, rfl, same ▸ declared⟩
  · cases arrived

end Arrival

end CommonSerialization.Csp.Messaging.Server
