import CommonSerialization.Csp.Messaging.Arrival

namespace CommonSerialization.Csp.Messaging.Server

open StateExcept

/-! The interface versions that a handler is called for. -/

section Calls

variable (server : Server P)

def Unheard (before after : ServerState P) : Prop :=
  after.invocations = before.invocations ∧ after.binOutput = before.binOutput

def Heard (number : Nat) (before after : ServerState P) : Prop :=
  ∃ call, call.handler = number ∧ after.invocations = call :: before.invocations

def CalledAtMostOnce (number : Nat) (before after : ServerState P) : Prop :=
  Unheard before after ∨ Heard number before after

theorem final_reading (proc : DContext P → DProc P α) (state : ServerState P) :
    ∃ input, final (reading server proc state) = { state with input := input } := by
  unfold reading
  split <;> exact ⟨_, rfl⟩

theorem final_writing (data : Context.Data) (proc : SContext → SProc α)
    (state : ServerState P) :
    ∃ octets, final (writing server data proc state) =
      { state with binOutput := octets } := by
  unfold writing
  split <;> exact ⟨_, rfl⟩

theorem final_sendOutput : (outputType : OutputType P) →
    (output : outputType.top.type.Obj) → (kForTempUseHeap : Bool) →
    (state : ServerState P) →
    ∃ octets, final (sendOutput server outputType output kForTempUseHeap state) =
      { state with binOutput := octets }
  | .dummy, _, _, state => ⟨state.binOutput, rfl⟩
  | .struct top, output, kForTempUseHeap, state => by
      obtain ⟨octets, written⟩ := final_writing server
        (replyData state.data kForTempUseHeap)
        (fun ctx => ISerializable.serialize ctx server.program.shandlers top output 0)
        { state with binOutput := [] }
      exact ⟨octets, written⟩

variable (number : Nat)

theorem handleDataMain_calls (address : Nat) (state : ServerState P) :
    CalledAtMostOnce number state
      (final (handleDataMain server number address state)) := by
  let decode : DContext P → DProc P (server.handler number).inputType.type.Obj :=
    fun ctx => BodyProcessor.deserialize ctx server.program.pointeeType
      (server.program.dhandlers ctx) (server.handler number).inputType.type
      (ctx.construct (server.handler number).inputType.type) address
  obtain ⟨walked, decoded⟩ := final_reading server decode state
  unfold handleDataMain
  cases ran : reading server decode state with
  | error fault failed =>
      rw [ran] at decoded
      rw [bind_of_error ran]
      exact .inl (by rw [final_error] at decoded ⊢; rw [decoded]; exact ⟨rfl, rfl⟩)
  | ok input opened =>
      rw [ran, final_ok] at decoded
      refine .inr ?_
      rw [bind_of_ok ran, bind_of_ok (get_apply opened)]
      simp only [bind_of_ok (modify_apply _ opened)]
      split
      · rw [decoded]
        exact ⟨_, rfl, rfl⟩
      · obtain ⟨octets, sent⟩ := final_sendOutput server _ _ _ _
        rw [sent, decoded]
        exact ⟨_, rfl, rfl⟩

theorem onHeap_calls (size : Nat) {use : Nat → ServerProc P Unit}
    (useCalls : ∀ address state, CalledAtMostOnce number state
      (final (use address state))) (state : ServerState P) :
    CalledAtMostOnce number state (final (onHeap server size use state)) := by
  obtain ⟨walked, allocated⟩ :=
    final_reading server (fun ctx => allocate ctx size) state
  unfold onHeap
  cases ran : reading server (fun ctx => allocate ctx size) state with
  | error fault failed =>
      rw [ran, final_error] at allocated
      exact .inl (by rw [final_error, allocated]; exact ⟨rfl, rfl⟩)
  | ok address opened =>
      rw [ran, final_ok] at allocated
      cases address with
      | none => exact .inl (by rw [final_error, allocated]; exact ⟨rfl, rfl⟩)
      | some address =>
          have called := useCalls address opened
          rw [allocated] at called ⊢
          simp only
          cases used : use address { state with input := walked } with
          | ok value after => rwa [used] at called
          | error fault after => rwa [used] at called

theorem handleDataBody_calls (state : ServerState P) :
    CalledAtMostOnce number state (final (handleDataBody server number state)) := by
  have heap : ∀ state, CalledAtMostOnce number state
      (final (handleDataOnHeap server number state)) := by
    refine onHeap_calls server number _ fun address state => ?_
    cases (server.handler number).outputType with
    | dummy => exact handleDataMain_calls server number address state
    | struct top =>
        exact onHeap_calls server number _
          (fun _ => handleDataMain_calls server number address) state
  unfold handleDataBody
  rw [setData, bind_of_ok (modify_apply _ state)]
  split
  · exact heap _
  · exact handleDataMain_calls server number _ _

end Calls

section Gate

variable {server : Server P} {number : Nat} {state : ServerState P}

/-- The versions that the handler itself says it knows. -/
def IsOpen (server : Server P) (number : Nat) (version : Nat) : Prop :=
  Context.Traits.isInterfaceVersionSupported version
    (server.handler number).kMinimumInterfaceVersion
    (server.handler number).inputType.interface.version

/-- The check of the data context only looks at it. -/
theorem statusOf_postprocessRest (server : Server P) (number : Nat)
    (state : ServerState P) (data : Context.Data) (addedPointers : Bool) :
    ∃ status, statusOf (reading server fun _ => do
        let _ ← Data.deserializePostprocessRest data (server.handler number).inputType
          (server.handler number).kMinimumInterfaceVersion addedPointers) state =
        .ok status state ∧
      (status = .errorNotSupportedInterfaceVersion ↔
        ¬IsOpen server number data.interfaceVersion) := by
  unfold Data.deserializePostprocessRest IsOpen
  cases Context.Traits.isInterfaceVersionSupported data.interfaceVersion
    (server.handler number).kMinimumInterfaceVersion
    (server.handler number).inputType.interface.version
  · exact ⟨.errorNotSupportedInterfaceVersion, rfl, by simp⟩
  · simp only [Bool.not_true, Bool.false_eq_true, if_false]
    split
    · refine ⟨_, rfl, ?_⟩
      rcases BodyProcessor.testDataFlagsCompatibility_cases (server.handler number).inputType.versioning
        data.dataFlags with outcome | outcome <;> simp [outcome]
    · split
      · exact ⟨.errorInvalidArgument, rfl, by simp⟩
      · split
        · exact ⟨.errorNotCompatibleDataFlagsSettings, rfl, by simp⟩
        · exact ⟨.noError, rfl, by simp⟩

theorem checkContext_of_open (isOpen : IsOpen server number state.data.interfaceVersion) :
    Unheard state (final (checkContext server number state)) := by
  obtain ⟨status, ran, closedIff⟩ := statusOf_postprocessRest server number state
    state.data state.data.allowUnmanagedPointers
  have other : status ≠ .errorNotSupportedInterfaceVersion := fun closed =>
    closedIff.mp closed isOpen
  unfold checkContext
  rw [bind_of_ok (get_apply state), bind_of_ok ran, setData,
    bind_of_ok (modify_apply _ state)]
  split
  · exact ⟨rfl, rfl⟩
  · exact ⟨rfl, rfl⟩

theorem checkContext_of_closed
    (closed : ¬IsOpen server number state.data.interfaceVersion) :
    checkContext server number state =
      (do
        reportInterfaceVersion server number
        fail .errorNotSupportedInterfaceVersion) state := by
  obtain ⟨status, ran, closedIff⟩ := statusOf_postprocessRest server number state
    state.data state.data.allowUnmanagedPointers
  obtain rfl := closedIff.mpr closed
  have same : contextAfter state.data (server.handler number).inputType
      (server.handler number).kMinimumInterfaceVersion = state.data := by
    unfold contextAfter
    rw [if_neg (by exact closed)]
  unfold checkContext
  rw [bind_of_ok (get_apply state), bind_of_ok ran, setData,
    bind_of_ok (modify_apply _ state)]
  simp only [same]
  rfl

def reportOctets (server : Server P) (number : Nat) (data : Context.Data) (minimum : Nat) :
    List UInt8 :=
  StatusMessage.interfaceVersionOctets (statusData server data) minimum
    (server.handler number).outputType.top.kId

theorem handleDataCommon_of_open
    (isOpen : IsOpen server number state.data.interfaceVersion) :
    CalledAtMostOnce number state (final (handleDataCommon server number state)) := by
  have checked := checkContext_of_open isOpen
  unfold handleDataCommon
  rw [bind_of_ok (get_apply state)]
  split
  · exact .inl ⟨rfl, rfl⟩
  · cases ran : checkContext server number state with
    | error fault after =>
        rw [ran, final_error] at checked
        rw [bind_of_error ran, final_error]
        exact .inl checked
    | ok value after =>
        rw [ran, final_ok] at checked
        rw [bind_of_ok ran]
        obtain ⟨calls, reply⟩ := checked
        rcases handleDataBody_calls server number after with
          ⟨sameCalls, sameReply⟩ | ⟨call, called, added⟩
        · exact .inl ⟨by rw [sameCalls, calls], by rw [sameReply, reply]⟩
        · exact .inr ⟨call, called, by rw [added, calls]⟩

theorem handleDataCommon_of_refused
    (refused : ¬statusSuccess
      ((server.handler number).checkPoliciesCompliance state.data)) :
    CalledAtMostOnce number state (final (handleDataCommon server number state)) := by
  unfold handleDataCommon
  rw [bind_of_ok (get_apply state), if_pos (by simp [refused])]
  exact .inl ⟨rfl, rfl⟩

theorem reportInterfaceVersion_of_writable
    (unbounded : ∀ size n, server.grants size n = true) (empty : state.binOutput = [])
    (writable : StatusMessage.Writable (statusData server state.data)) :
    reportInterfaceVersion server number state =
      .ok ()
        { state with
          binOutput := reportOctets server number state.data
            (server.handler number).kMinimumInterfaceVersion } := by
  have granted : Unbounded ⟨statusData server state.data, server.grants⟩ := unbounded
  have writes := StatusMessage.serializeErrorNotSupportedInterfaceVersion_writes
    granted writable
    (server.handler number).kMinimumInterfaceVersion
    (server.handler number).outputType.top.kId
  have written := writing_of_writes server (statusData server state.data)
    (fun ctx => StatusMessage.serializeErrorNotSupportedInterfaceVersion ctx
      (server.handler number).kMinimumInterfaceVersion
      (server.handler number).outputType.top.kId) state writes (by
      rw [empty, StatusMessage.length_interfaceVersionOctets]
      simp only [Platform.addressBits]
      split <;> decide)
  unfold reportInterfaceVersion
  rw [bind_of_ok (get_apply state)]
  refine written.trans ?_
  rw [empty]
  rfl

theorem reportInterfaceVersion_of_refused
    (refused : ¬StatusMessage.Writable (statusData server state.data)) :
    ∃ status, reportInterfaceVersion server number state =
      .error (.status status) state := by
  obtain ⟨status, failed⟩ :=
    StatusMessage.serializeErrorNotSupportedInterfaceVersion_refused
      ⟨statusData server state.data, server.grants⟩ refused
      (server.handler number).kMinimumInterfaceVersion
      (server.handler number).outputType.top.kId
      { SState.empty with binaryData := state.binOutput }
  refine ⟨status, ?_⟩
  unfold reportInterfaceVersion
  rw [bind_of_ok (get_apply state)]
  exact writing_of_refused server (statusData server state.data)
    (fun ctx => StatusMessage.serializeErrorNotSupportedInterfaceVersion ctx
      (server.handler number).kMinimumInterfaceVersion
      (server.handler number).outputType.top.kId) state failed

theorem handleDataCommon_of_closed
    (unbounded : ∀ size n, server.grants size n = true) (empty : state.binOutput = [])
    (closed : ¬IsOpen server number state.data.interfaceVersion)
    (policies : statusSuccess ((server.handler number).checkPoliciesCompliance state.data)) :
    (final (handleDataCommon server number state)).invocations = state.invocations ∧
      (final (handleDataCommon server number state)).binOutput =
        if StatusMessage.Writable (statusData server state.data) then
          reportOctets server number state.data
            (server.handler number).kMinimumInterfaceVersion
        else [] := by
  unfold handleDataCommon
  rw [bind_of_ok (get_apply state), if_neg (by simp [policies])]
  have checked := checkContext_of_closed closed
  split
  · rename_i writable
    rw [bind_of_ok (reportInterfaceVersion_of_writable unbounded empty writable)] at checked
    rw [bind_of_error checked]
    exact ⟨rfl, rfl⟩
  · rename_i refused
    obtain ⟨status, reported⟩ := reportInterfaceVersion_of_refused refused
    rw [bind_of_error reported] at checked
    rw [bind_of_error checked]
    exact ⟨rfl, empty⟩

end Gate

section Versions

/-- The smallest version at which a request can be decoded and its reply
encoded. -/
def smallestVersion (handler : ServerDataHandler P) : Nat :=
  max handler.inputType.getOriginPrivateVersion
    handler.outputType.top.getOriginPrivateVersion

def InRange (handler : ServerDataHandler P) (version : Nat) : Prop :=
  smallestVersion handler ≤ version ∧ version ≤ handler.inputType.interface.version

instance (handler : ServerDataHandler P) (version : Nat) :
    Decidable (InRange handler version) :=
  inferInstanceAs (Decidable (_ ∧ _))

/-- The handler's traits leave the minimum version at its default. -/
def HasDefaultMinimum (handler : ServerDataHandler P) : Prop :=
  handler.kMinimumInterfaceVersion =
    minimumInterfaceVersion handler.inputType handler.outputType.top

def SameOrigin (handler : ServerDataHandler P) : Prop :=
  handler.inputType.getOriginPrivateVersion =
    handler.outputType.top.getOriginPrivateVersion

theorem HasDefaultMinimum.eq_min {handler : ServerDataHandler P}
    (default : HasDefaultMinimum handler) :
    handler.kMinimumInterfaceVersion =
      min handler.inputType.getOriginPrivateVersion
        handler.outputType.top.getOriginPrivateVersion := by
  rw [default, minimumInterfaceVersion]
  split <;> omega

variable {server : Server P} {number : Nat} {request : List UInt8}
  {state : ServerState P}

/-- What a request for a handler comes to: the handler is called only for the
versions in range, and the others are answered with the report that names the
smallest of these. -/
structure VersionGate (server : Server P) (number : Nat) (request : List UInt8)
    (data : Context.Data) : Prop where
  called : (final (handleMessage server (start server request))).invocations ≠ [] →
    InRange (server.handler number) data.interfaceVersion
  reported : ¬InRange (server.handler number) data.interfaceVersion →
    (final (handleMessage server (start server request))).invocations = [] ∧
      (final (handleMessage server (start server request))).binOutput =
        reportOctets server number data (smallestVersion (server.handler number))

theorem length_reportOctets (server : Server P) (number : Nat) (data : Context.Data)
    (minimum : Nat) :
    (reportOctets server number data minimum).length = 32 :=
  StatusMessage.length_interfaceVersionOctets _ _ _

theorem reportOctets_injective {data : Context.Data} {first second : Nat}
    (firstSized : first < 2 ^ 32) (secondSized : second < 2 ^ 32)
    (same : reportOctets server number data first =
      reportOctets server number data second) : first = second := by
  unfold reportOctets StatusMessage.interfaceVersionOctets at same
  have words := formatOctets_injective
    (List.append_cancel_right (List.append_cancel_left same))
  have equality := congrArg BitVec.toNat words
  have width : 8 * Width.four.bytes = 32 := rfl
  simp only [BitVec.toNat_ofNat, width] at equality
  rwa [Nat.mod_eq_of_lt firstSized, Nat.mod_eq_of_lt secondSized] at equality

/-- Unless the handler's own check of the version fails, no report is written. -/
theorem not_reported_of_calls (unbounded : ∀ size n, server.grants size n = true)
    (arrived : arrive server (start server request) = .ok number state)
    (calls : CalledAtMostOnce number state
      (final (handleDataCommon server number state)))
    (outside : ¬InRange (server.handler number) state.data.interfaceVersion) :
    ¬VersionGate server number request state.data := by
  intro gate
  obtain ⟨noCalls, report⟩ := gate.reported outside
  obtain ⟨sameCalls, _, status⟩ := final_handleMessage unbounded arrived
  obtain ⟨_, empty, _⟩ := arrive_from_start arrived
  have length := congrArg List.length report
  rw [length_reportOctets] at length
  rcases calls with ⟨_, sameReply⟩ | ⟨call, _, added⟩
  · rcases status (sameReply.trans empty) with none | short
    · rw [none] at length
      exact absurd length (by decide)
    · omega
  · rw [sameCalls, added] at noCalls
    exact List.cons_ne_nil _ _ noCalls

theorem handleMessage_of_closed (unbounded : ∀ size n, server.grants size n = true)
    (arrived : arrive server (start server request) = .ok number state)
    (closed : ¬IsOpen server number state.data.interfaceVersion)
    (policies : statusSuccess ((server.handler number).checkPoliciesCompliance state.data))
    (writable : StatusMessage.Writable (statusData server state.data)) :
    (final (handleMessage server (start server request))).invocations = [] ∧
      (final (handleMessage server (start server request))).binOutput =
        reportOctets server number state.data
          (server.handler number).kMinimumInterfaceVersion := by
  obtain ⟨noneBefore, empty, _⟩ := arrive_from_start arrived
  obtain ⟨calls, report⟩ := handleDataCommon_of_closed unbounded empty closed policies
  obtain ⟨sameCalls, sameReply, _⟩ := final_handleMessage unbounded arrived
  rw [if_pos writable] at report
  refine ⟨by rw [sameCalls, calls, noneBefore], ?_⟩
  rw [sameReply, report]
  intro none
  have length := length_reportOctets server number state.data
    (server.handler number).kMinimumInterfaceVersion
  rw [← report, none] at length
  exact absurd length (by decide)

theorem not_isOpen_of_sameOrigin {version : Nat}
    (default : HasDefaultMinimum (server.handler number))
    (same : SameOrigin (server.handler number))
    (outside : ¬InRange (server.handler number) version) :
    ¬IsOpen server number version := by
  intro isOpen
  simp only [IsOpen, Context.Traits.isInterfaceVersionSupported, default.eq_min,
    Bool.and_eq_true, decide_eq_true_eq] at isOpen
  simp only [InRange, smallestVersion] at outside
  simp only [SameOrigin] at same
  omega

theorem versionGate_iff
    (arrived : arrive server (start server request) = .ok number state)
    (default : HasDefaultMinimum (server.handler number))
    (unbounded : ∀ size n, server.grants size n = true)
    (sized : smallestVersion (server.handler number) < 2 ^ 32) :
    VersionGate server number request state.data ↔
      InRange (server.handler number) state.data.interfaceVersion ∨
        SameOrigin (server.handler number) ∧
          statusSuccess ((server.handler number).checkPoliciesCompliance state.data) ∧
          Context.Traits.isProtocolVersionSupported state.data.protocolVersion := by
  by_cases inside : InRange (server.handler number) state.data.interfaceVersion
  · exact ⟨fun _ => .inl inside,
      fun _ => ⟨fun _ => inside, fun outside => absurd inside outside⟩⟩
  · have unheard := not_reported_of_calls unbounded arrived
    obtain ⟨noneBefore, empty, declared⟩ := arrive_from_start arrived
    constructor
    · intro gate
      have policies : statusSuccess
          ((server.handler number).checkPoliciesCompliance state.data) := by
        by_contra refused
        exact unheard (handleDataCommon_of_refused refused) inside gate
      have closed : ¬IsOpen server number state.data.interfaceVersion := fun isOpen =>
        unheard (handleDataCommon_of_open isOpen) inside gate
      have supported : Context.Traits.isProtocolVersionSupported
          state.data.protocolVersion := by
        by_contra unsupported
        obtain ⟨calls, reply⟩ :=
          handleDataCommon_of_closed unbounded empty closed policies
        rw [if_neg fun writable => unsupported writable.1] at reply
        exact unheard (.inl ⟨calls, reply.trans empty.symm⟩) inside gate
      obtain ⟨_, report⟩ :=
        handleMessage_of_closed unbounded arrived closed policies ⟨supported, declared⟩
      have minimum : (server.handler number).kMinimumInterfaceVersion =
          smallestVersion (server.handler number) := by
        refine reportOctets_injective ?_ sized
          (report.symm.trans (gate.reported inside).2)
        rw [default.eq_min]
        unfold smallestVersion at sized
        omega
      refine .inr ⟨?_, policies, supported⟩
      rw [default.eq_min, smallestVersion] at minimum
      simp only [SameOrigin]
      omega
    · rintro (within | ⟨same, policies, supported⟩)
      · exact absurd within inside
      · have closed := not_isOpen_of_sameOrigin default same inside
        obtain ⟨calls, report⟩ := handleMessage_of_closed unbounded arrived closed policies
          ⟨supported, declared⟩
        refine ⟨fun called => absurd calls called, fun _ => ⟨calls, ?_⟩⟩
        rw [report]
        congr 1
        simp only [SameOrigin] at same
        rw [default.eq_min, smallestVersion]
        omega

end Versions

section Query

private def queryTop (id origin : Nat) : TopStruct Empty where
  kId := .ofNat id
  interface := ⟨.ofNat 7, 2, .ofUInt32 0, .ofUInt32 0⟩
  decl :=
    { name := id
      tags := .none
      alignment := 4
      tailPadding := 0
      iSerializable := some ⟨origin, [origin], 0, 0⟩
      function := .fieldByField .common }
  fields := .cons 0 (.scalar (.integral .unsignedInt .four false)) .nil
  versioning := ⟨origin, [origin], 0, 0⟩
  declared := rfl

/-- The type of the reply is one version younger than that of the request. -/
private def queryHandler : ServerDataHandler Empty where
  inputType := queryTop 1 1
  outputType := .struct (queryTop 2 2)
  kForTempUseHeap := false
  kMinimumInterfaceVersion := minimumInterfaceVersion (queryTop 1 1) (queryTop 2 2)
  checkPoliciesCompliance _ := .noError
  handleData input _ := (.noError, input)

private def queryServer : Server Empty where
  settings := ⟨[1], .ofUInt32 0, .ofUInt32 0, [⟨.ofNat 7, 2⟩]⟩
  registrar := ⟨fun _ => queryHandler, fun _ => .ok 0, fun _ => .ok [0]⟩
  program := ⟨nofun, fun _ => .none, fun _ => .none⟩
  platform := ⟨false, false⟩
  grants _ _ := true
  memory := .unbounded
    { platform := ⟨false, false⟩
      protocolVersion := 1
      messageType := .data
      commonFlags := .ofUInt32 0
      dataFlags := .ofUInt32 0
      interfaceVersion := 0
      interfaceVersionsNotMatch := false
      isHeapUsedForTemp := true }

private def query (version : UInt8) : List UInt8 :=
  [1, 0, 1, 0, 0, 0, 0, 0] ++ (Uuid.ofNat 1).octets ++
    [version, 0, 0, 0, 0, 0, 0, 0, 5, 0, 0, 0]

theorem versionGate_query :
    VersionGate queryServer 0 (query 2)
      (final (arrive queryServer (start queryServer (query 2)))).data := by
  have arrived : arrive queryServer (start queryServer (query 2)) =
      .ok 0 (final (arrive queryServer (start queryServer (query 2)))) := rfl
  exact (versionGate_iff arrived rfl (fun _ _ => rfl) (by decide)).mpr
    (.inl (by decide))

/-- A request at version 1 reaches the handler, though the reply cannot be
encoded at it. -/
theorem query_below_range :
    arrive queryServer (start queryServer (query 1)) =
        .ok 0 (final (arrive queryServer (start queryServer (query 1)))) ∧
      HasDefaultMinimum (queryServer.handler 0) ∧
      ¬VersionGate queryServer 0 (query 1)
        (final (arrive queryServer (start queryServer (query 1)))).data := by
  refine ⟨rfl, rfl, fun gate => ?_⟩
  have heard : (final (handleMessage queryServer
      (start queryServer (query 1)))).invocations ≠ [] := by
    intro none
    have length := congrArg List.length none
    revert length
    decide
  have within := gate.called heard
  revert within
  decide

end Query

end CommonSerialization.Csp.Messaging.Server
