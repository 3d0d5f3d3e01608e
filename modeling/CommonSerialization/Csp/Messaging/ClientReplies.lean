import CommonSerialization.Csp.Messaging.ClientRequests
import CommonSerialization.Csp.Processing.HeaderExchange

namespace CommonSerialization.Csp.Messaging.Client

open StateExcept

/-! Which replies a client takes for a success. -/

section Header

variable (ctx : DContext P) {octets : List UInt8}

def readTo (place : Nat) (octets : List UInt8)
    (unmanagedPointers : Option (List (AddedObject P))) : DState P :=
  { received octets unmanagedPointers with binaryData := ⟨octets, place⟩ }

variable {unmanagedPointers : Option (List (AddedObject P))}

structure CommonAccepted (data : Context.Data) (header : Header) : Prop where
  version : data.protocolVersion ≤ header.versionOctet ∧
    header.versionOctet ≤ Context.Traits.getLatestProtocolVersion
  endianness :
    Common.endiannessIsDeclared (data.setCommonFlags header.validCommonFlags)

theorem deserializeCommon_eq_ok {common : Context.Data} {after : DState P}
    (bounded : octets.length < 2 ^ ctx.data.platform.addressBits) :
    Common.deserialize ctx (received octets unmanagedPointers) = .ok common after ↔
      8 ≤ octets.length ∧
        CommonAccepted ctx.data (Header.ofOctets octets) ∧
        common = (Header.ofOctets octets).commonContext ctx.data ∧
        after = readTo 8 octets unmanagedPointers := by
  have input (long : 8 ≤ octets.length) :
      octets.drop 0 = (Header.ofOctets octets).commonOctets ++ octets.drop 8 := by
    rw [Header.commonOctets, ← Header.take_commonOctets long, List.take_append_drop,
      List.drop_zero]
  have finished (long : 8 ≤ octets.length)
      (accepted : CommonAccepted ctx.data (Header.ofOctets octets)) :
      Common.deserialize ctx (received octets unmanagedPointers) =
        .ok ((Header.ofOctets octets).commonContext ctx.data)
          (readTo 8 octets unmanagedPointers) := by
    obtain ⟨data, middle, ran, rfl, walker⟩ := Header.common_reads ctx
      (Header.ofOctets octets) accepted.version accepted.endianness
      (received octets unmanagedPointers) _ (input long) (Nat.zero_le _) bounded
    have consumed := (deserialize_consumes ctx _ _ _ ran (Nat.zero_le _)).1
    rw [ran, deserialize_onlyReads ctx _ _ _ ran, consumed]
    rfl
  constructor
  · intro ran
    have long : 8 ≤ octets.length := by
      have inside : 0 + 8 ≤ octets.length :=
        (deserialize_consumes ctx _ _ _ ran (Nat.zero_le _)).2
      omega
    obtain ⟨version, endianness⟩ := Header.checked_of_common ctx
      (Header.ofOctets octets) (input long) (Nat.zero_le _) bounded ran
    rw [finished long ⟨version, endianness⟩] at ran
    cases ran
    exact ⟨long, ⟨version, endianness⟩, rfl, rfl⟩
  · rintro ⟨long, accepted, rfl, rfl⟩
    exact finished long accepted

theorem deserializeStatus_eq_ok {statusOut : Word .four} {after : DState P}
    (long : 8 ≤ octets.length)
    (bounded : octets.length < 2 ^ ctx.data.platform.addressBits) :
    StatusMessage.deserialize ctx (readTo 8 octets unmanagedPointers) =
        .ok statusOut after ↔
      12 ≤ octets.length ∧
        statusOut = Header.fieldAt ctx.data.bigEndianFormat .four octets 8 ∧
        after = readTo 12 octets unmanagedPointers := by
  have finished (whole : 12 ≤ octets.length) :
      StatusMessage.deserialize ctx (readTo 8 octets unmanagedPointers) =
        .ok (Header.fieldAt ctx.data.bigEndianFormat .four octets 8)
          (readTo 12 octets unmanagedPointers) := by
    have input : octets.drop 8 =
        formatOctets ctx.data.bigEndianFormat .four
            (Header.fieldAt ctx.data.bigEndianFormat .four octets 8) ++
          (octets.drop 8).drop Width.four.bytes := by
      rw [Header.formatOctets_fieldAt whole, List.take_append_drop]
    obtain ⟨value, middle, ran, rfl, walker⟩ := readPrimitive_reads ctx .four _
      (readTo 8 octets unmanagedPointers) _ input long bounded
    have consumed := (readPrimitive_consumes ctx .four _ _ _ ran long).1
    rw [StatusMessage.deserialize, ran, readPrimitive_onlyReads ctx .four _ _ _ ran,
      consumed]
    rfl
  constructor
  · intro ran
    have whole : 12 ≤ octets.length := (readPrimitive_consumes ctx .four _ _ _ ran long).2
    rw [finished whole] at ran
    cases ran
    exact ⟨whole, rfl, rfl⟩
  · rintro ⟨whole, rfl, rfl⟩
    exact finished whole

theorem deserializeNoChecks_eq_ok {result : Uuid × Context.Data} {after : DState P}
    {data : Context.Data} (long : 8 ≤ octets.length)
    (bounded : octets.length < 2 ^ ctx.data.platform.addressBits)
    (flags : data.commonFlags = (Header.ofOctets octets).validCommonFlags)
    (platform : data.platform = ctx.data.platform) :
    Data.deserializeNoChecks { ctx with data := data }
        (readTo 8 octets unmanagedPointers) = .ok result after ↔
      32 ≤ octets.length ∧
        result = ((Header.ofOctets octets).id,
          (data.setInterfaceVersion
            (Header.ofOctets octets).interfaceVersion.toNat).setDataFlags
              (Header.ofOctets octets).validDataFlags) ∧
        after = readTo 32 octets unmanagedPointers := by
  have finished (whole : 32 ≤ octets.length) :
      Data.deserializeNoChecks { ctx with data := data }
          (readTo 8 octets unmanagedPointers) =
        .ok ((Header.ofOctets octets).id,
          (data.setInterfaceVersion
            (Header.ofOctets octets).interfaceVersion.toNat).setDataFlags
              (Header.ofOctets octets).validDataFlags)
          (readTo 32 octets unmanagedPointers) := by
    have input : octets.drop 8 =
        (Header.ofOctets octets).dataOctets ++ octets.drop 32 := by
      have split := Header.eq_octets_append whole
      rw [Header.octets_eq, List.append_assoc] at split
      have first : (Header.ofOctets octets).commonOctets.length = 8 := by
        rw [Header.commonOctets, ← Header.take_commonOctets long, List.length_take,
          Nat.min_eq_left long]
      calc octets.drop 8
        _ = ((Header.ofOctets octets).commonOctets ++
              ((Header.ofOctets octets).dataOctets ++ octets.drop 32)).drop 8 := by
            rw [← split]
        _ = (Header.ofOctets octets).dataOctets ++ octets.drop 32 :=
            List.drop_left' first
    obtain ⟨value, middle, ran, rfl, walker⟩ := Header.data_reads ctx
      (Header.ofOctets octets) data flags platform
      (readTo 8 octets unmanagedPointers) _ input long bounded
    have consumed := (deserializeNoChecks_consumes _ _ _ _ ran long).1
    rw [ran, deserializeNoChecks_onlyReads _ _ _ _ ran, consumed]
    rfl
  constructor
  · intro ran
    have whole : 32 ≤ octets.length :=
      (deserializeNoChecks_consumes _ _ _ _ ran long).2
    rw [finished whole] at ran
    cases ran
    exact ⟨whole, rfl, rfl⟩
  · rintro ⟨whole, rfl, rfl⟩
    exact finished whole

end Header

section Replies

variable (party : ClientParty P) (traits : ClientDataHandlerTraits P)

def bodyData (header : Header) : Context.Data :=
  { Data.noteInterfaceVersions (header.context (replyStart party))
      traits.outputType.top with
    isHeapUsedForTemp := traits.kForTempUseHeap }

/-- The header of a reply fits the request. -/
structure Fits (sent : Context.Data) (header : Header) : Prop where
  checked : header.Checked (replyStart party) traits.outputType.top
  dataFlags : header.validDataFlags = sent.dataFlags
  interfaceVersion :
    header.interfaceVersion.toNat = targetInterfaceVersion party traits

theorem deserializePostprocessRest_of_held {data : Context.Data} {top : TopStruct P}
    {minimum : Nat} {hasContainer : Bool}
    (held : data.allowUnmanagedPointers → hasContainer) :
    (Data.deserializePostprocessRest data top minimum hasContainer :
        DProc P Context.Data) =
      Data.deserializePostprocessRest data top minimum true := by
  have same : (data.allowUnmanagedPointers && !hasContainer) =
      (data.allowUnmanagedPointers && !true) := by
    cases allowed : data.allowUnmanagedPointers with
    | false => rfl
    | true => simp [held allowed]
  unfold Data.deserializePostprocessRest
  rw [same]

variable {party traits} {octets : List UInt8}
  {unmanagedPointers : Option (List (AddedObject P))} {sent : Context.Data}

/-- The checks pass exactly on a header that fits, and read nothing. -/
theorem checkOutputContext_eq_ok {header : Header} {data : Context.Data}
    {before after : DState P} {hasContainer : Bool}
    (accepted : CommonAccepted (replyStart party) header)
    (held : sent.allowUnmanagedPointers → hasContainer) :
    checkOutputContext party traits sent (header.context (replyStart party)) header.id
        hasContainer before = .ok data after ↔
      Fits party traits sent header ∧ data = bodyData party traits header ∧
        after = before := by
  have rest (same : sent.dataFlags = header.validDataFlags) :
      (Data.deserializePostprocessRest (header.context (replyStart party))
          traits.outputType.top traits.outputType.top.getOriginPrivateVersion
          hasContainer : DProc P Context.Data) =
        Data.deserializePostprocessRest (header.context (replyStart party))
          traits.outputType.top traits.outputType.top.getOriginPrivateVersion true := by
    refine deserializePostprocessRest_of_held fun allowed => held ?_
    have flags : (header.context (replyStart party)).dataFlags = sent.dataFlags :=
      same.symm
    rwa [Context.Data.allowUnmanagedPointers, flags] at allowed
  have version (data : Context.Data) : (Data.noteInterfaceVersions data
      traits.outputType.top).interfaceVersion = data.interfaceVersion := by
    unfold Data.noteInterfaceVersions
    split <;> rfl
  constructor
  · intro ran
    unfold checkOutputContext at ran
    split at ran
    · cases ran
    · rename_i same
      have sameFlags : sent.dataFlags = header.validDataFlags := not_not.mp same
      obtain ⟨_, middle, idRan, ran⟩ := bind_eq_ok ran
      unfold Data.deserializePostprocessId at idRan
      split at idRan
      · rename_i sameId
        cases idRan
        obtain ⟨_, last, restRan, lastRan⟩ := bind_eq_ok ran
        rw [rest sameFlags] at restRan
        obtain ⟨range, compatible, pointers, rfl, rfl⟩ :=
          Header.deserializePostprocessRest_eq_ok.mp restRan
        obtain ⟨mandatory, forbidden⟩ :=
          Header.statusSuccess_testDataFlagsCompatibility.mp compatible
        split at lastRan
        · cases lastRan
        · rename_i sameVersion
          rw [version] at sameVersion
          cases lastRan
          exact ⟨⟨⟨accepted.version, accepted.endianness, sameId.symm, range, mandatory,
            forbidden, pointers⟩, sameFlags.symm, not_not.mp sameVersion⟩, rfl, rfl⟩
      · cases idRan
  · rintro ⟨fits, rfl, rfl⟩
    have passed : Data.deserializePostprocessRest (header.context (replyStart party))
        traits.outputType.top traits.outputType.top.getOriginPrivateVersion true after =
          .ok (Data.noteInterfaceVersions (header.context (replyStart party))
            traits.outputType.top) after :=
      Header.deserializePostprocessRest_eq_ok.mpr ⟨fits.checked.interfaceVersion,
        Header.statusSuccess_testDataFlagsCompatibility.mpr
          ⟨fits.checked.mandatory, fits.checked.forbidden⟩,
        fits.checked.pointers, rfl, rfl⟩
    have sameFlags : ¬sent.dataFlags ≠ (header.context (replyStart party)).dataFlags :=
      not_not.mpr fits.dataFlags.symm
    have sameId : Data.deserializePostprocessId traits.outputType.top header.id after =
        .ok () after := by
      rw [Data.deserializePostprocessId, if_pos fits.checked.id.symm]
      rfl
    have sameVersion : ¬(Data.noteInterfaceVersions (header.context (replyStart party))
        traits.outputType.top).interfaceVersion ≠ targetInterfaceVersion party traits := by
      rw [version]
      exact not_not.mpr fits.interfaceVersion
    rw [checkOutputContext, if_neg sameFlags, bind_of_ok sameId,
      rest fits.dataFlags.symm, bind_of_ok passed, if_neg sameVersion]
    rfl

theorem readOutputContext_eq_ok {data : Context.Data} {after : DState P}
    (long : 8 ≤ octets.length)
    (bounded : octets.length < 2 ^ party.platform.addressBits)
    (accepted : CommonAccepted (replyStart party) (Header.ofOctets octets))
    (held : sent.allowUnmanagedPointers → unmanagedPointers.isSome) :
    readOutputContext party traits sent
        ((Header.ofOctets octets).commonContext (replyStart party))
        unmanagedPointers.isSome (readTo 8 octets unmanagedPointers) =
          .ok data after ↔
      32 ≤ octets.length ∧ Fits party traits sent (Header.ofOctets octets) ∧
        data = bodyData party traits (Header.ofOctets octets) ∧
        after = readTo 32 octets unmanagedPointers := by
  have reads (result : Uuid × Context.Data) (middle : DState P) :
      Data.deserializeNoChecks
          { party.memory with
            data := (Header.ofOctets octets).commonContext (replyStart party) }
          (readTo 8 octets unmanagedPointers) = .ok result middle ↔
        32 ≤ octets.length ∧
          result = ((Header.ofOctets octets).id,
            (Header.ofOctets octets).context (replyStart party)) ∧
          middle = readTo 32 octets unmanagedPointers :=
    deserializeNoChecks_eq_ok (replyContext party) long bounded rfl rfl
  constructor
  · intro ran
    obtain ⟨_, middle, contextRan, ran⟩ := bind_eq_ok ran
    obtain ⟨whole, rfl, rfl⟩ := (reads _ _).mp contextRan
    obtain ⟨fits, rfl, rfl⟩ := (checkOutputContext_eq_ok accepted held).mp ran
    exact ⟨whole, fits, rfl, rfl⟩
  · rintro ⟨whole, fits, rfl, rfl⟩
    have contextRan := (reads _ _).mpr ⟨whole, rfl, rfl⟩
    rw [readOutputContext, bind_of_ok contextRan]
    exact (checkOutputContext_eq_ok accepted held).mpr ⟨fits, rfl, rfl⟩

end Replies

section Success

variable (party : ClientParty P) (traits : ClientDataHandlerTraits P)
  (sent : Context.Data) (output : traits.outputType.top.type.Obj) (outputAddress : Nat)
  (unmanagedPointers : Option (List (AddedObject P)))

/-- The reply is a data message that fits the request, and its body decodes to
the output. -/
structure DataReply (octets : List UInt8)
    (outcome : Outcome P traits.outputType.top.type) : Prop where
  long : 32 ≤ octets.length
  message : Context.Message.ofCode (Header.ofOctets octets).messageType = .data
  commonFlags : (Header.ofOctets octets).validCommonFlags = sent.commonFlags
  fits : Fits party traits sent (Header.ofOctets octets)
  body : ∃ after, readBody party traits
      (bodyData party traits (Header.ofOctets octets)) output outputAddress
      (readTo 32 octets unmanagedPointers) = .ok outcome.output after ∧
    outcome.unmanagedPointers = unmanagedPointers.map fun _ => after.addedPointers
  statusOut : outcome.statusOut = StatusMessage.statusWord .noError

/-- The reply is a status message with a success code; the output stays as it
was. -/
structure StatusReply (octets : List UInt8)
    (outcome : Outcome P traits.outputType.top.type) : Prop where
  long : 12 ≤ octets.length
  message : Context.Message.ofCode (Header.ofOctets octets).messageType = .status
  commonFlags : (Header.ofOctets octets).validCommonFlags = sent.commonFlags
  version : (Header.ofOctets octets).versionOctet =
    Context.Traits.getLatestProtocolVersion
  statusOut : outcome.statusOut =
    Header.fieldAt sent.bigEndianFormat .four octets 8
  success : StatusMessage.wordSuccess outcome.statusOut
  output : outcome.output = output
  unmanagedPointers : outcome.unmanagedPointers = unmanagedPointers

variable {party traits sent output outputAddress unmanagedPointers}
  {octets : List UInt8}

/-- The flags of the request let its reply through. -/
theorem accepted_of_flags {header : Header} (platform : sent.platform = party.platform)
    (declared : Common.endiannessIsDeclared sent)
    (version : header.versionOctet = Context.Traits.getLatestProtocolVersion)
    (flags : header.validCommonFlags = sent.commonFlags) :
    CommonAccepted (replyStart party) header := by
  refine ⟨⟨version.ge, version.le⟩, ?_⟩
  rw [flags, ← declared]
  simp only [Common.endiannessIsDeclared, Context.Data.endiannessNotMatch, platform]
  rfl

theorem readReply_eq_ok {result : Word .four × traits.outputType.top.type.Obj}
    {after : DState P} (bounded : octets.length < 2 ^ party.platform.addressBits)
    (platform : sent.platform = party.platform)
    (declared : Common.endiannessIsDeclared sent) :
    readReply party traits sent unmanagedPointers.isSome output outputAddress
        (received octets unmanagedPointers) = .ok result after ↔
      8 ≤ octets.length ∧
        (Header.ofOctets octets).versionOctet =
          Context.Traits.getLatestProtocolVersion ∧
        (Header.ofOctets octets).validCommonFlags = sent.commonFlags ∧
        readByType party traits sent
          ((Header.ofOctets octets).commonContext (replyStart party))
          unmanagedPointers.isSome output outputAddress
          (readTo 8 octets unmanagedPointers) = .ok result after := by
  constructor
  · intro ran
    obtain ⟨common, middle, commonRan, ran⟩ := bind_eq_ok ran
    obtain ⟨long, accepted, rfl, rfl⟩ :=
      (deserializeCommon_eq_ok (replyContext party) bounded).mp commonRan
    split at ran
    · cases ran
    · rename_i same
      exact ⟨long, le_antisymm accepted.version.2 accepted.version.1,
        (not_not.mp same).symm, ran⟩
  · rintro ⟨long, version, flags, ran⟩
    have accepted := accepted_of_flags platform declared version flags
    have commonRan : Common.deserialize (replyContext party)
        (received octets unmanagedPointers) =
          .ok ((Header.ofOctets octets).commonContext (replyStart party))
            (readTo 8 octets unmanagedPointers) :=
      (deserializeCommon_eq_ok (replyContext party) bounded).mpr
        ⟨long, accepted, rfl, rfl⟩
    have same : ¬sent.commonFlags ≠
        ((Header.ofOctets octets).commonContext (replyStart party)).commonFlags :=
      not_not.mpr flags.symm
    rw [readReply, bind_of_ok commonRan, if_neg same, ran]

theorem readByType_data (outcome : Outcome P traits.outputType.top.type)
    (accepted : CommonAccepted (replyStart party) (Header.ofOctets octets))
    (bounded : octets.length < 2 ^ party.platform.addressBits) (long : 8 ≤ octets.length)
    (held : sent.allowUnmanagedPointers → unmanagedPointers.isSome)
    (flags : (Header.ofOctets octets).validCommonFlags = sent.commonFlags)
    (message : Context.Message.ofCode (Header.ofOctets octets).messageType = .data) :
    (∃ after, readByType party traits sent
        ((Header.ofOctets octets).commonContext (replyStart party))
        unmanagedPointers.isSome output outputAddress
        (readTo 8 octets unmanagedPointers) =
          .ok (outcome.statusOut, outcome.output) after ∧
      outcome.unmanagedPointers = unmanagedPointers.map fun _ => after.addedPointers) ↔
      DataReply party traits sent output outputAddress unmanagedPointers octets
        outcome := by
  have type : ((Header.ofOctets octets).commonContext
      (replyStart party)).messageType = .data := message
  unfold readByType
  rw [type]
  constructor
  · rintro ⟨after, ran, pointers⟩
    obtain ⟨_, middle, contextRan, bodyRan⟩ := bind_eq_ok ran
    obtain ⟨whole, fits, rfl, rfl⟩ :=
      (readOutputContext_eq_ok long bounded accepted held).mp contextRan
    obtain ⟨received, last, bodyRead, finished⟩ := bind_eq_ok bodyRan
    obtain ⟨equality, rfl⟩ : (StatusMessage.statusWord .noError, received) =
        (outcome.statusOut, outcome.output) ∧ last = after :=
      EStateM.Result.ok.inj finished
    rw [Prod.mk.injEq] at equality
    obtain ⟨statusOut, rfl⟩ := equality
    exact ⟨whole, message, flags, fits, ⟨last, bodyRead, pointers⟩, statusOut.symm⟩
  · intro reply
    obtain ⟨after, bodyRead, pointers⟩ := reply.body
    have contextRan : readOutputContext party traits sent
        ((Header.ofOctets octets).commonContext (replyStart party))
        unmanagedPointers.isSome (readTo 8 octets unmanagedPointers) =
          .ok (bodyData party traits (Header.ofOctets octets))
            (readTo 32 octets unmanagedPointers) :=
      (readOutputContext_eq_ok long bounded accepted held).mpr
        ⟨reply.long, reply.fits, rfl, rfl⟩
    refine ⟨after, ?_, pointers⟩
    rw [reply.statusOut]
    exact (bind_of_ok contextRan).trans (bind_of_ok bodyRead)

theorem readByType_status (outcome : Outcome P traits.outputType.top.type)
    (bounded : octets.length < 2 ^ party.platform.addressBits) (long : 8 ≤ octets.length)
    (version : (Header.ofOctets octets).versionOctet =
      Context.Traits.getLatestProtocolVersion)
    (flags : (Header.ofOctets octets).validCommonFlags = sent.commonFlags)
    (message : Context.Message.ofCode (Header.ofOctets octets).messageType = .status) :
    (∃ after, readByType party traits sent
        ((Header.ofOctets octets).commonContext (replyStart party))
        unmanagedPointers.isSome output outputAddress
        (readTo 8 octets unmanagedPointers) =
          .ok (outcome.statusOut, outcome.output) after ∧
      (outcome.unmanagedPointers =
        unmanagedPointers.map fun _ => after.addedPointers) ∧
      StatusMessage.wordSuccess outcome.statusOut) ↔
      StatusReply traits sent output unmanagedPointers octets outcome := by
  have type : ((Header.ofOctets octets).commonContext
      (replyStart party)).messageType = .status := message
  have format : ((Header.ofOctets octets).commonContext
      (replyStart party)).bigEndianFormat = sent.bigEndianFormat :=
    congrArg Context.CommonFlags.bigEndianFormat flags
  have container : (unmanagedPointers.map fun _ =>
      (readTo 12 octets unmanagedPointers).addedPointers) = unmanagedPointers := by
    cases unmanagedPointers with
    | none => rfl
    | some pointers => rfl
  have reads (statusOut : Word .four) (after : DState P) :
      StatusMessage.deserialize
          { party.memory with
            data := (Header.ofOctets octets).commonContext (replyStart party) }
          (readTo 8 octets unmanagedPointers) = .ok statusOut after ↔
        12 ≤ octets.length ∧
          statusOut = Header.fieldAt sent.bigEndianFormat .four octets 8 ∧
          after = readTo 12 octets unmanagedPointers := by
    rw [← format]
    exact deserializeStatus_eq_ok _ long bounded
  unfold readByType
  rw [type]
  constructor
  · rintro ⟨after, ran, pointers, success⟩
    obtain ⟨statusOut, middle, statusRead, finished⟩ := bind_eq_ok ran
    obtain ⟨whole, rfl, rfl⟩ := (reads _ _).mp statusRead
    obtain ⟨equality, rfl⟩ : (Header.fieldAt sent.bigEndianFormat .four octets 8,
        output) = (outcome.statusOut, outcome.output) ∧
          readTo 12 octets unmanagedPointers = after :=
      EStateM.Result.ok.inj finished
    rw [Prod.mk.injEq] at equality
    exact ⟨whole, message, flags, version, equality.1.symm, success, equality.2.symm,
      pointers.trans container⟩
  · intro reply
    have statusRead := (reads _ _).mpr ⟨reply.long, rfl, rfl⟩
    refine ⟨_, ?_, reply.unmanagedPointers.trans container.symm, reply.success⟩
    rw [reply.statusOut, reply.output]
    exact bind_of_ok statusRead

theorem readReply_succeeds_iff {outcome : Outcome P traits.outputType.top.type}
    (bounded : octets.length < 2 ^ party.platform.addressBits)
    (platform : sent.platform = party.platform)
    (declared : Common.endiannessIsDeclared sent)
    (held : sent.allowUnmanagedPointers → unmanagedPointers.isSome) :
    (∃ after, readReply party traits sent unmanagedPointers.isSome output
        outputAddress (received octets unmanagedPointers) =
          .ok (outcome.statusOut, outcome.output) after ∧
        (outcome.unmanagedPointers =
          unmanagedPointers.map fun _ => after.addedPointers) ∧
        StatusMessage.wordSuccess outcome.statusOut) ↔
      DataReply party traits sent output outputAddress unmanagedPointers octets
          outcome ∨
        StatusReply traits sent output unmanagedPointers octets outcome := by
  constructor
  · rintro ⟨after, ran, pointers, success⟩
    obtain ⟨long, version, flags, ran⟩ := (readReply_eq_ok bounded platform declared).mp ran
    have accepted := accepted_of_flags platform declared version flags
    cases message : Context.Message.ofCode (Header.ofOctets octets).messageType with
    | data =>
        exact .inl ((readByType_data outcome accepted bounded long held flags message).mp
          ⟨after, ran, pointers⟩)
    | status =>
        exact .inr ((readByType_status outcome bounded long version flags message).mp
          ⟨after, ran, pointers, success⟩)
    | getSettings | unnamed =>
        have type : ((Header.ofOctets octets).commonContext
            (replyStart party)).messageType = _ := message
        rw [readByType, type] at ran
        cases ran
  · rintro (reply | reply)
    · have version : (Header.ofOctets octets).versionOctet =
          Context.Traits.getLatestProtocolVersion :=
        le_antisymm reply.fits.checked.version.2 reply.fits.checked.version.1
      have accepted : CommonAccepted (replyStart party) (Header.ofOctets octets) :=
        ⟨reply.fits.checked.version, reply.fits.checked.endianness⟩
      have long : 8 ≤ octets.length := (by decide : 8 ≤ 32).trans reply.long
      obtain ⟨after, ran, pointers⟩ := (readByType_data outcome accepted bounded long held
        reply.commonFlags reply.message).mpr reply
      refine ⟨after, (readReply_eq_ok bounded platform declared).mpr
        ⟨long, version, reply.commonFlags, ran⟩, pointers, ?_⟩
      rw [reply.statusOut, StatusMessage.wordSuccess_statusWord]
      rfl
    · have long : 8 ≤ octets.length := (by decide : 8 ≤ 12).trans reply.long
      obtain ⟨after, ran, rest⟩ := (readByType_status outcome bounded long reply.version
        reply.commonFlags reply.message).mpr reply
      exact ⟨after, (readReply_eq_ok bounded platform declared).mpr
        ⟨long, reply.version, reply.commonFlags, ran⟩, rest⟩

end Success

section Call

variable (party : ClientParty P) (traits : ClientDataHandlerTraits P)
  (additionalCommonFlags : Context.CommonFlags)
  (additionalDataFlags : Context.DataFlags)
  (input : traits.inputType.type.Obj) (inputAddress : Nat)
  (output : traits.outputType.top.type.Obj) (outputAddress : Nat)
  (unmanagedPointers : Option (List (AddedObject P)))

/-- The call makes a request, and the transport comes back with a reply. -/
def Exchanges (reply : List UInt8) : Prop :=
  refuseRequest party traits additionalCommonFlags = none ∧
    ∃ request,
      written (serializeRequest party traits
        (requestData party traits additionalCommonFlags additionalDataFlags)
        unmanagedPointers.isSome input inputAddress) = .ok request ∧
      party.process request = .ok reply

theorem outcome_eq_ok {result : EStateM.Result Fault σ α} {value : α} {state : σ} :
    Client.outcome result = .ok (value, state) ↔ result = .ok value state := by
  cases result with
  | ok produced last => simp [Client.outcome]
  | error fault last => simp [Client.outcome]

theorem written_eq_ok {proc : SProc Unit} {octets : List UInt8} :
    written proc = .ok octets ↔
      ∃ after, proc .empty = .ok () after ∧ after.binaryData = octets := by
  rw [written, except_bind_eq_ok]
  constructor
  · rintro ⟨⟨_, after⟩, made, same⟩
    exact ⟨after, outcome_eq_ok.mp made, Except.ok.inj same⟩
  · rintro ⟨after, made, rfl⟩
    exact ⟨((), after), outcome_eq_ok.mpr made, rfl⟩

theorem communicate_eq_ok {request reply : List UInt8} :
    communicate party request = .ok reply ↔ party.process request = .ok reply := by
  unfold communicate
  cases party.process request <;> simp

variable {party traits additionalCommonFlags additionalDataFlags input inputAddress}

theorem serializeRequest_eq_ok {data : Context.Data} {hasContainer : Bool}
    {before after : SState}
    (ran : serializeRequest party traits data hasContainer input inputAddress before =
      .ok () after) :
    Common.endiannessIsDeclared data ∧ (data.allowUnmanagedPointers → hasContainer) := by
  obtain ⟨_, middle, commonRan, ran⟩ := bind_eq_ok ran
  obtain ⟨bodyData, last, dataRan, ran⟩ := bind_eq_ok ran
  obtain ⟨_, _, _, rfl⟩ := Data.accepted_of_serialize dataRan
  have declared := Common.endiannessIsDeclared_of_serialize commonRan
  refine ⟨declared, fun allowed => ?_⟩
  have same : (Data.noteInterfaceVersions data traits.inputType).allowUnmanagedPointers =
      true := by
    unfold Data.noteInterfaceVersions
    split <;> exact allowed
  split at ran
  · cases ran
  · rename_i held
    simpa [same] using held

variable (party traits additionalCommonFlags additionalDataFlags input inputAddress)

theorem handleData_eq_ok {outcome : Outcome P traits.outputType.top.type} :
    handleData party traits additionalCommonFlags additionalDataFlags input
        inputAddress output outputAddress unmanagedPointers = .ok outcome ↔
      ∃ reply,
        Exchanges party traits additionalCommonFlags additionalDataFlags input
          inputAddress unmanagedPointers reply ∧
        ∃ after,
          readReply party traits
              (requestData party traits additionalCommonFlags additionalDataFlags)
              unmanagedPointers.isSome output outputAddress
              (received reply unmanagedPointers) =
            .ok (outcome.statusOut, outcome.output) after ∧
          outcome.unmanagedPointers =
            unmanagedPointers.map fun _ => after.addedPointers := by
  unfold handleData Exchanges
  cases refused : refuseRequest party traits additionalCommonFlags with
  | some status => simp
  | none =>
      simp only [except_bind_eq_ok, communicate_eq_ok]
      constructor
      · rintro ⟨request, made, reply, answered, ⟨⟨statusOut, received⟩, after⟩, ran, same⟩
        cases same
        exact ⟨reply, ⟨trivial, request, made, answered⟩, after, outcome_eq_ok.mp ran, rfl⟩
      · rintro ⟨reply, ⟨_, request, made, answered⟩, after, ran, pointers⟩
        refine ⟨request, made, reply, answered, _, outcome_eq_ok.mpr ran, ?_⟩
        rw [← pointers]
        rfl

theorem handleData_succeeds_iff (outcome : Outcome P traits.outputType.top.type) :
    (handleData party traits additionalCommonFlags additionalDataFlags input
          inputAddress output outputAddress unmanagedPointers = .ok outcome ∧
        StatusMessage.wordSuccess outcome.statusOut) ↔
      ∃ reply,
        Exchanges party traits additionalCommonFlags additionalDataFlags input
            inputAddress unmanagedPointers reply ∧
          let sent := requestData party traits additionalCommonFlags additionalDataFlags
          DataReply party traits sent output outputAddress unmanagedPointers reply
              outcome ∨
            StatusReply traits sent output unmanagedPointers reply outcome := by
  rw [handleData_eq_ok]
  constructor
  · rintro ⟨⟨reply, ⟨allowed, request, made, answered⟩, after, ran, pointers⟩, success⟩
    obtain ⟨_, requestRan, _⟩ := written_eq_ok.mp made
    obtain ⟨declared, held⟩ := serializeRequest_eq_ok requestRan
    exact ⟨reply, ⟨allowed, request, made, answered⟩, (readReply_succeeds_iff (party.fits answered) rfl declared
      held).mp ⟨after, ran, pointers, success⟩⟩
  · rintro ⟨reply, ⟨allowed, request, made, answered⟩, replied⟩
    obtain ⟨_, requestRan, _⟩ := written_eq_ok.mp made
    obtain ⟨declared, held⟩ := serializeRequest_eq_ok requestRan
    obtain ⟨after, ran, pointers, success⟩ := (readReply_succeeds_iff
      (party.fits answered) rfl declared held).mpr replied
    exact ⟨⟨reply, ⟨allowed, request, made, answered⟩, after, ran, pointers⟩, success⟩

end Call

section Notice

private def noticeTop (id : Nat) : TopStruct Empty where
  kId := .ofNat id
  interface := ⟨.ofNat 7, 1, .ofUInt32 0, .ofUInt32 0⟩
  decl :=
    { name := id
      tags := .none
      alignment := 4
      tailPadding := 0
      iSerializable := some ⟨1, [1], 0, 0⟩
      function := .fieldByField .common }
  fields := .cons 0 (.scalar (.integral .unsignedInt .four false)) .nil
  versioning := ⟨1, [1], 0, 0⟩
  declared := rfl

private def noticeTraits : ClientDataHandlerTraits Empty :=
  ⟨noticeTop 1, .struct (noticeTop 2), false⟩

private def notice : List UInt8 :=
  [1, 0, 0, 0, 0, 0, 0, 0, 0, 0, 0, 0]

private def noticeParty : ClientParty Empty where
  client := ⟨⟨[1], .ofUInt32 0, .ofUInt32 0, [⟨.ofNat 7, 1⟩]⟩, true, .empty⟩
  program := ⟨nofun, fun _ => .none, fun _ => .none⟩
  platform := ⟨false, false⟩
  grants _ _ := true
  memory := .unbounded
    { platform := ⟨false, false⟩
      protocolVersion := 1
      messageType := .data
      commonFlags := .ofUInt32 0
      dataFlags := .ofUInt32 0
      interfaceVersion := 0
      interfaceVersionsNotMatch := false
      isHeapUsedForTemp := true }
  process _ := .ok notice
  fits same := by
    cases same
    decide

private def noticeOutput : (noticeTop 2).type.Obj :=
  noticeParty.memory.construct (noticeTop 2).type

/-- The call succeeds, though no output of the type that was asked for has
arrived. -/
theorem notice_succeeds :
    ∃ outcome, handleData noticeParty noticeTraits (.ofUInt32 0) (.ofUInt32 0)
        noticeOutput 0 noticeOutput 0 none = .ok outcome ∧
      StatusMessage.wordSuccess outcome.statusOut ∧
      noticeTraits.outputType ≠ .dummy ∧
      ¬DataReply noticeParty noticeTraits
        (requestData noticeParty noticeTraits (.ofUInt32 0) (.ofUInt32 0))
        noticeOutput 0 none notice outcome := by
  refine ⟨⟨0, noticeOutput, none⟩, rfl, by decide, nofun, fun reply => ?_⟩
  exact absurd reply.long (by decide)

end Notice

end CommonSerialization.Csp.Messaging.Client
