import RtA100.CloudDispatch
import RtA100.Validators

/-!
# What a message leaves to the contents of the buffer

The cloud loop ignores the length that `dequeue` reports and works on the
declared one, so bytes of earlier messages, or of the uninitialised buffer, can
be part of the frame it tests and of the data its handlers read.
`DependsOnlyOn` is the two-run property that this cannot happen, and
`SelfContained` the condition on a message under which it does not.
-/

namespace RtA100

open Library

/-! ## Handlers on a buffer that starts with the message -/

theorem load16_append {left right : List UInt8} {offset : Nat}
    (inside : offset + 1 < left.length) :
    load16 (left ++ right) offset = load16 left offset := by
  have before : offset < left.length := by omega
  simp [load16, List.getElem?_append_left, before, inside]

theorem MsgFramHdr.read_append {left right : List UInt8}
    (long : 5 ≤ left.length) :
    MsgFramHdr.read (left ++ right) = MsgFramHdr.read left := by
  have sign : (left ++ right)[4]? = left[4]? :=
    List.getElem?_append_left (by omega)
  unfold MsgFramHdr.read
  rw [load16_append (by omega), load16_append (by omega), sign]

theorem cloudToGroupEntry_append (group : CString) (services : CloudServices)
    {message stale : List UInt8} (long : 5 ≤ message.length)
    (inside : declaredLength message ≤ message.length) :
    cloudToGroupEntry group services (message ++ stale) =
      cloudToGroupEntry group services message := by
  obtain ⟨pHdr, headerRead, _, lenValue, _⟩ :=
    MsgFramHdr.read_of_length long
  have payload : readBytes (message ++ stale) (declaredLength message) =
      readBytes message (declaredLength message) := by
    unfold readBytes
    rw [if_pos (by rw [List.length_append]; omega), if_pos inside,
      List.take_append_of_le_length inside]
  unfold cloudToGroupEntry
  simp only [MsgFramHdr.read_append long, headerRead, Option.bind_eq_bind,
    Option.bind_some, lenValue, payload]

theorem readWaveFileReq_append {message stale : List UInt8}
    (long : 12 ≤ message.length) :
    readWaveFileReq (message ++ stale) = readWaveFileReq message := by
  have byte (index : Nat) (inside : index < 12) :
      (message ++ stale)[index]? = message[index]? :=
    List.getElem?_append_left (by omega)
  unfold readWaveFileReq
  rw [load16_append (by omega), byte 7 (by omega), byte 8 (by omega),
    byte 9 (by omega), byte 10 (by omega), byte 11 (by omega)]

/-- A handler reads nothing behind a message that holds its declared length,
and a whole request if it carries the sign of one. -/
theorem messageProcessing_append {services : CloudServices}
    {entry : MsgProcInf} (member : entry ∈ messageProcessing services)
    {message stale : List UInt8} (long : 5 ≤ message.length)
    (inside : declaredLength message ≤ message.length)
    (request : entry.sign = msgSignWaveFileReq → 12 ≤ message.length) :
    entry.pFuncEntry (message ++ stale) = entry.pFuncEntry message := by
  rcases messageProcessing_entry member with
    ⟨wave, handler, _⟩ | ⟨_, ⟨group, handler⟩, _⟩
  · rw [handler, funcWaveFileReq, funcWaveFileReq,
      readWaveFileReq_append (request wave)]
  · rw [handler]
    exact cloudToGroupEntry_append group services long inside

theorem messageProcessing_defined {services : CloudServices}
    {entry : MsgProcInf} (member : entry ∈ messageProcessing services)
    {buf : List UInt8} (long : 12 ≤ buf.length)
    (inside : declaredLength buf ≤ buf.length) :
    ∃ handled, entry.pFuncEntry buf = some handled := by
  rcases messageProcessing_entry member with
    ⟨_, handler, _⟩ | ⟨_, ⟨group, handler⟩, _⟩
  · obtain ⟨usDevAddr, addressRead, _⟩ :=
      load16_of_inside (show 5 + 1 < buf.length by omega)
    have byte (index : Nat) (within : index < 12) :
        buf[index]? = some (buf.getD index 0) := by
      have there : index < buf.length := by omega
      simp [List.getD_eq_getElem?_getD, List.getElem?_eq_getElem there]
    simp only [handler, funcWaveFileReq, readWaveFileReq, addressRead,
      byte 7 (by omega), byte 8 (by omega), byte 9 (by omega),
      byte 10 (by omega), byte 11 (by omega), Option.bind_eq_bind,
      Option.bind_some]
    exact ⟨_, rfl⟩
  · obtain ⟨pHdr, headerRead, _, lenValue, _⟩ :=
      MsgFramHdr.read_of_length (show 5 ≤ buf.length by omega)
    simp only [handler, cloudToGroupEntry, headerRead, Option.bind_eq_bind,
      Option.bind_some, lenValue, readBytes, inside, if_true]
    exact ⟨_, rfl⟩

/-! ## The two-run property -/

/-- The loop can wait for a message in this state: the buffer was uninitialised
and earlier messages have been handled. -/
def BeforeMessage (table : List MsgProcInf) (loop : CloudEventLoop) : Prop :=
  ∃ buf earlier outcomes,
    (∀ message ∈ earlier, 1 ≤ message.length ∧ message.length ≤ 256) ∧
      cloudEventRun table { buf, start := 0 } earlier = some (loop, outcomes)

/-- The treatment of a message never leaves the buffer, an accepted message
contains the frame it is accepted for, and runs that reach comparable states
treat it alike. -/
structure DependsOnlyOn (table : List MsgProcInf)
    (comparable : CloudEventLoop → CloudEventLoop → Prop)
    (message : List UInt8) : Prop where
  defined : ∀ loop, BeforeMessage table loop →
    ∃ following outcome,
      cloudEventStep table loop message = some (following, outcome)
  inside : ∀ loop following accepted, BeforeMessage table loop →
    cloudEventStep table loop message = some (following, some accepted) →
      7 ≤ accepted.frame.length ∧ accepted.frame.length ≤ message.length
  alike : ∀ first second, BeforeMessage table first →
    BeforeMessage table second → comparable first second →
      (cloudEventStep table first message).map Prod.snd =
        (cloudEventStep table second message).map Prod.snd

/-- The declared length stays in the buffer, and a frame that the test can
accept is a part of the message that its handler can work on. -/
structure SelfContained (handled : Prop) (message : List UInt8) : Prop where
  header : 4 ≤ message.length
  declared : 2 ≤ declaredLength message ∧ declaredLength message ≤ 256
  complete : HasHeader message → declaredLength message ≤ message.length →
    HasChecksum message (declaredLength message) →
      7 ≤ declaredLength message ∧ handled
  cut : HasHeader message → message.length < declaredLength message →
    declaredLength message = message.length + 1 ∧
      (message.getD (message.length - 1) 0).toNat ≠
        checksumOf message (declaredLength message) / 256

theorem beforeMessage_initial (table : List MsgProcInf) (buf : Buffer 256) :
    BeforeMessage table { buf, start := 0 } :=
  ⟨buf, [], [], by simp, rfl⟩

/-- Any contents behind the message can be found in the buffer. -/
def residue (message stale : List UInt8)
    (size : message.length + stale.length = 256) : Buffer 256 :=
  { bytes := message ++ stale
    size := by rw [List.length_append, size] }

theorem overwrite_residue {message stale : List UInt8}
    (size : message.length + stale.length = 256)
    (fits : message.length ≤ 256) :
    ((residue message stale size).overwrite message fits).bytes =
      message ++ stale := by
  simp [residue]

theorem cloudEventStep_eq {table : List MsgProcInf} {loop : CloudEventLoop}
    {message : List UInt8} (fits : message.length ≤ 256) :
    cloudEventStep table loop message =
      cloudEventBody table
        { loop with buf := loop.buf.overwrite message fits } := by
  rw [cloudEventStep, Buffer.memcpy_whole fits]
  rfl

theorem cloudEventBody_defined {services : CloudServices}
    {loop : CloudEventLoop} {passes : Bool}
    (test : cloudFrameTest loop.buf.bytes = some passes) :
    ∃ following outcome,
      cloudEventBody (messageProcessing services) loop =
        some (following, outcome) := by
  have size := loop.buf.size
  have declared : declaredLength loop.buf.bytes ≤ loop.buf.bytes.length := by
    rw [cloudFrameTest_eq (buf_long loop.buf)] at test
    split at test
    · rename_i inside
      exact inside.2
    · cases test
  cases passes with
  | false => exact ⟨loop, none, by simp [cloudEventBody, test]⟩
  | true =>
      obtain ⟨pHdr, headerRead, _⟩ :=
        MsgFramHdr.read_of_length (buf_long loop.buf)
      rcases walked : dispatch (messageProcessing services) loop.start
        pHdr.ucSign with ⟨start, found⟩
      cases found with
      | none => simp [cloudEventBody, test, headerRead, walked]
      | some entry =>
          have member : entry ∈ messageProcessing services := by
            rw [dispatch, scanFrom_eq, Prod.mk.injEq] at walked
            exact List.mem_of_mem_drop (List.mem_of_getElem? walked.2)
          obtain ⟨handled, call⟩ :=
            messageProcessing_defined member (by omega) declared
          simp [cloudEventBody, test, headerRead, walked, call]

/-! ## The condition is enough -/

/-- A trailer cut in two fixes the byte of the message that it contains. -/
theorem cut_trailer {message stale : List UInt8} (long : 1 ≤ message.length)
    (matching : HasChecksum (message ++ stale) (message.length + 1)) :
    (message.getD (message.length - 1) 0).toNat =
      checksumOf message (message.length + 1) / 256 := by
  unfold HasChecksum at matching
  rw [checksumOf_append (by omega)] at matching
  have last : (message ++ stale).getD (message.length + 1 - 2) 0 =
      message.getD (message.length - 1) 0 := by
    have inside : message.length - 1 < message.length := by omega
    rw [show message.length + 1 - 2 = message.length - 1 by omega,
      List.getD_eq_getElem?_getD, List.getElem?_append_left inside,
      List.getD_eq_getElem?_getD]
  unfold bigEndianAt bigEndian16 at matching
  rw [last] at matching
  have low := ((message ++ stale).getD (message.length + 1 - 2 + 1) 0).toNat_lt
  omega

section Sufficient

variable {services : CloudServices} {handled : Prop} {message : List UInt8}
  {loop following : CloudEventLoop}

theorem SelfContained.accepts (contained : SelfContained handled message)
    (fits : message.length ≤ 256) (buf : Buffer 256) :
    cloudAccepts buf message =
      some (decide (HasHeader message ∧
        declaredLength message ≤ message.length ∧
          HasChecksum message (declaredLength message))) := by
  have minimum := contained.header
  have declared := contained.declared
  rw [cloudAccepts_eq minimum fits, if_pos declared, Option.some.injEq,
    decide_eq_decide, Buffer.overwrite_bytes]
  by_cases whole : declaredLength message ≤ message.length
  · rw [hasChecksum_append declared.1 whole]
    simp only [whole, true_and]
  · constructor
    · rintro ⟨header, matching⟩
      obtain ⟨length, different⟩ := contained.cut header (by omega)
      rw [length] at matching different
      exact absurd (cut_trailer (by omega) matching) different
    · rintro ⟨_, inside, _⟩
      exact absurd inside whole

theorem SelfContained.defined (contained : SelfContained handled message)
    (fits : message.length ≤ 256) :
    ∃ following outcome,
      cloudEventStep (messageProcessing services) loop message =
        some (following, outcome) := by
  have test := contained.accepts fits loop.buf
  rw [cloudAccepts_overwrite fits] at test
  rw [cloudEventStep_eq fits]
  exact @cloudEventBody_defined _
    { loop with buf := loop.buf.overwrite message fits } _ test

/-- What the step of a self-contained message does when it accepts it. -/
theorem SelfContained.accepted (contained : SelfContained handled message)
    (fits : message.length ≤ 256) {accepted : AcceptedMessage}
    (result : cloudEventStep (messageProcessing services) loop message =
      some (following, some accepted)) :
    7 ≤ declaredLength message ∧
      declaredLength message ≤ message.length ∧ handled ∧
      accepted.ucSign = signOf message ∧
      accepted.frame = message.take (declaredLength message) ∧
      ((dispatch (messageProcessing services) loop.start (signOf message) =
          (following.start, none) ∧
        accepted.called = [] ∧ accepted.actions = []) ∨
      ∃ entry result,
        dispatch (messageProcessing services) loop.start (signOf message) =
          (following.start, some entry) ∧
        accepted.called = [following.start] ∧
        entry.pFuncEntry
          (message ++ loop.buf.bytes.drop message.length) = some result ∧
        accepted.actions = result.actions ++
          if result.ret = 0 then entry.pFuncCb.getD [] else []) := by
  have test := contained.accepts fits loop.buf
  rw [cloudAccepts_overwrite fits] at test
  rw [cloudEventStep_eq fits] at result
  rcases cloudEventBody_cases result with
    ⟨_, _, nothing⟩ | ⟨passed, _, other, same, sign, frame, walked⟩
  · cases nothing
  · rw [test, Option.some.injEq, decide_eq_true_iff] at passed
    obtain ⟨header, whole, matching⟩ := passed
    obtain ⟨minimum, handleable⟩ :=
      contained.complete header whole matching
    cases same
    simp only [Buffer.overwrite_bytes,
      signOf_append (show 5 ≤ message.length by omega),
      declaredLength_append contained.header,
      List.take_append_of_le_length whole] at sign frame walked
    rw [sign] at walked
    exact ⟨minimum, whole, handleable, sign, frame, walked⟩

theorem SelfContained.dependsOnlyOn
    {comparable : CloudEventLoop → CloudEventLoop → Prop}
    (contained : SelfContained handled message)
    (fits : message.length ≤ 256)
    (agree : ∀ first second firstNext secondNext firstAccepted
        secondAccepted, comparable first second →
      cloudEventStep (messageProcessing services) first message =
        some (firstNext, some firstAccepted) →
      cloudEventStep (messageProcessing services) second message =
        some (secondNext, some secondAccepted) →
      firstAccepted.called = secondAccepted.called ∧
        firstAccepted.actions = secondAccepted.actions) :
    DependsOnlyOn (messageProcessing services) comparable message := by
  refine ⟨fun loop _ => contained.defined fits, ?_, ?_⟩
  · intro loop following accepted _ result
    obtain ⟨minimum, whole, _, _, frame, _⟩ :=
      contained.accepted fits result
    rw [frame, List.length_take]
    omega
  · intro first second _ _ related
    obtain ⟨firstNext, firstOutcome, firstResult⟩ :=
      @SelfContained.defined services _ _ first contained fits
    obtain ⟨secondNext, secondOutcome, secondResult⟩ :=
      @SelfContained.defined services _ _ second contained fits
    have firstTest := contained.accepts fits first.buf
    have secondTest := contained.accepts fits second.buf
    rw [cloudAccepts_overwrite fits] at firstTest secondTest
    have firstBody := firstResult
    have secondBody := secondResult
    rw [cloudEventStep_eq fits] at firstBody secondBody
    rw [firstResult, secondResult, Option.map_some, Option.map_some]
    apply congrArg some
    rcases cloudEventBody_cases firstBody with
      ⟨firstFails, _, rfl⟩ | ⟨firstPasses, _, firstAccepted, rfl, _⟩
    · rcases cloudEventBody_cases secondBody with
        ⟨_, _, rfl⟩ | ⟨secondPasses, _⟩
      · rfl
      · rw [firstTest, ← secondTest, secondPasses] at firstFails
        cases firstFails
    · rcases cloudEventBody_cases secondBody with
        ⟨secondFails, _⟩ | ⟨_, _, secondAccepted, rfl, _⟩
      · rw [firstTest, ← secondTest, secondFails] at firstPasses
        cases firstPasses
      · obtain ⟨sameCalled, sameActions⟩ :=
          agree _ _ _ _ _ _ related firstResult secondResult
        obtain ⟨_, _, _, firstSign, firstFrame, _⟩ :=
          contained.accepted fits firstResult
        obtain ⟨_, _, _, secondSign, secondFrame, _⟩ :=
          contained.accepted fits secondResult
        exact congrArg some (AcceptedMessage.ext
          (firstSign.trans secondSign.symm)
          (firstFrame.trans secondFrame.symm) sameCalled sameActions)

/-- Frames that no entry is registered for are treated alike in every run. -/
theorem dependsOnlyOn_of_unregistered
    (contained : SelfContained
      (∀ entry ∈ messageProcessing services, entry.sign ≠ signOf message)
      message)
    (fits : message.length ≤ 256) :
    DependsOnlyOn (messageProcessing services) (fun _ _ => True) message := by
  have nothing (loop following : CloudEventLoop)
      (accepted : AcceptedMessage)
      (result : cloudEventStep (messageProcessing services) loop message =
        some (following, some accepted)) :
      accepted.called = [] ∧ accepted.actions = [] := by
    obtain ⟨_, _, unregistered, _, _, walked⟩ :=
      contained.accepted fits result
    rcases walked with ⟨_, called, actions⟩ | ⟨entry, _, found, _⟩
    · exact ⟨called, actions⟩
    · obtain ⟨member, same⟩ := dispatch_found found
      exact absurd same (unregistered entry member)
  apply contained.dependsOnlyOn fits
  intro first second _ _ firstAccepted secondAccepted _ firstResult
    secondResult
  obtain ⟨firstCalled, firstActions⟩ := nothing _ _ _ firstResult
  obtain ⟨secondCalled, secondActions⟩ := nothing _ _ _ secondResult
  exact ⟨firstCalled.trans secondCalled.symm,
    firstActions.trans secondActions.symm⟩

/-- A request that is complete leaves nothing to the contents of the buffer:
runs that differ in them only treat the message alike. -/
theorem dependsOnlyOn_of_complete
    (contained : SelfContained
      (signOf message = msgSignWaveFileReq → 12 ≤ message.length) message)
    (fits : message.length ≤ 256) :
    DependsOnlyOn (messageProcessing services)
      (fun first second => first.start = second.start) message := by
  apply contained.dependsOnlyOn fits
  intro first second firstNext secondNext firstAccepted secondAccepted
    sameStart firstResult secondResult
  obtain ⟨minimum, whole, request, _, _, firstWalked⟩ :=
    contained.accepted fits firstResult
  obtain ⟨_, _, _, _, _, secondWalked⟩ :=
    contained.accepted fits secondResult
  rw [sameStart] at firstWalked
  rcases firstWalked with
    ⟨firstEnds, firstCalled, firstActions⟩ |
      ⟨entry, handled, firstEnds, firstCalled, firstCall, firstActions⟩
  · rcases secondWalked with
      ⟨_, secondCalled, secondActions⟩ | ⟨_, _, secondEnds, _⟩
    · exact ⟨firstCalled.trans secondCalled.symm,
        firstActions.trans secondActions.symm⟩
    · rw [firstEnds] at secondEnds
      cases (Prod.mk.inj secondEnds).2
  · rcases secondWalked with
      ⟨secondEnds, _⟩ |
        ⟨other, otherHandled, secondEnds, secondCalled, secondCall,
          secondActions⟩
    · rw [firstEnds] at secondEnds
      cases (Prod.mk.inj secondEnds).2
    · rw [firstEnds] at secondEnds
      obtain ⟨sameNext, sameEntry⟩ := Prod.mk.inj secondEnds
      cases sameEntry
      obtain ⟨member, sign⟩ := dispatch_found firstEnds
      have asked : entry.sign = msgSignWaveFileReq → 12 ≤ message.length := by
        intro wave
        exact request (sign ▸ wave)
      rw [messageProcessing_append member (by omega) whole asked]
        at firstCall secondCall
      rw [firstCall] at secondCall
      cases secondCall
      exact ⟨by rw [firstCalled, secondCalled, sameNext],
        firstActions.trans secondActions.symm⟩

end Sufficient

/-! ## The condition is necessary -/

section Necessary

variable {services : CloudServices} {message : List UInt8}
  {comparable : CloudEventLoop → CloudEventLoop → Prop}

/-- From any contents of the uninitialised buffer, the test is defined, and a
frame it accepts lies inside the message. -/
theorem DependsOnlyOn.initial
    (depends : DependsOnlyOn (messageProcessing services) comparable message)
    (fits : message.length ≤ 256) (buf : Buffer 256) :
    ∃ passes, cloudAccepts buf message = some passes ∧
      (passes = true →
        7 ≤ declaredLength (buf.overwrite message fits).bytes ∧
          declaredLength (buf.overwrite message fits).bytes ≤
            message.length) := by
  have before := beforeMessage_initial (messageProcessing services) buf
  obtain ⟨following, outcome, result⟩ := depends.defined _ before
  have body := result
  rw [cloudEventStep_eq fits] at body
  rw [cloudAccepts_overwrite fits]
  rcases cloudEventBody_cases body with
    ⟨rejected, _⟩ | ⟨passed, _, accepted, rfl, _, frame, _⟩
  · exact ⟨false, rejected, by simp⟩
  · refine ⟨true, passed, fun _ => ?_⟩
    have inside := depends.inside _ _ _ before result
    have size := (buf.overwrite message fits).size
    dsimp only at passed frame
    rw [cloudFrameTest_eq (by omega), size] at passed
    split at passed
    · rename_i declared
      rw [frame, List.length_take, size] at inside
      omega
    · cases passed

/-- A message of fewer than four bytes leaves its length to the buffer. -/
theorem DependsOnlyOn.header
    (depends : DependsOnlyOn (messageProcessing services) comparable message)
    (fits : message.length ≤ 256) : 4 ≤ message.length := by
  apply Nat.le_of_not_lt
  intro short
  have declared (value : UInt8) :
      declaredLength ((Buffer.filled 256 value).overwrite message fits).bytes =
        256 * (message.getD 2 value).toNat + value.toNat := by
    have third : (message ++ List.replicate (256 - message.length) value).getD
        2 0 = message.getD 2 value := by
      by_cases there : 2 < message.length
      · simp [List.getD_eq_getElem?_getD, List.getElem?_append_left there,
          List.getElem?_eq_getElem there]
      · have inside : 2 - message.length < 256 - message.length := by omega
        simp [List.getD_eq_getElem?_getD,
          List.getElem?_append_right (show message.length ≤ 2 by omega),
          List.getElem?_eq_none (show message.length ≤ 2 by omega), inside]
    have fourth : (message ++ List.replicate (256 - message.length) value).getD
        3 0 = value := by
      have inside : 3 - message.length < 256 - message.length := by omega
      simp [List.getD_eq_getElem?_getD,
        List.getElem?_append_right (show message.length ≤ 3 by omega), inside]
    simp only [Buffer.overwrite_bytes, Buffer.filled, List.drop_replicate,
      declaredLength, bigEndianAt, bigEndian16, third, fourth]
  have within (value : UInt8) :
      2 ≤ 256 * (message.getD 2 value).toNat + value.toNat ∧
        256 * (message.getD 2 value).toNat + value.toNat ≤ 256 := by
    obtain ⟨passes, test, _⟩ :=
      depends.initial fits (Buffer.filled 256 value)
    have size := ((Buffer.filled 256 value).overwrite message fits).size
    rw [cloudAccepts_overwrite fits, cloudFrameTest_eq (by omega), size,
      declared] at test
    split at test
    · rename_i inside
      exact inside
    · cases test
  have zeros := within 0
  have ones := within 255
  have zeroValue : (0 : UInt8).toNat = 0 := rfl
  have onesValue : (255 : UInt8).toNat = 255 := rfl
  by_cases there : 2 < message.length
  · simp only [List.getD_eq_getElem?_getD, List.getElem?_eq_getElem there,
      Option.getD_some, zeroValue, onesValue] at zeros ones
    omega
  · have missing : message[2]? = none :=
      List.getElem?_eq_none (by omega)
    simp only [List.getD_eq_getElem?_getD, missing, Option.getD_none,
      zeroValue, onesValue] at zeros ones
    omega

theorem DependsOnlyOn.declared
    (depends : DependsOnlyOn (messageProcessing services) comparable message)
    (fits : message.length ≤ 256) :
    2 ≤ declaredLength message ∧ declaredLength message ≤ 256 := by
  obtain ⟨passes, test, _⟩ := depends.initial fits (Buffer.filled 256 0)
  rw [cloudAccepts_eq (depends.header fits) fits] at test
  split at test
  · rename_i inside
    exact inside
  · cases test

/-- No contents of the buffer may complete the message to an accepted frame
unless the message holds that frame. -/
theorem DependsOnlyOn.complete
    (depends : DependsOnlyOn (messageProcessing services) comparable message)
    (fits : message.length ≤ 256) (header : HasHeader message)
    {stale : List UInt8} (size : message.length + stale.length = 256)
    (matching : HasChecksum (message ++ stale) (declaredLength message)) :
    7 ≤ declaredLength message ∧
      declaredLength message ≤ message.length := by
  have minimum := depends.header fits
  obtain ⟨passes, test, accepted⟩ :=
    depends.initial fits (residue message stale size)
  have passed : cloudAccepts (residue message stale size) message =
      some true := by
    rw [cloudAccepts_true_iff minimum fits, overwrite_residue]
    exact ⟨depends.declared fits, header, matching⟩
  rw [passed, Option.some.injEq] at test
  have inside := accepted test.symm
  rw [overwrite_residue, declaredLength_append minimum] at inside
  exact inside

theorem stale_trailer (message rest : List UInt8) (gap : Nat) :
    HasChecksum (message ++ (List.replicate gap 0 ++
        (bigEndianBytes (UInt16.ofNat (byteSum message)) ++ rest)))
      (message.length + gap + 2) := by
  have covered : (message ++ (List.replicate gap 0 ++
      (bigEndianBytes (UInt16.ofNat (byteSum message)) ++ rest))).take
        (message.length + gap) = message ++ List.replicate gap 0 := by
    rw [← List.append_assoc]
    exact List.take_left' (by simp)
  have first : bigEndianAt (message ++ (List.replicate gap 0 ++
      (bigEndianBytes (UInt16.ofNat (byteSum message)) ++ rest)))
        (message.length + gap) = (UInt16.ofNat (byteSum message)).toNat := by
    rw [← List.append_assoc, ← bigEndian16_bytes]
    have length : (message ++ List.replicate gap (0 : UInt8)).length =
        message.length + gap := by
      simp
    unfold bigEndianAt
    rw [← length]
    simp only [List.getD_eq_getElem?_getD,
      List.getElem?_append_right (Nat.le_refl _),
      List.getElem?_append_right (Nat.le_succ _)]
    simp [bigEndianBytes]
  unfold HasChecksum checksumOf
  rw [show message.length + gap + 2 - 2 = message.length + gap by omega,
    covered, first, byteSum_append, byteSum_zeros]
  simp

theorem stale_trailer_byte {message : List UInt8} (rest : List UInt8)
    (long : 1 ≤ message.length)
    (high : (message.getD (message.length - 1) 0).toNat =
      checksumOf message (message.length + 1) / 256) :
    HasChecksum (message ++
        UInt8.ofNat (checksumOf message (message.length + 1) % 256) :: rest)
      (message.length + 1) := by
  have inside : message.length - 1 < message.length := by omega
  unfold HasChecksum
  rw [checksumOf_append (by omega),
    show message.length + 1 - 2 = message.length - 1 by omega]
  unfold bigEndianAt bigEndian16
  rw [show message.length - 1 + 1 = message.length by omega]
  simp only [List.getD_eq_getElem?_getD] at high
  simp only [List.getD_eq_getElem?_getD, List.getElem?_append_left inside,
    List.getElem?_append_right (Nat.le_refl _), Nat.sub_self, high,
    List.getElem?_cons_zero, Option.getD_some, UInt8.toNat_ofNat']
  omega

theorem DependsOnlyOn.cut
    (depends : DependsOnlyOn (messageProcessing services) comparable message)
    (fits : message.length ≤ 256) (header : HasHeader message)
    (short : message.length < declaredLength message) :
    declaredLength message = message.length + 1 ∧
      (message.getD (message.length - 1) 0).toNat ≠
        checksumOf message (declaredLength message) / 256 := by
  have minimum := depends.header fits
  have declared := depends.declared fits
  have length : declaredLength message = message.length + 1 := by
    apply Nat.le_antisymm _ short
    apply Nat.le_of_not_lt
    intro longer
    obtain ⟨gap, gapEq⟩ : ∃ gap,
        declaredLength message = message.length + gap + 2 :=
      ⟨declaredLength message - message.length - 2, by omega⟩
    have matching := stale_trailer message
      (List.replicate (256 - declaredLength message) 0) gap
    rw [← gapEq] at matching
    have inside := depends.complete fits header (by
      simp [bigEndianBytes]
      omega) matching
    omega
  refine ⟨length, fun high => ?_⟩
  rw [length] at high
  have matching := stale_trailer_byte
    (List.replicate (255 - message.length) 0) (by omega) high
  rw [← length] at matching
  have inside := depends.complete fits header (by
    simp
    omega) matching
  omega

theorem DependsOnlyOn.selfContained
    (depends : DependsOnlyOn (messageProcessing services) comparable message)
    (fits : message.length ≤ 256) {handled : Prop}
    (handleable : HasHeader message →
      7 ≤ declaredLength message →
      declaredLength message ≤ message.length →
      HasChecksum message (declaredLength message) → handled) :
    SelfContained handled message := by
  refine ⟨depends.header fits, depends.declared fits, ?_,
    depends.cut fits⟩
  intro header whole matching
  have declared := depends.declared fits
  have completed := depends.complete fits header
    (show message.length +
      (List.replicate (256 - message.length) (0 : UInt8)).length = 256 by
        simp
        omega)
    ((hasChecksum_append declared.1 whole).mpr matching)
  exact ⟨completed.1, handleable header completed.1 whole matching⟩

theorem SelfContained.acceptedStep {handled : Prop}
    (contained : SelfContained handled message)
    (fits : message.length ≤ 256) (header : HasHeader message)
    (whole : declaredLength message ≤ message.length)
    (matching : HasChecksum message (declaredLength message))
    (loop : CloudEventLoop) :
    ∃ following accepted,
      cloudEventStep (messageProcessing services) loop message =
        some (following, some accepted) := by
  obtain ⟨following, outcome, result⟩ :=
    @SelfContained.defined services _ _ loop contained fits
  have test := contained.accepts fits loop.buf
  rw [cloudAccepts_overwrite fits, decide_eq_true ⟨header, whole, matching⟩]
    at test
  have body := result
  rw [cloudEventStep_eq fits] at body
  rcases cloudEventBody_cases body with
    ⟨rejected, _⟩ | ⟨_, _, accepted, rfl, _⟩
  · rw [test] at rejected
    cases rejected
  · exact ⟨following, accepted, result⟩

theorem beforeMessage_behind (services : CloudServices) :
    ∃ loop, BeforeMessage (messageProcessing services) loop ∧
      loop.start = (messageProcessing services).length := by
  let initial : CloudEventLoop := { buf := Buffer.filled 256 0, start := 0 }
  have fits : unknownFrame.length ≤ 256 := by decide
  have test : cloudAccepts (Buffer.filled 256 0) unknownFrame =
      some true := by
    decide +kernel
  rw [cloudAccepts_overwrite fits] at test
  have sign : signOf (initial.buf.overwrite unknownFrame fits).bytes = 1 :=
    signOf_append (by decide)
  have unknown : dispatch (messageProcessing services) 0 1 =
      ((messageProcessing services).length, none) := rfl
  obtain ⟨following, outcome, body⟩ := @cloudEventBody_defined services
    { initial with buf := initial.buf.overwrite unknownFrame fits } _ test
  refine ⟨following, ⟨initial.buf, [unknownFrame], [outcome], ?_, ?_⟩, ?_⟩
  · intro message member
    rw [List.mem_singleton.mp member]
    decide
  · rw [← cloudEventStep_eq fits] at body
    simp only [cloudEventRun, Option.bind_eq_bind]
    rw [body]
    rfl
  · rcases cloudEventBody_cases body with
      ⟨rejected, _⟩ | ⟨_, _, message, _, ucSign, _, walked⟩
    · rw [test] at rejected
      cases rejected
    · rw [ucSign, sign] at walked
      rcases walked with ⟨ends, _⟩ | ⟨_, _, ends, _⟩
      · exact (congrArg Prod.fst (ends.symm.trans unknown))
      · exact (congrArg Prod.fst (ends.symm.trans unknown))

/-- The cursor of earlier messages decides about every registered sign. -/
theorem DependsOnlyOn.unregistered
    (depends : DependsOnlyOn (messageProcessing services) (fun _ _ => True)
      message)
    (fits : message.length ≤ 256) (header : HasHeader message)
    (whole : declaredLength message ≤ message.length)
    (matching : HasChecksum message (declaredLength message)) :
    ∀ entry ∈ messageProcessing services, entry.sign ≠ signOf message := by
  intro entry member same
  have contained : SelfContained True message :=
    depends.selfContained fits (fun _ _ _ _ => trivial)
  let initial : CloudEventLoop := { buf := Buffer.filled 256 0, start := 0 }
  obtain ⟨behind, before, parked⟩ := beforeMessage_behind services
  obtain ⟨firstNext, first, firstResult⟩ := @SelfContained.acceptedStep
    services _ _ contained fits header whole matching initial
  obtain ⟨secondNext, second, secondResult⟩ := @SelfContained.acceptedStep
    services _ _ contained fits header whole matching behind
  have alike := depends.alike _ _
    (beforeMessage_initial _ initial.buf) before trivial
  rw [firstResult, secondResult, Option.map_some, Option.map_some,
    Option.some.injEq, Option.some.injEq] at alike
  have registered : position (messageProcessing services) (signOf message) <
      (messageProcessing services).length :=
    (position_lt_length_iff _ _).mpr ⟨entry, member, same⟩
  have distinct := messageProcessing_distinct services
  have lost : second.called = [] := by
    obtain ⟨_, _, _, _, _, walked⟩ := contained.accepted fits secondResult
    rw [dispatch_behind distinct (Nat.le_of_eq parked)
      (by rw [parked]; exact registered)] at walked
    rcases walked with ⟨_, called, _⟩ | ⟨_, _, ends, _⟩
    · exact called
    · cases (Prod.mk.inj ends).2
  have found : first.called ≠ [] := by
    obtain ⟨_, _, _, _, _, walked⟩ := contained.accepted fits firstResult
    rw [dispatch_ahead (Nat.zero_le _) (Nat.zero_le _),
      List.getElem?_eq_getElem registered] at walked
    rcases walked with ⟨ends, _⟩ | ⟨_, _, _, called, _⟩
    · cases (Prod.mk.inj ends).2
    · rw [called]
      exact List.cons_ne_nil _ _
  exact found (alike ▸ lost)

theorem funcWaveFileReq_minute {buf : List UInt8} {handled : HandlerResult}
    (result : funcWaveFileReq services buf = some handled) :
    ∃ request byte, buf[11]? = some byte ∧
      handled.actions = [.fetchWaveFile request] ∧
        request.minute = bcdToByte byte := by
  simp only [funcWaveFileReq, readWaveFileReq, Option.bind_eq_bind,
    Option.bind_eq_some_iff, Option.some.injEq] at result
  obtain ⟨request, ⟨usDevAddr, _, ucYear, _, ucMonth, _, ucDay, _, ucHour, _,
    ucMinute, minuteRead, rfl⟩, rfl⟩ := result
  exact ⟨_, ucMinute, minuteRead, rfl, rfl⟩

/-- A wave file request that ends before its minute takes it from the
buffer. -/
theorem DependsOnlyOn.request
    (depends : DependsOnlyOn (messageProcessing services)
      (fun first second => first.start = second.start) message)
    (fits : message.length ≤ 256) (header : HasHeader message)
    (whole : declaredLength message ≤ message.length)
    (matching : HasChecksum message (declaredLength message))
    (sign : signOf message = msgSignWaveFileReq) : 12 ≤ message.length := by
  apply Nat.le_of_not_lt
  intro short
  have contained : SelfContained True message :=
    depends.selfContained fits (fun _ _ _ _ => trivial)
  have minute (value : UInt8) : ∃ following accepted request rest,
      cloudEventStep (messageProcessing services)
          { buf := Buffer.filled 256 value, start := 0 } message =
        some (following, some accepted) ∧
      accepted.actions = .fetchWaveFile request :: rest ∧
      request.minute = bcdToByte value := by
    obtain ⟨following, accepted, result⟩ := @SelfContained.acceptedStep
      services _ _ contained fits header whole matching
        { buf := Buffer.filled 256 value, start := 0 }
    obtain ⟨_, _, _, _, _, walked⟩ := contained.accepted fits result
    have found : dispatch (messageProcessing services) 0 msgSignWaveFileReq =
        (0, (messageProcessing services).head?) := rfl
    rw [sign, found] at walked
    rcases walked with ⟨ends, _⟩ | ⟨entry, handled, ends, _, call, actions⟩
    · cases (Prod.mk.inj ends).2
    · have entryEq := Option.some.inj (Prod.mk.inj ends).2
      subst entryEq
      obtain ⟨request, byte, byteRead, requested, minuteEq⟩ :=
        funcWaveFileReq_minute call
      have inside : 11 - message.length < 256 - message.length := by omega
      simp only [Buffer.filled, List.drop_replicate,
        List.getElem?_append_right (show message.length ≤ 11 by omega),
        List.getElem?_replicate, inside, if_true, Option.some.injEq]
        at byteRead
      subst byteRead
      rw [requested] at actions
      exact ⟨_, accepted, request, _, result, actions, minuteEq⟩
  obtain ⟨_, first, firstRequest, _, firstResult, firstActions,
    firstMinute⟩ := minute 0
  obtain ⟨_, second, secondRequest, _, secondResult, secondActions,
    secondMinute⟩ := minute 1
  have alike := depends.alike _ _
    (beforeMessage_initial _ (Buffer.filled 256 0))
    (beforeMessage_initial _ (Buffer.filled 256 1)) rfl
  rw [firstResult, secondResult, Option.map_some, Option.map_some,
    Option.some.injEq, Option.some.injEq] at alike
  rw [alike, secondActions, List.cons.injEq] at firstActions
  have sameRequest := CloudAction.fetchWaveFile.inj firstActions.1
  rw [← sameRequest, secondMinute] at firstMinute
  exact absurd firstMinute (by decide)

end Necessary

/-- The treatment of a message depends on its own bytes exactly when it is
self-contained and no handler is registered for it; between runs that leave the
cursor in the same place, exactly when it is self-contained and complete for
its handler. -/
theorem dependsOnlyOn_iff (services : CloudServices) {message : List UInt8}
    (fits : message.length ≤ 256) :
    (DependsOnlyOn (messageProcessing services) (fun _ _ => True) message ↔
        SelfContained
          (∀ entry ∈ messageProcessing services,
            entry.sign ≠ signOf message) message) ∧
      (DependsOnlyOn (messageProcessing services)
          (fun first second => first.start = second.start) message ↔
        SelfContained
          (signOf message = msgSignWaveFileReq → 12 ≤ message.length)
          message) := by
  constructor
  · constructor
    · intro depends
      exact depends.selfContained fits (fun header _ whole matching =>
        depends.unregistered fits header whole matching)
    · intro contained
      exact dependsOnlyOn_of_unregistered contained fits
  · constructor
    · intro depends
      exact depends.selfContained fits
        (fun header _ whole matching sign =>
          depends.request fits header whole matching sign)
    · intro contained
      exact dependsOnlyOn_of_complete contained fits

/-- A frame of seven bytes of which six were received. -/
def cutFrame : List UInt8 := [0xAA, 0xAA, 0, 7, 0x91, 1]

theorem canFrame_dependsOnlyOn :
    (DependsOnlyOn (messageProcessing exampleServices) (fun _ _ => True)
        canFrame ↔
      SelfContained
        (∀ entry ∈ messageProcessing exampleServices,
          entry.sign ≠ signOf canFrame) canFrame) ∧
    (DependsOnlyOn (messageProcessing exampleServices)
        (fun first second => first.start = second.start) canFrame ↔
      SelfContained
        (signOf canFrame = msgSignWaveFileReq → 12 ≤ canFrame.length)
        canFrame) :=
  dependsOnlyOn_iff exampleServices (by decide)

/-- Six bytes of a frame are accepted when the buffer still holds its last
byte, even between runs that leave the cursor in the same place. -/
theorem cutFrame_depends_on_buffer :
    ¬DependsOnlyOn (messageProcessing exampleServices) (fun _ _ => True)
      cutFrame ∧
    ¬DependsOnlyOn (messageProcessing exampleServices)
      (fun first second => first.start = second.start) cutFrame := by
  have cut (comparable : CloudEventLoop → CloudEventLoop → Prop) :
      ¬DependsOnlyOn (messageProcessing exampleServices) comparable
        cutFrame := by
    intro depends
    have residue := depends.cut (by decide) (by decide) (by decide)
    exact residue.2 (by decide)
  exact ⟨cut _, cut _⟩

end RtA100
