import RtA100.LinkTransitions
import RtA100.QueueBounds
import RtA100.Validators

/-!
# What is forwarded on behalf of an MQTT message

A payload that declares its own length goes through the test of the FKZ9 event
thread; any other one is cut into pieces of its declared length that nobody
tests.  `PayloadValidated` is the condition on payloads under which every call
of `send` made for MQTT still carries one complete frame.
-/

namespace RtA100

open Library

/-- The call sends exactly one complete frame, and not a heartbeat. -/
structure ValidatedCall (call : SendCall) : Prop where
  inside : call.len ≤ call.data.length
  formed : WellFormed (call.data.take call.len)
  noRequest :
    signOf (call.data.take call.len) ≠ mqttMsgSignHeartbeatReq
  noResponse :
    signOf (call.data.take call.len) ≠ mqttMsgSignHeartbeatResp

/-- Every piece that the loops of `on_message_cb` cut from the payload is a
complete frame. -/
def PiecesValidated (payload : List UInt8) : Prop :=
  ∀ count, count * declaredLength payload < payload.length →
    ValidatedCall
      { sender := .onMessageCb
        data := payload.drop (count * declaredLength payload)
        len := declaredLength payload }

/-- A heartbeat request, a single message that is no frame of fewer than seven
bytes, or pieces that are all complete. -/
def PayloadValidated (payload : List UInt8) : Prop :=
  signOf payload = mqttMsgSignHeartbeatReq ∨
    (declaredLength payload = payload.length ∧
      (HasFormat payload → 7 ≤ payload.length)) ∨
    (declaredLength payload ≠ payload.length ∧ PiecesValidated payload)

def DeliversValidated (_link : Link) : LinkEvent → Prop
  | .mqttMessage payload => PayloadValidated payload
  | _ => True

/-- Calls of `send` that go back to an MQTT message. -/
def Sender.fromMqtt : Sender → Bool
  | .onMessageCb => true
  | .fwToCloud => true
  | .devInfoResp => true
  | .cloudEvent => false
  | .navDataMsg => false

/-- The MQTT callback only holds complete pieces, and the FKZ9 event thread
only forwards complete frames. -/
structure ForwardsValidated (link : Link) (waiting : Waiting) : Prop where
  pieces : ∀ loop, link.splitting = some loop →
    loop.len = declaredLength loop.payload ∧
      PiecesValidated loop.payload ∧
        loop.index < loop.payload.length ∧
          ∃ count, loop.index = count * loop.len
  frames : ∀ message ∈ waiting.fkz9,
    5 ≤ message.length ∧ declaredLength message = message.length ∧
      signOf message ≠ mqttMsgSignHeartbeatReq ∧
        (HasFormat message → 7 ≤ message.length)
  forwarded : link.fkz9Handler = some .msgFwToCloud →
    ∃ message stale, link.fkz9Buf.bytes = message ++ stale ∧
      WellFormed message ∧ signOf message ≠ mqttMsgSignHeartbeatReq ∧
        signOf message ≠ mqttMsgSignHeartbeatResp

theorem chooseHandler_forward {isInit : Bool} {ucSign : UInt8}
    (chosen : chooseHandler isInit ucSign = some .msgFwToCloud) :
    ucSign ≠ mqttMsgSignHeartbeatResp := by
  intro response
  unfold chooseHandler at chosen
  rw [if_pos response] at chosen
  split at chosen <;> cases chosen

theorem ForwardsValidated.initial {link : Link}
    (starts : LinkInitial link) :
    ForwardsValidated link { cloud := [], fkz9 := [], tx := [] } := by
  obtain ⟨_, _, _, _, rfl⟩ := starts
  exact ⟨by simp, by simp, by simp⟩

theorem SplitLoop.next_validated {loop following : SplitLoop}
    (aligned : ∃ count, loop.index = count * loop.len)
    (next : loop.next = some following) :
    following.payload = loop.payload ∧ following.len = loop.len ∧
      following.index < following.payload.length ∧
        ∃ count, following.index = count * following.len := by
  unfold SplitLoop.next at next
  split at next
  · rename_i inside
    obtain ⟨count, index⟩ := aligned
    rw [← Option.some.inj next]
    refine ⟨rfl, rfl, inside, count + 1, ?_⟩
    rw [index, Nat.succ_mul]
  · cases next

theorem ForwardsValidated.step {device : Device} {link following : Link}
    {waiting after : Waiting} {event : LinkEvent}
    {emitted : List LinkOutput}
    (validated : ForwardsValidated link waiting)
    (permitted : DeliversValidated link event)
    (transition :
      Transition device link waiting event following after emitted) :
    ForwardsValidated following after := by
  obtain ⟨pieces, frames, forwarded⟩ := validated
  cases transition with
  | split payload _ long other several =>
      refine ⟨fun loop same => ?_, frames, forwarded⟩
      rw [← Option.some.inj same]
      rcases permitted with request | ⟨declared, _⟩ | ⟨_, complete⟩
      · exact absurd request other
      · exact absurd declared several
      · exact ⟨rfl, complete, show 0 < payload.length by omega,
          0, (Nat.zero_mul _).symm⟩
  | frameQueued payload _ _ long other declared _ _ =>
      refine ⟨pieces, fun message member => ?_, forwarded⟩
      rcases List.mem_append.mp member with earlier | last
      · exact frames message earlier
      · rw [List.mem_singleton.mp last]
        refine ⟨long, declared, other, ?_⟩
        rcases permitted with request | ⟨_, minimum⟩ | ⟨several, _⟩
        · exact absurd request other
        · exact minimum
        · exact absurd declared several
  | pieceSent loop sent _ _ splitting sending =>
      obtain ⟨txQueue, tx, rfl, rfl⟩ := sending.frame
      refine ⟨fun next same => ?_, frames, forwarded⟩
      obtain ⟨len, complete, _, aligned⟩ := pieces loop splitting
      obtain ⟨samePayload, sameLen, inside, alignedNext⟩ :=
        SplitLoop.next_validated aligned same
      refine ⟨?_, ?_, inside, alignedNext⟩
      · rw [sameLen, samePayload, len]
      · rw [samePayload]
        exact complete
  | cloudSent _ _ sent _ _ _ _ sending =>
      obtain ⟨txQueue, tx, rfl, rfl⟩ := sending.frame
      exact ⟨pieces, frames, forwarded⟩
  | fkz9Taken message rest fits _ passes _ pending test =>
      have member : message ∈ waiting.fkz9 := by
        rw [pending]
        exact List.mem_cons_self
      obtain ⟨long, declared, noRequest, minimum⟩ := frames message member
      refine ⟨pieces, fun other later => ?_, fun chosen => ?_⟩
      · apply frames
        rw [pending]
        exact List.mem_cons_of_mem _ later
      · rw [fkz9FrameTest_overwrite declared long fits,
          Option.some.injEq] at test
        simp only [← test, decide_eq_true_eq] at chosen
        split at chosen
        · rename_i accepted
          have noResponse := chooseHandler_forward chosen
          rw [Buffer.overwrite_bytes, signOf_append long] at noResponse
          exact ⟨message, _, rfl,
            ⟨accepted.1.1, declared, minimum accepted.1, accepted.1.2⟩,
            noRequest, noResponse⟩
        · cases chosen
  | fkz9Sent _ _ sent _ _ _ _ _ sending =>
      obtain ⟨txQueue, tx, rfl, rfl⟩ := sending.frame
      exact ⟨pieces, frames, by simp⟩
  | navSent _ _ sent _ _ _ _ sending =>
      obtain ⟨txQueue, tx, rfl, rfl⟩ := sending.frame
      exact ⟨pieces, frames, forwarded⟩
  | connected | disconnected | readQueued | readDropped | heartbeat
  | frameDropped | pieceRefused | cloudIdle | cloudTaken | fkz9Idle
  | txIdle | txTaken | txWritten =>
      exact ⟨pieces, frames, forwarded⟩

theorem ForwardsValidated.call {device : Device} {link : Link}
    {waiting : Waiting} (validated : ForwardsValidated link waiting)
    {event : LinkEvent} {call : SendCall}
    (called : sendCall device link event = some call)
    (mqtt : call.sender.fromMqtt = true) : ValidatedCall call := by
  cases event with
  | mqttSend =>
      obtain ⟨loop, splitting, rfl⟩ := Option.map_eq_some_iff.mp called
      obtain ⟨len, complete, inside, count, index⟩ :=
        validated.pieces loop splitting
      rw [len] at index
      rw [index] at inside
      have piece := complete count inside
      rw [← index, ← len] at piece
      exact piece
  | fkz9Send =>
      obtain ⟨handler, chosen, built⟩ := Option.bind_eq_some_iff.mp called
      cases handler with
      | msgFwToCloud =>
          obtain ⟨message, stale, bytes, formed, noRequest, noResponse⟩ :=
            validated.forwarded chosen
          have minimum := formed.minimum
          have declared : declaredLength (message ++ stale) =
              message.length := by
            rw [declaredLength_append (by omega), formed.declared]
          rw [Fkz9Handler.call_msgFwToCloud built]
          simp only [bytes, declared]
          have taken : (message ++ stale).take message.length = message :=
            List.take_left
          refine ⟨by simp, ?_, ?_, ?_⟩
          · simp only [taken]
            exact formed
          · simp only [taken]
            exact noRequest
          · simp only [taken]
            exact noResponse
      | devInfoResp =>
          obtain ⟨frame, response, result⟩ :=
            Option.bind_eq_some_iff.mp built
          obtain ⟨other, otherEq, formed, _, sign⟩ :=
            funcDevInfoResp_wellFormed device.services.info device.simId
          rw [response, Option.some.injEq] at otherEq
          subst otherEq
          rw [← Option.some.inj result]
          refine ⟨Nat.le_refl _, ?_, ?_, ?_⟩
          · simp only [List.take_length]
            exact formed
          · simp only [List.take_length, sign]
            decide
          · simp only [List.take_length, sign]
            decide
  | cloudSend =>
      obtain ⟨frame, _, rfl⟩ := Option.map_eq_some_iff.mp called
      cases mqtt
  | navTimer segment =>
      obtain ⟨frame, _, rfl⟩ := Option.map_eq_some_iff.mp called
      cases mqtt
  | _ => cases called

/-- In every run whose payloads are validated, each call of `send` on behalf of
an MQTT message carries one complete frame that is not a heartbeat. -/
theorem mqtt_calls_validated {device : Device} {outputs : List LinkOutput}
    {link : Link}
    (reached : (linkMachine device).Reaches DeliversValidated outputs link)
    {event : LinkEvent} {call : SendCall}
    (called : sendCall device link event = some call)
    (mqtt : call.sender.fromMqtt = true) : ValidatedCall call := by
  obtain ⟨waiting, _, validated⟩ := @linkMachine_invariant device
    DeliversValidated (fun _ link waiting => ForwardsValidated link waiting)
    (fun _ starts => ForwardsValidated.initial starts)
    (fun _ _ _ _ _ _ _ _ validated permitted transition =>
      validated.step permitted transition) outputs link reached
  exact validated.call called mqtt

/-- The loops that `on_message_cb` enters for a payload of another length than
it declares. -/
theorem onMessageCb_split {link : Link} {payload : List UInt8}
    (outside : link.splitting = none) (long : 5 ≤ payload.length)
    (other : signOf payload ≠ mqttMsgSignHeartbeatReq)
    (several : declaredLength payload ≠ payload.length) :
    onMessageCb link payload =
      some ({ link with
          splitting := some { payload, len := declaredLength payload
                              index := 0 } },
        [.delivered payload]) := by
  obtain ⟨pHdr, headerRead, _, lenValue, signValue⟩ :=
    MsgFramHdr.read_of_length long
  unfold onMessageCb
  rw [if_neg (by simpa using outside), headerRead]
  simp only [Option.bind_eq_bind, Option.bind_some, lenValue, signValue]
  rw [if_neg other, if_pos several]

def splitLink (payload : List UInt8) : Link :=
  { freshLink with
    splitting := some { payload, len := declaredLength payload, index := 0 } }

theorem splitLink_reached {allowed : Link → LinkEvent → Prop}
    {payload : List UInt8}
    (permitted : allowed freshLink (.mqttMessage payload))
    (long : 5 ≤ payload.length)
    (other : signOf payload ≠ mqttMsgSignHeartbeatReq)
    (several : declaredLength payload ≠ payload.length) :
    (linkMachine exampleDevice).Reaches allowed [.delivered payload]
      (splitLink payload) :=
  .next (.start freshLink_initial) permitted
    (@onMessageCb_split freshLink payload rfl long other several)

def twoFrames : List UInt8 :=
  [0xAA, 0xAA, 0, 7, 0x20, 1, 0x7B, 0xAA, 0xAA, 0, 7, 0x20, 1, 0x7B]

theorem twoFrames_validated : PayloadValidated twoFrames := by
  refine Or.inr (Or.inr ⟨by decide, ?_⟩)
  intro count inside
  have length : twoFrames.length = 14 := rfl
  have declared : declaredLength twoFrames = 7 := by decide
  rw [length, declared] at inside
  have pieces : count = 0 ∨ count = 1 := by omega
  rcases pieces with rfl | rfl
  · exact ⟨by decide, by decide, by decide, by decide⟩
  · exact ⟨by decide, by decide, by decide, by decide⟩

theorem twoFrames_first_call_validated :
    ValidatedCall { sender := .onMessageCb, data := twoFrames
                    len := declaredLength twoFrames } :=
  @mqtt_calls_validated exampleDevice _ (splitLink twoFrames)
    (splitLink_reached twoFrames_validated (by decide) (by decide)
      (by decide))
    .mqttSend _ rfl rfl

/-- Six bytes that declare five: the first five are sent untested. -/
theorem untested_piece_sent :
    (linkMachine exampleDevice).Reaches Machine.anyStep
        [.delivered [0, 0, 0, 5, 1, 0]] (splitLink [0, 0, 0, 5, 1, 0]) ∧
      ∃ call, sendCall exampleDevice (splitLink [0, 0, 0, 5, 1, 0])
          .mqttSend = some call ∧
        call.sender.fromMqtt = true ∧ ¬ValidatedCall call := by
  refine ⟨splitLink_reached trivial (by decide) (by decide) (by decide),
    _, rfl, rfl, fun validated => ?_⟩
  exact absurd validated.formed.minimum (by decide)

end RtA100
