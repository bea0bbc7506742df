import RtA100.QueueBounds
import RtA100.Validators

/-!
# Where the frames of the FKZ9 event thread come from

`fkz9_event_task_entry` never compares `usLen` with the length that `dequeue`
returned.  `on_message_cb` does, before it queues a payload, and the queue keeps
whole messages apart; so a dequeued message is one delivered payload that
declares its own length, whatever its slot and the thread's buffer held before.
-/

namespace RtA100

open Library

/-- The buffer starts with one delivered payload of the returned length, which
is also the declared one, and the test is defined and answers as it does on an
object that holds nothing but this payload. -/
structure ChecksPayload (outputs : List LinkOutput) (buf : Buffer 1500)
    (len : Nat) (payload : List UInt8) : Prop where
  delivered : .delivered payload ∈ outputs
  minimum : 5 ≤ payload.length
  maximum : payload.length ≤ 1400
  returned : len = payload.length
  declared : declaredLength buf.bytes = len
  content : buf.bytes.take len = payload
  same : fkz9FrameTest buf.bytes = fkz9FrameTest payload
  defined : ∃ passes, fkz9FrameTest payload = some passes

/-- A payload that `on_message_cb` may have queued. -/
structure QueueablePayload (outputs : List LinkOutput)
    (payload : List UInt8) : Prop where
  delivered : .delivered payload ∈ outputs
  minimum : 5 ≤ payload.length
  maximum : payload.length ≤ 1400
  declared : declaredLength payload = payload.length

theorem fkz9FrameTest_declared {frame : List UInt8}
    (declared : declaredLength frame = frame.length)
    (minimum : 5 ≤ frame.length) :
    fkz9FrameTest frame =
      some (decide (HasFormat frame ∧
        checksumOf frame frame.length < 32768)) := by
  have inside : 2 ≤ frame.length := by omega
  rw [fkz9FrameTest_eq minimum, declared]
  by_cases header : HasHeader frame
  · simp [header, inside, HasFormat]
  · simp [header, HasFormat]

theorem QueueablePayload.checks {outputs : List LinkOutput}
    {payload : List UInt8} (queueable : QueueablePayload outputs payload)
    (buf : Buffer 1500) (fits : payload.length ≤ 1500) :
    ChecksPayload outputs (buf.overwrite payload fits) payload.length
      payload := by
  have minimum := queueable.minimum
  have declared := queueable.declared
  have alone := fkz9FrameTest_declared declared minimum
  exact
    { delivered := queueable.delivered
      minimum := minimum
      maximum := queueable.maximum
      returned := rfl
      declared := by
        rw [Buffer.overwrite_bytes, declaredLength_append (by omega),
          declared]
      content := List.take_left
      same := by
        rw [fkz9FrameTest_overwrite declared minimum fits, alone]
      defined := ⟨_, alone⟩ }

theorem QueueablePayload.later {outputs emitted : List LinkOutput}
    {payload : List UInt8} (queueable : QueueablePayload outputs payload) :
    QueueablePayload (outputs ++ emitted) payload :=
  { queueable with
    delivered := List.mem_append_left _ queueable.delivered }

theorem ChecksPayload.later {outputs emitted : List LinkOutput}
    {buf : Buffer 1500} {len : Nat} {payload : List UInt8}
    (checks : ChecksPayload outputs buf len payload) :
    ChecksPayload (outputs ++ emitted) buf len payload :=
  { checks with delivered := List.mem_append_left _ checks.delivered }

/-- Every waiting message is a queueable payload, and a frame that waits for
its handler is one that passed. -/
structure FramesProvenance (outputs : List LinkOutput) (link : Link)
    (waiting : Waiting) : Prop where
  queueable : ∀ message ∈ waiting.fkz9, QueueablePayload outputs message
  chosen : link.fkz9Handler ≠ none →
    ∃ payload, ChecksPayload outputs link.fkz9Buf payload.length payload ∧
      fkz9FrameTest payload = some true

theorem FramesProvenance.initial {link : Link} (starts : LinkInitial link) :
    FramesProvenance [] link { cloud := [], fkz9 := [], tx := [] } := by
  obtain ⟨_, _, _, _, rfl⟩ := starts
  exact ⟨by simp, by simp⟩

theorem FramesProvenance.step {device : Device} {link following : Link}
    {waiting after : Waiting} {event : LinkEvent}
    {outputs emitted : List LinkOutput}
    (provenance : FramesProvenance outputs link waiting)
    (transition :
      Transition device link waiting event following after emitted) :
    FramesProvenance (outputs ++ emitted) following after := by
  obtain ⟨queueable, chosen⟩ := provenance
  have stillQueueable : ∀ message ∈ waiting.fkz9,
      QueueablePayload (outputs ++ emitted) message :=
    fun message member => (queueable message member).later
  have stillChosen : link.fkz9Handler ≠ none →
      ∃ payload, ChecksPayload (outputs ++ emitted) link.fkz9Buf
          payload.length payload ∧
        fkz9FrameTest payload = some true := by
    intro handler
    obtain ⟨payload, checks, passed⟩ := chosen handler
    exact ⟨payload, checks.later, passed⟩
  cases transition with
  | frameQueued payload _ _ long _ declared short _ =>
      refine ⟨fun message member => ?_, stillChosen⟩
      rcases List.mem_append.mp member with earlier | last
      · exact stillQueueable message earlier
      · rw [List.mem_singleton.mp last]
        exact
          { delivered := List.mem_append_right _ List.mem_cons_self
            minimum := long
            maximum := short
            declared := declared }
  | fkz9Taken message rest fits _ passes _ pending test =>
      have taken : QueueablePayload (outputs ++ []) message :=
        stillQueueable message (by rw [pending]; exact List.mem_cons_self)
      refine ⟨fun other later => ?_, fun handler => ?_⟩
      · refine stillQueueable other ?_
        rw [pending]
        exact List.mem_cons_of_mem _ later
      · have checks := taken.checks link.fkz9Buf fits
        refine ⟨message, checks, ?_⟩
        rw [checks.same] at test
        cases passes with
        | false => simp at handler
        | true => exact test
  | pieceSent _ _ _ _ _ sending =>
      obtain ⟨txQueue, tx, rfl, rfl⟩ := sending.frame
      exact ⟨stillQueueable, stillChosen⟩
  | cloudSent _ _ _ _ _ _ _ sending =>
      obtain ⟨txQueue, tx, rfl, rfl⟩ := sending.frame
      exact ⟨stillQueueable, stillChosen⟩
  | fkz9Sent _ _ _ _ _ _ _ _ sending =>
      obtain ⟨txQueue, tx, rfl, rfl⟩ := sending.frame
      exact ⟨stillQueueable, fun none => absurd rfl none⟩
  | navSent _ _ _ _ _ _ _ sending =>
      obtain ⟨txQueue, tx, rfl, rfl⟩ := sending.frame
      exact ⟨stillQueueable, stillChosen⟩
  | connected | disconnected | readQueued | readDropped | heartbeat | split
  | frameDropped | pieceRefused | cloudIdle | cloudTaken | fkz9Idle
  | txIdle | txTaken | txWritten =>
      exact ⟨stillQueueable, stillChosen⟩

theorem framesProvenance_reached {device : Device}
    {outputs : List LinkOutput} {link : Link}
    (reached : (linkMachine device).Reaches Machine.anyStep outputs link) :
    ∃ waiting, link.Represents waiting ∧
      FramesProvenance outputs link waiting :=
  @linkMachine_invariant device Machine.anyStep FramesProvenance
    (fun _ starts => FramesProvenance.initial starts)
    (fun _ _ _ _ _ _ _ _ provenance _ transition =>
      provenance.step transition) outputs link reached

/-- The event thread at its `dequeue`, and at the forwarding that follows a
test: both times its buffer starts with one delivered payload, and what it
tests or forwards are bytes of this payload. -/
structure FrameIsolated (device : Device) (outputs : List LinkOutput)
    (link : Link) : Prop where
  checked : ∀ fkz9Queue buf len,
    link.fkz9Queue.dequeue link.fkz9Buf =
        some (fkz9Queue, buf, some len) →
      ∃ payload, ChecksPayload outputs buf len payload
  forwarded : ∀ call,
    sendCall device link .fkz9Send = some call →
      call.sender = .fwToCloud →
      ∃ payload, ChecksPayload outputs link.fkz9Buf call.len payload ∧
        fkz9FrameTest payload = some true ∧
          call.data.take call.len = payload

theorem FramesProvenance.isolated {device : Device}
    {outputs : List LinkOutput} {link : Link} {waiting : Waiting}
    (represents : link.Represents waiting)
    (provenance : FramesProvenance outputs link waiting) :
    FrameIsolated device outputs link := by
  refine ⟨fun fkz9Queue buf len dequeued => ?_, fun call called sender => ?_⟩
  · rcases ThreadSafeQueue.dequeue_cases represents.fkz9 dequeued with
      ⟨_, _, _, nothing⟩ | ⟨message, rest, fits, pending, copied, length, _⟩
    · cases nothing
    · have member : message ∈ waiting.fkz9 := by
        rw [pending]
        exact List.mem_cons_self
      have checks :=
        (provenance.queueable message member).checks link.fkz9Buf fits
      rw [← copied, ← Option.some.inj length] at checks
      exact ⟨message, checks⟩
  · obtain ⟨handler, chosen, built⟩ := Option.bind_eq_some_iff.mp called
    obtain ⟨payload, checks, passed⟩ :=
      provenance.chosen (by rw [chosen]; exact Option.some_ne_none _)
    cases handler with
    | msgFwToCloud =>
        rw [Fkz9Handler.call_msgFwToCloud built]
        simp only [checks.declared]
        exact ⟨payload, checks, passed, checks.content⟩
    | devInfoResp =>
        obtain ⟨frame, _, result⟩ := Option.bind_eq_some_iff.mp built
        rw [← Option.some.inj result] at sender
        cases sender

/-- In every run, each message that the event thread checks and each frame that
it forwards is one delivered payload. -/
theorem fkz9_frames_isolated {device : Device} {outputs : List LinkOutput}
    {link : Link}
    (reached : (linkMachine device).Reaches Machine.anyStep outputs link) :
    FrameIsolated device outputs link := by
  obtain ⟨waiting, represents, provenance⟩ := framesProvenance_reached reached
  exact provenance.isolated represents

/-- A long payload is handled first, so its bytes are still in the buffer
behind the short one. -/
def longThenShort : List LinkEvent :=
  [.mqttMessage [0xAA, 0xAA, 0, 9, 0x20, 1, 2, 1, 0x80], .fkz9Poll,
    .fkz9Send, .mqttMessage [0xAA, 0xAA, 0, 7, 0x20, 1, 0x7B], .fkz9Poll]

theorem longThenShort_frames_isolated : ∃ outputs link,
    (linkMachine exampleDevice).Reaches Machine.anyStep outputs link ∧
      link.fkz9Buf.bytes.take 9 =
        [0xAA, 0xAA, 0, 7, 0x20, 1, 0x7B, 1, 0x80] ∧
      FrameIsolated exampleDevice outputs link := by
  have computed :
      ((linkMachine exampleDevice).run (fun _ _ => true) freshLink
        longThenShort).map (fun result => result.1.fkz9Buf.bytes.take 9) =
      some [0xAA, 0xAA, 0, 7, 0x20, 1, 0x7B, 1, 0x80] := by
    decide +kernel
  obtain ⟨outputs, link, reached, bytes⟩ :=
    Machine.Reaches.of_run (fun _ _ _ => trivial) freshLink_initial computed
  exact ⟨outputs, link, reached, bytes, fkz9_frames_isolated reached⟩

end RtA100
