import RtA100.CloudDispatch
import RtA100.LinkTransitions

/-!
# Sizes passed to the queues

Neither `enqueue` nor `dequeue` checks a size, so the bounds have to come from
the producers.  `enqueueCall` and `dequeueCall` name the copy that an event
asks of a queue in a state, and `eventFits` the events that ask for no more than
a slot holds.  In every state of every run the two agree, and no `dequeue` ever
copies more than its consumer has room for.
-/

namespace RtA100

open Library

/-- A copy of `len` bytes into `room` bytes. -/
structure QueueCopy where
  len : Nat
  room : Nat

/-- The copy asked for by the `enqueue` of an event, if it makes one. -/
def enqueueCall (device : Device) (link : Link) :
    LinkEvent → Option QueueCopy
  | .tcpRead chunk => some { len := chunk.length, room := 256 }
  | .mqttMessage payload =>
      if signOf payload ≠ mqttMsgSignHeartbeatReq ∧
          declaredLength payload = payload.length then
        some { len := payload.length, room := 1400 }
      else none
  | event =>
      if link.isConnected = true then
        (sendCall device link event).map fun call =>
          { len := call.len, room := 1400 }
      else none

def ThreadSafeQueue.front {slotSize : Nat}
    (queue : ThreadSafeQueue slotSize) : Option Nat :=
  if queue.tail = queue.head then none
  else queue.sizes[queue.tail.toNat]?.map UInt16.toNat

/-- The copy made by the `dequeue` of an event, if it makes one. -/
def dequeueCall (link : Link) : LinkEvent → Option QueueCopy
  | .cloudPoll => link.cloudQueue.front.map fun len => { len, room := 256 }
  | .fkz9Poll => link.fkz9Queue.front.map fun len => { len, room := 1500 }
  | .txPoll => link.txQueue.front.map fun len => { len, room := 1400 }
  | _ => none

/-- Every queue operation of the event stays inside a slot and inside its
consumer's buffer. -/
def QueueCallsFit (device : Device) (link : Link) (event : LinkEvent) :
    Prop :=
  (∀ copy, enqueueCall device link event = some copy →
      copy.len ≤ copy.room) ∧
    ∀ copy, dequeueCall link event = some copy → copy.len ≤ copy.room

/-- A read fits a slot of the cloud queue, a single frame a slot of the FKZ9
queue, and the pieces that a connected callback sends a slot of `tx_queue`. -/
def EventFits (link : Link) : LinkEvent → Prop
  | .tcpRead chunk => chunk.length ≤ 256
  | .mqttMessage payload =>
      signOf payload ≠ mqttMsgSignHeartbeatReq →
        declaredLength payload = payload.length → payload.length ≤ 1400
  | .mqttSend =>
      link.isConnected = true →
        ∀ loop, link.splitting = some loop → loop.len ≤ 1400
  | _ => True

/-- The producers other than the TCP client and the MQTT callback stay within
a slot. -/
structure ProducersBounded (link : Link) (waiting : Waiting) : Prop where
  responses : ∀ frame ∈ link.cloudSends, frame.length = 15
  frames : ∀ message ∈ waiting.fkz9,
    5 ≤ message.length ∧ declaredLength message = message.length
  forwarded : link.fkz9Handler = some .msgFwToCloud →
    declaredLength link.fkz9Buf.bytes ≤ 1400

theorem funcWaveFileResp_length {info : DevBaseInfo} {time : CustomTime}
    {frame : List UInt8} (built : funcWaveFileResp info time = some frame) :
    frame.length = 15 := by
  have length := waveFileRespSeg_length info time
  obtain ⟨sealed, result, _, size, _⟩ := sealFrame_wellFormed
    msgSignWaveFileResp (waveFileRespSeg info time) (by omega)
  rw [funcWaveFileResp, result, Option.some.injEq] at built
  rw [← built, size, length]

theorem funcDevInfoResp_wellFormed (info : DevBaseInfo)
    (simId : List UInt8) :
    ∃ frame, funcDevInfoResp info simId = some frame ∧ WellFormed frame ∧
      frame.length = 57 ∧ signOf frame = tcpMsgSignDevInfoResp := by
  have length := devInfoDataSeg_length info simId
  obtain ⟨frame, result, formed, size, sign⟩ := sealFrame_wellFormed
    tcpMsgSignDevInfoResp (devInfoDataSeg info simId) (by omega)
  exact ⟨frame, result, formed, by omega, sign⟩

theorem navDataMsg_length {segment : Buffer navDataSegSize}
    {frame : List UInt8} (built : navDataMsg segment = some frame) :
    frame.length = 161 := by
  have length := segment.size
  have size : navDataSegSize = 154 := rfl
  obtain ⟨sealed, result, _, sealedLength, _⟩ := sealFrame_wellFormed
    msgSignTransNavData segment.bytes (by omega)
  rw [navDataMsg, result, Option.some.injEq] at built
  rw [← built]
  omega

theorem sendsOf_accepted {services : CloudServices}
    {loop following : CloudEventLoop} {accepted : AcceptedMessage}
    (result : cloudEventBody (messageProcessing services) loop =
      some (following, some accepted)) {frame : List UInt8}
    (sent : frame ∈ sendsOf accepted.actions) :
    funcWaveFileResp services.info services.time = some frame := by
  rcases cloudEventBody_cases result with
    ⟨_, _, nothing⟩ | ⟨_, _, other, same, _, _, walked⟩
  · cases nothing
  · cases same
    rcases walked with
      ⟨_, _, actions⟩ | ⟨entry, handled, found, _, call, actions⟩
    · rw [actions] at sent
      exact absurd sent List.not_mem_nil
    · have member := (dispatch_found found).1
      rw [actions, sendsOf, List.filterMap_append, List.mem_append] at sent
      rcases messageProcessing_entry member with
        ⟨_, handler, callback⟩ | ⟨_, ⟨group, handler⟩, callback⟩
      · rw [handler] at call
        simp only [funcWaveFileReq, Option.bind_eq_bind,
          Option.bind_eq_some_iff, Option.some.injEq] at call
        obtain ⟨request, _, rfl⟩ := call
        rw [callback] at sent
        split at sent
        · simpa using sent
        · simp at sent
      · rw [handler] at call
        simp only [cloudToGroupEntry, Option.bind_eq_bind,
          Option.bind_eq_some_iff, Option.some.injEq] at call
        obtain ⟨pHdr, _, payload, _, rfl⟩ := call
        rw [callback] at sent
        simp at sent

theorem SendResult.frame {link sent : Link} {waiting after : Waiting}
    {call : SendCall} {ret : Int} {outputs : List LinkOutput}
    (result : SendResult link waiting call sent after ret outputs) :
    ∃ txQueue tx, sent = { link with txQueue } ∧
      after = { waiting with tx } := by
  cases result with
  | offline _ => exact ⟨link.txQueue, waiting.tx, rfl, rfl⟩
  | full _ _ => exact ⟨link.txQueue, waiting.tx, rfl, rfl⟩
  | queued txQueue _ _ _ _ => exact ⟨txQueue, _, rfl, rfl⟩

theorem ProducersBounded.initial {link : Link} (starts : LinkInitial link) :
    ProducersBounded link { cloud := [], fkz9 := [], tx := [] } := by
  obtain ⟨_, _, _, _, rfl⟩ := starts
  exact ⟨by simp, by simp, by simp⟩

theorem ProducersBounded.step {device : Device} {link following : Link}
    {waiting after : Waiting} {event : LinkEvent}
    {emitted : List LinkOutput} (represents : link.Represents waiting)
    (bounded : ProducersBounded link waiting)
    (transition :
      Transition device link waiting event following after emitted) :
    ProducersBounded following after := by
  obtain ⟨responses, frames, forwarded⟩ := bounded
  cases transition with
  | connected _ _ => exact ⟨responses, frames, forwarded⟩
  | disconnected => exact ⟨responses, frames, forwarded⟩
  | readQueued _ _ _ _ _ => exact ⟨responses, frames, forwarded⟩
  | readDropped _ _ => exact ⟨responses, frames, forwarded⟩
  | heartbeat _ _ _ _ => exact ⟨responses, frames, forwarded⟩
  | split _ _ _ _ _ => exact ⟨responses, frames, forwarded⟩
  | frameQueued payload _ _ long _ declared _ _ =>
      refine ⟨responses, fun message member => ?_, forwarded⟩
      rcases List.mem_append.mp member with earlier | last
      · exact frames message earlier
      · rw [List.mem_singleton.mp last]
        exact ⟨long, declared⟩
  | frameDropped _ _ _ _ _ _ => exact ⟨responses, frames, forwarded⟩
  | pieceRefused _ _ _ _ => exact ⟨responses, frames, forwarded⟩
  | pieceSent loop sent _ _ _ sending =>
      obtain ⟨txQueue, tx, rfl, rfl⟩ := sending.frame
      exact ⟨responses, frames, forwarded⟩
  | cloudIdle _ => exact ⟨responses, frames, forwarded⟩
  | cloudTaken _ _ _ _ _ outcome _ _ body =>
      refine ⟨fun frame member => ?_, frames, forwarded⟩
      cases outcome with
      | none => exact absurd member List.not_mem_nil
      | some accepted =>
          exact funcWaveFileResp_length (sendsOf_accepted body member)
  | cloudSent _ rest sent _ _ _ sends sending =>
      obtain ⟨txQueue, tx, rfl, rfl⟩ := sending.frame
      refine ⟨fun frame member => ?_, frames, forwarded⟩
      apply responses
      rw [sends]
      exact List.mem_cons_of_mem _ member
  | fkz9Idle _ => exact ⟨responses, frames, forwarded⟩
  | fkz9Taken message rest fits _ _ _ pending _ =>
      have member : message ∈ waiting.fkz9 := by
        rw [pending]
        exact List.mem_cons_self
      obtain ⟨long, declared⟩ := frames message member
      have short := represents.fkz9.message_fits member
      refine ⟨responses, fun other later => ?_, fun _ => ?_⟩
      · apply frames
        rw [pending]
        exact List.mem_cons_of_mem _ later
      · have declaredThere :
            declaredLength (link.fkz9Buf.overwrite message fits).bytes =
              declaredLength message :=
          declaredLength_append (by omega)
        simp only [declaredThere]
        omega
  | fkz9Sent _ _ sent _ _ _ _ _ sending =>
      obtain ⟨txQueue, tx, rfl, rfl⟩ := sending.frame
      exact ⟨responses, frames, by simp⟩
  | navSent _ _ sent _ _ _ _ sending =>
      obtain ⟨txQueue, tx, rfl, rfl⟩ := sending.frame
      exact ⟨responses, frames, forwarded⟩
  | txIdle _ => exact ⟨responses, frames, forwarded⟩
  | txTaken _ _ _ _ _ _ _ => exact ⟨responses, frames, forwarded⟩
  | txWritten _ _ _ => exact ⟨responses, frames, forwarded⟩

theorem reaches_producersBounded {device : Device}
    {allowed : Link → LinkEvent → Prop} {outputs : List LinkOutput}
    {link : Link}
    (reached : (linkMachine device).Reaches allowed outputs link) :
    ∃ waiting, link.Represents waiting ∧ ProducersBounded link waiting :=
  @linkMachine_invariant device allowed
    (fun _ link waiting => ProducersBounded link waiting)
    (fun _ starts => ProducersBounded.initial starts)
    (fun _ _ _ _ _ _ _ represents bounded _ transition =>
      bounded.step represents transition) outputs link reached

theorem front_fits {slotSize : Nat} {queue : ThreadSafeQueue slotSize}
    {pending : List (List UInt8)} (represents : queue.Represents pending)
    {len : Nat} (front : queue.front = some len) : len ≤ slotSize := by
  unfold ThreadSafeQueue.front at front
  split at front
  · cases front
  · rename_i nonempty
    cases pending with
    | nil => exact absurd (represents.empty_iff.mpr rfl) nonempty
    | cons message rest =>
        have inside := represents.tailInside
        obtain ⟨_, size, _⟩ := represents.stored.oldest inside
        rw [Vector.getElem?_eq_getElem inside, Option.map_some,
          Option.some.injEq, size] at front
        rw [← front]
        exact represents.message_fits List.mem_cons_self

/-- No `dequeue` copies more than its consumer has room for. -/
theorem dequeueCall_fits {link : Link} {waiting : Waiting}
    (represents : link.Represents waiting) {event : LinkEvent}
    {copy : QueueCopy} (called : dequeueCall link event = some copy) :
    copy.len ≤ copy.room := by
  cases event with
  | cloudPoll =>
      obtain ⟨len, front, rfl⟩ := Option.map_eq_some_iff.mp called
      exact front_fits represents.cloud front
  | fkz9Poll =>
      obtain ⟨len, front, rfl⟩ := Option.map_eq_some_iff.mp called
      have short := front_fits represents.fkz9 front
      exact Nat.le_trans short (show 1400 ≤ 1500 by omega)
  | txPoll =>
      obtain ⟨len, front, rfl⟩ := Option.map_eq_some_iff.mp called
      exact front_fits represents.tx front
  | _ => cases called

/-- The internal producers never ask for more than a slot. -/
theorem sendCall_bounded {device : Device} {link : Link} {waiting : Waiting}
    (bounded : ProducersBounded link waiting) {event : LinkEvent}
    {call : SendCall} (other : event ≠ .mqttSend)
    (called : sendCall device link event = some call) : call.len ≤ 1400 := by
  cases event with
  | mqttSend => exact absurd rfl other
  | fkz9Send =>
      obtain ⟨handler, chosen, built⟩ := Option.bind_eq_some_iff.mp called
      cases handler with
      | msgFwToCloud =>
          rw [Fkz9Handler.call_msgFwToCloud built]
          exact bounded.forwarded chosen
      | devInfoResp =>
          obtain ⟨frame, response, result⟩ :=
            Option.bind_eq_some_iff.mp built
          obtain ⟨sealed, sealedEq, _, length, _⟩ :=
            funcDevInfoResp_wellFormed device.services.info device.simId
          rw [response, Option.some.injEq] at sealedEq
          rw [← Option.some.inj result]
          simp only [sealedEq, length]
          decide
  | cloudSend =>
      obtain ⟨frame, head, rfl⟩ := Option.map_eq_some_iff.mp called
      have length := bounded.responses frame (List.mem_of_mem_head? head)
      simp only [length]
      decide
  | navTimer segment =>
      obtain ⟨frame, built, rfl⟩ := Option.map_eq_some_iff.mp called
      have length := navDataMsg_length built
      simp only [length]
      decide
  | _ => cases called

/-- In every state of every run, the queue operations of an event stay inside
their slots and buffers exactly when the event fits. -/
theorem queueCallsFit_iff {device : Device} {outputs : List LinkOutput}
    {link : Link}
    (reached : (linkMachine device).Reaches Machine.anyStep outputs link)
    (event : LinkEvent) :
    QueueCallsFit device link event ↔ EventFits link event := by
  obtain ⟨waiting, represents, bounded⟩ := reaches_producersBounded reached
  have dequeues : ∀ copy, dequeueCall link event = some copy →
      copy.len ≤ copy.room :=
    fun copy called => dequeueCall_fits represents called
  have internal (other : event ≠ .mqttSend)
      (asked : enqueueCall device link event =
        if link.isConnected = true then
          (sendCall device link event).map fun call =>
            { len := call.len, room := 1400 }
        else none) : QueueCallsFit device link event := by
    refine ⟨fun copy called => ?_, dequeues⟩
    rw [asked] at called
    split at called
    · obtain ⟨call, made, rfl⟩ := Option.map_eq_some_iff.mp called
      exact sendCall_bounded bounded other made
    · cases called
  cases event with
  | tcpRead chunk =>
      constructor
      · intro fit
        exact fit.1 _ rfl
      · intro fits
        refine ⟨fun copy called => ?_, dequeues⟩
        rw [← Option.some.inj called]
        exact fits
  | mqttMessage payload =>
      constructor
      · intro fit other declared
        exact fit.1 { len := payload.length, room := 1400 }
          (if_pos ⟨other, declared⟩)
      · intro fits
        refine ⟨fun copy called => ?_, dequeues⟩
        simp only [enqueueCall] at called
        split at called
        · rename_i single
          rw [← Option.some.inj called]
          exact fits single.1 single.2
        · cases called
  | mqttSend =>
      constructor
      · intro fit online loop splitting
        exact fit.1 { len := loop.len, room := 1400 } (by
          simp [enqueueCall, sendCall, online, splitting, SplitLoop.call])
      · intro fits
        refine ⟨fun copy called => ?_, dequeues⟩
        simp only [enqueueCall] at called
        split at called
        · rename_i online
          obtain ⟨call, made, rfl⟩ := Option.map_eq_some_iff.mp called
          obtain ⟨loop, splitting, rfl⟩ := Option.map_eq_some_iff.mp made
          exact fits online loop splitting
        · cases called
  | connected => exact iff_of_true (internal (by simp) rfl) trivial
  | disconnected => exact iff_of_true (internal (by simp) rfl) trivial
  | cloudPoll => exact iff_of_true (internal (by simp) rfl) trivial
  | cloudSend => exact iff_of_true (internal (by simp) rfl) trivial
  | fkz9Poll => exact iff_of_true (internal (by simp) rfl) trivial
  | fkz9Send => exact iff_of_true (internal (by simp) rfl) trivial
  | navTimer segment => exact iff_of_true (internal (by simp) rfl) trivial
  | txPoll => exact iff_of_true (internal (by simp) rfl) trivial
  | txWrite => exact iff_of_true (internal (by simp) rfl) trivial

def heartbeatRespFrame : List UInt8 := [0xAA, 0xAA, 0, 7, 0x16, 1, 0x71]

/-- A frame waits in each queue, and a payload of several frames is being
split. -/
def queuedEvents : List LinkEvent :=
  [.connected, .tcpRead canFrame, .mqttMessage heartbeatRespFrame, .fkz9Poll,
    .fkz9Send, .mqttMessage heartbeatRespFrame,
    .mqttMessage (canFrame ++ canFrame)]

/-- Whether the three queues are empty and nothing is being split. -/
def queueSummary (link : Link) : List Bool :=
  [link.cloudQueue.head = link.cloudQueue.tail,
    link.fkz9Queue.head = link.fkz9Queue.tail,
    link.txQueue.head = link.txQueue.tail, link.splitting.isNone]

theorem queueCallsFit_queued : ∃ outputs link,
    (linkMachine exampleDevice).Reaches Machine.anyStep outputs link ∧
      queueSummary link = [false, false, false, false] ∧
      ∀ event, QueueCallsFit exampleDevice link event ↔
        EventFits link event := by
  have computed : ((linkMachine exampleDevice).run (fun _ _ => true)
      freshLink queuedEvents).map (fun result => queueSummary result.1) =
        some [false, false, false, false] := by
    decide +kernel
  obtain ⟨outputs, link, reached, queued⟩ :=
    Machine.Reaches.of_run (fun _ _ _ => trivial) freshLink_initial computed
  exact ⟨outputs, link, reached, queued, queueCallsFit_iff reached⟩

/-- The first read of 257 bytes overruns a slot of 256. -/
theorem long_read_overruns_slot :
    LinkInitial freshLink ∧
      ¬QueueCallsFit exampleDevice freshLink
        (.tcpRead (List.replicate 257 0)) := by
  refine ⟨freshLink_initial, fun fit => ?_⟩
  have bound : 257 ≤ 256 := fit.1 { len := 257, room := 256 } (by
    rw [enqueueCall, List.length_replicate])
  omega

end RtA100
