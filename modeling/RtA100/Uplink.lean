import RtA100.DeviceInfo
import RtA100.FrameProvenance
import RtA100.Handshake

/-!
# What the cloud receives

All parties put their frames on `tx_queue`, and send threads write them.
`tcp_client_event_cb` starts a send thread whenever a connection is made and
waits for none, so the thread of an earlier connection can still hold a message
while the next one is running; here there is any number of them.

Over any run, the frames that `send` has accepted are, in order, those that the
threads have taken and those that wait.  Each thread writes what it has taken,
whole, once each and in its order.  And each frame has an origin: one that the
device has built itself, a payload of MQTT that has passed the test of the
event thread, or a piece of a payload.
-/

namespace RtA100

open Library

/-! ## The send threads -/

/-- Where a send thread is in its loop. -/
inductive SendStage where
  | checks
  | polls
  | writes (len : Nat)
  | ended
deriving DecidableEq

structure SendThread where
  buf : Buffer 1400
  stage : SendStage

/-- The link with all its send threads; `txBuf` and `txLen` of the link are not
used. -/
structure Uplink where
  link : Link
  threads : List SendThread

inductive UplinkEvent where
  | party (event : LinkEvent)
  | connected
  | disconnected
  | sendThread (index : Nat)

inductive UplinkOutput where
  | party (output : LinkOutput)
  | taken (thread : Nat) (bytes : List UInt8)
  | written (thread : Nat) (bytes : List UInt8)

/-- The steps of the parties that call `send`, and of those that they read
from. -/
def LinkEvent.isParty : LinkEvent → Bool
  | .connected => false
  | .disconnected => false
  | .txPoll => false
  | .txWrite => false
  | _ => true

/-- `tcp_client_event_cb` for a connection; it does not wait for the send
thread of the one before. -/
def tcpClientEventCbConnected (uplink : Uplink) : Uplink :=
  if uplink.link.isConnected = false then
    { link := { uplink.link with isConnected := true }
      threads := uplink.threads ++
        [{ buf := Buffer.filled 1400 0, stage := .checks }] }
  else uplink

/-- `tcp_client_event_cb` for an error. -/
def tcpClientEventCbError (uplink : Uplink) : Uplink :=
  { uplink with link := { uplink.link with isConnected := false } }

def Uplink.setThread (uplink : Uplink) (index : Nat) (thread : SendThread) :
    Uplink :=
  { uplink with threads := uplink.threads.set index thread }

/-- `tcp_client_send_entry`, from one access of the shared data to the next:
the test of `is_connected`, the `dequeue` and the `bufferevent_write`. -/
def tcpClientSendEntry (uplink : Uplink) (index : Nat) :
    Option (Uplink × List UplinkOutput) := do
  let thread ← uplink.threads[index]?
  match thread.stage with
  | .checks =>
      let stage : SendStage :=
        if uplink.link.isConnected = true then .polls else .ended
      some (uplink.setThread index { thread with stage }, [])
  | .polls =>
      let (txQueue, buf, received) ← uplink.link.txQueue.dequeue thread.buf
      let link := { uplink.link with txQueue }
      match received with
      | none =>
          some ({ uplink with link }.setThread index { buf, stage := .checks },
            [])
      | some len =>
          some ({ uplink with link }.setThread index
            { buf, stage := .writes len }, [.taken index (buf.bytes.take len)])
  | .writes len =>
      let bytes ← readBytes thread.buf.bytes len
      some (uplink.setThread index { thread with stage := .checks },
        [.written index bytes])
  | .ended => none

def uplinkStep (device : Device) (uplink : Uplink) :
    UplinkEvent → Option (Uplink × List UplinkOutput)
  | .party event =>
      if event.isParty = true then
        (linkStep device uplink.link event).map fun (link, emitted) =>
          ({ uplink with link }, emitted.map .party)
      else none
  | .connected => some (tcpClientEventCbConnected uplink, [])
  | .disconnected => some (tcpClientEventCbError uplink, [])
  | .sendThread index => tcpClientSendEntry uplink index

/-- The link with its send threads as a machine. -/
def uplinkMachine (device : Device) :
    Machine Uplink UplinkEvent UplinkOutput :=
  { initial := fun uplink => LinkInitial uplink.link ∧ uplink.threads = []
    step := uplinkStep device }

/-! ## What an observer sees -/

def partyOutputs (outputs : List UplinkOutput) : List LinkOutput :=
  outputs.filterMap fun output =>
    match output with
    | .party output => some output
    | _ => none

/-- The frames that `send` has put on `tx_queue`, with their senders. -/
def queuedFrames (outputs : List LinkOutput) :
    List (Sender × List UInt8) :=
  outputs.filterMap fun output =>
    match output with
    | .queued sender frame => some (sender, frame)
    | _ => none

/-- The frames that `send` has accepted. -/
def sentFrames (outputs : List UplinkOutput) :
    List (Sender × List UInt8) :=
  queuedFrames (partyOutputs outputs)

/-- The messages that the threads have taken off the queue. -/
def takenFrames (outputs : List UplinkOutput) : List (Nat × List UInt8) :=
  outputs.filterMap fun output =>
    match output with
    | .taken thread bytes => some (thread, bytes)
    | _ => none

/-- The calls of `bufferevent_write`. -/
def writtenFrames (outputs : List UplinkOutput) : List (Nat × List UInt8) :=
  outputs.filterMap fun output =>
    match output with
    | .written thread bytes => some (thread, bytes)
    | _ => none

/-- The frames of one thread. -/
def framesOfThread (thread : Nat) (frames : List (Nat × List UInt8)) :
    List (List UInt8) :=
  (frames.filter (·.1 = thread)).map Prod.snd

/-- The message that a thread holds. -/
def SendThread.inHand (thread : SendThread) : List (List UInt8) :=
  match thread.stage with
  | .writes len => [thread.buf.bytes.take len]
  | _ => []

def handOf (threads : List SendThread) (index : Nat) : List (List UInt8) :=
  threads[index]?.elim [] SendThread.inHand

/-- Where a frame comes from. -/
def HasOrigin (device : Device) (outputs : List LinkOutput)
    (frame : List UInt8) : Sender → Prop
  | .onMessageCb => ∃ payload, .delivered payload ∈ outputs ∧
      frame <:+: payload
  | .fwToCloud => .delivered frame ∈ outputs ∧
      fkz9FrameTest frame = some true
  | .devInfoResp =>
      funcDevInfoResp device.services.info device.simId = some frame
  | .cloudEvent =>
      funcWaveFileResp device.services.info device.services.time = some frame
  | .navDataMsg => ∃ segment, navDataMsg segment = some frame

/-- Every accepted frame has its origin. -/
structure OriginsHold (device : Device) (outputs : List LinkOutput)
    (link : Link) (waiting : Waiting) : Prop where
  origins : ∀ call ∈ queuedFrames outputs,
    HasOrigin device outputs call.2 call.1
  answers : ∀ frame ∈ link.cloudSends,
    funcWaveFileResp device.services.info device.services.time = some frame
  splitting : ∀ loop, link.splitting = some loop →
    .delivered loop.payload ∈ outputs
  provenance : FramesProvenance outputs link waiting

/-- The accepted frames have been taken or wait, and each thread has written
what it has taken, but for the message that it holds. -/
structure UplinkHolds (device : Device) (outputs : List UplinkOutput)
    (uplink : Uplink) (waiting : Waiting) : Prop where
  represents : uplink.link.Represents waiting
  order : (sentFrames outputs).map Prod.snd =
    (takenFrames outputs).map Prod.snd ++ waiting.tx
  threads : ∀ index, framesOfThread index (takenFrames outputs) =
    framesOfThread index (writtenFrames outputs) ++ handOf uplink.threads index
  origins : OriginsHold device (partyOutputs outputs) uplink.link waiting

/-! ## Origins -/

@[simp] theorem queuedFrames_append (outputs emitted : List LinkOutput) :
    queuedFrames (outputs ++ emitted) =
      queuedFrames outputs ++ queuedFrames emitted :=
  List.filterMap_append

theorem HasOrigin.later {device : Device} {outputs : List LinkOutput}
    {frame : List UInt8} {sender : Sender}
    (origin : HasOrigin device outputs frame sender)
    (emitted : List LinkOutput) :
    HasOrigin device (outputs ++ emitted) frame sender := by
  cases sender with
  | onMessageCb =>
      obtain ⟨payload, delivered, part⟩ := origin
      exact ⟨payload, List.mem_append_left _ delivered, part⟩
  | fwToCloud => exact ⟨List.mem_append_left _ origin.1, origin.2⟩
  | devInfoResp => exact origin
  | cloudEvent => exact origin
  | navDataMsg => exact origin

section Parties

variable {device : Device} {outputs emitted : List LinkOutput}
  {link following : Link} {waiting after : Waiting}

/-- A step without a call of `send`. -/
theorem OriginsHold.quiet (holds : OriginsHold device outputs link waiting)
    (noSend : queuedFrames emitted = [])
    (answers : ∀ frame ∈ following.cloudSends,
      funcWaveFileResp device.services.info device.services.time = some frame)
    (splitting : ∀ loop, following.splitting = some loop →
      .delivered loop.payload ∈ outputs ++ emitted)
    (provenance : FramesProvenance (outputs ++ emitted) following after) :
    OriginsHold device (outputs ++ emitted) following after where
  origins call member := by
    rw [queuedFrames_append, noSend, List.append_nil] at member
    exact (holds.origins call member).later emitted
  answers
  splitting
  provenance

/-- A call of `send`, by a party whose frame has its origin. -/
theorem OriginsHold.sent (holds : OriginsHold device outputs link waiting)
    {call : SendCall} {sent : Link} {ret : Int}
    (sending : SendResult link waiting call sent after ret emitted)
    (origin : HasOrigin device outputs (call.data.take call.len)
      call.sender) :
    ∀ queued ∈ queuedFrames (outputs ++ emitted),
      HasOrigin device (outputs ++ emitted) queued.2 queued.1 := by
  intro queued member
  rw [queuedFrames_append] at member
  rcases List.mem_append.mp member with earlier | last
  · exact (holds.origins queued earlier).later _
  · cases sending with
    | offline _ => cases last
    | full _ _ => cases last
    | queued txQueue _ _ _ _ =>
        rw [show queued = (call.sender, call.data.take call.len) from
          List.mem_singleton.mp last]
        exact origin.later _

/-- A piece of a split payload is a segment of what was delivered. -/
theorem OriginsHold.pieceOrigin
    (holds : OriginsHold device outputs link waiting)
    {loop : SplitLoop} (inside : link.splitting = some loop) :
    HasOrigin device outputs (loop.call.data.take loop.call.len)
      loop.call.sender := by
  have delivered := holds.splitting loop inside
  have part : (loop.call.data.take loop.call.len) <:+: loop.payload :=
    (List.take_prefix _ _).isInfix.trans (List.drop_suffix _ _).isInfix
  exact ⟨loop.payload, delivered, part⟩

/-- The frame a handler of the FKZ9 thread hands to `send` has its origin. -/
theorem OriginsHold.handlerOrigin
    (holds : OriginsHold device outputs link waiting)
    {handler : Fkz9Handler} {call : SendCall}
    (chosen : link.fkz9Handler = some handler)
    (called : handler.call device link.fkz9Buf = some call) :
    HasOrigin device outputs (call.data.take call.len) call.sender := by
  cases handler with
  | devInfoResp =>
      obtain ⟨frame, built, result⟩ := Option.bind_eq_some_iff.mp called
      rw [← Option.some.inj result, List.take_length]
      exact built
  | msgFwToCloud =>
      obtain ⟨payload, checks, passed⟩ :=
        holds.provenance.chosen (by rw [chosen]; simp)
      rw [Fkz9Handler.call_msgFwToCloud called]
      simp only [checks.declared]
      rw [checks.content]
      exact ⟨checks.delivered, passed⟩

/-- The next turn of the splitting loop is over the same payload. -/
theorem SplitLoop.next_payload {loop next : SplitLoop}
    (later : loop.next = some next) : next.payload = loop.payload := by
  simp only [SplitLoop.next] at later
  split at later
  · cases later
    rfl
  · cases later

theorem OriginsHold.step {event : LinkEvent}
    (holds : OriginsHold device outputs link waiting)
    (transition :
      Transition device link waiting event following after emitted) :
    OriginsHold device (outputs ++ emitted) following after := by
  have provenance := holds.provenance.step transition
  have answers := holds.answers
  have splitting : ∀ loop, link.splitting = some loop →
      .delivered loop.payload ∈ outputs ++ emitted :=
    fun loop inside => List.mem_append_left _ (holds.splitting loop inside)
  cases transition with
  | connected | disconnected | readQueued | readDropped | heartbeat
  | frameQueued | frameDropped | pieceRefused | cloudIdle | fkz9Idle
  | fkz9Taken | txIdle | txTaken | txWritten =>
      exact holds.quiet rfl answers splitting provenance
  | split payload _ _ _ _ =>
      refine holds.quiet rfl answers ?_ provenance
      rintro loop ⟨⟩
      exact List.mem_append_right _ List.mem_cons_self
  | cloudTaken message rest fits _ _ outcome _ _ body =>
      have nothing : queuedFrames (outcome.toList.map .accepted) = [] := by
        cases outcome <;> rfl
      refine holds.quiet nothing (fun frame member => ?_) splitting provenance
      cases outcome with
      | none => exact absurd member List.not_mem_nil
      | some accepted => exact sendsOf_accepted body member
  | pieceSent loop sent _ _ inside sending =>
      have origins := holds.sent sending (holds.pieceOrigin inside)
      obtain ⟨_, _, rfl, rfl⟩ := sending.frame
      refine ⟨origins, answers, fun next later => ?_, provenance⟩
      rw [SplitLoop.next_payload later]
      exact splitting loop inside
  | cloudSent frame rest sent _ _ _ sends sending =>
      have built := answers frame (by rw [sends]; exact List.mem_cons_self)
      have origins := holds.sent sending (by
        rw [List.take_length]
        exact built)
      obtain ⟨_, _, rfl, rfl⟩ := sending.frame
      refine ⟨origins, fun other member => ?_, splitting, provenance⟩
      exact answers other (by rw [sends]; exact List.mem_cons_of_mem _ member)
  | fkz9Sent handler call sent _ _ _ chosen called sending =>
      have origin := holds.handlerOrigin chosen called
      have origins := holds.sent sending origin
      obtain ⟨_, _, rfl, rfl⟩ := sending.frame
      exact ⟨origins, answers, splitting, provenance⟩
  | navSent segment frame sent _ _ _ built sending =>
      have origins := holds.sent sending (by
        rw [List.take_length]
        exact ⟨segment, built⟩)
      obtain ⟨_, _, rfl, rfl⟩ := sending.frame
      exact ⟨origins, answers, splitting, provenance⟩

/-- What a call of `send` accepts is appended to the queue. -/
theorem SendResult.order {call : SendCall} {sent : Link} {ret : Int}
    (sending : SendResult link waiting call sent after ret emitted) :
    after.tx = waiting.tx ++ (queuedFrames emitted).map Prod.snd := by
  cases sending with
  | offline _ => exact (List.append_nil _).symm
  | full _ _ => exact (List.append_nil _).symm
  | queued txQueue _ _ _ _ => rfl

/-- The parties only append to the queue. -/
theorem Transition.order {event : LinkEvent} (party : event.isParty = true)
    (transition :
      Transition device link waiting event following after emitted) :
    after.tx = waiting.tx ++ (queuedFrames emitted).map Prod.snd := by
  cases transition with
  | connected | disconnected | txIdle | txTaken | txWritten => cases party
  | readQueued | readDropped | heartbeat | split | frameQueued | frameDropped
  | pieceRefused | cloudIdle | fkz9Idle | fkz9Taken =>
      exact (List.append_nil _).symm
  | cloudTaken _ _ _ _ _ outcome =>
      cases outcome <;> exact (List.append_nil _).symm
  | pieceSent _ _ _ _ _ sending => exact sending.order
  | cloudSent _ _ _ _ _ _ _ sending => exact sending.order
  | fkz9Sent _ _ _ _ _ _ _ _ sending => exact sending.order
  | navSent _ _ _ _ _ _ _ sending => exact sending.order

end Parties


/-! ## One step -/

section Steps

variable {device : Device} {outputs emitted : List UplinkOutput}
  {uplink following : Uplink} {waiting : Waiting}

@[simp] theorem partyOutputs_append (outputs emitted : List UplinkOutput) :
    partyOutputs (outputs ++ emitted) =
      partyOutputs outputs ++ partyOutputs emitted :=
  List.filterMap_append

@[simp] theorem takenFrames_append (outputs emitted : List UplinkOutput) :
    takenFrames (outputs ++ emitted) =
      takenFrames outputs ++ takenFrames emitted :=
  List.filterMap_append

@[simp] theorem writtenFrames_append (outputs emitted : List UplinkOutput) :
    writtenFrames (outputs ++ emitted) =
      writtenFrames outputs ++ writtenFrames emitted :=
  List.filterMap_append

@[simp] theorem framesOfThread_append (thread : Nat)
    (frames more : List (Nat × List UInt8)) :
    framesOfThread thread (frames ++ more) =
      framesOfThread thread frames ++ framesOfThread thread more := by
  simp [framesOfThread]

theorem framesOfThread_map (thread index : Nat) (frames : List (List UInt8)) :
    framesOfThread thread (frames.map (Prod.mk index)) =
      if index = thread then frames else [] := by
  by_cases same : index = thread <;>
    simp [framesOfThread, List.filter_map, Function.comp_def, same]

/-- The outputs of a party. -/
theorem party_frames (emitted : List LinkOutput) :
    partyOutputs (emitted.map .party) = emitted ∧
      takenFrames (emitted.map .party) = [] ∧
      writtenFrames (emitted.map .party) = [] := by
  refine ⟨?_, ?_, ?_⟩
  · exact List.filterMap_map.trans List.filterMap_some
  · exact List.filterMap_map.trans
      (List.filterMap_eq_nil_iff.mpr fun _ _ => rfl)
  · exact List.filterMap_map.trans
      (List.filterMap_eq_nil_iff.mpr fun _ _ => rfl)

/-- The outputs of a send thread. -/
theorem thread_frames (index : Nat) (took wrote : List (List UInt8)) :
    let emitted := took.map (UplinkOutput.taken index) ++
      wrote.map (UplinkOutput.written index)
    partyOutputs emitted = [] ∧
      takenFrames emitted = took.map (Prod.mk index) ∧
      writtenFrames emitted = wrote.map (Prod.mk index) := by
  intro emitted
  have silent {β : Type} (frames : List (List UInt8)) :
      frames.filterMap (fun _ => (none : Option β)) = [] :=
    List.filterMap_eq_nil_iff.mpr fun _ _ => rfl
  have shown (frames : List (List UInt8)) :
      frames.filterMap (fun bytes => some (index, bytes)) =
        frames.map (Prod.mk index) :=
    congrFun List.filterMap_eq_map' frames
  simp only [emitted, partyOutputs, takenFrames, writtenFrames,
    List.filterMap_append, List.filterMap_map, Function.comp_def, silent,
    shown, List.append_nil, List.nil_append, true_and]

theorem handOf_set {threads : List SendThread} {index : Nat}
    {thread : SendThread} (running : threads[index]? = some thread)
    (other : SendThread) (asked : Nat) :
    handOf (threads.set index other) asked =
      if index = asked then other.inHand else handOf threads asked := by
  obtain ⟨inside, _⟩ := List.getElem?_eq_some_iff.mp running
  unfold handOf
  rw [List.getElem?_set]
  by_cases same : index = asked
  · rw [if_pos same, if_pos same, if_pos inside]
    rfl
  · rw [if_neg same, if_neg same]

/-- A thread that is started holds nothing. -/
theorem handOf_started (threads : List SendThread) (buf : Buffer 1400)
    (index : Nat) :
    handOf (threads ++ [{ buf, stage := .checks }]) index =
      handOf threads index := by
  unfold handOf
  by_cases inside : index < threads.length
  · rw [List.getElem?_append_left inside]
  · rw [List.getElem?_append_right (Nat.le_of_not_lt inside),
      List.getElem?_eq_none (Nat.le_of_not_lt inside)]
    cases index - threads.length <;> rfl

/-- A step of a send thread takes what it takes off the queue, and holds what
it has taken until it has written it. -/
theorem tcpClientSendEntry_step {index : Nat}
    (represents : uplink.link.Represents waiting)
    (stepped : tcpClientSendEntry uplink index = some (following, emitted)) :
    ∃ thread other txQueue took wrote tx,
      uplink.threads[index]? = some thread ∧
      following =
        { link := { uplink.link with txQueue }
          threads := uplink.threads.set index other } ∧
      emitted = took.map (UplinkOutput.taken index) ++
        wrote.map (UplinkOutput.written index) ∧
      waiting.tx = took ++ tx ∧ txQueue.Represents tx ∧
      thread.inHand ++ took = wrote ++ other.inHand := by
  simp only [tcpClientSendEntry, Option.bind_eq_bind,
    Option.bind_eq_some_iff] at stepped
  obtain ⟨thread, running, stepped⟩ := stepped
  split at stepped
  · rename_i atTest
    obtain ⟨rfl, rfl⟩ := Prod.mk.inj (Option.some.inj stepped)
    have idle : thread.inHand = [] := by
      simp only [SendThread.inHand, atTest]
    refine ⟨thread, _, uplink.link.txQueue, [], [], waiting.tx, running, rfl,
      rfl, rfl, represents.tx, ?_⟩
    rw [idle]
    split <;> rfl
  · rename_i polling
    have idle : thread.inHand = [] := by
      simp only [SendThread.inHand, polling]
    obtain ⟨⟨txQueue, buf, received⟩, dequeued, stepped⟩ :=
      Option.bind_eq_some_iff.mp stepped
    rcases ThreadSafeQueue.dequeue_cases represents.tx dequeued with
      ⟨empty, rfl, rfl, rfl⟩ | ⟨message, rest, fits, pending, rfl, rfl, stored⟩
    · obtain ⟨rfl, rfl⟩ := Prod.mk.inj (Option.some.inj stepped)
      refine ⟨thread, _, uplink.link.txQueue, [], [], waiting.tx, running,
        rfl, rfl, rfl, represents.tx, ?_⟩
      rw [idle]
      rfl
    · have content :
          (thread.buf.overwrite message fits).bytes.take message.length =
            message := List.take_left
      simp only [content] at stepped
      obtain ⟨rfl, rfl⟩ := Prod.mk.inj (Option.some.inj stepped)
      refine ⟨thread, _, txQueue, [message], [], rest, running, rfl, rfl,
        pending, stored, ?_⟩
      rw [idle]
      exact congrArg (fun held => [held]) content.symm
  · rename_i len writing
    obtain ⟨bytes, read, stepped⟩ := Option.bind_eq_some_iff.mp stepped
    obtain ⟨rfl, rfl⟩ := Prod.mk.inj (Option.some.inj stepped)
    unfold readBytes at read
    split at read
    · cases read
      refine ⟨thread, _, uplink.link.txQueue, [], [_], waiting.tx, running,
        rfl, rfl, rfl, represents.tx, ?_⟩
      simp only [SendThread.inHand, writing, List.append_nil]
    · cases read
  · cases stepped

/-- A step that emits nothing and lets every thread keep its message. -/
theorem UplinkHolds.kept (holds : UplinkHolds device outputs uplink waiting)
    {isConnected : Bool} {threads : List SendThread}
    (kept : ∀ index, handOf threads index = handOf uplink.threads index) :
    UplinkHolds device (outputs ++ [])
      { link := { uplink.link with isConnected }, threads } waiting := by
  rw [List.append_nil]
  exact
    { represents := ⟨holds.represents.cloud, holds.represents.fkz9,
        holds.represents.tx⟩
      order := holds.order
      threads := fun index => by
        rw [kept]
        exact holds.threads index
      origins := ⟨holds.origins.origins, holds.origins.answers,
        holds.origins.splitting, holds.origins.provenance.queueable,
        holds.origins.provenance.chosen⟩ }

theorem UplinkHolds.party {event : LinkEvent} {link : Link}
    {emitted : List LinkOutput}
    (holds : UplinkHolds device outputs uplink waiting)
    (party : event.isParty = true)
    (stepped : linkStep device uplink.link event = some (link, emitted)) :
    ∃ after, UplinkHolds device (outputs ++ emitted.map .party)
      { uplink with link } after := by
  obtain ⟨after, represents, transition⟩ :=
    linkStep_transition holds.represents stepped
  obtain ⟨parties, taken, written⟩ := party_frames emitted
  refine ⟨after, represents, ?_, fun index => ?_, ?_⟩
  · have order := holds.order
    rw [sentFrames, partyOutputs_append, parties, queuedFrames_append,
      takenFrames_append, taken, List.append_nil, List.map_append,
      transition.order party, ← List.append_assoc, ← order]
    rfl
  · rw [takenFrames_append, writtenFrames_append, taken, written,
      List.append_nil, List.append_nil, holds.threads]
  · rw [partyOutputs_append, parties]
    exact holds.origins.step transition

theorem UplinkHolds.thread {index : Nat}
    (holds : UplinkHolds device outputs uplink waiting)
    (stepped : tcpClientSendEntry uplink index = some (following, emitted)) :
    ∃ after, UplinkHolds device (outputs ++ emitted) following after := by
  obtain ⟨thread, other, txQueue, took, wrote, tx, running, rfl, rfl, pending,
    stored, conserved⟩ := tcpClientSendEntry_step holds.represents stepped
  obtain ⟨parties, taken, written⟩ := thread_frames index took wrote
  refine ⟨{ waiting with tx }, ⟨holds.represents.cloud,
    holds.represents.fkz9, stored⟩, ?_, fun asked => ?_, ?_⟩
  · have order := holds.order
    rw [pending, ← List.append_assoc] at order
    rw [sentFrames, partyOutputs_append, parties, List.append_nil,
      takenFrames_append, taken, List.map_append, List.map_map]
    simpa [Function.comp_def, sentFrames] using order
  · have threads := holds.threads asked
    rw [takenFrames_append, writtenFrames_append, framesOfThread_append,
      framesOfThread_append, taken, written, framesOfThread_map,
      framesOfThread_map, threads, handOf_set running]
    by_cases same : index = asked
    · subst same
      have held : handOf uplink.threads index = thread.inHand := by
        rw [handOf, running]
        rfl
      rw [if_pos rfl, if_pos rfl, if_pos rfl, held, List.append_assoc,
        conserved, List.append_assoc]
    · rw [if_neg same, if_neg same, if_neg same, List.append_nil,
        List.append_nil]
  · rw [partyOutputs_append, parties, List.append_nil]
    exact ⟨holds.origins.origins, holds.origins.answers,
      holds.origins.splitting, holds.origins.provenance.queueable,
      holds.origins.provenance.chosen⟩

theorem UplinkHolds.step {event : UplinkEvent}
    (holds : UplinkHolds device outputs uplink waiting)
    (stepped : uplinkStep device uplink event = some (following, emitted)) :
    ∃ after, UplinkHolds device (outputs ++ emitted) following after := by
  cases event with
  | party event =>
      rw [uplinkStep] at stepped
      split at stepped
      · rename_i party
        obtain ⟨⟨link, sent⟩, linked, result⟩ :=
          Option.map_eq_some_iff.mp stepped
        cases result
        exact holds.party party linked
      · cases stepped
  | connected =>
      cases stepped
      refine ⟨waiting, ?_⟩
      unfold tcpClientEventCbConnected
      split
      · exact holds.kept (handOf_started uplink.threads _)
      · rw [List.append_nil]
        exact holds
  | disconnected =>
      cases stepped
      exact ⟨waiting, holds.kept fun _ => rfl⟩
  | sendThread index => exact holds.thread stepped

end Steps

theorem UplinkHolds.initial {device : Device} {uplink : Uplink}
    (starts : (uplinkMachine device).initial uplink) :
    UplinkHolds device [] uplink { cloud := [], fkz9 := [], tx := [] } := by
  obtain ⟨link, threads⟩ := starts
  refine ⟨link.represents, rfl, fun index => ?_, ?_⟩
  · rw [threads]
    rfl
  · have provenance := FramesProvenance.initial link
    obtain ⟨_, _, _, _, same⟩ := link
    rw [same] at provenance ⊢
    exact ⟨nofun, nofun, nofun, provenance⟩

theorem uplinkHolds_reached {device : Device} {outputs : List UplinkOutput}
    {uplink : Uplink}
    (reached : (uplinkMachine device).Reaches Machine.anyStep outputs
      uplink) :
    ∃ waiting, UplinkHolds device outputs uplink waiting := by
  refine @Machine.invariant _ _ _ (uplinkMachine device) Machine.anyStep
    (fun outputs uplink => ∃ waiting, UplinkHolds device outputs uplink
      waiting) ?_ ?_ _ _ reached
  · exact fun uplink starts => ⟨_, .initial starts⟩
  · rintro outputs uplink event following emitted ⟨waiting, holds⟩ _ stepped
    exact holds.step stepped

/-! ## One thread at a time -/

/-- A connection is made only when every send thread before it has ended. -/
def ThreadsInTurn (uplink : Uplink) : UplinkEvent → Prop
  | .connected => ∀ thread ∈ uplink.threads, thread.stage = .ended
  | _ => True

/-- All threads but one have ended, and what has been taken is written in that
order, but for what that one holds. -/
structure InTurn (outputs : List UplinkOutput) (uplink : Uplink) : Prop where
  live : ∃ past current, uplink.threads = past ++ current ∧
    current.length ≤ 1 ∧ ∀ thread ∈ past, thread.stage = .ended
  order : (takenFrames outputs).map Prod.snd =
    (writtenFrames outputs).map Prod.snd ++
      uplink.threads.flatMap SendThread.inHand

theorem ended_inHand {threads : List SendThread}
    (ended : ∀ thread ∈ threads, thread.stage = .ended) :
    threads.flatMap SendThread.inHand = [] := by
  rw [List.flatMap_eq_nil_iff]
  intro thread member
  rw [SendThread.inHand, ended thread member]

/-- A thread that takes a step has not ended. -/
theorem tcpClientSendEntry_running {uplink : Uplink} {index : Nat}
    {result : Uplink × List UplinkOutput}
    (stepped : tcpClientSendEntry uplink index = some result)
    {thread : SendThread} (running : uplink.threads[index]? = some thread) :
    thread.stage ≠ .ended := by
  intro ended
  simp only [tcpClientSendEntry, running, ended, Option.bind_eq_bind,
    Option.bind_some] at stepped
  cases stepped

section Turns

variable {device : Device} {outputs emitted : List UplinkOutput}
  {uplink following : Uplink}

theorem InTurn.connected (inTurn : InTurn outputs uplink)
    (ended : ∀ thread ∈ uplink.threads, thread.stage = .ended) :
    InTurn outputs (tcpClientEventCbConnected uplink) := by
  unfold tcpClientEventCbConnected
  split
  · refine ⟨⟨uplink.threads, _, rfl, Nat.le_refl 1, ended⟩, ?_⟩
    rw [inTurn.order, List.flatMap_append]
    exact congrArg _ (List.append_nil _).symm
  · exact inTurn

theorem InTurn.thread {index : Nat} {waiting : Waiting}
    (inTurn : InTurn outputs uplink)
    (represents : uplink.link.Represents waiting)
    (stepped : tcpClientSendEntry uplink index = some (following, emitted)) :
    InTurn (outputs ++ emitted) following := by
  obtain ⟨thread, other, txQueue, took, wrote, tx, running, rfl, rfl, _, _,
    conserved⟩ := tcpClientSendEntry_step represents stepped
  obtain ⟨_, taken, written⟩ := thread_frames index took wrote
  obtain ⟨past, current, threads, single, ended⟩ := inTurn.live
  have behind : past.length ≤ index := by
    refine Nat.le_of_not_lt fun inside => ?_
    have member : thread ∈ past := by
      rw [threads, List.getElem?_append_left inside] at running
      exact List.mem_of_getElem? running
    exact tcpClientSendEntry_running stepped running (ended thread member)
  have found : current[index - past.length]? = some thread := by
    rw [threads, List.getElem?_append_right behind] at running
    exact running
  obtain ⟨inside, _⟩ := List.getElem?_eq_some_iff.mp found
  obtain ⟨only, rfl⟩ := List.length_eq_one_iff.mp
    (Nat.le_antisymm single (Nat.lt_of_le_of_lt (Nat.zero_le _) inside))
  have place : index - past.length = 0 := Nat.lt_one_iff.mp inside
  rw [place] at found
  obtain rfl : only = thread := Option.some.inj found
  have changed : uplink.threads.set index other = past ++ [other] := by
    rw [threads, List.set_append_right index other behind, place]
    rfl
  refine ⟨⟨past, [other], changed, Nat.le_refl 1, ended⟩, ?_⟩
  have order := inTurn.order
  rw [threads, List.flatMap_append, ended_inHand ended, List.nil_append,
    List.flatMap_singleton] at order
  simp only [changed, List.flatMap_append, ended_inHand ended,
    List.nil_append, List.flatMap_singleton, takenFrames_append,
    writtenFrames_append, taken, written, List.map_append, List.map_map,
    Function.comp_def, List.map_id', order, List.append_assoc, conserved]

theorem InTurn.step {event : UplinkEvent} {waiting : Waiting}
    (inTurn : InTurn outputs uplink)
    (represents : uplink.link.Represents waiting)
    (turns : ThreadsInTurn uplink event)
    (stepped : uplinkStep device uplink event = some (following, emitted)) :
    InTurn (outputs ++ emitted) following := by
  cases event with
  | party event =>
      rw [uplinkStep] at stepped
      split at stepped
      · obtain ⟨⟨link, sent⟩, _, result⟩ := Option.map_eq_some_iff.mp stepped
        cases result
        obtain ⟨_, taken, written⟩ := party_frames sent
        refine ⟨inTurn.live, ?_⟩
        rw [takenFrames_append, writtenFrames_append, taken, written,
          List.append_nil, List.append_nil]
        exact inTurn.order
      · cases stepped
  | connected =>
      cases stepped
      rw [List.append_nil]
      exact inTurn.connected turns
  | disconnected =>
      cases stepped
      rw [List.append_nil]
      exact ⟨inTurn.live, inTurn.order⟩
  | sendThread index => exact inTurn.thread represents stepped

theorem inTurn_reached
    (reached : (uplinkMachine device).Reaches ThreadsInTurn outputs uplink) :
    InTurn outputs uplink := by
  have holds : ∃ waiting, UplinkHolds device outputs uplink waiting ∧
      InTurn outputs uplink := by
    refine @Machine.invariant _ _ _ (uplinkMachine device) ThreadsInTurn
      (fun outputs uplink => ∃ waiting,
        UplinkHolds device outputs uplink waiting ∧ InTurn outputs uplink)
      ?_ ?_ _ _ reached
    · intro uplink starts
      refine ⟨_, .initial starts, ⟨[], [], starts.2, Nat.zero_le 1, nofun⟩, ?_⟩
      rw [starts.2]
      rfl
    · rintro outputs uplink event following emitted
        ⟨waiting, holds, inTurn⟩ turns stepped
      obtain ⟨after, later⟩ := holds.step stepped
      exact ⟨after, later, inTurn.step holds.represents turns stepped⟩
  obtain ⟨_, _, inTurn⟩ := holds
  exact inTurn

end Turns

/-! ## Runs -/

/-- In every run, whatever connections are made and broken and however many
send threads there are: the accepted frames are in order those that have been
taken and those that wait, each thread has written what it has taken but for
the message that it holds, and every frame has its origin.  When no thread
outlives its connection, all that has been taken is written in its order. -/
theorem uplink_conserved {device : Device} {outputs : List UplinkOutput}
    {uplink : Uplink}
    (reached : (uplinkMachine device).Reaches Machine.anyStep outputs
      uplink) :
    ∃ pending, uplink.link.txQueue.Represents pending ∧
      (sentFrames outputs).map Prod.snd =
        (takenFrames outputs).map Prod.snd ++ pending ∧
      (∀ index, framesOfThread index (takenFrames outputs) =
        framesOfThread index (writtenFrames outputs) ++
          handOf uplink.threads index) ∧
      (∀ call ∈ sentFrames outputs,
        HasOrigin device (partyOutputs outputs) call.2 call.1) ∧
      ((uplinkMachine device).Reaches ThreadsInTurn outputs uplink →
        (takenFrames outputs).map Prod.snd =
          (writtenFrames outputs).map Prod.snd ++
            uplink.threads.flatMap SendThread.inHand) := by
  obtain ⟨waiting, holds⟩ := uplinkHolds_reached reached
  exact ⟨waiting.tx, holds.represents.tx, holds.order, holds.threads,
    holds.origins.origins, fun turns => (inTurn_reached turns).order⟩

/-- What is written has been taken, and accepted before that. -/
theorem UplinkHolds.accepted {device : Device} {outputs : List UplinkOutput}
    {uplink : Uplink} {waiting : Waiting}
    (holds : UplinkHolds device outputs uplink waiting) {thread : Nat}
    {bytes : List UInt8} (written : (thread, bytes) ∈ writtenFrames outputs) :
    ∃ (index : Nat) (sender : Sender),
      (takenFrames outputs)[index]? = some (thread, bytes) ∧
      (sentFrames outputs)[index]? = some (sender, bytes) := by
  have listed : bytes ∈ framesOfThread thread (takenFrames outputs) := by
    rw [holds.threads]
    exact List.mem_append_left _ (List.mem_map.mpr
      ⟨_, List.mem_filter.mpr ⟨written, by simp⟩, rfl⟩)
  obtain ⟨⟨other, frame⟩, kept, (rfl : frame = bytes)⟩ :=
    List.mem_map.mp listed
  obtain ⟨member, same⟩ := List.mem_filter.mp kept
  obtain rfl : other = thread := by simpa using same
  obtain ⟨index, inside, taken⟩ := List.mem_iff_getElem.mp member
  have first : ((sentFrames outputs).map Prod.snd)[index]? =
      some frame := by
    rw [holds.order, List.getElem?_append_left (by simpa using inside),
      List.getElem?_map, List.getElem?_eq_getElem inside, taken]
    rfl
  rw [List.getElem?_map] at first
  obtain ⟨⟨sender, _⟩, accepted, rfl⟩ := Option.map_eq_some_iff.mp first
  exact ⟨index, sender,
    (List.getElem?_eq_getElem inside).trans (congrArg some taken), accepted⟩

/-- A device that has been started for a row that can be reported tells the
cloud that row: whatever a thread writes has been accepted and taken, and what
`func_dev_info_resp` has sent is decoded to the row, in every run. -/
theorem deviceInfo_told {environment : InitEnvironment} {row : DeviceRow}
    {upTime : LineField} {before base : DevBaseRecord} {device : Device}
    (prints : PrintsRow environment row upTime)
    (started : initUpdaterEnvironment environment before = some (base, 0))
    (reportable : row.Reportable upTime)
    (sameInfo : device.services.info = base.info)
    (idBound : device.simId.length ≤ 20) (idString : 0 ∉ device.simId)
    {outputs : List UplinkOutput} {uplink : Uplink}
    (reached : (uplinkMachine device).Reaches Machine.anyStep outputs uplink)
    {thread : Nat} {bytes : List UInt8}
    (written : (thread, bytes) ∈ writtenFrames outputs) :
    (∃ (index : Nat) (sender : Sender),
      (takenFrames outputs)[index]? = some (thread, bytes) ∧
        (sentFrames outputs)[index]? = some (sender, bytes)) ∧
      ((.devInfoResp, bytes) ∈ sentFrames outputs →
        ∃ data, decodeDevInfo bytes = some data ∧
          data.Tells row device.simId) := by
  obtain ⟨waiting, holds⟩ := uplinkHolds_reached reached
  refine ⟨holds.accepted written, fun answer => ?_⟩
  have built : funcDevInfoResp device.services.info device.simId =
      some bytes := holds.origins.origins _ answer
  obtain ⟨other, otherFrame, data, again, sent, read, tells⟩ :=
    reportable.reported prints before idBound idString
  rw [started, Option.some.injEq, Prod.mk.injEq] at again
  rw [← again.1, ← sameInfo, built, Option.some.injEq] at sent
  exact ⟨data, sent ▸ read, tells⟩

/-! ## Two threads -/

/-- The device of the example row. -/
def exampleRowDevice : Device :=
  { services :=
      { exampleServices with
        info :=
          { devAddr := 2002, cpuSw := 16, cpuHw := 17, adSw := 32, adHw := 33
            ctrlSw := 48, ctrlHw := 49, netSw := 64, netHw := 255 } }
    simId := [0x38, 0x39] }

def freshUplink : Uplink :=
  { link := freshLink, threads := [] }

/-- The first heartbeat response is answered and the answer is taken; then the
connection breaks, and the thread of the next one writes a navigation frame
before the answer is written. -/
def uplinkEvents : List UplinkEvent :=
  [.connected, .party (.mqttMessage heartbeatRespFrame), .party .fkz9Poll,
    .party .fkz9Send, .sendThread 0, .sendThread 0, .disconnected, .connected,
    .party (.navTimer (Buffer.filled navDataSegSize 0)), .sendThread 1,
    .sendThread 1, .sendThread 1, .sendThread 0]

/-- The senders of the accepted frames, and the threads that take and write. -/
def uplinkSummary (outputs : List UplinkOutput) :
    List Sender × List Nat × List Nat :=
  ((sentFrames outputs).map Prod.fst, (takenFrames outputs).map Prod.fst,
    (writtenFrames outputs).map Prod.fst)

/-- The two threads take in one order and write in the other. -/
theorem uplinkEvents_reached : ∃ outputs uplink,
    (uplinkMachine exampleRowDevice).Reaches Machine.anyStep outputs uplink ∧
      uplinkSummary outputs =
        ([.devInfoResp, .navDataMsg], [0, 1], [1, 0]) := by
  have starts : (uplinkMachine exampleRowDevice).initial freshUplink :=
    ⟨freshLink_initial, rfl⟩
  have computed : ((uplinkMachine exampleRowDevice).run (fun _ _ => true)
      freshUplink uplinkEvents).map
        (fun result => uplinkSummary result.2) =
      some ([.devInfoResp, .navDataMsg], [0, 1], [1, 0]) := by
    decide +kernel
  exact Machine.Reaches.of_run (fun _ _ _ => trivial) starts computed

/-- The same frames, where the first thread has written its message and ended
before the second connection. -/
def inTurnEvents : List UplinkEvent :=
  [.connected, .party (.mqttMessage heartbeatRespFrame), .party .fkz9Poll,
    .party .fkz9Send, .sendThread 0, .sendThread 0, .sendThread 0,
    .disconnected, .sendThread 0, .connected,
    .party (.navTimer (Buffer.filled navDataSegSize 0)), .sendThread 1,
    .sendThread 1]

def inTurnCheck (uplink : Uplink) : UplinkEvent → Bool
  | .connected => uplink.threads.all fun thread => thread.stage = .ended
  | _ => true

theorem inTurnCheck_sound (uplink : Uplink) (event : UplinkEvent)
    (checked : inTurnCheck uplink event = true) :
    ThreadsInTurn uplink event := by
  cases event with
  | connected =>
      intro thread member
      exact of_decide_eq_true (List.all_eq_true.mp checked thread member)
  | _ => trivial

theorem inTurnEvents_reached : ∃ outputs uplink,
    (uplinkMachine exampleRowDevice).Reaches ThreadsInTurn outputs uplink ∧
      uplinkSummary outputs =
        ([.devInfoResp, .navDataMsg], [0, 1], [0]) := by
  have starts : (uplinkMachine exampleRowDevice).initial freshUplink :=
    ⟨freshLink_initial, rfl⟩
  have computed : ((uplinkMachine exampleRowDevice).run inTurnCheck
      freshUplink inTurnEvents).map
        (fun result => uplinkSummary result.2) =
      some ([.devInfoResp, .navDataMsg], [0, 1], [0]) := by
    decide +kernel
  exact Machine.Reaches.of_run inTurnCheck_sound starts computed

/-- Two threads that overlap, and two that do not. -/
theorem uplink_conserved_twoThreads :
    (∃ outputs uplink pending,
      (uplinkMachine exampleRowDevice).Reaches Machine.anyStep outputs
          uplink ∧
        uplinkSummary outputs =
          ([.devInfoResp, .navDataMsg], [0, 1], [1, 0]) ∧
        (sentFrames outputs).map Prod.snd =
          (takenFrames outputs).map Prod.snd ++ pending ∧
        ∀ index, framesOfThread index (takenFrames outputs) =
          framesOfThread index (writtenFrames outputs) ++
            handOf uplink.threads index) ∧
      ∃ outputs uplink,
        (uplinkMachine exampleRowDevice).Reaches ThreadsInTurn outputs
            uplink ∧
          uplinkSummary outputs =
            ([.devInfoResp, .navDataMsg], [0, 1], [0]) ∧
          (takenFrames outputs).map Prod.snd =
            (writtenFrames outputs).map Prod.snd ++
              uplink.threads.flatMap SendThread.inHand := by
  constructor
  · obtain ⟨outputs, uplink, reached, summary⟩ := uplinkEvents_reached
    obtain ⟨pending, _, order, threads, _⟩ := uplink_conserved reached
    exact ⟨outputs, uplink, pending, reached, summary, order, threads⟩
  · obtain ⟨outputs, uplink, reached, summary⟩ := inTurnEvents_reached
    obtain ⟨_, _, _, _, _, turns⟩ :=
      uplink_conserved (reached.mono fun _ _ _ => trivial)
    exact ⟨outputs, uplink, reached, summary, turns reached⟩

/-- The frame that the first thread writes last tells the row. -/
theorem deviceInfo_told_overlapping : ∃ outputs uplink bytes data,
    (uplinkMachine exampleRowDevice).Reaches Machine.anyStep outputs uplink ∧
      uplinkSummary outputs =
        ([.devInfoResp, .navDataMsg], [0, 1], [1, 0]) ∧
      (0, bytes) ∈ writtenFrames outputs ∧
      decodeDevInfo bytes = some data ∧
      data.Tells exampleRow exampleRowDevice.simId := by
  obtain ⟨outputs, uplink, reached, summary⟩ := uplinkEvents_reached
  obtain ⟨senders, rest⟩ := Prod.mk.inj summary
  obtain ⟨takers, writers⟩ := Prod.mk.inj rest
  have writes : 0 ∈ (writtenFrames outputs).map Prod.fst := by
    rw [writers]
    decide
  obtain ⟨⟨_, bytes⟩, written, rfl⟩ := List.mem_map.mp writes
  have started : ∃ base : DevBaseRecord,
      initUpdaterEnvironment exampleEnvironment clearedDevBase =
          some (base, 0) ∧
        exampleRowDevice.services.info = base.info := ⟨_, rfl, rfl⟩
  obtain ⟨base, started, same⟩ := started
  obtain ⟨⟨index, sender, taken, accepted⟩, told⟩ :=
    deviceInfo_told exampleEnvironment_prints started exampleRow_reportable
      same (by decide) (by decide) reached written
  have takes : ((takenFrames outputs).map Prod.fst)[index]? = some 0 := by
    rw [List.getElem?_map, taken]
    rfl
  have sends : ((sentFrames outputs).map Prod.fst)[index]? =
      some sender := by
    rw [List.getElem?_map, accepted]
    rfl
  rw [takers] at takes
  rw [senders] at sends
  match index with
  | 0 =>
      obtain rfl : Sender.devInfoResp = sender := Option.some.inj sends
      obtain ⟨data, read, tells⟩ := told (List.mem_of_getElem? accepted)
      exact ⟨outputs, uplink, bytes, data, reached, summary, written, read,
        tells⟩
  | 1 => exact absurd takes (by decide)
  | _ + 2 => exact absurd takes (by simp)

end RtA100
