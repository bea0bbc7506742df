import RtA100.LinkTransitions
import RtA100.QueueFifo

/-!
# Frames on the wire

Any number of threads call the TCP client's `send` while one send thread takes
messages from `tx_queue` and hands them to `bufferevent_write`.  A step is one
call, one `dequeue` or one write, so a run is an interleaving of them.  While
the client stays connected, what has been written, what the send thread holds
and what waits in the queue are the accepted messages, in order.
-/

namespace RtA100

open Library

/-- What `send` and the send thread share; `len` is the length of a message
that the thread holds in its buffer. -/
structure Wire where
  isConnected : Bool
  txQueue : ThreadSafeQueue 1400
  txBuf : Buffer 1400
  len : Option Nat

inductive WireEvent where
  | send (thread : Nat) (data : List UInt8) (len : Nat)
  | poll
  | write

inductive WireOutput where
  | accepted (message : List UInt8)
  | written (bytes : List UInt8)
deriving DecidableEq

/-- `tcp_client_send`. -/
def wireSend (wire : Wire) (data : List UInt8) (len : Nat) :
    Option (Wire × Int × List WireOutput) := do
  if wire.isConnected = false then
    return (wire, 0, [])
  let (txQueue, ret) ← wire.txQueue.enqueue data len
  return ({ wire with txQueue }, ret,
    if ret = 0 then [.accepted (data.take len)] else [])

/-- The loop of `tcp_client_send_entry`: the test and the `dequeue` of an
iteration are one step, its `bufferevent_write` another. -/
def wireStep (wire : Wire) : WireEvent → Option (Wire × List WireOutput)
  | .send _ data len => do
      let (wire, _, outputs) ← wireSend wire data len
      some (wire, outputs)
  | .poll => do
      if wire.isConnected = false ∨ wire.len ≠ none then
        none
      else
        let (txQueue, txBuf, len) ← wire.txQueue.dequeue wire.txBuf
        some ({ wire with txQueue, txBuf, len }, [])
  | .write => do
      let len ← wire.len
      let bytes ← readBytes wire.txBuf.bytes len
      some ({ wire with len := none }, [.written bytes])

/-- A connected client whose send thread starts, with messages left in the
queue by an earlier connection. -/
def WireInitial (earlier : List (List UInt8)) (wire : Wire) : Prop :=
  wire.isConnected = true ∧ wire.txQueue.Represents earlier ∧
    wire.txBuf = Buffer.filled 1400 0 ∧ wire.len = none

def wireMachine (earlier : List (List UInt8)) :
    Machine Wire WireEvent WireOutput :=
  { initial := WireInitial earlier
    step := wireStep }

def acceptedMessages (outputs : List WireOutput) : List (List UInt8) :=
  outputs.filterMap fun output =>
    match output with
    | .accepted message => some message
    | .written _ => none

def wireWrites (outputs : List WireOutput) : List (List UInt8) :=
  outputs.filterMap fun output =>
    match output with
    | .accepted _ => none
    | .written bytes => some bytes

/-- The bytes passed to `bufferevent_write`. -/
def wireStream (outputs : List WireOutput) : List UInt8 :=
  (wireWrites outputs).flatten

/-- The message in the send thread's buffer. -/
def Wire.inHand (wire : Wire) : List (List UInt8) :=
  wire.len.toList.map fun len => wire.txBuf.bytes.take len

/-- A call with a message that fits, and the send thread, can take a step. -/
def Wire.Enabled (wire : Wire) : Prop :=
  (∀ thread data len, len ≤ 1400 → len ≤ data.length →
    (wireStep wire (.send thread data len)).isSome = true) ∧
  ((wireStep wire .poll).isSome = true ∨
    (wireStep wire .write).isSome = true)

/-- Accepted messages are written, in hand or waiting, in this order. -/
structure Conserved (earlier : List (List UInt8))
    (outputs : List WireOutput) (wire : Wire)
    (pending : List (List UInt8)) : Prop where
  online : wire.isConnected = true
  represents : wire.txQueue.Represents pending
  held : ∀ len, wire.len = some len → len ≤ 1400
  order : earlier ++ acceptedMessages outputs =
    wireWrites outputs ++ wire.inHand ++ pending

theorem Conserved.initial {earlier : List (List UInt8)} {wire : Wire}
    (starts : WireInitial earlier wire) :
    Conserved earlier [] wire earlier := by
  obtain ⟨online, represents, _, idle⟩ := starts
  refine ⟨online, represents, ?_, ?_⟩
  · simp [idle]
  · simp [acceptedMessages, wireWrites, Wire.inHand, idle]

theorem Conserved.send {earlier pending : List (List UInt8)}
    {outputs emitted : List WireOutput} {wire following : Wire}
    (conserved : Conserved earlier outputs wire pending)
    {data : List UInt8} {len : Nat} {ret : Int}
    (result : wireSend wire data len = some (following, ret, emitted)) :
    ∃ after, Conserved earlier (outputs ++ emitted) following after := by
  obtain ⟨online, represents, held, order⟩ := conserved
  unfold wireSend at result
  rw [if_neg (by simp [online])] at result
  simp only [Option.pure_def, Option.bind_eq_bind, Option.bind_eq_some_iff,
    Prod.exists, Option.some.injEq, Prod.mk.injEq] at result
  obtain ⟨txQueue, status, enqueued, rfl, rfl, rfl⟩ := result
  rcases ThreadSafeQueue.enqueue_cases (by omega) represents enqueued with
    ⟨_, rfl, rfl⟩ | ⟨_, _, _, rfl, stored⟩
  · refine ⟨pending, online, represents, held, ?_⟩
    simpa using order
  · refine ⟨pending ++ [data.take len], online, stored, held, ?_⟩
    simp only [acceptedMessages, wireWrites, List.filterMap_append] at *
    rw [← List.append_assoc, order]
    simp [Wire.inHand]

theorem Conserved.poll {earlier pending : List (List UInt8)}
    {outputs emitted : List WireOutput} {wire following : Wire}
    (conserved : Conserved earlier outputs wire pending)
    (result : wireStep wire .poll = some (following, emitted)) :
    ∃ after, Conserved earlier (outputs ++ emitted) following after := by
  obtain ⟨online, represents, held, order⟩ := conserved
  simp only [wireStep] at result
  split at result
  · cases result
  · rename_i enabled
    have idle : wire.len = none := by
      simpa using (not_or.mp enabled).2
    simp only [Option.bind_eq_bind, Option.bind_eq_some_iff, Prod.exists,
      Option.some.injEq, Prod.mk.injEq] at result
    obtain ⟨txQueue, txBuf, len, dequeued, rfl, rfl⟩ := result
    rcases ThreadSafeQueue.dequeue_cases represents dequeued with
      ⟨rfl, rfl, rfl, rfl⟩ | ⟨message, rest, fits, rfl, rfl, rfl, stored⟩
    · refine ⟨[], online, represents, by simp, ?_⟩
      simpa [Wire.inHand, idle] using order
    · refine ⟨rest, online, stored, ?_, ?_⟩
      · rintro len same
        rw [← Option.some.inj same]
        exact fits
      · simpa [Wire.inHand, idle] using order

theorem Conserved.write {earlier pending : List (List UInt8)}
    {outputs emitted : List WireOutput} {wire following : Wire}
    (conserved : Conserved earlier outputs wire pending)
    (result : wireStep wire .write = some (following, emitted)) :
    Conserved earlier (outputs ++ emitted) following pending := by
  obtain ⟨online, represents, held, order⟩ := conserved
  simp only [wireStep, Option.bind_eq_bind, Option.bind_eq_some_iff,
    Option.some.injEq, Prod.mk.injEq] at result
  obtain ⟨len, busy, bytes, read, rfl, rfl⟩ := result
  have taken : bytes = wire.txBuf.bytes.take len := by
    unfold readBytes at read
    split at read
    · exact (Option.some.inj read).symm
    · cases read
  refine ⟨online, represents, by simp, ?_⟩
  simp only [acceptedMessages, wireWrites, List.filterMap_append] at *
  simpa [Wire.inHand, busy, taken] using order

theorem Conserved.enabled {earlier pending : List (List UInt8)}
    {outputs : List WireOutput} {wire : Wire}
    (conserved : Conserved earlier outputs wire pending) : wire.Enabled := by
  obtain ⟨online, represents, held, _⟩ := conserved
  refine ⟨fun thread data len fits available => ?_, ?_⟩
  · obtain ⟨txQueue, ret, enqueued⟩ :=
      ThreadSafeQueue.enqueue_defined represents fits available
    simp [wireStep, wireSend, online, enqueued]
  · cases holding : wire.len with
    | none =>
        left
        obtain ⟨txQueue, txBuf, len, dequeued⟩ :=
          ThreadSafeQueue.dequeue_defined represents wire.txBuf
            fun message oldest =>
              represents.message_fits (List.mem_of_mem_head? oldest)
        simp [wireStep, online, holding, dequeued]
    | some len =>
        right
        have inside : len ≤ wire.txBuf.bytes.length := by
          rw [wire.txBuf.size]
          exact held len holding
        simp [wireStep, holding, readBytes, inside]

/-- At every moment of every run the stream on the wire is a prefix of the
accepted messages, and the rest of them is in hand or in the queue. -/
theorem wire_frames_atomic {earlier : List (List UInt8)}
    {outputs : List WireOutput} {wire : Wire}
    (reached : (wireMachine earlier).Reaches Machine.anyStep outputs wire) :
    ∃ (pending : List (List UInt8)) (count : Nat),
      wire.txQueue.Represents pending ∧
      wireWrites outputs = (earlier ++ acceptedMessages outputs).take count ∧
      wireStream outputs =
        ((earlier ++ acceptedMessages outputs).take count).flatten ∧
      (earlier ++ acceptedMessages outputs).drop count =
        wire.inHand ++ pending ∧
      wire.Enabled := by
  have invariant : ∃ pending, Conserved earlier outputs wire pending := by
    refine @Machine.invariant _ _ _ (wireMachine earlier) Machine.anyStep
      (fun outputs wire => ∃ pending, Conserved earlier outputs wire pending)
      ?_ ?_ outputs wire reached
    · intro wire starts
      exact ⟨earlier, .initial starts⟩
    · intro outputs wire event following emitted kept _ stepped
      obtain ⟨pending, conserved⟩ := kept
      cases event with
      | send thread data len =>
          obtain ⟨⟨next, ret, sent⟩, result, ends⟩ :=
            Option.bind_eq_some_iff.mp stepped
          obtain ⟨rfl, rfl⟩ := Prod.mk.inj (Option.some.inj ends)
          exact conserved.send result
      | poll => exact conserved.poll stepped
      | write => exact ⟨pending, conserved.write stepped⟩
  obtain ⟨pending, conserved⟩ := invariant
  have order := conserved.order
  rw [List.append_assoc] at order
  refine ⟨pending, (wireWrites outputs).length, conserved.represents, ?_, ?_,
    ?_, conserved.enabled⟩
  · rw [order, List.take_left']
    rfl
  · rw [order, List.take_left' rfl]
    rfl
  · rw [order, List.drop_left' rfl]

def freshWire : Wire :=
  { isConnected := true
    txQueue := initQueue 1400 (Vector.replicate maxSegments 0)
    txBuf := Buffer.filled 1400 0
    len := none }

def twoSenders : List WireOutput :=
  [.accepted [1, 2, 3], .written [1, 2, 3], .accepted [4, 5]]

theorem twoSenders_reached :
    ∃ wire, (wireMachine []).Reaches Machine.anyStep twoSenders wire := by
  have starts : WireInitial [] freshWire :=
    ⟨rfl, ThreadSafeQueue.initQueue_represents _ _, rfl, rfl⟩
  have computed : ((wireMachine []).run (fun _ _ => true) freshWire
      [.send 1 [1, 2, 3] 3, .poll, .write, .send 2 [4, 5] 2]).map Prod.snd =
      some twoSenders := by
    decide +kernel
  obtain ⟨outputs, wire, reached, same⟩ :=
    Machine.Reaches.of_run (fun _ _ _ => trivial) starts computed
  rw [← same]
  exact ⟨wire, reached⟩

theorem wire_frames_atomic_twoSenders :
    ∃ (wire : Wire) (pending : List (List UInt8)) (count : Nat),
      (wireMachine []).Reaches Machine.anyStep twoSenders wire ∧
      wire.txQueue.Represents pending ∧
      wireWrites twoSenders =
        ([] ++ acceptedMessages twoSenders).take count ∧
      wireStream twoSenders =
        (([] ++ acceptedMessages twoSenders).take count).flatten ∧
      ([] ++ acceptedMessages twoSenders).drop count =
        wire.inHand ++ pending ∧
      wire.Enabled := by
  obtain ⟨wire, reached⟩ := twoSenders_reached
  obtain ⟨pending, count, conserved⟩ := wire_frames_atomic reached
  exact ⟨wire, pending, count, reached, conserved⟩

/-! ## The link on the wire -/

/-- The part of the link that its senders and the send thread share. -/
def Link.wire (link : Link) : Wire :=
  { isConnected := link.isConnected, txQueue := link.txQueue
    txBuf := link.txBuf, len := link.txLen }

def wireOutputs (outputs : List LinkOutput) : List WireOutput :=
  outputs.filterMap fun output =>
    match output with
    | .queued _ frame => some (.accepted frame)
    | .written bytes => some (.written bytes)
    | _ => none

theorem tcpClientSend_wire {link following : Link} {call : SendCall}
    {ret : Int} {emitted : List LinkOutput}
    (result : tcpClientSend link call = some (following, ret, emitted)) :
    wireSend link.wire call.data call.len =
      some (following.wire, ret, wireOutputs emitted) := by
  unfold tcpClientSend at result
  unfold wireSend
  by_cases offline : link.isConnected = false
  · rw [if_pos offline] at result
    rw [if_pos (show link.wire.isConnected = false from offline)]
    simp only [Option.pure_def, Option.some.injEq, Prod.mk.injEq] at result
    obtain ⟨rfl, rfl, rfl⟩ := result
    rfl
  · rw [if_neg offline] at result
    rw [if_neg (show ¬link.wire.isConnected = false from offline)]
    simp only [Option.pure_def, Option.bind_eq_bind, Option.bind_eq_some_iff,
      Prod.exists, Option.some.injEq, Prod.mk.injEq] at result
    obtain ⟨txQueue, status, enqueued, rfl, rfl, rfl⟩ := result
    have sameQueue : link.wire.txQueue = link.txQueue := rfl
    rw [sameQueue, enqueued]
    by_cases accepted : status = 0
    · simp [accepted, wireOutputs, Link.wire]
    · simp [accepted, wireOutputs, Link.wire]

/-- A step of the link that neither makes nor breaks the connection leaves the
wire alone or is a step of the wire. -/
theorem linkStep_wire {device : Device} {link following : Link}
    {waiting : Waiting} {event : LinkEvent} {emitted : List LinkOutput}
    (represents : link.Represents waiting)
    (notConnected : event ≠ .connected)
    (notDisconnected : event ≠ .disconnected)
    (stepped : linkStep device link event = some (following, emitted)) :
    (following.wire = link.wire ∧ wireOutputs emitted = []) ∨
      ∃ wireEvent, wireStep link.wire wireEvent =
        some (following.wire, wireOutputs emitted) := by
  have sent {call : SendCall} {next : Link} {ret : Int}
      {outputs : List LinkOutput}
      (sending : tcpClientSend link call = some (next, ret, outputs))
      {final : Link} (sameWire : final.wire = next.wire) :
      ∃ wireEvent, wireStep link.wire wireEvent =
        some (final.wire, wireOutputs outputs) := by
    refine ⟨.send 0 call.data call.len, ?_⟩
    simp [wireStep, tcpClientSend_wire sending, sameWire]
  obtain ⟨after, _, transition⟩ := linkStep_transition represents stepped
  cases event with
  | connected => exact absurd rfl notConnected
  | disconnected => exact absurd rfl notDisconnected
  | tcpRead chunk =>
      left
      cases transition <;> exact ⟨rfl, rfl⟩
  | mqttMessage payload =>
      left
      cases transition <;> exact ⟨rfl, rfl⟩
  | cloudPoll =>
      left
      cases transition with
      | cloudIdle _ => exact ⟨rfl, rfl⟩
      | cloudTaken _ _ _ _ _ outcome _ _ _ =>
          refine ⟨rfl, ?_⟩
          cases outcome <;> rfl
  | fkz9Poll =>
      left
      cases transition <;> exact ⟨rfl, rfl⟩
  | mqttSend =>
      right
      simp only [linkStep, onMessageCbSend, Option.bind_eq_bind,
        Option.bind_eq_some_iff, Prod.exists] at stepped
      obtain ⟨loop, _, next, ret, outputs, sending, rest⟩ := stepped
      split at rest
      · obtain ⟨rfl, rfl⟩ := Prod.mk.inj (Option.some.inj rest)
        exact sent sending rfl
      · obtain ⟨rfl, rfl⟩ := Prod.mk.inj (Option.some.inj rest)
        exact sent sending rfl
  | cloudSend =>
      right
      simp only [linkStep, cloudEventTaskSend, Option.bind_eq_bind,
        Option.bind_eq_some_iff, Prod.exists, Option.some.injEq,
        Prod.mk.injEq] at stepped
      obtain ⟨call, _, next, ret, outputs, sending, rfl, rfl⟩ := stepped
      exact sent sending rfl
  | fkz9Send =>
      right
      simp only [linkStep, fkz9EventTaskSend, Option.bind_eq_bind,
        Option.bind_eq_some_iff, Prod.exists, Option.some.injEq,
        Prod.mk.injEq] at stepped
      obtain ⟨handler, _, call, _, next, ret, outputs, sending, rfl, rfl⟩ :=
        stepped
      exact sent sending rfl
  | navTimer segment =>
      right
      simp only [linkStep, navDataMsgTaskCb, Option.bind_eq_bind,
        Option.bind_eq_some_iff, Prod.exists, Option.some.injEq,
        Prod.mk.injEq] at stepped
      obtain ⟨call, _, next, ret, outputs, sending, rfl, rfl⟩ := stepped
      exact sent sending rfl
  | txPoll =>
      right
      refine ⟨.poll, ?_⟩
      simp only [linkStep, tcpClientSendEntryPoll] at stepped
      split at stepped
      · cases stepped
      · rename_i enabled
        simp only [Option.bind_eq_bind, Option.bind_eq_some_iff, Prod.exists,
          Option.some.injEq, Prod.mk.injEq] at stepped
        obtain ⟨txQueue, txBuf, txLen, dequeued, rfl, rfl⟩ := stepped
        have online : link.isConnected = true := by
          simpa using (not_or.mp enabled).1
        have idle : link.txLen = none := by
          simpa using (not_or.mp enabled).2
        simp [wireStep, Link.wire, online, idle, dequeued, wireOutputs]
  | txWrite =>
      right
      refine ⟨.write, ?_⟩
      simp only [linkStep, tcpClientSendEntryWrite, Option.bind_eq_bind,
        Option.bind_eq_some_iff, Option.some.injEq, Prod.mk.injEq] at stepped
      obtain ⟨len, busy, bytes, read, rfl, rfl⟩ := stepped
      simp [wireStep, Link.wire, busy, read, wireOutputs]

end RtA100
