import RtA100.QueueBounds

/-!
# The device-information handshake

After the first valid heartbeat response the FKZ9 event thread answers with the
device information and sets `is_init`.  `Handshake` adds to the link the
heartbeat responses that have passed the test and the device-information frames
that have been put on `tx_queue`.  The frame is put there at most once and only
after a response; but `is_init` is set whatever became of the send, so it tells
the truth exactly in the runs that make the send while the client is connected
and the queue has room.
-/

namespace RtA100

open Library

structure Handshake where
  link : Link
  processed : List (List UInt8)
  placed : List (List UInt8)
deriving DecidableEq

/-- The heartbeat response that an iteration of the event thread accepts. -/
def processedHeartbeat (link : Link) : LinkEvent → Option (List UInt8)
  | .fkz9Poll => do
      let (_, buf, received) ← link.fkz9Queue.dequeue link.fkz9Buf
      let len ← received
      let passes ← fkz9FrameTest buf.bytes
      if passes = true ∧ signOf buf.bytes = mqttMsgSignHeartbeatResp then
        some (buf.bytes.take len)
      else none
  | _ => none

def placedFrames (outputs : List LinkOutput) : List (List UInt8) :=
  outputs.filterMap fun output =>
    match output with
    | .queued .devInfoResp frame => some frame
    | _ => none

def handshakeStep (device : Device) (state : Handshake)
    (event : LinkEvent) : Option (Handshake × List LinkOutput) := do
  let (link, emitted) ← linkStep device state.link event
  some
    ({ link
       processed := state.processed ++
         (processedHeartbeat state.link event).toList
       placed := state.placed ++ placedFrames emitted }, emitted)

def HandshakeInitial (state : Handshake) : Prop :=
  LinkInitial state.link ∧ state.processed = [] ∧ state.placed = []

def handshakeMachine (device : Device) :
    Machine Handshake LinkEvent LinkOutput :=
  { initial := HandshakeInitial
    step := handshakeStep device }

/-- The device information is placed at most once, under its own sign, after a
heartbeat response, and it is placed once `is_init` is set. -/
structure HandshakeHolds (state : Handshake) : Prop where
  once : state.placed.length ≤ 1
  sign : ∀ frame ∈ state.placed, signOf frame = tcpMsgSignDevInfoResp
  answers : state.placed ≠ [] → state.processed ≠ []
  initialised : state.link.isInit = true → state.placed ≠ []

/-- The device information is sent while the client is connected and
`tx_queue` is not full. -/
def DeviceInfoAccepted (state : Handshake) (event : LinkEvent) : Prop :=
  event = .fkz9Send → state.link.fkz9Handler = some .devInfoResp →
    state.link.isConnected = true ∧
      (state.link.txQueue.head + 1) % 64 ≠ state.link.txQueue.tail

/-- What holds in every run, whatever becomes of the send. -/
structure HandshakeOrder (state : Handshake) : Prop where
  represents : ∃ waiting, state.link.Represents waiting
  chosen : state.link.fkz9Handler = some .devInfoResp →
    state.link.isInit = false ∧ state.processed ≠ []
  unplaced : state.link.isInit = false → state.placed = []
  once : state.placed.length ≤ 1
  sign : ∀ frame ∈ state.placed, signOf frame = tcpMsgSignDevInfoResp
  answers : state.link.isInit = true → state.processed ≠ []

theorem HandshakeOrder.holds_iff {state : Handshake}
    (order : HandshakeOrder state) :
    HandshakeHolds state ↔ (state.link.isInit = true → state.placed ≠ []) := by
  constructor
  · intro holds
    exact holds.initialised
  · intro initialised
    refine ⟨order.once, order.sign, fun placed => ?_, initialised⟩
    cases init : state.link.isInit with
    | false => exact absurd (order.unplaced init) placed
    | true => exact order.answers init

theorem HandshakeOrder.initial {state : Handshake}
    (starts : HandshakeInitial state) : HandshakeOrder state := by
  obtain ⟨linkStarts, processed, placed⟩ := starts
  have represents := LinkInitial.represents linkStarts
  obtain ⟨_, _, _, _, same⟩ := linkStarts
  refine ⟨⟨_, represents⟩, ?_, fun _ => placed, ?_, ?_, ?_⟩
  · simp [same]
  · simp [placed]
  · simp [placed]
  · simp [same]

/-- Only an accepted heartbeat response makes the event thread choose the
device information. -/
theorem devInfo_chosen {link following : Link} {emitted : List LinkOutput}
    (result : fkz9EventTaskPoll link = some (following, emitted))
    (chosen : following.fkz9Handler = some .devInfoResp) :
    link.isInit = false ∧
      ∃ frame, processedHeartbeat link .fkz9Poll = some frame := by
  obtain ⟨idle, _, fkz9Queue, buf, received, dequeued, poll⟩ :=
    fkz9EventTaskPoll_cases result
  cases poll with
  | empty _ =>
      rw [show _ = link.fkz9Handler from rfl, idle] at chosen
      cases chosen
  | rejected len _ _ =>
      rw [show _ = link.fkz9Handler from rfl, idle] at chosen
      cases chosen
  | chosen len pHdr present test headerRead =>
      obtain ⟨_, signValue⟩ := MsgFramHdr.read_fields headerRead
      rw [present] at dequeued
      dsimp only at chosen
      split at chosen
      · rename_i heartbeat
        split at chosen
        · rename_i fresh
          refine ⟨fresh, buf.bytes.take len, ?_⟩
          rw [signValue] at heartbeat
          simp [processedHeartbeat, dequeued, test, heartbeat]
        · cases chosen
      · cases chosen

/-- What a step does to the handshake. -/
inductive HandshakeChange (state : Handshake) (event : LinkEvent)
    (following : Handshake) : Prop where
  | quiet :
      following.link.isInit = state.link.isInit →
      following.placed = state.placed →
      state.processed <+: following.processed →
      (following.link.fkz9Handler = some .devInfoResp →
        state.link.fkz9Handler = some .devInfoResp ∨
          (state.link.isInit = false ∧ following.processed ≠ [])) →
      (event = .fkz9Send → state.link.fkz9Handler ≠ some .devInfoResp) →
      HandshakeChange state event following
  | answered (frames : List (List UInt8)) :
      event = .fkz9Send →
      state.link.fkz9Handler = some .devInfoResp →
      following.link.fkz9Handler = none →
      following.link.isInit = true →
      following.processed = state.processed →
      following.placed = state.placed ++ frames →
      frames.length ≤ 1 →
      (∀ frame ∈ frames, signOf frame = tcpMsgSignDevInfoResp) →
      (frames ≠ [] ↔ state.link.isConnected = true ∧
        (state.link.txQueue.head + 1) % 64 ≠ state.link.txQueue.tail) →
      HandshakeChange state event following

theorem SendResult.not_placed {link sent : Link} {waiting after : Waiting}
    {call : SendCall} {ret : Int} {outputs : List LinkOutput}
    (result : SendResult link waiting call sent after ret outputs)
    (other : call.sender ≠ .devInfoResp) : placedFrames outputs = [] := by
  cases result with
  | offline _ => rfl
  | full _ _ => rfl
  | queued _ _ _ _ _ =>
      cases sender : call.sender with
      | devInfoResp => exact absurd sender other
      | _ => rfl

/-- The device information is placed exactly when the client is connected and
the queue has room. -/
theorem SendResult.placed_iff {link sent : Link} {waiting after : Waiting}
    {call : SendCall} {ret : Int} {outputs : List LinkOutput}
    (represents : link.Represents waiting)
    (result : SendResult link waiting call sent after ret outputs)
    (sender : call.sender = .devInfoResp) :
    (placedFrames outputs = [] ∨
      placedFrames outputs = [call.data.take call.len]) ∧
    (placedFrames outputs ≠ [] ↔ link.isConnected = true ∧
      (link.txQueue.head + 1) % 64 ≠ link.txQueue.tail) := by
  cases result with
  | offline offline =>
      exact ⟨.inl rfl, by simp [placedFrames, offline]⟩
  | full _ full =>
      have meets := represents.tx.full_iff.mpr full
      exact ⟨.inl rfl, by simp [placedFrames, meets]⟩
  | queued _ online room _ _ =>
      have apart := mt represents.tx.full_iff.mp (Nat.ne_of_lt room)
      exact ⟨.inr (by simp [placedFrames, sender]),
        by simp [placedFrames, sender, online, apart]⟩

theorem Fkz9Handler.devInfoResp_call {device : Device} {buf : Buffer 1500}
    {call : SendCall}
    (called : Fkz9Handler.devInfoResp.call device buf = some call) :
    call.sender = .devInfoResp ∧
      signOf (call.data.take call.len) = tcpMsgSignDevInfoResp := by
  obtain ⟨frame, built, _, _, sign⟩ :=
    funcDevInfoResp_wellFormed device.services.info device.simId
  simp only [Fkz9Handler.call, built, Option.bind_eq_bind, Option.bind_some,
    Option.some.injEq] at called
  subst called
  exact ⟨rfl, by rw [List.take_length]; exact sign⟩

theorem Fkz9Handler.msgFwToCloud_call {device : Device}
    {buf : Buffer 1500} {call : SendCall}
    (called : Fkz9Handler.msgFwToCloud.call device buf = some call) :
    call.sender ≠ .devInfoResp := by
  obtain ⟨pHdr, _, built⟩ := Option.bind_eq_some_iff.mp called
  rw [← Option.some.inj built]
  simp

/-- Every step of the handshake machine is quiet or answers a response. -/
theorem handshakeStep_change {device : Device} {state following : Handshake}
    {event : LinkEvent} {emitted : List LinkOutput}
    (represents : ∃ waiting, state.link.Represents waiting)
    (stepped : handshakeStep device state event =
      some (following, emitted)) :
    (∃ after, following.link.Represents after) ∧
      HandshakeChange state event following := by
  obtain ⟨waiting, represents⟩ := represents
  simp only [handshakeStep, Option.bind_eq_bind, Option.bind_eq_some_iff,
    Prod.exists, Option.some.injEq, Prod.mk.injEq] at stepped
  obtain ⟨link, outputs, linkStepped, rfl, rfl⟩ := stepped
  obtain ⟨after, represented, transition⟩ :=
    linkStep_transition represents linkStepped
  refine ⟨⟨after, represented⟩, ?_⟩
  have quiet (sameInit : link.isInit = state.link.isInit)
      (sameHandler : link.fkz9Handler = state.link.fkz9Handler)
      (nothing : placedFrames outputs = []) (other : event ≠ .fkz9Send) :
      HandshakeChange state event
        { link
          processed := state.processed ++
            (processedHeartbeat state.link event).toList
          placed := state.placed ++ placedFrames outputs } := by
    refine .quiet sameInit ?_ (List.prefix_append _ _) ?_ ?_
    · simp [nothing]
    · intro chosen
      exact .inl (sameHandler ▸ chosen)
    · intro same
      exact absurd same other
  cases transition with
  | connected _ _ => exact quiet rfl rfl rfl (by simp)
  | disconnected => exact quiet rfl rfl rfl (by simp)
  | readQueued _ _ _ _ _ => exact quiet rfl rfl rfl (by simp)
  | readDropped _ _ => exact quiet rfl rfl rfl (by simp)
  | heartbeat _ _ _ _ => exact quiet rfl rfl rfl (by simp)
  | split _ _ _ _ _ => exact quiet rfl rfl rfl (by simp)
  | frameQueued _ _ _ _ _ _ _ _ => exact quiet rfl rfl rfl (by simp)
  | frameDropped _ _ _ _ _ _ => exact quiet rfl rfl rfl (by simp)
  | pieceRefused _ _ _ _ => exact quiet rfl rfl rfl (by simp)
  | pieceSent loop sent _ _ _ sending =>
      have nothing := sending.not_placed (by simp [SplitLoop.call])
      obtain ⟨_, _, rfl, rfl⟩ := sending.frame
      exact quiet rfl rfl nothing (by simp)
  | cloudIdle _ => exact quiet rfl rfl rfl (by simp)
  | cloudTaken _ _ _ _ _ outcome _ _ _ =>
      refine quiet rfl rfl ?_ (by simp)
      cases outcome <;> rfl
  | cloudSent _ _ sent _ _ _ _ sending =>
      have nothing := sending.not_placed (by simp)
      obtain ⟨_, _, rfl, rfl⟩ := sending.frame
      exact quiet rfl rfl nothing (by simp)
  | fkz9Idle _ => exact quiet rfl rfl rfl (by simp)
  | fkz9Taken _ _ _ _ _ _ _ _ =>
      refine .quiet rfl ?_ (List.prefix_append _ _) ?_ ?_
      · simp [placedFrames]
      · intro chosen
        obtain ⟨fresh, frame, processed⟩ :=
          devInfo_chosen linkStepped chosen
        exact .inr ⟨fresh, by simp [processed]⟩
      · intro same
        cases same
  | fkz9Sent handler call sent _ _ _ chosen called sending =>
      cases handler with
      | devInfoResp =>
          obtain ⟨sender, sign⟩ := Fkz9Handler.devInfoResp_call called
          obtain ⟨frames, accepted⟩ := sending.placed_iff represents sender
          refine .answered _ rfl chosen rfl ?_ ?_ rfl ?_ ?_ accepted
          · simp
          · simp [processedHeartbeat]
          · rcases frames with none | one
            · simp [none]
            · simp [one]
          · intro frame member
            rcases frames with none | one
            · rw [none] at member
              cases member
            · rw [one] at member
              rw [List.mem_singleton.mp member]
              exact sign
      | msgFwToCloud =>
          have nothing := sending.not_placed
            (Fkz9Handler.msgFwToCloud_call called)
          obtain ⟨_, _, rfl, rfl⟩ := sending.frame
          refine .quiet ?_ ?_ (List.prefix_append _ _) ?_ ?_
          · simp
          · simp [nothing]
          · simp
          · simp [chosen]
  | navSent _ _ sent _ _ _ _ sending =>
      have nothing := sending.not_placed (by simp)
      obtain ⟨_, _, rfl, rfl⟩ := sending.frame
      exact quiet rfl rfl nothing (by simp)
  | txIdle _ => exact quiet rfl rfl rfl (by simp)
  | txTaken _ _ _ _ _ _ _ => exact quiet rfl rfl rfl (by simp)
  | txWritten _ _ _ => exact quiet rfl rfl rfl (by simp)

theorem HandshakeOrder.step {device : Device} {state following : Handshake}
    {event : LinkEvent} {emitted : List LinkOutput}
    (order : HandshakeOrder state)
    (stepped : handshakeStep device state event =
      some (following, emitted)) : HandshakeOrder following := by
  obtain ⟨represents, chosen, unplaced, once, sign, answers⟩ := order
  obtain ⟨represented, change⟩ := handshakeStep_change represents stepped
  have later {first second : List (List UInt8)}
      (grows : first <+: second) (nonempty : first ≠ []) : second ≠ [] := by
    rintro rfl
    exact nonempty (List.prefix_nil.mp grows)
  cases change with
  | quiet sameInit samePlaced grows handler _ =>
      refine ⟨represented, ?_, ?_, ?_, ?_, ?_⟩
      · intro chosenAfter
        rw [sameInit]
        rcases handler chosenAfter with before | now
        · exact ⟨(chosen before).1, later grows (chosen before).2⟩
        · exact now
      · rw [sameInit, samePlaced]
        exact unplaced
      · rw [samePlaced]
        exact once
      · rw [samePlaced]
        exact sign
      · rw [sameInit]
        exact fun init => later grows (answers init)
  | answered frames _ before idle init sameProcessed placed short signs _ =>
      obtain ⟨fresh, processed⟩ := chosen before
      rw [unplaced fresh, List.nil_append] at placed
      refine ⟨represented, ?_, ?_, ?_, ?_, ?_⟩
      · simp [idle]
      · simp [init]
      · rw [placed]
        exact short
      · rw [placed]
        exact signs
      · rw [sameProcessed]
        exact fun _ => processed

/-- A step keeps the promise of `is_init` exactly when the device information,
if it is sent, is accepted. -/
theorem handshakeHolds_step_iff {device : Device}
    {state following : Handshake} {event : LinkEvent}
    {emitted : List LinkOutput} (order : HandshakeOrder state)
    (holds : HandshakeHolds state)
    (stepped : handshakeStep device state event =
      some (following, emitted)) :
    HandshakeHolds following ↔ DeviceInfoAccepted state event := by
  rw [(order.step stepped).holds_iff]
  obtain ⟨_, change⟩ := handshakeStep_change order.represents stepped
  cases change with
  | quiet sameInit samePlaced _ _ other =>
      rw [sameInit, samePlaced]
      exact iff_of_true holds.initialised
        fun same chosen => absurd chosen (other same)
  | answered frames same chosen _ init _ placed _ _ accepted =>
      rw [order.unplaced (order.chosen chosen).1, List.nil_append] at placed
      rw [init, placed]
      exact ⟨fun nonempty _ _ => accepted.mp (nonempty rfl),
        fun ready _ => accepted.mpr (ready same chosen)⟩

/-- For every run of the parties, the handshake holds all along exactly when
the device information is sent while it can be accepted. -/
theorem handshake_along_iff {device : Device} {state : Handshake}
    (starts : HandshakeInitial state) (events : List LinkEvent) :
    (handshakeMachine device).Along HandshakeHolds state events ↔
      (handshakeMachine device).Takes DeviceInfoAccepted state events := by
  have order := HandshakeOrder.initial starts
  have holds : HandshakeHolds state := by
    rw [order.holds_iff]
    obtain ⟨⟨_, _, _, _, same⟩, _, _⟩ := starts
    simp [same]
  exact @Machine.along_iff_takes _ _ _ (handshakeMachine device)
    DeviceInfoAccepted HandshakeOrder HandshakeHolds
    (fun _ _ _ _ order stepped => order.step stepped)
    (fun _ _ _ _ order holds stepped =>
      handshakeHolds_step_iff order holds stepped)
    state order holds events

def freshHandshake : Handshake :=
  { link := freshLink, processed := [], placed := [] }

theorem freshHandshake_initial : HandshakeInitial freshHandshake :=
  ⟨freshLink_initial, rfl, rfl⟩

theorem handshake_along_connected :
    (handshakeMachine exampleDevice).Along HandshakeHolds freshHandshake
        [.connected, .mqttMessage heartbeatRespFrame, .fkz9Poll,
          .fkz9Send] ↔
      (handshakeMachine exampleDevice).Takes DeviceInfoAccepted
        freshHandshake
        [.connected, .mqttMessage heartbeatRespFrame, .fkz9Poll,
          .fkz9Send] :=
  handshake_along_iff freshHandshake_initial _

/-- A heartbeat response that is processed before the cloud connection exists
sets `is_init` although nothing has been put on `tx_queue`. -/
theorem offline_response_initialises : ∃ outputs state,
    (handshakeMachine exampleDevice).Reaches Machine.anyStep outputs state ∧
      state.link.isInit = true ∧ state.placed = [] ∧
      ¬HandshakeHolds state := by
  have computed : ((handshakeMachine exampleDevice).run (fun _ _ => true)
      freshHandshake
      [.mqttMessage heartbeatRespFrame, .fkz9Poll, .fkz9Send]).map
        (fun result => (result.1.link.isInit, result.1.placed)) =
      some (true, []) := by
    decide +kernel
  obtain ⟨outputs, state, reached, result⟩ :=
    Machine.Reaches.of_run (fun _ _ _ => trivial) freshHandshake_initial
      computed
  obtain ⟨init, nothing⟩ := Prod.mk.inj result
  exact ⟨outputs, state, reached, init, nothing,
    fun holds => holds.initialised init nothing⟩

end RtA100
