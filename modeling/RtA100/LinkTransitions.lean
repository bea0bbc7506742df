import RtA100.Link

/-!
# What a step of the link can do

`Transition` restates `linkStep` over the lists of messages that wait in the
three queues instead of their rings.  `linkStep_transition` derives it once for
every event, and `linkMachine_invariant` is the induction over runs in these
terms, so an invariant of the link is proved by cases on `Transition`.
-/

namespace RtA100

open Library

structure Waiting where
  cloud : List (List UInt8)
  fkz9 : List (List UInt8)
  tx : List (List UInt8)

structure Link.Represents (link : Link) (waiting : Waiting) : Prop where
  cloud : link.cloudQueue.Represents waiting.cloud
  fkz9 : link.fkz9Queue.Represents waiting.fkz9
  tx : link.txQueue.Represents waiting.tx

/-- The results of a call of the TCP client's `send`. -/
inductive SendResult (link : Link) (waiting : Waiting) (call : SendCall) :
    Link → Waiting → Int → List LinkOutput → Prop where
  | offline :
      link.isConnected = false →
      SendResult link waiting call link waiting 0 []
  | full :
      link.isConnected = true →
      waiting.tx.length = 63 →
      SendResult link waiting call link waiting (-1) []
  | queued (txQueue : ThreadSafeQueue 1400) :
      link.isConnected = true →
      waiting.tx.length < 63 →
      call.len ≤ 1400 →
      call.len ≤ call.data.length →
      SendResult link waiting call { link with txQueue }
        { waiting with tx := waiting.tx ++ [call.data.take call.len] } 0
        [.queued call.sender (call.data.take call.len)]

def SplitLoop.next (loop : SplitLoop) : Option SplitLoop :=
  if loop.index + loop.len < loop.payload.length then
    some { loop with index := loop.index + loop.len }
  else none

def chooseHandler (isInit : Bool) (ucSign : UInt8) : Option Fkz9Handler :=
  if ucSign = mqttMsgSignHeartbeatResp then
    if isInit = false then some .devInfoResp else none
  else some .msgFwToCloud

/-- Every step of the link, over the messages waiting in its queues. -/
inductive Transition (device : Device) (link : Link) (waiting : Waiting) :
    LinkEvent → Link → Waiting → List LinkOutput → Prop where
  | connected (txBuf : Buffer 1400) :
      link.txLen = none →
      Transition device link waiting .connected
        { link with isConnected := true, txBuf } waiting []
  | disconnected :
      Transition device link waiting .disconnected
        { link with isConnected := false } waiting []
  | readQueued (chunk : List UInt8) (cloudQueue : ThreadSafeQueue 256) :
      1 ≤ chunk.length →
      chunk.length ≤ 256 →
      waiting.cloud.length < 63 →
      Transition device link waiting (.tcpRead chunk)
        { link with cloudQueue }
        { waiting with cloud := waiting.cloud ++ [chunk] } [.received chunk]
  | readDropped (chunk : List UInt8) :
      waiting.cloud.length = 63 →
      Transition device link waiting (.tcpRead chunk) link waiting
        [.received chunk]
  | heartbeat (payload : List UInt8) :
      link.splitting = none →
      5 ≤ payload.length →
      signOf payload = mqttMsgSignHeartbeatReq →
      Transition device link waiting (.mqttMessage payload) link waiting
        [.delivered payload]
  | split (payload : List UInt8) :
      link.splitting = none →
      5 ≤ payload.length →
      signOf payload ≠ mqttMsgSignHeartbeatReq →
      declaredLength payload ≠ payload.length →
      Transition device link waiting (.mqttMessage payload)
        { link with
          splitting := some { payload, len := declaredLength payload
                              index := 0 } }
        waiting [.delivered payload]
  | frameQueued (payload : List UInt8) (fkz9Queue : ThreadSafeQueue 1400) :
      link.splitting = none →
      5 ≤ payload.length →
      signOf payload ≠ mqttMsgSignHeartbeatReq →
      declaredLength payload = payload.length →
      payload.length ≤ 1400 →
      waiting.fkz9.length < 63 →
      Transition device link waiting (.mqttMessage payload)
        { link with fkz9Queue }
        { waiting with fkz9 := waiting.fkz9 ++ [payload] }
        [.delivered payload]
  | frameDropped (payload : List UInt8) :
      link.splitting = none →
      5 ≤ payload.length →
      signOf payload ≠ mqttMsgSignHeartbeatReq →
      declaredLength payload = payload.length →
      waiting.fkz9.length = 63 →
      Transition device link waiting (.mqttMessage payload) link waiting
        [.delivered payload]
  | pieceRefused (loop : SplitLoop) :
      link.splitting = some loop →
      link.isConnected = true →
      waiting.tx.length = 63 →
      Transition device link waiting .mqttSend link waiting []
  | pieceSent (loop : SplitLoop) (sent : Link) (after : Waiting)
      (outputs : List LinkOutput) :
      link.splitting = some loop →
      SendResult link waiting loop.call sent after 0 outputs →
      Transition device link waiting .mqttSend
        { sent with splitting := loop.next } after outputs
  | cloudIdle :
      waiting.cloud = [] →
      Transition device link waiting .cloudPoll link waiting []
  | cloudTaken (message : List UInt8) (rest : List (List UInt8))
      (fits : message.length ≤ 256) (cloudQueue : ThreadSafeQueue 256)
      (cloudLoop : CloudEventLoop) (outcome : Option AcceptedMessage) :
      link.cloudSends = [] →
      waiting.cloud = message :: rest →
      cloudEventBody (messageProcessing device.services)
          { link.cloudLoop with
            buf := link.cloudLoop.buf.overwrite message fits } =
        some (cloudLoop, outcome) →
      Transition device link waiting .cloudPoll
        { link with
          cloudQueue, cloudLoop
          cloudSends := outcome.elim [] fun accepted =>
            sendsOf accepted.actions }
        { waiting with cloud := rest }
        (outcome.toList.map LinkOutput.accepted)
  | cloudSent (frame : List UInt8) (rest : List (List UInt8)) (sent : Link)
      (after : Waiting) (ret : Int) (outputs : List LinkOutput) :
      link.cloudSends = frame :: rest →
      SendResult link waiting
        { sender := .cloudEvent, data := frame, len := frame.length }
        sent after ret outputs →
      Transition device link waiting .cloudSend
        { sent with cloudSends := rest } after outputs
  | fkz9Idle :
      waiting.fkz9 = [] →
      Transition device link waiting .fkz9Poll link waiting []
  | fkz9Taken (message : List UInt8) (rest : List (List UInt8))
      (fits : message.length ≤ 1500) (fkz9Queue : ThreadSafeQueue 1400)
      (passes : Bool) :
      link.fkz9Handler = none →
      waiting.fkz9 = message :: rest →
      fkz9FrameTest (link.fkz9Buf.overwrite message fits).bytes =
        some passes →
      Transition device link waiting .fkz9Poll
        { link with
          fkz9Queue, fkz9Buf := link.fkz9Buf.overwrite message fits
          fkz9Handler :=
            if passes = true then
              chooseHandler link.isInit
                (signOf (link.fkz9Buf.overwrite message fits).bytes)
            else none }
        { waiting with fkz9 := rest } []
  | fkz9Sent (handler : Fkz9Handler) (call : SendCall) (sent : Link)
      (after : Waiting) (ret : Int) (outputs : List LinkOutput) :
      link.fkz9Handler = some handler →
      handler.call device link.fkz9Buf = some call →
      SendResult link waiting call sent after ret outputs →
      Transition device link waiting .fkz9Send
        { sent with
          isInit := sent.isInit || handler == .devInfoResp
          fkz9Handler := none }
        after outputs
  | navSent (segment : Buffer navDataSegSize) (frame : List UInt8)
      (sent : Link) (after : Waiting) (ret : Int)
      (outputs : List LinkOutput) :
      navDataMsg segment = some frame →
      SendResult link waiting
        { sender := .navDataMsg, data := frame, len := frame.length }
        sent after ret outputs →
      Transition device link waiting (.navTimer segment) sent after outputs
  | txIdle :
      waiting.tx = [] →
      Transition device link waiting .txPoll link waiting []
  | txTaken (message : List UInt8) (rest : List (List UInt8))
      (fits : message.length ≤ 1400) (txQueue : ThreadSafeQueue 1400) :
      link.isConnected = true →
      link.txLen = none →
      waiting.tx = message :: rest →
      Transition device link waiting .txPoll
        { link with
          txQueue, txBuf := link.txBuf.overwrite message fits
          txLen := some message.length }
        { waiting with tx := rest } []
  | txWritten (len : Nat) :
      link.txLen = some len →
      len ≤ 1400 →
      Transition device link waiting .txWrite { link with txLen := none }
        waiting [.written (link.txBuf.bytes.take len)]

section Inversion

variable {device : Device} {link following : Link} {waiting : Waiting}
  {emitted : List LinkOutput}

theorem tcpClientSend_result {call : SendCall} {ret : Int}
    (represents : link.Represents waiting)
    (result : tcpClientSend link call = some (following, ret, emitted)) :
    ∃ after, following.Represents after ∧
      SendResult link waiting call following after ret emitted := by
  unfold tcpClientSend at result
  by_cases offline : link.isConnected = false
  · simp only [offline, if_true, Option.pure_def, Option.some.injEq,
      Prod.mk.injEq] at result
    obtain ⟨rfl, rfl, rfl⟩ := result
    exact ⟨waiting, represents, .offline offline⟩
  · have online : link.isConnected = true := by
      simpa using offline
    rw [if_neg offline] at result
    simp only [Option.pure_def, Option.bind_eq_bind, Option.bind_eq_some_iff,
      Prod.exists, Option.some.injEq, Prod.mk.injEq] at result
    obtain ⟨txQueue, status, enqueued, rfl, rfl, rfl⟩ := result
    rcases ThreadSafeQueue.enqueue_cases (by omega) represents.tx enqueued with
      ⟨full, rfl, rfl⟩ | ⟨room, short, inside, rfl, stored⟩
    · exact ⟨waiting, represents, .full online full⟩
    · exact ⟨{ waiting with tx := waiting.tx ++ [call.data.take call.len] },
        ⟨represents.cloud, represents.fkz9, stored⟩,
        .queued txQueue online room short inside⟩

theorem tcpClientConnected_transition
    (represents : link.Represents waiting)
    (result : tcpClientConnected link = some (following, emitted)) :
    following.Represents waiting ∧
      Transition device link waiting .connected following waiting emitted := by
  unfold tcpClientConnected at result
  split at result
  · rename_i idle
    obtain ⟨rfl, rfl⟩ := Prod.mk.inj (Option.some.inj result)
    split
    · exact ⟨⟨represents.cloud, represents.fkz9, represents.tx⟩,
        .connected (Buffer.filled 1400 0) idle⟩
    · rename_i online
      have connected : link = { link with isConnected := true
                                          txBuf := link.txBuf } := by
        cases link
        simpa using online
      refine ⟨represents, ?_⟩
      conv => arg 5; rw [connected]
      exact .connected link.txBuf idle
  · cases result

theorem tcpClientReadCb_transition {chunk : List UInt8}
    (represents : link.Represents waiting)
    (result : tcpClientReadCb link chunk = some (following, emitted)) :
    ∃ after, following.Represents after ∧
      Transition device link waiting (.tcpRead chunk) following after
        emitted := by
  unfold tcpClientReadCb at result
  split at result
  · rename_i bounds
    simp only [Option.bind_eq_bind, Option.bind_eq_some_iff, Prod.exists,
      Option.some.injEq, Prod.mk.injEq] at result
    obtain ⟨cloudQueue, status, enqueued, rfl, rfl⟩ := result
    rcases ThreadSafeQueue.enqueue_cases (by omega) represents.cloud
      enqueued with ⟨full, rfl, _⟩ | ⟨room, short, _, _, stored⟩
    · exact ⟨waiting, represents, .readDropped chunk full⟩
    · rw [List.take_length] at stored
      exact ⟨{ waiting with cloud := waiting.cloud ++ [chunk] },
        ⟨stored, represents.fkz9, represents.tx⟩,
        .readQueued chunk cloudQueue bounds.1 short room⟩
  · cases result

theorem MsgFramHdr.read_length {buf : List UInt8} {pHdr : MsgFramHdr}
    (headerRead : MsgFramHdr.read buf = some pHdr) : 5 ≤ buf.length := by
  simp only [MsgFramHdr.read, Option.bind_eq_bind, Option.bind_eq_some_iff,
    Option.some.injEq] at headerRead
  obtain ⟨_, _, _, _, ucSign, signRead, _⟩ := headerRead
  obtain ⟨inside, _⟩ := List.getElem?_eq_some_iff.mp signRead
  exact inside

theorem MsgFramHdr.read_fields {buf : List UInt8} {pHdr : MsgFramHdr}
    (headerRead : MsgFramHdr.read buf = some pHdr) :
    (bswap16 pHdr.usLen).toNat = declaredLength buf ∧
      pHdr.ucSign = signOf buf := by
  obtain ⟨other, otherRead, _, lenValue, signValue⟩ :=
    MsgFramHdr.read_of_length (MsgFramHdr.read_length headerRead)
  rw [headerRead, Option.some.injEq] at otherRead
  subst otherRead
  exact ⟨lenValue, signValue⟩

/-- The forwarding handler sends the buffer up to its declared length. -/
theorem Fkz9Handler.call_msgFwToCloud {device : Device} {buf : Buffer 1500}
    {call : SendCall}
    (built : Fkz9Handler.call device buf .msgFwToCloud = some call) :
    call = { sender := .fwToCloud, data := buf.bytes
             len := declaredLength buf.bytes } := by
  obtain ⟨pHdr, headerRead, result⟩ := Option.bind_eq_some_iff.mp built
  rw [← (MsgFramHdr.read_fields headerRead).1]
  exact (Option.some.inj result).symm

theorem onMessageCb_transition {payload : List UInt8}
    (represents : link.Represents waiting)
    (result : onMessageCb link payload = some (following, emitted)) :
    ∃ after, following.Represents after ∧
      Transition device link waiting (.mqttMessage payload) following after
        emitted := by
  unfold onMessageCb at result
  split at result
  · cases result
  · rename_i free
    have outside : link.splitting = none := by
      simpa using free
    obtain ⟨pHdr, headerRead, handled⟩ := Option.bind_eq_some_iff.mp result
    have long := MsgFramHdr.read_length headerRead
    obtain ⟨lenValue, signValue⟩ := MsgFramHdr.read_fields headerRead
    simp only [lenValue, signValue] at handled
    split at handled
    · rename_i heartbeat
      obtain ⟨rfl, rfl⟩ := Prod.mk.inj (Option.some.inj handled)
      exact ⟨waiting, represents, .heartbeat payload outside long heartbeat⟩
    · rename_i other
      split at handled
      · rename_i several
        obtain ⟨rfl, rfl⟩ := Prod.mk.inj (Option.some.inj handled)
        exact ⟨waiting,
          ⟨represents.cloud, represents.fkz9, represents.tx⟩,
          .split payload outside long other several⟩
      · rename_i single
        have declared : declaredLength payload = payload.length := by
          simpa using single
        simp only [Option.bind_eq_bind, Option.bind_eq_some_iff, Prod.exists,
          Option.some.injEq, Prod.mk.injEq] at handled
        obtain ⟨fkz9Queue, status, enqueued, rfl, rfl⟩ := handled
        rcases ThreadSafeQueue.enqueue_cases (by omega) represents.fkz9
          enqueued with ⟨full, rfl, _⟩ | ⟨room, short, _, _, stored⟩
        · exact ⟨waiting, represents,
            .frameDropped payload outside long other declared full⟩
        · rw [List.take_length] at stored
          exact ⟨{ waiting with fkz9 := waiting.fkz9 ++ [payload] },
            ⟨represents.cloud, stored, represents.tx⟩,
            .frameQueued payload fkz9Queue outside long other declared short
              room⟩

theorem onMessageCbSend_transition (represents : link.Represents waiting)
    (result : onMessageCbSend link = some (following, emitted)) :
    ∃ after, following.Represents after ∧
      Transition device link waiting .mqttSend following after emitted := by
  simp only [onMessageCbSend, Option.bind_eq_bind, Option.bind_eq_some_iff,
    Prod.exists] at result
  obtain ⟨loop, splitting, sent, ret, outputs, call, rest⟩ := result
  obtain ⟨after, stored, sending⟩ := tcpClientSend_result represents call
  split at rest
  · rename_i refused
    obtain ⟨rfl, rfl⟩ := Prod.mk.inj (Option.some.inj rest)
    cases sending with
    | offline _ => exact absurd rfl refused
    | full online full =>
        exact ⟨waiting, represents,
          .pieceRefused loop splitting online full⟩
    | queued _ _ _ _ _ => exact absurd rfl refused
  · rename_i success
    have ended : ret = 0 := by
      simpa using success
    subst ended
    obtain ⟨rfl, rfl⟩ := Prod.mk.inj (Option.some.inj rest)
    exact ⟨after, ⟨stored.cloud, stored.fkz9, stored.tx⟩,
      .pieceSent loop sent after outputs splitting sending⟩

theorem cloudEventTaskPoll_transition (represents : link.Represents waiting)
    (result : cloudEventTaskPoll device link = some (following, emitted)) :
    ∃ after, following.Represents after ∧
      Transition device link waiting .cloudPoll following after emitted := by
  unfold cloudEventTaskPoll at result
  split at result
  · cases result
  · rename_i free
    have idle : link.cloudSends = [] := by
      simpa using free
    obtain ⟨⟨cloudQueue, buf, received⟩, dequeued, handled⟩ :=
      Option.bind_eq_some_iff.mp result
    rcases ThreadSafeQueue.dequeue_cases represents.cloud dequeued with
      ⟨empty, rfl, _, rfl⟩ | ⟨message, rest, fits, pending, rfl, rfl, stored⟩
    · obtain ⟨rfl, rfl⟩ := Prod.mk.inj (Option.some.inj handled)
      exact ⟨waiting, represents, .cloudIdle empty⟩
    · dsimp only at handled
      rw [if_neg (Option.some_ne_none _)] at handled
      obtain ⟨⟨cloudLoop, outcome⟩, body, ends⟩ :=
        Option.bind_eq_some_iff.mp handled
      have represented (sends : List (List UInt8)) :
          ({ link with cloudQueue, cloudLoop, cloudSends := sends } :
            Link).Represents { waiting with cloud := rest } :=
        ⟨stored, represents.fkz9, represents.tx⟩
      have taken := Transition.cloudTaken message rest fits cloudQueue
        cloudLoop outcome idle pending body
      cases outcome with
      | none =>
          obtain ⟨rfl, rfl⟩ := Prod.mk.inj (Option.some.inj ends)
          have same := represented []
          simp only [Option.elim_none, Option.toList_none, List.map_nil]
            at taken
          rw [← idle] at same taken
          exact ⟨_, same, taken⟩
      | some accepted =>
          obtain ⟨rfl, rfl⟩ := Prod.mk.inj (Option.some.inj ends)
          exact ⟨_, represented _, taken⟩

theorem cloudEventTaskSend_transition (represents : link.Represents waiting)
    (result : cloudEventTaskSend device link = some (following, emitted)) :
    ∃ after, following.Represents after ∧
      Transition device link waiting .cloudSend following after emitted := by
  simp only [cloudEventTaskSend, sendCall, Option.bind_eq_bind,
    Option.bind_eq_some_iff, Prod.exists, Option.some.injEq, Prod.mk.injEq,
    Option.map_eq_some_iff] at result
  obtain ⟨call, ⟨frame, head, rfl⟩, sent, ret, outputs, sending, rfl, rfl⟩ :=
    result
  obtain ⟨after, stored, result⟩ := tcpClientSend_result represents sending
  obtain ⟨rest, sends⟩ := List.head?_eq_some_iff.mp head
  have sameSends : sent.cloudSends = link.cloudSends := by
    cases result <;> rfl
  rw [sameSends, sends, List.tail_cons]
  exact ⟨after, ⟨stored.cloud, stored.fkz9, stored.tx⟩,
    .cloudSent frame rest sent after ret outputs sends result⟩

/-- What a poll of the event thread can do. -/
inductive Fkz9Poll (link : Link) (fkz9Queue : ThreadSafeQueue 1400)
    (fkz9Buf : Buffer 1500) (received : Option Nat) : Link → Prop where
  | empty : received = none →
      Fkz9Poll link fkz9Queue fkz9Buf received { link with fkz9Queue }
  | rejected (len : Nat) : received = some len →
      fkz9FrameTest fkz9Buf.bytes = some false →
      Fkz9Poll link fkz9Queue fkz9Buf received
        { link with fkz9Queue, fkz9Buf }
  | chosen (len : Nat) (pHdr : MsgFramHdr) : received = some len →
      fkz9FrameTest fkz9Buf.bytes = some true →
      MsgFramHdr.read fkz9Buf.bytes = some pHdr →
      Fkz9Poll link fkz9Queue fkz9Buf received
        { link with
          fkz9Queue, fkz9Buf
          fkz9Handler :=
            if pHdr.ucSign = mqttMsgSignHeartbeatResp then
              if link.isInit = false then some .devInfoResp else none
            else some .msgFwToCloud }

theorem fkz9EventTaskPoll_cases
    (result : fkz9EventTaskPoll link = some (following, emitted)) :
    link.fkz9Handler = none ∧ emitted = [] ∧
      ∃ fkz9Queue fkz9Buf received,
        link.fkz9Queue.dequeue link.fkz9Buf =
            some (fkz9Queue, fkz9Buf, received) ∧
          Fkz9Poll link fkz9Queue fkz9Buf received following := by
  unfold fkz9EventTaskPoll at result
  split at result
  · cases result
  · rename_i free
    have idle : link.fkz9Handler = none := by
      simpa using free
    obtain ⟨⟨fkz9Queue, fkz9Buf, received⟩, dequeued, handled⟩ :=
      Option.bind_eq_some_iff.mp result
    refine ⟨idle, ?_⟩
    cases received with
    | none =>
        obtain ⟨rfl, rfl⟩ := Prod.mk.inj (Option.some.inj handled)
        exact ⟨rfl, _, _, _, dequeued, .empty rfl⟩
    | some len =>
        dsimp only at handled
        rw [if_neg (Option.some_ne_none _)] at handled
        obtain ⟨passes, test, ends⟩ := Option.bind_eq_some_iff.mp handled
        cases passes with
        | false =>
            rw [if_pos rfl] at ends
            obtain ⟨rfl, rfl⟩ := Prod.mk.inj (Option.some.inj ends)
            exact ⟨rfl, _, _, _, dequeued, .rejected len rfl test⟩
        | true =>
            rw [if_neg (by simp)] at ends
            obtain ⟨pHdr, headerRead, final⟩ :=
              Option.bind_eq_some_iff.mp ends
            obtain ⟨rfl, rfl⟩ := Prod.mk.inj (Option.some.inj final)
            exact ⟨rfl, _, _, _, dequeued,
              .chosen len pHdr rfl test headerRead⟩

theorem fkz9EventTaskPoll_transition (represents : link.Represents waiting)
    (result : fkz9EventTaskPoll link = some (following, emitted)) :
    ∃ after, following.Represents after ∧
      Transition device link waiting .fkz9Poll following after emitted := by
  obtain ⟨idle, rfl, fkz9Queue, buf, received, dequeued, poll⟩ :=
    fkz9EventTaskPoll_cases result
  rcases ThreadSafeQueue.dequeue_cases represents.fkz9 dequeued with
    ⟨empty, rfl, _, rfl⟩ | ⟨message, rest, fits, pending, rfl, rfl, stored⟩
  · cases poll with
    | empty _ => exact ⟨waiting, represents, .fkz9Idle empty⟩
    | rejected len absent _ => cases absent
    | chosen len pHdr absent _ _ => cases absent
  · have taken passes test := @Transition.fkz9Taken device link waiting message
      rest fits fkz9Queue passes idle pending test
    have represented (handler : Option Fkz9Handler) :
        ({ link with
            fkz9Queue, fkz9Buf := link.fkz9Buf.overwrite message fits
            fkz9Handler := handler } : Link).Represents
          { waiting with fkz9 := rest } :=
      ⟨represents.cloud, stored, represents.tx⟩
    cases poll with
    | empty absent => cases absent
    | rejected len _ test =>
        have same := represented none
        have rejected := taken false test
        simp only [Bool.false_eq_true, if_false] at rejected
        rw [← idle] at same rejected
        exact ⟨_, same, rejected⟩
    | chosen len pHdr _ test headerRead =>
        obtain ⟨_, signValue⟩ := MsgFramHdr.read_fields headerRead
        rw [signValue]
        exact ⟨_, represented _, taken true test⟩

theorem fkz9EventTaskSend_transition (represents : link.Represents waiting)
    (result : fkz9EventTaskSend device link = some (following, emitted)) :
    ∃ after, following.Represents after ∧
      Transition device link waiting .fkz9Send following after emitted := by
  simp only [fkz9EventTaskSend, Option.bind_eq_bind,
    Option.bind_eq_some_iff, Prod.exists, Option.some.injEq,
    Prod.mk.injEq] at result
  obtain ⟨handler, chosen, call, called, sent, ret, outputs, sending, rfl,
    rfl⟩ := result
  obtain ⟨after, stored, result⟩ := tcpClientSend_result represents sending
  exact ⟨after, ⟨stored.cloud, stored.fkz9, stored.tx⟩,
    .fkz9Sent handler call sent after ret outputs chosen called result⟩

theorem navDataMsgTaskCb_transition {segment : Buffer navDataSegSize}
    (represents : link.Represents waiting)
    (result : navDataMsgTaskCb device link segment =
      some (following, emitted)) :
    ∃ after, following.Represents after ∧
      Transition device link waiting (.navTimer segment) following after
        emitted := by
  simp only [navDataMsgTaskCb, sendCall, Option.bind_eq_bind,
    Option.bind_eq_some_iff, Prod.exists, Option.some.injEq, Prod.mk.injEq,
    Option.map_eq_some_iff] at result
  obtain ⟨call, ⟨frame, built, rfl⟩, sent, ret, outputs, sending, rfl, rfl⟩ :=
    result
  obtain ⟨after, stored, result⟩ := tcpClientSend_result represents sending
  exact ⟨after, stored,
    .navSent segment frame sent after ret outputs built result⟩

theorem tcpClientSendEntryPoll_transition
    (represents : link.Represents waiting)
    (result : tcpClientSendEntryPoll link = some (following, emitted)) :
    ∃ after, following.Represents after ∧
      Transition device link waiting .txPoll following after emitted := by
  unfold tcpClientSendEntryPoll at result
  split at result
  · cases result
  · rename_i enabled
    obtain ⟨online, idle⟩ := not_or.mp enabled
    have connected : link.isConnected = true := by
      simpa using online
    have free : link.txLen = none := by
      simpa using idle
    simp only [Option.bind_eq_bind, Option.bind_eq_some_iff, Prod.exists,
      Option.some.injEq, Prod.mk.injEq] at result
    obtain ⟨txQueue, txBuf, txLen, dequeued, rfl, rfl⟩ := result
    rcases ThreadSafeQueue.dequeue_cases represents.tx dequeued with
      ⟨empty, rfl, rfl, rfl⟩ | ⟨message, rest, fits, pending, rfl, rfl, stored⟩
    · rw [← free]
      exact ⟨waiting, represents, .txIdle empty⟩
    · exact ⟨{ waiting with tx := rest },
        ⟨represents.cloud, represents.fkz9, stored⟩,
        .txTaken message rest fits txQueue connected free pending⟩

theorem tcpClientSendEntryWrite_transition
    (represents : link.Represents waiting)
    (result : tcpClientSendEntryWrite link = some (following, emitted)) :
    following.Represents waiting ∧
      Transition device link waiting .txWrite following waiting emitted := by
  simp only [tcpClientSendEntryWrite, Option.bind_eq_bind,
    Option.bind_eq_some_iff, Option.some.injEq, Prod.mk.injEq] at result
  obtain ⟨len, held, bytes, taken, rfl, rfl⟩ := result
  unfold readBytes at taken
  split at taken
  · rename_i inside
    rw [link.txBuf.size] at inside
    rw [← Option.some.inj taken]
    exact ⟨⟨represents.cloud, represents.fkz9, represents.tx⟩,
      .txWritten len held inside⟩
  · cases taken

/-- Everything a defined step of the link can do. -/
theorem linkStep_transition {event : LinkEvent}
    (represents : link.Represents waiting)
    (stepped : linkStep device link event = some (following, emitted)) :
    ∃ after, following.Represents after ∧
      Transition device link waiting event following after emitted := by
  cases event with
  | connected =>
      exact ⟨waiting, tcpClientConnected_transition represents stepped⟩
  | disconnected =>
      obtain ⟨rfl, rfl⟩ := Prod.mk.inj (Option.some.inj stepped)
      exact ⟨waiting, ⟨represents.cloud, represents.fkz9, represents.tx⟩,
        .disconnected⟩
  | tcpRead chunk => exact tcpClientReadCb_transition represents stepped
  | mqttMessage payload => exact onMessageCb_transition represents stepped
  | mqttSend => exact onMessageCbSend_transition represents stepped
  | cloudPoll => exact cloudEventTaskPoll_transition represents stepped
  | cloudSend => exact cloudEventTaskSend_transition represents stepped
  | fkz9Poll => exact fkz9EventTaskPoll_transition represents stepped
  | fkz9Send => exact fkz9EventTaskSend_transition represents stepped
  | navTimer segment => exact navDataMsgTaskCb_transition represents stepped
  | txPoll => exact tcpClientSendEntryPoll_transition represents stepped
  | txWrite =>
      exact ⟨waiting, tcpClientSendEntryWrite_transition represents stepped⟩

end Inversion

theorem LinkInitial.represents {link : Link} (starts : LinkInitial link) :
    link.Represents { cloud := [], fkz9 := [], tx := [] } := by
  obtain ⟨cloudSizes, fkz9Sizes, txSizes, buf, rfl⟩ := starts
  exact ⟨ThreadSafeQueue.initQueue_represents 256 cloudSizes,
    ThreadSafeQueue.initQueue_represents 1400 fkz9Sizes,
    ThreadSafeQueue.initQueue_represents 1400 txSizes⟩

/-- What holds initially and is preserved by every allowed transition holds of
every state that the link reaches, over the messages waiting in it. -/
theorem linkMachine_invariant {device : Device}
    {allowed : Link → LinkEvent → Prop}
    {holds : List LinkOutput → Link → Waiting → Prop}
    (initially : ∀ link, LinkInitial link →
      holds [] link { cloud := [], fkz9 := [], tx := [] })
    (preserved : ∀ outputs link waiting event following after emitted,
      link.Represents waiting → holds outputs link waiting →
      allowed link event →
      Transition device link waiting event following after emitted →
      holds (outputs ++ emitted) following after)
    {outputs : List LinkOutput} {link : Link}
    (reached : (linkMachine device).Reaches allowed outputs link) :
    ∃ waiting, link.Represents waiting ∧ holds outputs link waiting := by
  refine @Machine.invariant _ _ _ (linkMachine device) allowed
    (fun outputs link =>
      ∃ waiting, Link.Represents link waiting ∧ holds outputs link waiting)
    ?_ ?_ outputs link reached
  · intro link starts
    exact ⟨_, LinkInitial.represents starts, initially link starts⟩
  · rintro outputs link event following emitted ⟨waiting, represents, held⟩
      permitted stepped
    obtain ⟨after, represented, transition⟩ :=
      linkStep_transition represents stepped
    exact ⟨after, represented,
      preserved _ _ _ _ _ _ _ represents held permitted transition⟩

end RtA100
