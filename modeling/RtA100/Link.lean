import RtA100.CloudEvent
import RtA100.Queue
import RtA100.Library.Machine

/-!
# The link between cloud and FKZ9

The TCP client, the cloud event thread, the MQTT callback and the FKZ9 event
thread share three queues.  `Link` holds everything these parties keep between
two steps, and one event of `linkMachine` is one step of one of them, so a run
is an interleaving.  A step is atomic up to its single queue operation; a
callback or a thread that has several sends to make takes them one at a time.
There is one send thread at a time: a connection is made only when the thread
before has nothing in hand.  `Uplink` has any number of send threads.
-/

namespace RtA100

open Library

/-- The parties that call the TCP client's `send`. -/
inductive Sender where
  | onMessageCb
  | fwToCloud
  | devInfoResp
  | cloudEvent
  | navDataMsg
deriving DecidableEq

/-- The arguments of a call of the TCP client's `send`. -/
structure SendCall where
  sender : Sender
  data : List UInt8
  len : Nat
deriving DecidableEq

/-- The loops of `on_message_cb` over a payload that is not one frame. -/
structure SplitLoop where
  payload : List UInt8
  len : Nat
  index : Nat
deriving DecidableEq

/-- What `fkz9_event_task_entry` does next with the frame in its buffer. -/
inductive Fkz9Handler where
  | msgFwToCloud
  | devInfoResp
deriving DecidableEq

/-- The state of the link.  `splitting` is the MQTT callback inside its loops,
`cloudSends` what a handler of the cloud event thread still has to send,
`fkz9Handler` a frame taken but not yet handled, and `txLen` a message that the
send thread holds in its buffer. -/
structure Link where
  isConnected : Bool
  isInit : Bool
  cloudQueue : ThreadSafeQueue 256
  fkz9Queue : ThreadSafeQueue 1400
  txQueue : ThreadSafeQueue 1400
  splitting : Option SplitLoop
  cloudLoop : CloudEventLoop
  cloudSends : List (List UInt8)
  fkz9Buf : Buffer 1500
  fkz9Handler : Option Fkz9Handler
  txBuf : Buffer 1400
  txLen : Option Nat
deriving DecidableEq

/-- The data of the device that its frames carry. -/
structure Device where
  services : CloudServices
  simId : List UInt8

/-- The steps of the parties, named by what makes them happen. -/
inductive LinkEvent where
  | connected
  | disconnected
  | tcpRead (chunk : List UInt8)
  | mqttMessage (payload : List UInt8)
  | mqttSend
  | cloudPoll
  | cloudSend
  | fkz9Poll
  | fkz9Send
  | navTimer (segment : Buffer navDataSegSize)
  | txPoll
  | txWrite
deriving DecidableEq

/-- What an observer sees of a run. -/
inductive LinkOutput where
  | received (chunk : List UInt8)
  | delivered (payload : List UInt8)
  | accepted (message : AcceptedMessage)
  | queued (sender : Sender) (frame : List UInt8)
  | written (bytes : List UInt8)
deriving DecidableEq

def mqttMsgSignHeartbeatReq : UInt8 := 0x15

def mqttMsgSignHeartbeatResp : UInt8 := 0x16

/-! ## Calls of `send` -/

def SplitLoop.call (loop : SplitLoop) : SendCall :=
  { sender := .onMessageCb, data := loop.payload.drop loop.index
    len := loop.len }

/-- The call of the handler that `fkz9_event_task_entry` has chosen. -/
def Fkz9Handler.call (device : Device) (buf : Buffer 1500) :
    Fkz9Handler → Option SendCall
  | .msgFwToCloud => do
      let pHdr ← MsgFramHdr.read buf.bytes
      some { sender := .fwToCloud, data := buf.bytes
             len := (bswap16 pHdr.usLen).toNat }
  | .devInfoResp => do
      let frame ← funcDevInfoResp device.services.info device.simId
      some { sender := .devInfoResp, data := frame, len := frame.length }

/-- The call of the TCP client's `send` that an event makes. -/
def sendCall (device : Device) (link : Link) : LinkEvent → Option SendCall
  | .mqttSend => link.splitting.map SplitLoop.call
  | .fkz9Send => link.fkz9Handler.bind (Fkz9Handler.call device link.fkz9Buf)
  | .cloudSend => link.cloudSends.head?.map fun frame =>
      { sender := .cloudEvent, data := frame, len := frame.length }
  | .navTimer segment => (navDataMsg segment).map fun frame =>
      { sender := .navDataMsg, data := frame, len := frame.length }
  | _ => none

/-- `tcp_client_send`: the status, and the message put on `tx_queue`. -/
def tcpClientSend (link : Link) (call : SendCall) :
    Option (Link × Int × List LinkOutput) := do
  if link.isConnected = false then
    return (link, 0, [])
  let (txQueue, ret) ← link.txQueue.enqueue call.data call.len
  return ({ link with txQueue }, ret,
    if ret = 0 then [.queued call.sender (call.data.take call.len)] else [])

/-! ## Steps -/

/-- `tcp_client_event_cb` for a connection: the send thread starts, with a
buffer of its own, once the previous one has ended. -/
def tcpClientConnected (link : Link) : Option (Link × List LinkOutput) :=
  if link.txLen = none then
    some (if link.isConnected = false then
      { link with isConnected := true, txBuf := Buffer.filled 1400 0 }
    else link, [])
  else none

/-- `tcp_client_read_cb` and `proc_message_cb`, for the bytes of one
`bufferevent_read`. -/
def tcpClientReadCb (link : Link) (chunk : List UInt8) :
    Option (Link × List LinkOutput) := do
  if 1 ≤ chunk.length ∧ chunk.length ≤ 1024 then
    let (cloudQueue, _) ← link.cloudQueue.enqueue chunk chunk.length
    some ({ link with cloudQueue }, [.received chunk])
  else none

/-- `on_message_cb` up to its loops. -/
def onMessageCb (link : Link) (payload : List UInt8) :
    Option (Link × List LinkOutput) := do
  if link.splitting ≠ none then
    none
  else
    let pHdr ← MsgFramHdr.read payload
    let len := (bswap16 pHdr.usLen).toNat
    if pHdr.ucSign = mqttMsgSignHeartbeatReq then
      some (link, [.delivered payload])
    else if len ≠ payload.length then
      some ({ link with splitting := some { payload, len, index := 0 } },
        [.delivered payload])
    else
      let (fkz9Queue, _) ← link.fkz9Queue.enqueue payload payload.length
      some ({ link with fkz9Queue }, [.delivered payload])

/-- One iteration of the inner loop of `on_message_cb`, and of the outer one
when the send succeeds. -/
def onMessageCbSend (link : Link) : Option (Link × List LinkOutput) := do
  let loop ← link.splitting
  let (link, ret, outputs) ← tcpClientSend link loop.call
  if ret ≠ 0 then
    some (link, outputs)
  else
    let index := loop.index + loop.len
    let splitting :=
      if index < loop.payload.length then some { loop with index } else none
    some ({ link with splitting }, outputs)

/-- The frames that the calls of a message send, in order. -/
def sendsOf (actions : List CloudAction) : List (List UInt8) :=
  actions.filterMap fun action =>
    match action with
    | .send frame => some frame
    | _ => none

/-- One iteration of the loop of `cloud_event_task_entry`, up to the sends of
the callback it calls. -/
def cloudEventTaskPoll (device : Device) (link : Link) :
    Option (Link × List LinkOutput) := do
  if link.cloudSends ≠ [] then
    none
  else
    let (cloudQueue, buf, received) ←
      link.cloudQueue.dequeue link.cloudLoop.buf
    if received = none then
      some ({ link with cloudQueue }, [])
    else
      let (cloudLoop, outcome) ← cloudEventBody
        (messageProcessing device.services) { link.cloudLoop with buf }
      match outcome with
      | none => some ({ link with cloudQueue, cloudLoop }, [])
      | some message =>
          some ({ link with
              cloudQueue, cloudLoop, cloudSends := sendsOf message.actions },
            [.accepted message])

/-- The next send of a callback in the cloud event thread. -/
def cloudEventTaskSend (device : Device) (link : Link) :
    Option (Link × List LinkOutput) := do
  let call ← sendCall device link .cloudSend
  let (link, _, outputs) ← tcpClientSend link call
  some ({ link with cloudSends := link.cloudSends.tail }, outputs)

/-- One iteration of the loop of `fkz9_event_task_entry`, up to the send of the
handler it chooses.  A heartbeat response needs a send only before the first
device information. -/
def fkz9EventTaskPoll (link : Link) : Option (Link × List LinkOutput) := do
  if link.fkz9Handler ≠ none then
    none
  else
    let (fkz9Queue, fkz9Buf, received) ← link.fkz9Queue.dequeue link.fkz9Buf
    if received = none then
      some ({ link with fkz9Queue }, [])
    else
      let passes ← fkz9FrameTest fkz9Buf.bytes
      if passes = false then
        some ({ link with fkz9Queue, fkz9Buf }, [])
      else
        let pHdr ← MsgFramHdr.read fkz9Buf.bytes
        let fkz9Handler : Option Fkz9Handler :=
          if pHdr.ucSign = mqttMsgSignHeartbeatResp then
            if link.isInit = false then some .devInfoResp else none
          else some .msgFwToCloud
        some ({ link with fkz9Queue, fkz9Buf, fkz9Handler }, [])

/-- The send of the chosen handler: `fkz9_msg_fw_to_cloud_entry`, or
`func_dev_info_resp` in `fkz9_heartbeat_resp_entry`. -/
def fkz9EventTaskSend (device : Device) (link : Link) :
    Option (Link × List LinkOutput) := do
  let handler ← link.fkz9Handler
  let call ← handler.call device link.fkz9Buf
  let (link, _, outputs) ← tcpClientSend link call
  let isInit := link.isInit || handler == .devInfoResp
  some ({ link with isInit, fkz9Handler := none }, outputs)

def navDataMsgTaskCb (device : Device) (link : Link)
    (segment : Buffer navDataSegSize) : Option (Link × List LinkOutput) := do
  let call ← sendCall device link (.navTimer segment)
  let (link, _, outputs) ← tcpClientSend link call
  some (link, outputs)

/-- The `dequeue` of an iteration of `tcp_client_send_entry`. -/
def tcpClientSendEntryPoll (link : Link) :
    Option (Link × List LinkOutput) := do
  if link.isConnected = false ∨ link.txLen ≠ none then
    none
  else
    let (txQueue, txBuf, txLen) ← link.txQueue.dequeue link.txBuf
    some ({ link with txQueue, txBuf, txLen }, [])

/-- The `bufferevent_write` of an iteration of `tcp_client_send_entry`. -/
def tcpClientSendEntryWrite (link : Link) :
    Option (Link × List LinkOutput) := do
  let len ← link.txLen
  let bytes ← readBytes link.txBuf.bytes len
  some ({ link with txLen := none }, [.written bytes])

/-- The state after `tcp_client_create`, `clound_comm_init` and
`fkz9_comm_init`; local arrays and `sizes` keep what memory held. -/
def LinkInitial (link : Link) : Prop :=
  ∃ cloudSizes fkz9Sizes txSizes buf,
    link =
      { isConnected := false, isInit := false
        cloudQueue := initQueue 256 cloudSizes
        fkz9Queue := initQueue 1400 fkz9Sizes
        txQueue := initQueue 1400 txSizes
        splitting := none
        cloudLoop := { buf, start := 0 }
        cloudSends := []
        fkz9Buf := Buffer.filled 1500 0
        fkz9Handler := none
        txBuf := Buffer.filled 1400 0
        txLen := none }

/-- An initial state in which every entry of `sizes` is zero. -/
def freshLink : Link :=
  { isConnected := false, isInit := false
    cloudQueue := initQueue 256 (Vector.replicate maxSegments 0)
    fkz9Queue := initQueue 1400 (Vector.replicate maxSegments 0)
    txQueue := initQueue 1400 (Vector.replicate maxSegments 0)
    splitting := none
    cloudLoop := { buf := Buffer.filled 256 0, start := 0 }
    cloudSends := []
    fkz9Buf := Buffer.filled 1500 0
    fkz9Handler := none
    txBuf := Buffer.filled 1400 0
    txLen := none }

theorem freshLink_initial : LinkInitial freshLink :=
  ⟨_, _, _, _, rfl⟩

def exampleDevice : Device :=
  { services := exampleServices, simId := [] }

def linkStep (device : Device) (link : Link) :
    LinkEvent → Option (Link × List LinkOutput)
  | .connected => tcpClientConnected link
  | .disconnected => some ({ link with isConnected := false }, [])
  | .tcpRead chunk => tcpClientReadCb link chunk
  | .mqttMessage payload => onMessageCb link payload
  | .mqttSend => onMessageCbSend link
  | .cloudPoll => cloudEventTaskPoll device link
  | .cloudSend => cloudEventTaskSend device link
  | .fkz9Poll => fkz9EventTaskPoll link
  | .fkz9Send => fkz9EventTaskSend device link
  | .navTimer segment => navDataMsgTaskCb device link segment
  | .txPoll => tcpClientSendEntryPoll link
  | .txWrite => tcpClientSendEntryWrite link

/-- The link as a machine: its runs are the interleavings of its parties. -/
def linkMachine (device : Device) : Machine Link LinkEvent LinkOutput :=
  { initial := LinkInitial
    step := linkStep device }

end RtA100
