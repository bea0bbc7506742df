import RtA100.Library.Machine

/-!
# The life of the two services

`main` starts the cloud service and the FKZ9 service and stops them in the same
order.  Each service publishes a global pointer to its context in the last
statement of its initialisation and clears it in the last statement of its
shutdown, while its threads, sockets and callbacks come and go in between.
`MainVars` is what `main` alone writes, one statement a step; `Lifecycle` adds
the threads, the callbacks that other libraries make, and the work that waits
for them.  A step is one statement of `main` or one round of another party.  A
round reads its pointers at once: only `func_dev_info_resp` can see one cleared
between two uses, and its two uses are two rounds.
-/

namespace RtA100

open Library

/-- The statement that `main` executes next, from the first one of
`clound_comm_init` to the last one of `fkz9_comm_uninit`. -/
inductive MainPc where
  | fx650Init
  | tcpConnect
  | setClient
  | createCloudTimer
  | createCloudEvent
  | createDownload
  | publishCloud
  | mqttCreate
  | mqttConnect
  | createFkz9Timer
  | createFkz9Event
  | setFkz9Running
  | publishFkz9
  | serving
  | stopCloud
  | joinCloudTimer
  | joinCloudEvent
  | joinDownload
  | disconnectTcp
  | clearCloud
  | stopFkz9
  | joinFkz9Timer
  | joinFkz9Event
  | destroyMqtt
  | clearFkz9
  | finished
deriving DecidableEq

/-- The place of a statement in the order of the program. -/
def MainPc.position : MainPc → Nat
  | .fx650Init => 0
  | .tcpConnect => 1
  | .setClient => 2
  | .createCloudTimer => 3
  | .createCloudEvent => 4
  | .createDownload => 5
  | .publishCloud => 6
  | .mqttCreate => 7
  | .mqttConnect => 8
  | .createFkz9Timer => 9
  | .createFkz9Event => 10
  | .setFkz9Running => 11
  | .publishFkz9 => 12
  | .serving => 13
  | .stopCloud => 14
  | .joinCloudTimer => 15
  | .joinCloudEvent => 16
  | .joinDownload => 17
  | .disconnectTcp => 18
  | .clearCloud => 19
  | .stopFkz9 => 20
  | .joinFkz9Timer => 21
  | .joinFkz9Event => 22
  | .destroyMqtt => 23
  | .clearFkz9 => 24
  | .finished => 25

/-- The variables that only `main` writes.  `cloudInit` and `fkz9Init` record
that `fx650_init` and `mqtt_client_create` have succeeded; `client` is whether
`ctx->client` is set. -/
structure MainVars where
  pc : MainPc
  cloudInit : Bool
  fkz9Init : Bool
  client : Bool
  running : Bool
  gpCloudCommCtx : Bool
  isRunning : Bool
  gpFkz9CommCtx : Bool
deriving DecidableEq

/-- The effect of a statement on them.  `outcome` is whether a call that can
fail succeeds. -/
def mainStatement (vars : MainVars) (outcome : Bool) : MainVars :=
  match vars.pc with
  | .fx650Init =>
      if outcome = true then { vars with pc := .tcpConnect, cloudInit := true }
      else { vars with pc := .mqttCreate }
  | .tcpConnect => { vars with pc := .setClient }
  | .setClient =>
      { vars with pc := .createCloudTimer, client := true, running := true }
  | .createCloudTimer => { vars with pc := .createCloudEvent }
  | .createCloudEvent => { vars with pc := .createDownload }
  | .createDownload => { vars with pc := .publishCloud }
  | .publishCloud => { vars with pc := .mqttCreate, gpCloudCommCtx := true }
  | .mqttCreate =>
      if outcome = true then { vars with pc := .mqttConnect, fkz9Init := true }
      else { vars with pc := .serving }
  | .mqttConnect => { vars with pc := .createFkz9Timer }
  | .createFkz9Timer => { vars with pc := .createFkz9Event }
  | .createFkz9Event => { vars with pc := .setFkz9Running }
  | .setFkz9Running => { vars with pc := .publishFkz9, isRunning := true }
  | .publishFkz9 => { vars with pc := .serving, gpFkz9CommCtx := true }
  | .serving => { vars with pc := .stopCloud }
  | .stopCloud =>
      if vars.running = false then { vars with pc := .stopFkz9 }
      else { vars with pc := .joinCloudTimer, running := false }
  | .joinCloudTimer => { vars with pc := .joinCloudEvent }
  | .joinCloudEvent => { vars with pc := .joinDownload }
  | .joinDownload => { vars with pc := .disconnectTcp }
  | .disconnectTcp => { vars with pc := .clearCloud }
  | .clearCloud => { vars with pc := .stopFkz9, gpCloudCommCtx := false }
  | .stopFkz9 =>
      if vars.isRunning = false then { vars with pc := .finished }
      else { vars with pc := .joinFkz9Timer, isRunning := false }
  | .joinFkz9Timer => { vars with pc := .joinFkz9Event }
  | .joinFkz9Event => { vars with pc := .destroyMqtt }
  | .destroyMqtt => { vars with pc := .clearFkz9 }
  | .clearFkz9 => { vars with pc := .finished, gpFkz9CommCtx := false }
  | .finished => vars

/-! ## Threads and callbacks -/

inductive ThreadState where
  | absent
  | alive
  | ended
deriving DecidableEq

/-- `fkz9_event_task_entry`: about to test `is_running`, inside its loop,
inside `func_dev_info_resp` with the frame filled in, or returned. -/
inductive EventPc where
  | absent
  | testing
  | inside
  | filled
  | ended
deriving DecidableEq

/-- `tcpThread` and `mqttThread` are whether the two network libraries can make
callbacks; `cloudPending`, `fkz9Pending` and `tasks` count the messages in the
two event queues and the tasks of the download thread. -/
structure Lifecycle where
  vars : MainVars
  isInit : Bool
  tcpThread : Bool
  tcpConnected : Bool
  mqttThread : Bool
  cloudTimer : ThreadState
  cloudEvent : ThreadState
  download : ThreadState
  fkz9Timer : ThreadState
  fkz9Event : EventPc
  cloudPending : Nat
  fkz9Pending : Nat
  tasks : Nat
  crashed : Bool
deriving DecidableEq

/-- What the payload of an MQTT message makes of `on_message_cb`. -/
inductive MqttPayload where
  | heartbeatReq
  | frame
  | frames
deriving DecidableEq

/-- What the cloud event thread makes of a message: a handler of one of the
three groups, the answer to a wave-file request, or nothing. -/
inductive CloudMessage where
  | group
  | waveFile
  | ignored
deriving DecidableEq

/-- What the FKZ9 event thread makes of a frame. -/
inductive Fkz9Message where
  | heartbeatResp
  | forwarded
  | dropped
deriving DecidableEq

/-- What `reboot_upgrade_task_cb` finds: no mission file, or an empty one; or a
record whose `up_time` it compares with that of the context, and the tasks that
it queues after that. -/
inductive RebootTick where
  | noMission
  | compared (tasks : Nat)
deriving DecidableEq

/-- What `ota_heartbeat_task_cb` meets: an SSH client that fails to connect or
to execute the first command; or a measurement whose `up_time` it compares with
that of the context, and the tasks of an answer after that. -/
inductive HeartbeatTick where
  | unmeasured
  | measured (tasks : Nat)
deriving DecidableEq

inductive LifecycleEvent where
  | main (outcome : Bool)
  | tcpConnected
  | tcpDisconnected
  | tcpRead
  | mqttMessage (payload : MqttPayload)
  | cloudMessage (message : CloudMessage)
  | cloudEventExit
  | navData
  | rebootUpgrade (tick : RebootTick)
  | otaHeartbeat (tick : HeartbeatTick)
  | cloudTimerExit
  | downloadFirmware
  | downloadExit
  | heartbeatReq
  | fkz9TimerExit
  | fkz9Test
  | fkz9Message (message : Fkz9Message)
  | fkz9Send
  | fkz9Idle
deriving DecidableEq

/-! ## The steps -/

/-- What a statement of `main` does besides: it creates threads, waits for them
to end, and stops the callbacks of the libraries. -/
def mainThreads (state : Lifecycle) (outcome : Bool) : Option Lifecycle :=
  match state.vars.pc with
  | .tcpConnect => some { state with tcpThread := true }
  | .createCloudTimer => some { state with cloudTimer := .alive }
  | .createCloudEvent => some { state with cloudEvent := .alive }
  | .createDownload =>
      some (if outcome = true then { state with download := .alive }
        else state)
  | .mqttConnect => some { state with mqttThread := true }
  | .createFkz9Timer => some { state with fkz9Timer := .alive }
  | .createFkz9Event => some { state with fkz9Event := .testing }
  | .publishFkz9 => some { state with isInit := false }
  | .joinCloudTimer => if state.cloudTimer = .alive then none else some state
  | .joinCloudEvent => if state.cloudEvent = .alive then none else some state
  | .joinDownload => if state.download = .alive then none else some state
  | .disconnectTcp =>
      some (if state.tcpConnected = true then
        { state with tcpConnected := false, tcpThread := false } else state)
  | .stopFkz9 =>
      some (if state.vars.isRunning = true then
        { state with isInit := false } else state)
  | .joinFkz9Timer => if state.fkz9Timer = .alive then none else some state
  | .joinFkz9Event =>
      if state.fkz9Event = .absent ∨ state.fkz9Event = .ended then some state
      else none
  | .destroyMqtt => some { state with mqttThread := false }
  | _ => some state

def mainStep (state : Lifecycle) (outcome : Bool) : Option Lifecycle :=
  (mainThreads state outcome).map fun next =>
    { next with vars := mainStatement state.vars outcome }

/-- One frame in `fkz9_event_task_entry`.  For the first heartbeat response,
`func_dev_info_resp` takes the SIM number from the cloud context and, later,
the client. -/
def fkz9MessageStep (state : Lifecycle) : Fkz9Message → Lifecycle
  | .heartbeatResp =>
      { state with
        fkz9Pending := state.fkz9Pending - 1
        fkz9Event := if state.isInit = true then .testing else .filled }
  | .forwarded | .dropped =>
      { state with
        fkz9Pending := state.fkz9Pending - 1, fkz9Event := .testing }

/-- One round of a party, when it is enabled, as long as every pointer that it
reads through is set. -/
def partyStep (state : Lifecycle) : LifecycleEvent → Option Lifecycle
  | .main outcome => mainStep state outcome
  | .tcpConnected =>
      if state.tcpThread = true then
        some { state with tcpConnected := true }
      else none
  | .tcpDisconnected =>
      if state.tcpThread = true then
        some { state with tcpConnected := false }
      else none
  | .tcpRead =>
      if state.tcpThread = true ∧ state.tcpConnected = true then
        some { state with cloudPending := state.cloudPending + 1 }
      else none
  | .mqttMessage payload =>
      if state.mqttThread = true then
        some (if payload = .frame then
          { state with fkz9Pending := state.fkz9Pending + 1 } else state)
      else none
  | .cloudMessage _ =>
      if state.cloudEvent = .alive ∧ 0 < state.cloudPending then
        some { state with cloudPending := state.cloudPending - 1 }
      else none
  | .cloudEventExit =>
      if state.cloudEvent = .alive ∧ state.vars.running = false then
        some { state with cloudEvent := .ended }
      else none
  | .navData | .rebootUpgrade .noMission | .otaHeartbeat .unmeasured =>
      if state.cloudTimer = .alive then some state else none
  | .rebootUpgrade (.compared tasks) | .otaHeartbeat (.measured tasks) =>
      if state.cloudTimer = .alive then
        some { state with tasks := state.tasks + tasks }
      else none
  | .cloudTimerExit =>
      if state.cloudTimer = .alive ∧
          MainPc.stopCloud.position < state.vars.pc.position then
        some { state with cloudTimer := .ended }
      else none
  | .downloadFirmware =>
      if state.download = .alive ∧ 0 < state.tasks then
        some { state with tasks := state.tasks - 1 }
      else none
  | .downloadExit =>
      if state.download = .alive ∧ state.vars.running = false then
        some { state with download := .ended }
      else none
  | .heartbeatReq => if state.fkz9Timer = .alive then some state else none
  | .fkz9TimerExit =>
      if state.fkz9Timer = .alive ∧
          MainPc.stopFkz9.position < state.vars.pc.position then
        some { state with fkz9Timer := .ended }
      else none
  | .fkz9Test =>
      if state.fkz9Event = .testing then
        some { state with
          fkz9Event :=
            if state.vars.isRunning = true then .inside else .ended }
      else none
  | .fkz9Message message =>
      if state.fkz9Event = .inside ∧ 0 < state.fkz9Pending then
        some (fkz9MessageStep state message)
      else none
  | .fkz9Send =>
      if state.fkz9Event = .filled then
        some { state with isInit := true, fkz9Event := .testing }
      else none
  | .fkz9Idle =>
      if state.fkz9Event = .inside then
        some { state with fkz9Event := .testing }
      else none

/-- The shared pointers that a party reads through. -/
inductive SharedPointer where
  | gpCloudCommCtx
  | client
  | gpFkz9CommCtx
deriving DecidableEq

def MainVars.isSet (vars : MainVars) : SharedPointer → Bool
  | .gpCloudCommCtx => vars.gpCloudCommCtx
  | .client => vars.client
  | .gpFkz9CommCtx => vars.gpFkz9CommCtx

/-- The pointers that a round reads through, in order.  `navData` and
`waveFile` come to the client by the thread's own pointer to the context. -/
def pointersRead (state : Lifecycle) : LifecycleEvent → List SharedPointer
  | .tcpRead => [.gpCloudCommCtx]
  | .mqttMessage .frame => [.gpFkz9CommCtx]
  | .mqttMessage .frames => [.gpCloudCommCtx, .client]
  | .cloudMessage .group => [.gpFkz9CommCtx]
  | .cloudMessage .waveFile => [.client]
  | .navData => [.client]
  | .rebootUpgrade (.compared _) | .otaHeartbeat (.measured _) =>
      [.gpCloudCommCtx]
  | .downloadFirmware => [.gpCloudCommCtx]
  | .fkz9Message .heartbeatResp =>
      if state.isInit = true then [.gpFkz9CommCtx]
      else [.gpFkz9CommCtx, .gpCloudCommCtx]
  | .fkz9Message .forwarded => [.gpCloudCommCtx, .client]
  | .fkz9Send => [.gpFkz9CommCtx, .gpCloudCommCtx, .client]
  | _ => []

/-- Read through the pointers, in order, and go on to `next`.  The first one
that is `NULL` stops the program; it is reported. -/
def Lifecycle.reading (state : Lifecycle) (pointers : List SharedPointer)
    (next : Lifecycle) : Lifecycle × List SharedPointer :=
  match pointers.find? (fun pointer => !state.vars.isSet pointer) with
  | none => (next, [])
  | some pointer => ({ state with crashed := true }, [pointer])

def lifecycleStep (state : Lifecycle) (event : LifecycleEvent) :
    Option (Lifecycle × List SharedPointer) :=
  if state.crashed = true ∨ state.vars.pc = .finished then none
  else (partyStep state event).map (state.reading (pointersRead state event))

/-- Before the first statement of `clound_comm_init`; `main` has cleared both
contexts. -/
def freshLifecycle : Lifecycle :=
  { vars :=
      { pc := .fx650Init, cloudInit := false, fkz9Init := false
        client := false, running := false, gpCloudCommCtx := false
        isRunning := false, gpFkz9CommCtx := false }
    isInit := false
    tcpThread := false
    tcpConnected := false
    mqttThread := false
    cloudTimer := .absent
    cloudEvent := .absent
    download := .absent
    fkz9Timer := .absent
    fkz9Event := .absent
    cloudPending := 0
    fkz9Pending := 0
    tasks := 0
    crashed := false }

def lifecycleMachine :
    Machine Lifecycle LifecycleEvent SharedPointer :=
  { initial := fun state => state = freshLifecycle
    step := lifecycleStep }

end RtA100
