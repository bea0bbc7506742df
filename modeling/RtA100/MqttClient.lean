import RtA100.Library.Machine
import RtA100.Library.Text

/-!
# The connection flag of the MQTT client

`is_conn` gates every publication and subscription, and only the callbacks
given to the asynchronous MQTT library write it.  The library tells a client
about a background reconnect through its `connected` callback alone; this
client registers none.  The flag agrees with the library along a run exactly
when the run has no background reconnect and no message is handed over after
the connection has gone.
-/

namespace RtA100

open Library

structure AsyncClientConfig where
  userName : CString
  password : CString
  qos : Nat
  keepAlive : Nat
  cleanSession : Nat
deriving DecidableEq

/-- `st_AsyncMQTTClient`; `onMessage` says whether a callback is registered. -/
structure AsyncMqttClient where
  config : AsyncClientConfig
  onMessage : Bool
  isConn : Bool
deriving DecidableEq

/-- What `message_arrived_cb` passes on. -/
structure ArrivedMessage where
  topic : CString
  payload : List UInt8
deriving DecidableEq

/-! ## Callbacks -/

def onConnectSuccess (client : AsyncMqttClient) : AsyncMqttClient :=
  { client with isConn := true }

def onConnectFailure (client : AsyncMqttClient) : AsyncMqttClient :=
  if client.isConn = true then { client with isConn := false } else client

def connectionLostCb (client : AsyncMqttClient) : AsyncMqttClient :=
  if client.isConn = true then { client with isConn := false } else client

def messageArrivedCb (client : AsyncMqttClient) (message : ArrivedMessage) :
    AsyncMqttClient × List ArrivedMessage :=
  (if client.isConn = false then { client with isConn := true } else client,
    if client.onMessage = true then [message] else [])

/-- The callbacks a client can give to the library for a whole connection. -/
structure ClientCallbacks where
  connectionLost : Option (AsyncMqttClient → AsyncMqttClient)
  messageArrived : Option (AsyncMqttClient → ArrivedMessage →
    AsyncMqttClient × List ArrivedMessage)
  connected : Option (AsyncMqttClient → AsyncMqttClient)

/-- The options of `MQTTAsync_connect`. -/
structure ConnectOptions where
  keepAliveInterval : Nat
  cleansession : Nat
  username : CString
  password : CString
  automaticReconnect : Bool
  onSuccess : AsyncMqttClient → AsyncMqttClient
  onFailure : AsyncMqttClient → AsyncMqttClient

/-- What `mqtt_client_create` registers by `MQTTAsync_setCallbacks`.  There is
no call of `MQTTAsync_setConnected`. -/
def registeredCallbacks : ClientCallbacks :=
  { connectionLost := some connectionLostCb
    messageArrived := some messageArrivedCb
    connected := none }

def mqttClientCreate (config : AsyncClientConfig) : AsyncMqttClient :=
  { config, onMessage := false, isConn := false }

def mqttRegisterCb (client : AsyncMqttClient) : AsyncMqttClient :=
  { client with onMessage := true }

/-- The options that `mqtt_connect` passes. -/
def mqttConnect (client : AsyncMqttClient) : ConnectOptions :=
  { keepAliveInterval := client.config.keepAlive
    cleansession := client.config.cleanSession
    username := client.config.userName
    password := client.config.password
    automaticReconnect := true
    onSuccess := onConnectSuccess
    onFailure := onConnectFailure }

/-! ## Requests -/

structure MqttMessage where
  payload : List UInt8
  payloadlen : Nat
  qos : Nat
  retained : Nat
deriving DecidableEq

/-- `mqtt_publish`: the status, and what is handed to the library, whose
answers are `sendMessage`. -/
def mqttPublish (client : AsyncMqttClient)
    (sendMessage : CString → MqttMessage → Int) (topic : CString)
    (payload : List UInt8) (len : Nat) :
    Int × Option (CString × MqttMessage) :=
  let msg : MqttMessage :=
    { payload, payloadlen := len, qos := client.config.qos, retained := 1 }
  if client.isConn = true then (sendMessage topic msg, some (topic, msg))
  else (-1, none)

/-- `mqtt_subscribe`, likewise. -/
def mqttSubscribe (client : AsyncMqttClient)
    (subscribe : CString → Nat → Int) (topic : CString) :
    Int × Option (CString × Nat) :=
  if client.isConn = true then
    (subscribe topic client.config.qos, some (topic, client.config.qos))
  else (-1, none)

/-! ## The library and its events -/

/-- The client and whether the library is connected. -/
structure MqttSystem where
  client : AsyncMqttClient
  connected : Bool
deriving DecidableEq

inductive MqttEvent where
  | connectSuccess
  | connectFailure
  | connectionLost
  | reconnect
  | messageArrived (message : ArrivedMessage)
deriving DecidableEq

/-- An event of the library, with the callback it makes if one is given. -/
def mqttStep (system : MqttSystem) :
    MqttEvent → Option (MqttSystem × List ArrivedMessage)
  | .connectSuccess =>
      if system.connected = true then none
      else some
        ({ client := (mqttConnect system.client).onSuccess system.client
           connected := true }, [])
  | .connectFailure =>
      if system.connected = true then none
      else some
        ({ client := (mqttConnect system.client).onFailure system.client
           connected := false }, [])
  | .connectionLost =>
      if system.connected = false then none
      else some
        ({ client := registeredCallbacks.connectionLost.elim system.client
             fun callback => callback system.client
           connected := false }, [])
  | .reconnect =>
      if system.connected = true ∨
          (mqttConnect system.client).automaticReconnect = false then none
      else some
        ({ client := registeredCallbacks.connected.elim system.client
             fun callback => callback system.client
           connected := true }, [])
  | .messageArrived message =>
      let (client, delivered) :=
        registeredCallbacks.messageArrived.elim (system.client, [])
          fun callback => callback system.client message
      some ({ system with client }, delivered)

/-- After `mqtt_connect` has asked for a connection. -/
def MqttInitial (system : MqttSystem) : Prop :=
  ∃ config, system =
    { client := mqttRegisterCb (mqttClientCreate config), connected := false }

def mqttMachine : Machine MqttSystem MqttEvent ArrivedMessage :=
  { initial := MqttInitial
    step := mqttStep }

/-- The flag tells whether the library is connected, and requests are handed
to the library exactly then. -/
structure FlagFollows (system : MqttSystem) : Prop where
  flag : system.client.isConn = true ↔ system.connected = true
  publishes : ∀ sendMessage topic payload len,
    (mqttPublish system.client sendMessage topic payload len).2.isSome =
        true ↔ system.connected = true
  subscribes : ∀ subscribe topic,
    (mqttSubscribe system.client subscribe topic).2.isSome = true ↔
      system.connected = true

/-- The library event is no background reconnect, and no message that reaches
the client after its connection has gone. -/
def Announced (system : MqttSystem) (event : MqttEvent) : Prop :=
  event ≠ .reconnect ∧
    ∀ message, event = .messageArrived message → system.connected = true

theorem flagFollows_iff (system : MqttSystem) :
    FlagFollows system ↔ system.client.isConn = system.connected := by
  constructor
  · intro follows
    exact Bool.eq_iff_iff.mpr follows.flag
  · intro same
    refine ⟨?_, ?_, ?_⟩
    · rw [same]
    · intro sendMessage topic payload len
      unfold mqttPublish
      rw [same]
      cases system.connected <;> simp
    · intro subscribe topic
      unfold mqttSubscribe
      rw [same]
      cases system.connected <;> simp

/-- A step keeps the flag right exactly when it is announced. -/
theorem flagFollows_step_iff {system following : MqttSystem}
    {event : MqttEvent} {emitted : List ArrivedMessage}
    (follows : FlagFollows system)
    (stepped : mqttStep system event = some (following, emitted)) :
    FlagFollows following ↔ Announced system event := by
  rw [flagFollows_iff] at follows ⊢
  cases event with
  | connectSuccess =>
      simp only [mqttStep] at stepped
      split at stepped
      · cases stepped
      · obtain ⟨rfl, _⟩ := Prod.mk.inj (Option.some.inj stepped)
        simp [Announced, mqttConnect, onConnectSuccess]
  | connectFailure =>
      simp only [mqttStep] at stepped
      split at stepped
      · cases stepped
      · rename_i offline
        obtain ⟨rfl, _⟩ := Prod.mk.inj (Option.some.inj stepped)
        have flag : system.client.isConn = false := by
          simpa [offline] using follows
        simp [Announced, mqttConnect, onConnectFailure, flag]
  | connectionLost =>
      simp only [mqttStep] at stepped
      split at stepped
      · cases stepped
      · obtain ⟨rfl, _⟩ := Prod.mk.inj (Option.some.inj stepped)
        simp only [Announced, registeredCallbacks, Option.elim_some,
          connectionLostCb]
        split <;> simp_all
  | reconnect =>
      simp only [mqttStep] at stepped
      split at stepped
      · cases stepped
      · rename_i enabled
        obtain ⟨rfl, _⟩ := Prod.mk.inj (Option.some.inj stepped)
        have flag : system.client.isConn = false := by
          simpa [follows] using (not_or.mp enabled).1
        simp [Announced, registeredCallbacks, flag]
  | messageArrived message =>
      obtain ⟨rfl, _⟩ := Prod.mk.inj (Option.some.inj stepped)
      simp only [Announced, registeredCallbacks, messageArrivedCb]
      cases online : system.connected <;> simp [online ▸ follows]

theorem MqttInitial.follows {system : MqttSystem}
    (starts : MqttInitial system) : FlagFollows system := by
  obtain ⟨config, rfl⟩ := starts
  exact (flagFollows_iff _).mpr rfl

/-- For every sequence of library events, the flag is right all along exactly
when every event is announced. -/
theorem flagFollows_along_iff {system : MqttSystem}
    (starts : MqttInitial system) (events : List MqttEvent) :
    mqttMachine.Along FlagFollows system events ↔
      mqttMachine.Takes Announced system events :=
  @Machine.along_iff_takes _ _ _ mqttMachine Announced (fun _ => True)
    FlagFollows (fun _ _ _ _ _ _ => trivial)
    (fun _ _ _ _ _ follows stepped => flagFollows_step_iff follows stepped)
    system trivial starts.follows events

def exampleMqtt : MqttSystem :=
  { client := mqttRegisterCb (mqttClientCreate
      { userName := "user".toList, password := "word".toList
        qos := 0, keepAlive := 20, cleanSession := 1 })
    connected := false }

theorem exampleMqtt_initial : MqttInitial exampleMqtt := ⟨_, rfl⟩

theorem flagFollows_along_connect :
    mqttMachine.Along FlagFollows exampleMqtt
        [.connectSuccess, .connectionLost] ↔
      mqttMachine.Takes Announced exampleMqtt
        [.connectSuccess, .connectionLost] :=
  flagFollows_along_iff exampleMqtt_initial _

/-- After a connection, its loss and a background reconnect, the library is
connected and every publication is refused. -/
theorem background_reconnect_unnoticed :
    ∃ outputs system, mqttMachine.Reaches Machine.anyStep outputs system ∧
      system.connected = true ∧ system.client.isConn = false ∧
      (mqttPublish system.client (fun _ _ => 0) [] [] 0).2 = none ∧
      ¬FlagFollows system := by
  have computed : mqttMachine.run (fun _ _ => true) exampleMqtt
      [.connectSuccess, .connectionLost, .reconnect] =
      some ({ exampleMqtt with connected := true }, []) := by
    decide +kernel
  refine ⟨_, _, Machine.Reaches.extend (fun _ _ _ _ => trivial)
    (.start exampleMqtt_initial) computed, rfl, rfl, rfl, fun follows => ?_⟩
  exact absurd ((flagFollows_iff _).mp follows) (by decide)

end RtA100
