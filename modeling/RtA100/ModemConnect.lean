import RtA100.Library.Search

/-!
# Connecting the modem

`fx650_connect_network` runs four helpers, each of which sends one or two AT
commands.  A helper compares the result of `send_at_command` with `< 0`, but
the values of `FX650_Error` are 0 and positive, so the comparison never holds
and only the text of a response can stop the sequence.
-/

namespace RtA100

open Library

inductive FX650Error where
  | ok
  | init
  | atTimeout
  | atError
  | netSegment
  | simNotReady
  | simId
  | apnNotReady
  | netReg
  | pdpActivate
  | socket
  | tx
deriving DecidableEq

/-- The value of the enumerator. -/
def FX650Error.value : FX650Error → Int
  | .ok => 0
  | .init => 1
  | .atTimeout => 2
  | .atError => 3
  | .netSegment => 4
  | .simNotReady => 5
  | .simId => 6
  | .apnNotReady => 7
  | .netReg => 8
  | .pdpActivate => 9
  | .socket => 10
  | .tx => 11

/-- The outcome of a call of `send_at_command`: its result, and the text in the
response buffer. -/
structure AtReply where
  error : FX650Error
  resp : CArray 256
  returned : error = .ok ∨ error = .atError ∨ error = .atTimeout

structure AtExchange where
  command : CString
  reply : AtReply

/-- A call of `send_at_command` on a modem that gives these outcomes, one after
the other. -/
def exchange (replies : Nat → AtReply) (command : CString)
    (log : List AtExchange) : AtReply × List AtExchange :=
  (replies log.length, log ++ [{ command, reply := replies log.length }])

def dhcpQuery : CString := "AT+GTDHCPCFG?\r".toList

def dhcpSetting : CString :=
  "AT+GTDHCPCFG=\"setipinfo\",\"192.168.10.1\",\"192.168.10.2\",".toList ++
    "\"192.168.10.254\",\"255.255.255.0\",\"192.168.10.255\"\r\n".toList

def pinQuery : CString := "AT+CPIN?\r".toList

def apnSetting (apn : CString) : CString :=
  (CArray.truncate 127
    ("AT+CGDCONT=1,\"IP\",\"".toList ++ apn ++ "\"\r".toList)).text

def rndisQuery : CString := "AT+GTRNDIS?\r".toList

def rndisActivation : CString := "AT+GTRNDIS=1,1\r\n".toList

def rndisDeactivation : CString := "AT+GTRNDIS=0,1\r".toList

def abnormalSegment : CString := "192.168.42.".toList

def pinReady : CString := "READY".toList

def okText : CString := "OK".toList

def rndisInactive : CString := "+GTRNDIS: 0".toList

def rndisActive : CString := "+GTRNDIS: 1,1".toList

/-- `check_network_segment` -/
def checkNetworkSegment (replies : Nat → AtReply) (log : List AtExchange) :
    Int × List AtExchange :=
  let (reply, log) := exchange replies dhcpQuery log
  if reply.error.value < 0 then (-1, log)
  else if strstr reply.resp.text abnormalSegment = true then
    let (reply, log) := exchange replies dhcpSetting log
    if reply.error.value < 0 then (-1, log) else (0, log)
  else (0, log)

/-- A command whose response must contain a text: `check_sim_status`,
`set_apn` and the commands of `activate_dia`. -/
def expectText (replies : Nat → AtReply) (command expected : CString)
    (log : List AtExchange) : Int × List AtExchange :=
  let (reply, log) := exchange replies command log
  if reply.error.value < 0 then (-1, log)
  else if strstr reply.resp.text expected = false then (-1, log)
  else (0, log)

/-- `check_sim_status` -/
def checkSimStatus (replies : Nat → AtReply) (log : List AtExchange) :
    Int × List AtExchange :=
  expectText replies pinQuery pinReady log

/-- `set_apn` -/
def setApn (replies : Nat → AtReply) (apn : CString)
    (log : List AtExchange) : Int × List AtExchange :=
  expectText replies (apnSetting apn) okText log

/-- `activate_dia` -/
def activateDia (replies : Nat → AtReply) (status : UInt8)
    (log : List AtExchange) : Int × List AtExchange :=
  let (reply, log) := exchange replies rndisQuery log
  if reply.error.value < 0 then (-1, log)
  else if strstr reply.resp.text rndisInactive = true ∧ status = 1 then
    expectText replies rndisActivation okText log
  else if strstr reply.resp.text rndisActive = true ∧ status = 0 then
    expectText replies rndisDeactivation okText log
  else (0, log)

/-- The result of `fx650_connect_network`, the commands it has sent, and
whether it has called `run_dhcp_client`. -/
structure ConnectResult where
  error : FX650Error
  log : List AtExchange
  dhcp : Bool

/-- `fx650_connect_network` -/
def fx650ConnectNetwork (replies : Nat → AtReply) : ConnectResult :=
  let (ret, log) := checkNetworkSegment replies []
  if ret ≠ 0 then { error := .netSegment, log, dhcp := false }
  else
    let (ret, log) := checkSimStatus replies log
    if ret ≠ 0 then { error := .simNotReady, log, dhcp := false }
    else
      let (ret, log) := setApn replies "5gnet".toList log
      if ret ≠ 0 then { error := .apnNotReady, log, dhcp := false }
      else
        let (ret, log) := activateDia replies 1 log
        if ret ≠ 0 then { error := .pdpActivate, log, dhcp := false }
        else { error := .ok, log, dhcp := true }

/-! ## Errors that are not swallowed -/

/-- A `GTRNDIS` query whose response shows an active session, or an activation
that was confirmed. -/
def AtExchange.ReportsSession (exchange : AtExchange) : Prop :=
  exchange.command = rndisQuery ∧
      strstr exchange.reply.resp.text rndisActive = true ∨
    exchange.command = rndisActivation ∧
      strstr exchange.reply.resp.text okText = true

/-- Every command was answered with success, and the last `GTRNDIS` command
reported a session. -/
structure Established (log : List AtExchange) : Prop where
  answered : ∀ exchange ∈ log, exchange.reply.error = .ok
  session : ∃ exchange,
    log.reverse.find? (fun exchange =>
      exchange.command = rndisQuery ∨ exchange.command = rndisActivation) =
        some exchange ∧ exchange.ReportsSession

/-- The function returns success, and starts the DHCP client, only on an
established connection. -/
def ErrorsKept (result : ConnectResult) : Prop :=
  (result.error = .ok → Established result.log) ∧
    (result.dhcp = true → Established result.log)

/-! ## The texts that decide -/

/-- The modem shows the segment that is to be changed. -/
def SegmentAbnormal (replies : Nat → AtReply) : Prop :=
  strstr (replies 0).resp.text abnormalSegment = true

instance (replies : Nat → AtReply) : Decidable (SegmentAbnormal replies) :=
  inferInstanceAs (Decidable (_ = true))

/-- The number of commands that `check_network_segment` sends. -/
def segmentCommands (replies : Nat → AtReply) : Nat :=
  if SegmentAbnormal replies then 2 else 1

/-- The outcomes of the four commands behind `check_network_segment`. -/
def pinReply (replies : Nat → AtReply) : AtReply :=
  replies (segmentCommands replies)

def apnReply (replies : Nat → AtReply) : AtReply :=
  replies (segmentCommands replies + 1)

def rndisReply (replies : Nat → AtReply) : AtReply :=
  replies (segmentCommands replies + 2)

def activationReply (replies : Nat → AtReply) : AtReply :=
  replies (segmentCommands replies + 3)

/-- The query finds no session, so one is activated. -/
def NeedsActivation (replies : Nat → AtReply) : Prop :=
  strstr (rndisReply replies).resp.text rndisInactive = true

instance (replies : Nat → AtReply) : Decidable (NeedsActivation replies) :=
  inferInstanceAs (Decidable (_ = true))

/-- None of the texts stops the sequence. -/
structure TextsPass (replies : Nat → AtReply) : Prop where
  pin : strstr (pinReply replies).resp.text pinReady = true
  apn : strstr (apnReply replies).resp.text okText = true
  activation : NeedsActivation replies →
    strstr (activationReply replies).resp.text okText = true

/-- All commands of a whole sequence are answered with success, and the query
shows a session unless one is activated. -/
structure RepliesHonest (replies : Nat → AtReply) : Prop where
  segment : (replies 0).error = .ok
  setting : SegmentAbnormal replies → (replies 1).error = .ok
  pin : (pinReply replies).error = .ok
  apn : (apnReply replies).error = .ok
  rndis : (rndisReply replies).error = .ok
  activation : NeedsActivation replies → (activationReply replies).error = .ok
  session : ¬NeedsActivation replies →
    strstr (rndisReply replies).resp.text rndisActive = true

/-! ## The helpers -/

/-- No value is negative, so the comparison of the helpers never holds. -/
theorem FX650Error.value_nonneg (error : FX650Error) : ¬error.value < 0 := by
  cases error <;> decide

theorem expectText_eq (replies : Nat → AtReply) (command expected : CString)
    (log : List AtExchange) :
    expectText replies command expected log =
      (if strstr (replies log.length).resp.text expected = true then 0
        else -1,
        log ++ [{ command, reply := replies log.length }]) := by
  rw [expectText, exchange]
  simp only [FX650Error.value_nonneg, if_false]
  cases strstr (replies log.length).resp.text expected <;> rfl

theorem activateDia_eq (replies : Nat → AtReply) (log : List AtExchange) :
    activateDia replies 1 log =
      if strstr (replies log.length).resp.text rndisInactive = true then
        expectText replies rndisActivation okText
          (log ++ [{ command := rndisQuery, reply := replies log.length }])
      else
        (0, log ++ [{ command := rndisQuery
                      reply := replies log.length }]) := by
  have other : ¬(1 : UInt8) = 0 := by decide
  rw [activateDia, exchange]
  simp only [FX650Error.value_nonneg, if_false, other, and_false, and_true]

def segmentLog (replies : Nat → AtReply) : List AtExchange :=
  { command := dhcpQuery, reply := replies 0 } ::
    if SegmentAbnormal replies then
      [{ command := dhcpSetting, reply := replies 1 }] else []

theorem segmentLog_length (replies : Nat → AtReply) :
    (segmentLog replies).length = segmentCommands replies := by
  rw [segmentLog, segmentCommands]
  split <;> rfl

theorem checkNetworkSegment_eq (replies : Nat → AtReply) :
    checkNetworkSegment replies [] = (0, segmentLog replies) := by
  rw [checkNetworkSegment, exchange, segmentLog]
  simp only [FX650Error.value_nonneg, if_false, exchange]
  by_cases abnormal : SegmentAbnormal replies
  · rw [if_pos abnormal]
    exact if_pos abnormal
  · rw [if_neg abnormal]
    exact if_neg abnormal

/-- The commands in front of the activation. -/
def queryLog (replies : Nat → AtReply) : List AtExchange :=
  segmentLog replies ++
    [{ command := pinQuery, reply := pinReply replies },
      { command := apnSetting "5gnet".toList, reply := apnReply replies },
      { command := rndisQuery, reply := rndisReply replies }]

/-- The commands of a sequence that no text stops. -/
def wholeLog (replies : Nat → AtReply) : List AtExchange :=
  if NeedsActivation replies then
    queryLog replies ++
      [{ command := rndisActivation, reply := activationReply replies }]
  else queryLog replies

/-- What `check_sim_status` and the helpers behind it are called with. -/
theorem queryLog_steps (replies : Nat → AtReply) :
    checkSimStatus replies (segmentLog replies) =
        (if strstr (pinReply replies).resp.text pinReady = true then 0
          else -1,
          segmentLog replies ++
            [{ command := pinQuery, reply := pinReply replies }]) ∧
      setApn replies "5gnet".toList (segmentLog replies ++
            [{ command := pinQuery, reply := pinReply replies }]) =
        (if strstr (apnReply replies).resp.text okText = true then 0 else -1,
          segmentLog replies ++
            [{ command := pinQuery, reply := pinReply replies },
              { command := apnSetting "5gnet".toList
                reply := apnReply replies }]) ∧
      activateDia replies 1 (segmentLog replies ++
            [{ command := pinQuery, reply := pinReply replies },
              { command := apnSetting "5gnet".toList
                reply := apnReply replies }]) =
        (if NeedsActivation replies then
          if strstr (activationReply replies).resp.text okText = true then 0
          else -1
        else 0, wholeLog replies) := by
  have length := segmentLog_length replies
  refine ⟨?_, ?_, ?_⟩
  · rw [checkSimStatus, expectText_eq, length]
    rfl
  · rw [setApn, expectText_eq, List.length_append, length, List.append_assoc]
    rfl
  · rw [activateDia_eq, List.length_append, length, wholeLog, queryLog,
      List.append_assoc]
    by_cases need : NeedsActivation replies
    · rw [if_pos need, if_pos need, expectText_eq, List.length_append, length]
      exact if_pos need
    · rw [if_neg need, if_neg need]
      exact if_neg need

/-- The function looks at nothing but the texts. -/
theorem fx650ConnectNetwork_pass {replies : Nat → AtReply}
    (pass : TextsPass replies) :
    fx650ConnectNetwork replies =
      { error := .ok, log := wholeLog replies, dhcp := true } := by
  obtain ⟨sim, apn, dia⟩ := queryLog_steps replies
  have activated : (if NeedsActivation replies then
      if strstr (activationReply replies).resp.text okText = true then 0
      else -1
    else (0 : Int)) = 0 := by
    split
    · rename_i need
      exact if_pos (pass.activation need)
    · rfl
  rw [fx650ConnectNetwork, checkNetworkSegment_eq]
  simp only [sim, apn, dia, activated, if_pos pass.pin, if_pos pass.apn]
  rfl

theorem fx650ConnectNetwork_stop {replies : Nat → AtReply}
    (stop : ¬TextsPass replies) :
    (fx650ConnectNetwork replies).error ≠ .ok ∧
      (fx650ConnectNetwork replies).dhcp = false := by
  obtain ⟨sim, apn, dia⟩ := queryLog_steps replies
  have failure : ¬(-1 : Int) = 0 := by decide
  rw [fx650ConnectNetwork, checkNetworkSegment_eq]
  simp only [sim, apn, dia, ne_eq, not_true, if_false]
  by_cases pin : strstr (pinReply replies).resp.text pinReady = true
  · by_cases set : strstr (apnReply replies).resp.text okText = true
    · have activation : NeedsActivation replies ∧
          ¬strstr (activationReply replies).resp.text okText = true := by
        refine Decidable.byContradiction fun confirmed => stop ⟨pin, set, ?_⟩
        intro need
        exact Decidable.byContradiction fun missing =>
          confirmed ⟨need, missing⟩
      simp [pin, set, activation]
    · simp [pin, set]
  · simp [pin]

/-! ## A whole sequence -/

theorem segmentLog_answered_iff (replies : Nat → AtReply) :
    (∀ exchange ∈ segmentLog replies, exchange.reply.error = .ok) ↔
      (replies 0).error = .ok ∧
        (SegmentAbnormal replies → (replies 1).error = .ok) := by
  rw [segmentLog, List.forall_mem_cons]
  by_cases abnormal : SegmentAbnormal replies
  · simp [abnormal]
  · simp [abnormal]

theorem queryLog_answered_iff (replies : Nat → AtReply) :
    (∀ exchange ∈ queryLog replies, exchange.reply.error = .ok) ↔
      ((replies 0).error = .ok ∧
          (SegmentAbnormal replies → (replies 1).error = .ok)) ∧
        (pinReply replies).error = .ok ∧ (apnReply replies).error = .ok ∧
          (rndisReply replies).error = .ok := by
  rw [queryLog, List.forall_mem_append, segmentLog_answered_iff]
  simp

theorem wholeLog_established_iff {replies : Nat → AtReply}
    (pass : TextsPass replies) :
    Established (wholeLog replies) ↔ RepliesHonest replies := by
  rw [wholeLog]
  by_cases need : NeedsActivation replies
  · rw [if_pos need]
    constructor
    · rintro ⟨answered, _⟩
      obtain ⟨queries, last⟩ := List.forall_mem_append.mp answered
      obtain ⟨⟨segment, setting⟩, pin, apn, rndis⟩ :=
        (queryLog_answered_iff replies).mp queries
      exact
        { segment, setting, pin, apn, rndis
          activation := fun _ => last _ List.mem_cons_self
          session := fun absent => absurd need absent }
    · intro honest
      have queries := (queryLog_answered_iff replies).mpr
        ⟨⟨honest.segment, honest.setting⟩, honest.pin, honest.apn,
          honest.rndis⟩
      refine ⟨List.forall_mem_append.mpr ⟨queries, ?_⟩,
        { command := rndisActivation, reply := activationReply replies }, ?_,
        .inr ⟨rfl, pass.activation need⟩⟩
      · intro exchange member
        rw [List.mem_singleton.mp member]
        exact honest.activation need
      · rw [List.reverse_append]
        rfl
  · rw [if_neg need]
    have last : (queryLog replies).reverse.find? (fun exchange =>
        exchange.command = rndisQuery ∨
          exchange.command = rndisActivation) =
        some { command := rndisQuery, reply := rndisReply replies } := by
      rw [queryLog, List.reverse_append]
      rfl
    constructor
    · rintro ⟨answered, exchange, found, session⟩
      obtain ⟨⟨segment, setting⟩, pin, apn, rndis⟩ :=
        (queryLog_answered_iff replies).mp answered
      cases last.symm.trans found
      refine
        { segment, setting, pin, apn, rndis
          activation := fun needed => absurd needed need
          session := fun _ => ?_ }
      rcases session with query | activation
      · exact query.2
      · exact absurd activation.1
          (show ¬rndisQuery = rndisActivation by decide)
    · intro honest
      exact ⟨(queryLog_answered_iff replies).mpr
        ⟨⟨honest.segment, honest.setting⟩, honest.pin, honest.apn,
          honest.rndis⟩, _, last, .inl ⟨rfl, honest.session need⟩⟩

/-- No error is swallowed exactly when texts that pass come only with commands
that succeed and with a session. -/
theorem errorsKept_iff (replies : Nat → AtReply) :
    ErrorsKept (fx650ConnectNetwork replies) ↔
      (TextsPass replies → RepliesHonest replies) := by
  by_cases pass : TextsPass replies
  · rw [ErrorsKept, fx650ConnectNetwork_pass pass]
    simp only [true_implies, and_self, pass, wholeLog_established_iff pass]
  · obtain ⟨error, dhcp⟩ := fx650ConnectNetwork_stop pass
    refine iff_of_true ⟨fun ok => absurd ok error, fun started => ?_⟩
      fun passed => absurd passed pass
    rw [dhcp] at started
    cases started

/-- Every command up to the `GTRNDIS` query succeeds; that one gets no
answer. -/
def silentRndis : Nat → AtReply
  | 1 =>
      { error := .ok, resp := { text := "READY\r\n\r\nOK\r\n".toList
                                fits := by decide }
        returned := .inl rfl }
  | 3 =>
      { error := .atTimeout, resp := .cleared 255
        returned := .inr (.inr rfl) }
  | _ =>
      { error := .ok, resp := { text := "\r\nOK\r\n".toList
                                fits := by decide }
        returned := .inl rfl }

/-- The sequence ends with success and the DHCP client without an answer to the
query. -/
theorem silentRndis_succeeds :
    ¬ErrorsKept (fx650ConnectNetwork silentRndis) := by
  rintro ⟨kept, _⟩
  have pass : TextsPass silentRndis := ⟨by decide, by decide, by decide⟩
  rw [fx650ConnectNetwork_pass pass] at kept
  have honest := (wholeLog_established_iff pass).mp (kept rfl)
  exact absurd honest.rndis (by decide)

end RtA100
