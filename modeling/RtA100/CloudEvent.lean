import RtA100.FrameBuilders
import RtA100.Library.Text

/-!
# The cloud event loop

`cloudEventBody` is one iteration of the loop of `cloud_event_task_entry` after
a successful `dequeue`: it tests the frame in `buf`, walks the handler table
from the cursor `start`, and calls the entry it finds.  Both `buf` and `start`
are declared outside the loop, so they are state that survives from one message
to the next.
-/

namespace RtA100

open Library

/-! ## Handlers -/

structure WaveFileRequest where
  devAddr : Nat
  year : Nat
  month : Nat
  day : Nat
  hour : Nat
  minute : Nat
deriving DecidableEq

/-- What a handler does outside the loop. -/
inductive CloudAction where
  | publish (topic : CString) (payload : List UInt8)
  | fetchWaveFile (request : WaveFileRequest)
  | send (frame : List UInt8)
deriving DecidableEq

/-- The status returned by `pFuncEntry` and what the call did. -/
structure HandlerResult where
  ret : Int
  actions : List CloudAction

/-- `struct MsgProcInf`; `pFuncCb` is `none` for `NULL`. -/
structure MsgProcInf where
  sign : UInt8
  pFuncEntry : List UInt8 → Option HandlerResult
  pFuncCb : Option (List CloudAction)

/-- What the handlers take from the rest of the program: the device data, the
outcome of fetching a wave file over SSH and FTP, and the time of an answer. -/
structure CloudServices where
  info : DevBaseInfo
  transfer : WaveFileRequest → Int
  time : CustomTime

def readBytes (arg : List UInt8) (len : Nat) : Option (List UInt8) :=
  if len ≤ arg.length then some (arg.take len) else none

def groupTopic (group : CString) (devAddr : UInt16) (ucSign : UInt8) :
    CString :=
  "fkz9/".toList ++ paddedDecimal 4 devAddr.toNat ++ "/4G/".toList ++
    group ++ "/".toList ++ paddedHex 2 ucSign.toNat

/-- The common body of the three handlers that republish a cloud frame. -/
def cloudToGroupEntry (group : CString) (services : CloudServices)
    (arg : List UInt8) : Option HandlerResult := do
  let pHdr ← MsgFramHdr.read arg
  let payload ← readBytes arg (bswap16 pHdr.usLen).toNat
  some { ret := 0
         actions := [.publish
           (groupTopic group services.info.devAddr pHdr.ucSign) payload] }

def cloudToCanEntry : CloudServices → List UInt8 → Option HandlerResult :=
  cloudToGroupEntry "can".toList

def cloudToConfEntry : CloudServices → List UInt8 → Option HandlerResult :=
  cloudToGroupEntry "conf".toList

def cloudToAlgorithmsEntry :
    CloudServices → List UInt8 → Option HandlerResult :=
  cloudToGroupEntry "algorithms".toList

def readWaveFileReq (arg : List UInt8) : Option WaveFileRequest := do
  let usDevAddr ← load16 arg 5
  let ucYear ← arg[7]?
  let ucMonth ← arg[8]?
  let ucDay ← arg[9]?
  let ucHour ← arg[10]?
  let ucMinute ← arg[11]?
  some { devAddr := bcdToDb usDevAddr
         year := bcdToByte ucYear + 2000
         month := bcdToByte ucMonth
         day := bcdToByte ucDay
         hour := bcdToByte ucHour
         minute := bcdToByte ucMinute }

def funcWaveFileReq (services : CloudServices) (arg : List UInt8) :
    Option HandlerResult := do
  let request ← readWaveFileReq arg
  some { ret := services.transfer request
         actions := [.fetchWaveFile request] }

def msgSignWaveFileReq : UInt8 := 174

/-- The entries registered with `REGISTER_MESSAGE_PROCESSING_INTERFACE`, in
link order. -/
def messageProcessing (services : CloudServices) : List MsgProcInf :=
  [ { sign := msgSignWaveFileReq
      pFuncEntry := funcWaveFileReq services
      pFuncCb := some ((funcWaveFileResp services.info services.time).toList.map
        CloudAction.send) },
    { sign := 145, pFuncEntry := cloudToCanEntry services, pFuncCb := none },
    { sign := 114, pFuncEntry := cloudToConfEntry services, pFuncCb := none },
    { sign := 89, pFuncEntry := cloudToConfEntry services, pFuncCb := none },
    { sign := 130, pFuncEntry := cloudToConfEntry services, pFuncCb := none },
    { sign := 132, pFuncEntry := cloudToCanEntry services, pFuncCb := none },
    { sign := 135, pFuncEntry := cloudToCanEntry services, pFuncCb := none },
    { sign := 147, pFuncEntry := cloudToConfEntry services, pFuncCb := none },
    { sign := 156, pFuncEntry := cloudToCanEntry services, pFuncCb := none },
    { sign := 158, pFuncEntry := cloudToCanEntry services, pFuncCb := none },
    { sign := 108, pFuncEntry := cloudToAlgorithmsEntry services,
      pFuncCb := none },
    { sign := 110, pFuncEntry := cloudToAlgorithmsEntry services,
      pFuncCb := none } ]

/-- A device with address 1 whose file transfers succeed. -/
def exampleServices : CloudServices :=
  { info := { devAddr := 1, cpuSw := 1, cpuHw := 1, adSw := 1, adHw := 1
              ctrlSw := 1, ctrlHw := 1, netSw := 1, netHw := 1 }
    transfer := fun _ => 0
    time := { usYear := 2024, ucMonth := 1, ucDay := 2, ucHour := 3
              ucMinute := 4, ucSecond := 5 } }

/-- The two kinds of entries in the table. -/
theorem messageProcessing_entry {services : CloudServices}
    {entry : MsgProcInf} (member : entry ∈ messageProcessing services) :
    (entry.sign = msgSignWaveFileReq ∧
        entry.pFuncEntry = funcWaveFileReq services ∧
        entry.pFuncCb = some
          ((funcWaveFileResp services.info services.time).toList.map
            CloudAction.send)) ∨
      (entry.sign ≠ msgSignWaveFileReq ∧
        (∃ group, entry.pFuncEntry = cloudToGroupEntry group services) ∧
        entry.pFuncCb = none) := by
  simp only [messageProcessing, List.mem_cons, List.not_mem_nil,
    or_false] at member
  rcases member with rfl | rfl | rfl | rfl | rfl | rfl | rfl | rfl | rfl |
    rfl | rfl | rfl
  · exact Or.inl ⟨rfl, rfl, rfl⟩
  all_goals exact Or.inr ⟨by dsimp only; decide, ⟨_, rfl⟩, rfl⟩

/-! ## The loop -/

/-- The variables of `cloud_event_task_entry` that outlive an iteration: the
receive buffer, and the cursor as an index into the table, whose length stands
for `__stop_message_processing`. -/
structure CloudEventLoop where
  buf : Buffer 256
  start : Nat
deriving DecidableEq

/-- `for (; start != end; start++)` over the entries that remain: the cursor
afterwards, and the entry at which the loop breaks. -/
def scanFrom : List MsgProcInf → Nat → UInt8 → Nat × Option MsgProcInf
  | [], start, _ => (start, none)
  | entry :: rest, start, ucSign =>
      if entry.sign = ucSign then (start, some entry)
      else scanFrom rest (start + 1) ucSign

/-- The walk of one message through the table, from the cursor. -/
def dispatch (table : List MsgProcInf) (start : Nat) (ucSign : UInt8) :
    Nat × Option MsgProcInf :=
  scanFrom (table.drop start) start ucSign

/-- What the loop did with a message that passed its test: the sign it looked
up, the bytes its checksum covers with their trailer, the indices of the entries
whose `pFuncEntry` it called, and the actions of these calls. -/
@[ext] structure AcceptedMessage where
  ucSign : UInt8
  frame : List UInt8
  called : List Nat
  actions : List CloudAction
deriving DecidableEq

/-- One iteration after `dequeue` has filled `buf`; `none` as an outcome is a
message dropped by the test. -/
def cloudEventBody (table : List MsgProcInf) (loop : CloudEventLoop) :
    Option (CloudEventLoop × Option AcceptedMessage) := do
  let passes ← cloudFrameTest loop.buf.bytes
  if passes = false then
    some (loop, none)
  else
    let pHdr ← MsgFramHdr.read loop.buf.bytes
    let frame := loop.buf.bytes.take (bswap16 pHdr.usLen).toNat
    match dispatch table loop.start pHdr.ucSign with
    | (start, none) =>
        some ({ loop with start },
          some { ucSign := pHdr.ucSign, frame, called := [], actions := [] })
    | (start, some entry) =>
        let result ← entry.pFuncEntry loop.buf.bytes
        let callback := if result.ret = 0 then entry.pFuncCb.getD [] else []
        some ({ loop with start },
          some { ucSign := pHdr.ucSign, frame, called := [start]
                 actions := result.actions ++ callback })

/-- One iteration for a dequeued message: `dequeue` copies it to `buf`. -/
def cloudEventStep (table : List MsgProcInf) (loop : CloudEventLoop)
    (message : List UInt8) :
    Option (CloudEventLoop × Option AcceptedMessage) := do
  let buf ← loop.buf.memcpy message message.length
  cloudEventBody table { loop with buf }

def cloudEventRun (table : List MsgProcInf) :
    CloudEventLoop → List (List UInt8) →
      Option (CloudEventLoop × List (Option AcceptedMessage))
  | loop, [] => some (loop, [])
  | loop, message :: messages => do
      let (following, outcome) ← cloudEventStep table loop message
      let (final, outcomes) ← cloudEventRun table following messages
      some (final, outcome :: outcomes)

theorem buf_long (buf : Buffer 256) : 5 ≤ buf.bytes.length := by
  rw [buf.size]
  omega

/-- Everything a defined iteration can do. -/
theorem cloudEventBody_cases {table : List MsgProcInf}
    {loop following : CloudEventLoop} {outcome : Option AcceptedMessage}
    (result : cloudEventBody table loop = some (following, outcome)) :
    (cloudFrameTest loop.buf.bytes = some false ∧ following = loop ∧
        outcome = none) ∨
      (cloudFrameTest loop.buf.bytes = some true ∧
        following.buf = loop.buf ∧
        ∃ message, outcome = some message ∧
          message.ucSign = signOf loop.buf.bytes ∧
          message.frame =
            loop.buf.bytes.take (declaredLength loop.buf.bytes) ∧
          ((dispatch table loop.start message.ucSign =
              (following.start, none) ∧
            message.called = [] ∧ message.actions = []) ∨
          ∃ entry handled,
            dispatch table loop.start message.ucSign =
              (following.start, some entry) ∧
            message.called = [following.start] ∧
            entry.pFuncEntry loop.buf.bytes = some handled ∧
            message.actions = handled.actions ++
              if handled.ret = 0 then entry.pFuncCb.getD [] else [])) := by
  obtain ⟨pHdr, headerRead, _, lenValue, signValue⟩ :=
    MsgFramHdr.read_of_length (buf_long loop.buf)
  unfold cloudEventBody at result
  cases test : cloudFrameTest loop.buf.bytes with
  | none => simp [test] at result
  | some passes =>
      cases passes with
      | false =>
          left
          simp only [test, Option.bind_eq_bind, Option.bind_some, if_true,
            Option.some.injEq, Prod.mk.injEq] at result
          exact ⟨rfl, result.1.symm, result.2.symm⟩
      | true =>
          right
          simp only [test, Option.bind_eq_bind, Option.bind_some,
            Bool.true_eq_false, if_false, headerRead] at result
          rcases walked : dispatch table loop.start pHdr.ucSign with
            ⟨start, found⟩
          cases found with
          | none =>
              simp only [walked, Option.some.injEq, Prod.mk.injEq] at result
              obtain ⟨rfl, rfl⟩ := result
              refine ⟨rfl, rfl, _, rfl, signValue, by rw [lenValue], ?_⟩
              exact Or.inl ⟨walked, rfl, rfl⟩
          | some entry =>
              simp only [walked, Option.bind_eq_some_iff, Option.some.injEq,
                Prod.mk.injEq] at result
              obtain ⟨handled, call, rfl, rfl⟩ := result
              refine ⟨rfl, rfl, _, rfl, signValue, by rw [lenValue], ?_⟩
              exact Or.inr ⟨entry, handled, walked, rfl, call, rfl⟩

end RtA100
