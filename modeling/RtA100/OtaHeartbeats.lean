import RtA100.HeartbeatInfo
import RtA100.HttpBody

/-!
# Heartbeats and their answers

`ota_heartbeat_task_cb` gathers what the script has measured, prints and posts
it, and parses the answer into the list of tasks.  Here the two ends meet: over
any number of heartbeats the server reads every measurement, and the list grows
by exactly the tasks of the accepted answers.  Arrays and buffers can overflow
on the way, the scan stops at an empty text, and an id is cut to 16 bits;
`Exchange.Carried` says when nothing of that happens.
-/

namespace RtA100

open Library

/-! ## The callback -/

/-- What one call of `ota_heartbeat_task_cb` meets: the server of the script,
and what curl does. -/
structure HeartbeatRound where
  environment : HeartbeatEnvironment
  initialised : Bool
  completed : Bool
  deliveries : List Delivery

/-- The list of tasks, and `up_time` of `base_info`. -/
structure HeartbeatState where
  list : TaskList
  upTime : CArray 30

inductive HeartbeatOutput where
  | posted (json : CString)
  | signalled

/-- What has been posted: nothing without a handle of curl. -/
def HeartbeatRound.posts (round : HeartbeatRound) (json : CString) :
    List HeartbeatOutput :=
  if round.initialised then [.posted json] else []

/-- `ota_heartbeat_task_cb` once the heartbeat is gathered, without the mutex
of the list. -/
def postHeartbeat (state : HeartbeatState) (round : HeartbeatRound)
    (heartBeat : OtaHeartBeat) :
    Option (HeartbeatState × List HeartbeatOutput) := do
  let buf ← (OutgoingDocument.heartbeat heartBeat).data
  let (ret, resp) ← httpPostRequest round.initialised round.completed
    round.deliveries none
  if ret = 0 then
    let (list, ret) ←
      otaHeartbeatRespParseTree state.list (resp.bind cJsonParse)
    some ({ state with list },
      round.posts buf.text ++ if ret = 0 then [.signalled] else [])
  else some (state, round.posts buf.text)

/-- `ota_heartbeat_task_cb` -/
def otaHeartbeatTaskCb (state : HeartbeatState) (round : HeartbeatRound) :
    Option (HeartbeatState × List HeartbeatOutput) := do
  let (info, upTime) ← getOtaHeartbeatInfo round.environment state.upTime
  match info with
  | none => some ({ state with upTime }, [])
  | some heartBeat => postHeartbeat { state with upTime } round heartBeat

/-- Any number of heartbeats. -/
def heartbeatMachine :
    Machine HeartbeatState HeartbeatRound HeartbeatOutput :=
  { initial := fun state => state.list.nodes = []
    step := otaHeartbeatTaskCb }

/-! ## The server -/

/-- The trees that a server reads in what has been posted. -/
def receivedDocuments (outputs : List HeartbeatOutput) :
    List (Option CJson) :=
  outputs.filterMap fun output =>
    match output with
    | .posted json => some (cJsonParse json)
    | .signalled => none

/-- The tasks that an answer delivers; with a code other than success it
delivers none. -/
def CJson.acceptedTasks (answer : CJson) : List HeartbeatTask :=
  match answer.item codeName with
  | some (.string code) =>
      if code = codeSuccess then describedTasks (some answer) else []
  | _ => describedTasks (some answer)

/-- A measurement, its answer, and the round in which both travel. -/
structure Exchange where
  measured : BaseMeasurement
  units : List ScriptUnit
  answer : CJson
  round : HeartbeatRound

/-- The script prints the measurement, with all versions of the units, the
request succeeds, and its body starts with a text of the answer that what
follows does not go on. -/
structure Exchange.Answered (exchange : Exchange) : Prop where
  prints : PrintsHeartbeat exchange.round.environment exchange.measured
    exchange.units
  complete : ∀ unit ∈ exchange.units, unit.Complete
  initialised : exchange.round.initialised = true
  completed : exchange.round.completed = true
  assembled : AssembledWhole exchange.round.deliveries
  text : ∃ front rest, responseBody exchange.round.deliveries = front ++ rest ∧
    Denotes nestingLimit front exchange.answer ∧ Stops isNumeric rest

/-- The measurement can be told, and the tasks fit their arrays and their
ids. -/
structure Exchange.Carried (exchange : Exchange) : Prop where
  tellable : exchange.measured.Tellable exchange.units
  fits : ∀ task ∈ exchange.answer.acceptedTasks, task.Fits
  ids : ∀ task ∈ exchange.answer.acceptedTasks,
    0 ≤ task.taskId ∧ task.taskId < 65536

/-- What the server should read. -/
def Exchange.document (exchange : Exchange) : Option CJson :=
  some (heartbeatDocument exchange.measured.text
    (exchange.units.map ScriptUnit.strings))

/-- What an entry of the list takes from its task, with its id. -/
def FwDownInfo.entry (info : FwDownInfo) :
    Int × UInt8 × CString × CString × CString :=
  (info.id.toNat, info.contents)

def HeartbeatTask.entry (task : HeartbeatTask) :
    Int × UInt8 × CString × CString × CString :=
  (task.taskId, task.contents)

/-- The entry that a task becomes: its id has 16 bits. -/
def HeartbeatTask.storedEntry (task : HeartbeatTask) :
    Int × UInt8 × CString × CString × CString :=
  ((UInt16.ofInt task.taskId).toNat, task.contents)

def TaskList.entries (list : TaskList) :
    List (Int × UInt8 × CString × CString × CString) :=
  list.nodes.map FwDownInfo.entry

def Exchange.entries (exchange : Exchange) :
    List (Int × UInt8 × CString × CString × CString) :=
  exchange.answer.acceptedTasks.map HeartbeatTask.entry

def Exchange.storedEntries (exchange : Exchange) :
    List (Int × UInt8 × CString × CString × CString) :=
  exchange.answer.acceptedTasks.map HeartbeatTask.storedEntry

/-! ## One heartbeat -/

theorem HeartbeatTask.storedEntry_eq_iff (task : HeartbeatTask) :
    task.storedEntry = task.entry ↔
      0 ≤ task.taskId ∧ task.taskId < 65536 := by
  rw [HeartbeatTask.storedEntry, HeartbeatTask.entry, Prod.mk.injEq,
    and_iff_left rfl, UInt16.ofInt, UInt16.toNat_ofNat']
  omega

/-- All ids of an answer come back exactly when they have 16 bits. -/
theorem Exchange.storedEntries_eq_iff (exchange : Exchange) :
    exchange.storedEntries = exchange.entries ↔
      ∀ task ∈ exchange.answer.acceptedTasks,
        0 ≤ task.taskId ∧ task.taskId < 65536 := by
  rw [Exchange.storedEntries, Exchange.entries, List.map_inj_left]
  exact forall₂_congr fun task _ => task.storedEntry_eq_iff

/-- A parsed answer adds the tasks that it delivers. -/
theorem otaHeartbeatRespParseTree_answer (list : TaskList) (answer : CJson) :
    ∃ ret, otaHeartbeatRespParseTree list (some answer) =
      (otaHeartbeatRespParse answer.acceptedTasks).map
        fun infos => (list.insertAll infos, ret) := by
  by_cases rejected : ResponseRejected (some answer)
  · have nothing : answer.acceptedTasks = [] := by
      obtain ⟨code, found, failure⟩ := rejected
      unfold CJson.acceptedTasks
      simp only [found, failure, if_false]
    refine ⟨-1, ?_⟩
    rw [otaHeartbeatRespParseTree_rejected rejected, nothing]
    rfl
  · have everything : answer.acceptedTasks =
        describedTasks (some answer) := by
      unfold CJson.acceptedTasks
      split
      · rename_i code found
        rw [if_pos]
        by_contra failure
        exact rejected ⟨code, found, failure⟩
      · rfl
    refine ⟨0, ?_⟩
    rw [otaHeartbeatRespParseTree_accepted rejected, everything]

theorem otaHeartbeatRespParse_entries {tasks : List HeartbeatTask}
    {infos : List FwDownInfo}
    (parsed : otaHeartbeatRespParse tasks = some infos) :
    infos.map FwDownInfo.entry = tasks.map HeartbeatTask.storedEntry := by
  induction tasks generalizing infos with
  | nil =>
      cases parsed
      rfl
  | cons task tasks induction =>
      obtain ⟨info, more, stored, rest, rfl⟩ :=
        otaHeartbeatRespParse_cons parsed
      rw [List.map_cons, List.map_cons, induction rest, FwDownInfo.entry,
        HeartbeatTask.storedEntry, FwDownInfo.contents,
        HeartbeatTask.contents,
        stored.id, stored.flag, stored.url, stored.md5, stored.type]

theorem TaskList.insertAll_entries {tasks : List HeartbeatTask}
    {infos : List FwDownInfo} (list : TaskList)
    (parsed : otaHeartbeatRespParse tasks = some infos) :
    (list.insertAll infos).entries =
      list.entries ++ tasks.map HeartbeatTask.storedEntry := by
  rw [TaskList.entries, TaskList.insertAll_nodes, List.map_append,
    otaHeartbeatRespParse_entries parsed]
  rfl

/-- What an answered request does, where it is defined. -/
theorem postHeartbeat_answered {exchange : Exchange}
    (answered : exchange.Answered) (state : HeartbeatState)
    (heartBeat : OtaHeartBeat) :
    ∃ more, (∀ output ∈ more, output = HeartbeatOutput.signalled) ∧
      postHeartbeat state exchange.round heartBeat =
        (OutgoingDocument.heartbeat heartBeat).data.bind fun buf =>
          (otaHeartbeatRespParse exchange.answer.acceptedTasks).map
            fun infos => ({ state with list := state.list.insertAll infos },
              .posted buf.text :: more) := by
  obtain ⟨front, rest, body, denoted, stops⟩ := answered.text
  have parsed : cJsonParse (responseBody exchange.round.deliveries) =
      some exchange.answer := by
    rw [body]
    exact cJsonParse_denoted denoted stops
  obtain ⟨ret, tree⟩ :=
    otaHeartbeatRespParseTree_answer state.list exchange.answer
  have request : httpPostRequest true true exchange.round.deliveries none =
      some (0, some (responseBody exchange.round.deliveries)) :=
    answered.assembled
  have posts : ∀ json, exchange.round.posts json = [.posted json] := by
    intro json
    rw [HeartbeatRound.posts, if_pos answered.initialised]
  refine ⟨if ret = 0 then [.signalled] else [], ?_, ?_⟩
  · intro output member
    split at member
    · exact List.mem_singleton.mp member
    · exact absurd member List.not_mem_nil
  · unfold postHeartbeat
    simp only [answered.initialised, answered.completed, request,
      Option.bind_eq_bind, Option.bind_some, if_true, parsed, tree, posts]
    cases (OutgoingDocument.heartbeat heartBeat).data with
    | none => rfl
    | some buf =>
        cases otaHeartbeatRespParse exchange.answer.acceptedTasks <;> rfl

theorem receivedDocuments_append (outputs more : List HeartbeatOutput) :
    receivedDocuments (outputs ++ more) =
      receivedDocuments outputs ++ receivedDocuments more :=
  List.filterMap_append

theorem receivedDocuments_posted (json : CString)
    (outputs : List HeartbeatOutput) :
    receivedDocuments (.posted json :: outputs) =
      cJsonParse json :: receivedDocuments outputs := rfl

theorem receivedDocuments_signalled {more : List HeartbeatOutput}
    (signals : ∀ output ∈ more, output = HeartbeatOutput.signalled) :
    receivedDocuments more = [] := by
  rw [receivedDocuments, List.filterMap_eq_nil_iff]
  intro output member
  rw [signals output member]

/-- What one answered heartbeat does, up to what has been signalled. -/
structure Exchange.Steps (exchange : Exchange) (state : HeartbeatState)
    (json : CString) (following : HeartbeatState)
    (emitted : List HeartbeatOutput) : Prop where
  received : ∀ later, receivedDocuments (emitted ++ later) =
    cJsonParse json :: receivedDocuments later
  entries : following.list.entries =
    state.list.entries ++ exchange.storedEntries

theorem Exchange.Steps.of_parsed {exchange : Exchange}
    {infos : List FwDownInfo} {more : List HeartbeatOutput}
    (parsed : otaHeartbeatRespParse exchange.answer.acceptedTasks = some infos)
    (signals : ∀ output ∈ more, output = HeartbeatOutput.signalled)
    (state : HeartbeatState) (json : CString) (upTime : CArray 30) :
    exchange.Steps state json
      { list := state.list.insertAll infos, upTime }
      (.posted json :: more) where
  received later := by
    rw [receivedDocuments_append, receivedDocuments_posted,
      receivedDocuments_signalled signals, List.singleton_append]
  entries := state.list.insertAll_entries parsed

/-- A heartbeat that can be carried reaches the server, and its answer the
list. -/
theorem Exchange.Carried.steps {exchange : Exchange}
    (carried : exchange.Carried) (answered : exchange.Answered)
    (state : HeartbeatState) :
    ∃ json following emitted,
      otaHeartbeatTaskCb state exchange.round = some (following, emitted) ∧
        exchange.Steps state json following emitted ∧
        cJsonParse json = exchange.document := by
  obtain ⟨heartBeat, upTime, buf, gathered, copied, read⟩ :=
    carried.tellable.told answered.prints state.upTime
  obtain ⟨infos, parsed⟩ :=
    (otaHeartbeatRespParse_defined_iff _).mpr carried.fits
  obtain ⟨more, signals, posted⟩ :=
    postHeartbeat_answered answered { state with upTime } heartBeat
  refine ⟨buf.text, _, _, ?_, .of_parsed parsed signals state buf.text upTime,
    read⟩
  simp only [otaHeartbeatTaskCb, gathered, posted, copied, parsed,
    Option.bind_eq_bind, Option.bind_some, Option.map_some]

/-- A heartbeat that reaches the server could be carried. -/
theorem Exchange.Answered.steps {exchange : Exchange}
    (answered : exchange.Answered) {state following : HeartbeatState}
    {emitted : List HeartbeatOutput}
    (called : otaHeartbeatTaskCb state exchange.round =
      some (following, emitted)) :
    ∃ json, exchange.Steps state json following emitted ∧
      (cJsonParse json = exchange.document →
        exchange.storedEntries = exchange.entries → exchange.Carried) := by
  simp only [otaHeartbeatTaskCb, Option.bind_eq_bind,
    Option.bind_eq_some_iff, Prod.exists] at called
  obtain ⟨info, upTime, gathered, called⟩ := called
  obtain ⟨heartBeat, rfl⟩ := getOtaHeartbeatInfo_gathers answered.prints
    answered.complete gathered
  obtain ⟨more, signals, posted⟩ :=
    postHeartbeat_answered answered { state with upTime } heartBeat
  simp only [posted, Option.bind_eq_some_iff, Option.map_eq_some_iff,
    Prod.mk.injEq] at called
  obtain ⟨buf, copied, infos, parsed, rfl, rfl⟩ := called
  refine ⟨buf.text, .of_parsed parsed signals state buf.text upTime,
    fun read whole => ⟨?_, ?_, exchange.storedEntries_eq_iff.mp whole⟩⟩
  · exact .of_told answered.prints answered.complete
      ⟨heartBeat, upTime, buf, gathered, copied, read⟩
  · exact (otaHeartbeatRespParse_defined_iff _).mp ⟨infos, parsed⟩

/-! ## Any number of heartbeats -/

/-- The exchanges, one after another, hand over every measurement and every
task, in their order. -/
def HandsOver (state : HeartbeatState) (exchanges : List Exchange) : Prop :=
  ∃ following outputs,
    heartbeatMachine.run (fun _ _ => true) state
        (exchanges.map Exchange.round) = some (following, outputs) ∧
      following.list.entries =
        state.list.entries ++ exchanges.flatMap Exchange.entries ∧
      receivedDocuments outputs = exchanges.map Exchange.document

/-- What the list has gained after a run of answered heartbeats. -/
theorem run_entries {exchanges : List Exchange}
    (answered : ∀ exchange ∈ exchanges, exchange.Answered)
    {state following : HeartbeatState} {outputs : List HeartbeatOutput}
    (ran : heartbeatMachine.run (fun _ _ => true) state
      (exchanges.map Exchange.round) = some (following, outputs)) :
    following.list.entries =
      state.list.entries ++ exchanges.flatMap Exchange.storedEntries := by
  induction exchanges generalizing state outputs with
  | nil =>
      cases ran
      exact (List.append_nil _).symm
  | cons exchange exchanges induction =>
      rw [List.forall_mem_cons] at answered
      simp only [List.map_cons, Machine.run, if_true, Option.bind_eq_bind,
        Option.bind_eq_some_iff, Prod.exists, Option.some.injEq,
        Prod.mk.injEq] at ran
      obtain ⟨next, emitted, called, _, more, later, rfl, rfl⟩ := ran
      obtain ⟨_, steps, _⟩ := answered.1.steps called
      rw [induction answered.2 later, steps.entries, List.append_assoc,
        List.flatMap_cons]

theorem HandsOver.cons {exchange : Exchange} {exchanges : List Exchange}
    {state following : HeartbeatState} {json : CString}
    {emitted : List HeartbeatOutput}
    (called : otaHeartbeatTaskCb state exchange.round =
      some (following, emitted))
    (steps : exchange.Steps state json following emitted)
    (whole : exchange.storedEntries = exchange.entries)
    (read : cJsonParse json = exchange.document)
    (later : HandsOver following exchanges) :
    HandsOver state (exchange :: exchanges) := by
  obtain ⟨final, outputs, ran, taken, documents⟩ := later
  refine ⟨final, emitted ++ outputs, ?_, ?_, ?_⟩
  · simp only [List.map_cons, Machine.run, if_true, heartbeatMachine,
      called, Option.bind_eq_bind, Option.bind_some]
    rw [← heartbeatMachine, ran, Option.bind_some]
  · rw [taken, steps.entries, whole, List.append_assoc, List.flatMap_cons]
  · rw [steps.received, documents, read, List.map_cons]

theorem HandsOver.uncons {exchange : Exchange} {exchanges : List Exchange}
    {state : HeartbeatState}
    (answered : ∀ each ∈ exchange :: exchanges, each.Answered)
    (handsOver : HandsOver state (exchange :: exchanges)) :
    exchange.Carried ∧ ∃ following, HandsOver following exchanges := by
  rw [List.forall_mem_cons] at answered
  obtain ⟨final, outputs, ran, taken, documents⟩ := handsOver
  simp only [List.map_cons, Machine.run, if_true, Option.bind_eq_bind,
    Option.bind_eq_some_iff, Prod.exists, Option.some.injEq,
    Prod.mk.injEq] at ran
  obtain ⟨following, emitted, called, _, more, later, rfl, rfl⟩ := ran
  obtain ⟨json, steps, carried⟩ := answered.1.steps called
  rw [steps.received, List.map_cons, List.cons.injEq] at documents
  -- The entries of the first answer are as many as its tasks.
  have both := run_entries answered.2 later
  rw [taken, steps.entries, List.append_assoc,
    List.append_cancel_left_eq, List.flatMap_cons] at both
  obtain ⟨whole, behind⟩ := List.append_inj both (by
    rw [Exchange.entries, Exchange.storedEntries, List.length_map,
      List.length_map])
  rw [List.flatMap_cons, whole, ← List.append_assoc, ← steps.entries] at taken
  exact ⟨carried documents.1 whole.symm, following, _, more, later, taken,
    documents.2⟩

/-- Over answered heartbeats, every measurement and every task is handed over
exactly when each measurement can be told and each accepted task fits its
arrays and has an id of 16 bits. -/
theorem heartbeats_handOver_iff {exchanges : List Exchange}
    (answered : ∀ exchange ∈ exchanges, exchange.Answered)
    (state : HeartbeatState) :
    HandsOver state exchanges ↔
      ∀ exchange ∈ exchanges, exchange.Carried := by
  induction exchanges generalizing state with
  | nil =>
      refine iff_of_true ⟨state, [], rfl, ?_, rfl⟩ nofun
      rw [List.flatMap_nil, List.append_nil]
  | cons exchange exchanges induction =>
      rw [List.forall_mem_cons]
      have ⟨here, behind⟩ := List.forall_mem_cons.mp answered
      constructor
      · intro handsOver
        obtain ⟨carried, following, later⟩ := handsOver.uncons answered
        exact ⟨carried, (induction behind following).mp later⟩
      · rintro ⟨carried, later⟩
        obtain ⟨json, following, emitted, called, steps, read⟩ :=
          carried.steps here state
        exact .cons called steps
          (exchange.storedEntries_eq_iff.mpr carried.ids) read
          ((induction behind following).mpr later)

/-- An answer with one task. -/
def oneTaskAnswer : CJson :=
  .object [(codeName, .string codeSuccess), (taskListName, .array [.object
    [(taskIdName, .number 7), (artifactUrlName, .string "u".toList),
      (artifactMd5Name, .string "5".toList),
      (taskTypeName, .string "gw".toList)]])]

def oneTaskExchange : Exchange :=
  { measured := exampleMeasurement
    units := exampleUnits
    answer := oneTaskAnswer
    round :=
      { environment := exampleHeartbeat
        initialised := true
        completed := true
        deliveries :=
          [{ contents := '{' :: (cJsonPrint oneTaskAnswer).tail
             nonempty := List.cons_ne_nil _ _
             behind := ['\x00']
             allocated := true }] } }

theorem oneTaskExchange_answered : oneTaskExchange.Answered where
  prints := ⟨rfl, ⟨rfl, rfl, rfl⟩, rfl, ⟨rfl, rfl, rfl⟩, rfl⟩
  complete := by decide
  initialised := rfl
  completed := rfl
  assembled := by
    unfold AssembledWhole
    decide +kernel
  text := by
    refine ⟨cJsonPrint oneTaskAnswer, [], by decide +kernel, ?_, .nil _⟩
    refine CJson.print_denotes 0 oneTaskAnswer ?_ ?_ (by decide)
    · simp [oneTaskAnswer, CJson.Ints, CJson.All, AllMembers, AllElements]
    · simp only [oneTaskAnswer, CJson.Terminated, CJson.All, AllMembers,
        AllElements]
      decide

theorem oneTaskExchange_carried : oneTaskExchange.Carried :=
  ⟨⟨by decide +kernel, by decide +kernel, by decide, by decide, by decide,
    by decide +kernel⟩, by decide, by decide⟩

/-- Two heartbeats with a task each. -/
theorem heartbeats_handOver_twice :
    HandsOver
      { list := { nodes := [], count := 0, counted := rfl }
        upTime := .cleared 29 }
      [oneTaskExchange, oneTaskExchange] :=
  (heartbeats_handOver_iff
    (List.forall_mem_cons.mpr ⟨oneTaskExchange_answered,
      List.forall_mem_singleton.mpr oneTaskExchange_answered⟩) _).mpr
    (List.forall_mem_cons.mpr ⟨oneTaskExchange_carried,
      List.forall_mem_singleton.mpr oneTaskExchange_carried⟩)

end RtA100
