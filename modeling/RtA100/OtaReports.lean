import RtA100.OtaRecords
import RtA100.OtaResponse

/-!
# Reports name their task

`do_ota_report` posts the id of a task and the device address once the update
of the task has succeeded.  The id comes from a heartbeat response or, after a
reboot, from a line of the mission file.  The address was read from the script
when the program started and is printed with `%d`; the heartbeat sends what the
script prints with `%04d`.

`OtaReports` follows the history of the mission file and remembers, for every
queued task and every line of the file, the task that the response delivered.
-/

namespace RtA100

open Library

/-! ## The report -/

/-- `resp_info` of an update. -/
structure UpdateRespInfo where
  time : CString
  report : CString

structure OtaReport where
  devAddr : CArray 10
  taskId : UInt16
  time : CString
  report : CString

/-- `get_ota_report_info`, for the `dev_addr` of `base_info`. -/
def getOtaReportInfo (devAddr : UInt16) (info : FwUpdateInfo)
    (respInfo : UpdateRespInfo) : OtaReport :=
  { devAddr :=
      { text := decimal devAddr.toNat
        fits := Nat.lt_of_le_of_lt (decimal_id_length devAddr) (by decide) }
    taskId := info.id
    time := respInfo.time
    report := respInfo.report }

def langName : CString := "lang".toList

def deviceAddressName : CString := "deviceAddress".toList

def executionTimeName : CString := "executionTime".toList

def executionReportName : CString := "executionReport".toList

/-- The tree that `create_ota_report_data` prints. -/
def createOtaReportData (devAddr : UInt16) (info : FwUpdateInfo)
    (respInfo : UpdateRespInfo) : CJson :=
  let report := getOtaReportInfo devAddr info respInfo
  .object
    [(langName, .string "zh_CN".toList),
      (deviceAddressName, .string report.devAddr.text),
      (taskIdName, .number report.taskId.toNat),
      (executionTimeName, .string report.time),
      (executionReportName, .string report.report)]

/-- The result of `fkz9_fw_update_func`; `upgraded` says whether the commands
on the server succeed. -/
def fkz9FwUpdateResult (info : FwUpdateInfo)
    (directory connected upgraded : Bool) : Int :=
  if strstr info.type.text otaTaskNow = true then
    if directory = true then 0
    else if connected = true then
      if upgraded = true then 0 else -1
    else -1
  else 0

/-! ## The device address -/

/-- `dev_addr` of `base_info` after `init_updater_environment`. -/
def initDevAddr : Option CString → UInt16
  | none => 0
  | some reply =>
      match sshExecute 128 reply with
      | none => 0
      | some resp => storeShort (scan devInfoFormat resp) 0 0

/-- `dev_addr` after `get_ota_heartbeat_info`, which the heartbeat sends. -/
def heartbeatDevAddr (reply : CString) : Option (CArray 32) := do
  let resp ← sshExecute 512 reply
  storeField (scan heartbeatFormat (resp.dropWhile isSpace)) 0 (.cleared 31)

/-- The address as `updater.sh` prints it. -/
def scriptDevAddr (address : Nat) : CString :=
  paddedDecimal 4 address

/-! ## Tasks and where they come from -/

/-- A queued task was delivered by a heartbeat response, or was read from a
line of the record of such a task. -/
inductive TaskOrigin where
  | delivered (task : HeartbeatTask)
  | readBack (task : HeartbeatTask) (line : CString) (block : FwDownInfo)

def TaskOrigin.task : TaskOrigin → HeartbeatTask
  | .delivered task | .readBack task _ _ => task

/-- The id that the queued task has. -/
def TaskOrigin.id : TaskOrigin → UInt16
  | .delivered task => .ofInt task.taskId
  | .readBack _ line block => readId line block

/-- A task that was read from the mission file was read from a line that gives
its id. -/
def TaskOrigin.Kept : TaskOrigin → Prop
  | .delivered _ => True
  | .readBack task line block => readId line block = .ofInt task.taskId

structure PostedReport where
  origin : Option TaskOrigin
  data : CJson

structure OtaReports where
  history : OtaHistory
  devAddr : UInt16
  origins : List TaskOrigin
  file : List (MissionLine × HeartbeatTask)
  posted : List PostedReport

/-- An event of the updater, with what decides how an update ends. -/
structure ReportEvent where
  event : OtaEvent
  upgraded : Bool
  respInfo : UpdateRespInfo

def OtaReports.remember (reports : OtaReports) (event : ReportEvent) :
    OtaReports :=
  match event.event with
  | .heartbeatTasks tasks =>
      { reports with
        origins := reports.origins ++ tasks.map .delivered }
  | .takeTask _ =>
      match reports.history.system.download, reports.history.system.tasks,
        reports.origins with
      | .scanning, info :: _, origin :: _ =>
          if info.flag = fwNeedDownload ∧
              strstr info.type.text otaTaskNext = true then
            { reports with
              file := reports.file ++
                (reports.history.newLines info).map fun line =>
                  (line, origin.task) }
          else reports
      | _, _, _ => reports
  | .update directory connected =>
      match reports.history.system.download with
      | .transferred info =>
          if fkz9FwUpdateResult info directory connected event.upgraded =
              0 then
            { reports with
              posted := reports.posted ++
                [{ origin := reports.origins.head?
                   data :=
                     createOtaReportData reports.devAddr info
                       event.respInfo }] }
          else reports
      | _ => reports
  | .finishTask => { reports with origins := reports.origins.tail }
  | .loadMissions blocks =>
      { reports with
        origins := reports.origins ++
          List.zipWith (fun entry block =>
            .readBack entry.2 entry.1.line block) reports.file blocks }
  | .removeMissions => { reports with file := [] }
  | .reboot reply =>
      { reports with origins := [], devAddr := initDevAddr reply }
  | _ => reports

def reportStep (reports : OtaReports) (event : ReportEvent) :
    Option (OtaReports × List OtaOutput) :=
  (historyStep reports.history event.event).map fun (history, outputs) =>
    ({ reports.remember event with history }, outputs)

/-- The program has been started, and nothing has been delivered. -/
def startedReports (reply : Option CString) (upTime : CArray 30) :
    OtaReports :=
  { history :=
      { system :=
          { tasks := [], download := .idle, timer := .idle, upTime
            mission := [] }
        appended := [], file := [], counted := 0, queued := [] }
    devAddr := initDevAddr reply
    origins := [], file := [], posted := [] }

def ReportsInitial (reports : OtaReports) : Prop :=
  ∃ reply upTime, initUpTime reply = some upTime ∧
    reports = startedReports reply upTime

def reportMachine : Machine OtaReports ReportEvent OtaOutput :=
  { initial := ReportsInitial
    step := reportStep }

/-! ## Reading what was printed -/

/-- `%d` and `%04d` print the same for numbers of four digits or more. -/
theorem decimal_eq_scriptDevAddr_iff {value address : Nat} :
    decimal value = scriptDevAddr address ↔
      value = address ∧ 1000 ≤ address := by
  have digits : (decimal address).length ≤ 3 ↔ address < 10 ^ 3 :=
    Nat.length_toDigits_le_iff (by decide) (by decide)
  constructor
  · intro same
    have number : value = address := by
      rw [← ofDigitChars_decimal value, same]
      exact ofDigitChars_paddedDecimal 4 address
    have length := congrArg List.length same
    rw [number, scriptDevAddr, paddedDecimal, padZeros, List.length_append,
      List.length_replicate] at length
    exact ⟨number, by omega⟩
  · rintro ⟨rfl, large⟩
    have unpadded : 4 - (decimal value).length = 0 := by omega
    rw [scriptDevAddr, paddedDecimal, padZeros, unpadded]
    rfl

theorem scriptDevAddr_isDigit {address : Nat} {character : Char}
    (member : character ∈ scriptDevAddr address) :
    character.isDigit = true :=
  paddedDecimal_isDigit member

theorem scriptDevAddr_ne_nil (address : Nat) : scriptDevAddr address ≠ [] :=
  paddedDecimal_ne_nil 4 address

theorem not_mem_scriptDevAddr {address : Nat} {character : Char}
    (other : character.isDigit = false) :
    character ∉ scriptDevAddr address := by
  intro member
  rw [scriptDevAddr_isDigit member] at other
  cases other

/-- The first line of a reply that begins with the address. -/
theorem sshExecute_address {size address : Nat} {rest resp : CString}
    (executed : sshExecute size (scriptDevAddr address ++ ',' :: rest) =
      some resp) :
    ∃ more, resp = scriptDevAddr address ++ ',' :: more := by
  simp only [sshExecute, Option.bind_eq_bind, Option.bind_eq_some_iff,
    Option.some.injEq] at executed
  obtain ⟨copied, stored, rfl⟩ := executed
  have oneLine : '\n' ∉ scriptDevAddr address :=
    not_mem_scriptDevAddr (by decide)
  have comma : decide (',' ≠ '\n') = true := by decide
  rw [strcpy_text stored, List.takeWhile_append_of_pos (ne_of_not_mem oneLine),
    List.takeWhile_cons, if_pos comma]
  exact ⟨_, rfl⟩

/-- A start that gets a reply from the script knows the address. -/
theorem initDevAddr_script {address : Nat} {rest : CString}
    {upTime : CArray 30} (small : address < 65536)
    (read : initUpTime (some (scriptDevAddr address ++ ',' :: rest)) =
      some upTime) :
    (initDevAddr (some (scriptDevAddr address ++ ',' :: rest))).toNat =
      address := by
  obtain ⟨resp, executed, _⟩ := Option.bind_eq_some_iff.mp read
  obtain ⟨more, rfl⟩ := sshExecute_address executed
  have number : (scan devInfoFormat
      (scriptDevAddr address ++ ',' :: more))[0]? =
        some (.integer address) := by
    rw [devInfoFormat, scan, scriptDevAddr,
      scanInteger_paddedDecimal more (by omega)]
    rfl
  unfold initDevAddr
  simp only [executed]
  unfold storeShort
  rw [number]
  simp only [UInt16.ofInt]
  rw [UInt16.toNat_ofNat']
  omega

/-- The heartbeat sends the address as the script printed it. -/
theorem heartbeatDevAddr_script {address : Nat} {rest : CString}
    {copied : CArray 32}
    (sent : heartbeatDevAddr (scriptDevAddr address ++ ',' :: rest) =
      some copied) : copied.text = scriptDevAddr address := by
  obtain ⟨resp, executed, stored⟩ := Option.bind_eq_some_iff.mp sent
  obtain ⟨more, rfl⟩ := sshExecute_address executed
  have field : (scan heartbeatFormat
      ((scriptDevAddr address ++ ',' :: more).dropWhile isSpace))[0]? =
        some (.field (scriptDevAddr address)) := by
    rw [dropWhile_isSpace_digits _ (scriptDevAddr_ne_nil address)
        fun _ => scriptDevAddr_isDigit, heartbeatFormat, List.replicate_succ,
      scan_field more (scriptDevAddr_ne_nil address)
        (not_mem_scriptDevAddr (by decide))]
    rfl
  rw [storeField, field] at stored
  exact strcpy_text stored

/-! ## Ids on their way -/

theorem otaHeartbeatRespParse_ids {tasks : List HeartbeatTask}
    {infos : List FwDownInfo}
    (parsed : otaHeartbeatRespParse tasks = some infos) :
    infos.map (·.id) = (tasks.map TaskOrigin.delivered).map TaskOrigin.id := by
  induction tasks generalizing infos with
  | nil =>
      cases parsed
      rfl
  | cons task tasks induction =>
      obtain ⟨info, more, stored, rest, rfl⟩ :=
        otaHeartbeatRespParse_cons parsed
      rw [List.map_cons, List.map_cons, List.map_cons, induction rest,
        stored.id]
      rfl

theorem loadMissions_readIds {mission : CString} {uptime : CArray 30}
    {number : Nat} {blocks infos : List FwDownInfo}
    (enough : number + blocks.length ≤ (fileLines mission).length)
    (loaded : loadMissions mission uptime number blocks = some infos) :
    infos.map (·.id) =
      List.zipWith readId ((fileLines mission).drop number) blocks := by
  induction blocks generalizing number uptime infos with
  | nil =>
      cases loaded
      rw [List.zipWith_nil_right]
      rfl
  | cons block blocks induction =>
      rw [List.length_cons] at enough
      obtain ⟨info, stored, more, scanned, rest, rfl⟩ :=
        loadMissions_cons loaded
      have inside : number < (fileLines mission).length := by omega
      have line : sedLine number mission = (fileLines mission)[number] := by
        rw [sedLine, List.getElem?_eq_getElem inside]
        rfl
      have later := induction (by omega) rest
      have here := scanRecord_readId scanned
      rw [line] at here
      rw [List.drop_eq_getElem_cons inside, List.zipWith_cons_cons,
        List.map_cons, later, ← here]

/-! ## The invariant -/

/-- The task that the download thread works on. -/
def DownloadPc.holding : DownloadPc → Option FwUpdateInfo
  | .prepared info | .checked info | .transferred info => some info
  | _ => none

/-- What is remembered belongs to the lines of the file and to the queued
tasks, and the download thread works on the first of these. -/
structure ReportsSound (reports : OtaReports) : Prop where
  order : HistoryOrder reports.history
  file : reports.file.map Prod.fst = reports.history.file
  tasks : reports.history.system.tasks.map (·.id) =
    reports.origins.map TaskOrigin.id
  download : ∀ info ∈ reports.history.system.download.holding,
    ∃ origin ∈ reports.origins.head?, origin.id = info.id

theorem ReportsSound.initial {reports : OtaReports}
    (starts : ReportsInitial reports) : ReportsSound reports := by
  obtain ⟨reply, upTime, read, rfl⟩ := starts
  refine ⟨HistoryOrder.initial ⟨⟨reply, upTime, read, rfl⟩, rfl⟩, rfl, rfl, ?_⟩
  simp [startedReports, DownloadPc.holding]

/-- The origin of the first queued task. -/
theorem ReportsSound.first {reports : OtaReports} {info : FwDownInfo}
    {rest : List FwDownInfo} (sound : ReportsSound reports)
    (tasks : reports.history.system.tasks = info :: rest) :
    ∃ origin others, reports.origins = origin :: others ∧
      origin.id = info.id := by
  have ids := sound.tasks
  rw [tasks, List.map_cons] at ids
  obtain ⟨origin, others, split, here, _⟩ := List.map_eq_cons_iff.mp ids.symm
  exact ⟨origin, others, split, here⟩

theorem ReportsSound.remember_file {reports : OtaReports}
    (sound : ReportsSound reports) (event : ReportEvent) :
    (reports.remember event).file.map Prod.fst =
      (reports.history.remember event.event).file := by
  obtain ⟨event, upgraded, respInfo⟩ := event
  cases event with
  | takeTask _ =>
      simp only [OtaReports.remember, OtaHistory.remember]
      split
      · rename_i info rest origin others scanning tasks origins
        simp only [scanning, tasks]
        split
        · rw [List.map_append, sound.file]
          simp [List.map_map, Function.comp_def]
        · exact sound.file
      · rename_i other
        split
        · rename_i info rest scanning tasks
          obtain ⟨origin, others, origins, _⟩ := sound.first tasks
          exact absurd origins (other info rest origin others scanning tasks)
        · exact sound.file
  | update directory connected =>
      simp only [OtaReports.remember, OtaHistory.remember]
      split
      · split
        · exact sound.file
        · exact sound.file
      · exact sound.file
  | removeMissions => rfl
  | _ => exact sound.file

theorem fkz9FwTransCheck_holding {info other : FwUpdateInfo}
    {md5sum : CString}
    (holding : other ∈ (fkz9FwTransCheck info md5sum).1.holding) :
    other.id = info.id := by
  unfold fkz9FwTransCheck at holding
  split at holding
  · cases holding
    rfl
  · split at holding
    · cases holding
      rfl
    · cases holding
      rfl

/-- Tasks loaded from the file have the ids that their lines give. -/
theorem ReportsSound.loaded_ids {reports : OtaReports}
    {blocks infos : List FwDownInfo} {num : UInt8} {uptime : CArray 30}
    (sound : ReportsSound reports)
    (rebooted : reports.history.system.timer = .rebooted num uptime)
    (enough : blocks.length = num.toNat)
    (loaded : loadMissions reports.history.system.mission uptime 0 blocks =
      some infos) :
    infos.map (·.id) =
      (List.zipWith (fun entry block =>
        TaskOrigin.readBack entry.2 entry.1.line block)
        reports.file blocks).map TaskOrigin.id := by
  obtain ⟨_, count, _⟩ := sound.order.timer.rebooted num uptime rebooted
  have lines : fileLines reports.history.system.mission =
      reports.file.map (·.1.line) := by
    rw [sound.order.fileLines.1, ← sound.file, List.map_map]
    rfl
  have inside :
      0 + blocks.length ≤
        (fileLines reports.history.system.mission).length := by
    have counted := sound.order.counted
    have byte := Nat.mod_le reports.history.counted 256
    rw [sound.order.fileLines.1, List.length_map]
    omega
  rw [loadMissions_readIds inside loaded, List.drop_zero, lines,
    List.zipWith_map_left, List.map_zipWith]
  rfl

theorem remember_takeTask_origins (reports : OtaReports)
    (ftpDownload : Int) (upgraded : Bool) (respInfo : UpdateRespInfo) :
    (reports.remember { event := .takeTask ftpDownload, upgraded
                        respInfo }).origins = reports.origins := by
  simp only [OtaReports.remember]
  split
  · split
    · rfl
    · rfl
  · rfl

theorem remember_update_origins (reports : OtaReports)
    (directory connected upgraded : Bool) (respInfo : UpdateRespInfo) :
    (reports.remember { event := .update directory connected, upgraded
                        respInfo }).origins = reports.origins := by
  simp only [OtaReports.remember]
  split
  · split
    · rfl
    · rfl
  · rfl

theorem ReportsSound.step {reports following : OtaReports}
    {event : ReportEvent} {emitted : List OtaOutput}
    (sound : ReportsSound reports)
    (stepped : reportStep reports event = some (following, emitted)) :
    ReportsSound following := by
  obtain ⟨⟨history, outputs⟩, historyStepped, result⟩ :=
    Option.map_eq_some_iff.mp stepped
  obtain ⟨rfl, rfl⟩ := Prod.mk.inj result
  have order := sound.order.step historyStepped
  obtain ⟨⟨system, _⟩, systemStepped, historyResult⟩ :=
    Option.map_eq_some_iff.mp historyStepped
  obtain ⟨rfl, rfl⟩ := Prod.mk.inj historyResult
  have file := sound.remember_file event
  suffices parts :
      system.tasks.map (·.id) =
          (reports.remember event).origins.map TaskOrigin.id ∧
        ∀ info ∈ system.download.holding,
          ∃ origin ∈ (reports.remember event).origins.head?,
            origin.id = info.id from
    ⟨order, file, parts.1, parts.2⟩
  obtain ⟨event, upgraded, respInfo⟩ := event
  cases otaStep_transition systemStepped with
  | heartbeatInfo _ _ _ _ => exact ⟨sound.tasks, sound.download⟩
  | heartbeatTasks tasks infos _ idle parsed =>
      refine ⟨?_, by simp [idle, DownloadPc.holding]⟩
      rw [List.map_append, sound.tasks, otaHeartbeatRespParse_ids parsed,
        ← List.map_append]
      rfl
  | lock _ => exact ⟨sound.tasks, by simp [DownloadPc.holding]⟩
  | unlock _ scanning tasks =>
      simp only [OtaReports.remember, scanning, tasks]
      exact ⟨tasks ▸ sound.tasks, by simp [DownloadPc.holding]⟩
  | takeTask _ info rest scanning tasks =>
      obtain ⟨origin, others, origins, same⟩ := sound.first tasks
      rw [remember_takeTask_origins]
      refine ⟨sound.tasks, fun other holding => ?_⟩
      cases holding
      exact ⟨origin, by rw [origins]; rfl, same⟩
  | check md5sum info prepared =>
      refine ⟨sound.tasks, fun other holding => ?_⟩
      rw [fkz9FwTransCheck_holding holding]
      exact sound.download info (by rw [prepared]; rfl)
  | transfer info checked =>
      refine ⟨sound.tasks, fun other holding => ?_⟩
      cases holding
      exact sound.download info (by rw [checked]; rfl)
  | transferFails info checked =>
      exact ⟨sound.tasks, by simp [DownloadPc.holding]⟩
  | update directory connected info transferred =>
      rw [remember_update_origins]
      exact ⟨sound.tasks, by simp [DownloadPc.holding]⟩
  | finishTask finishing =>
      refine ⟨?_, by simp [DownloadPc.holding]⟩
      simp only [OtaReports.remember, List.map_tail, sound.tasks]
  | countMissions _ _ => exact ⟨sound.tasks, sound.download⟩
  | sameBoot _ _ _ _ _ _ _ => exact ⟨sound.tasks, sound.download⟩
  | laterBoot _ _ _ _ _ _ _ => exact ⟨sound.tasks, sound.download⟩
  | loadMissions blocks infos num uptime rebooted idle enough loaded =>
      refine ⟨?_, by simp [idle, DownloadPc.holding]⟩
      rw [List.map_append, sound.tasks,
        sound.loaded_ids rebooted enough loaded, ← List.map_append]
      rfl
  | removeMissions _ => exact ⟨sound.tasks, sound.download⟩
  | reboot _ _ _ => exact ⟨rfl, by simp [DownloadPc.holding]⟩

/-! ## Reports that identify their task -/

/-- A posted report carries the id of the task and the address that the
heartbeat sends. -/
structure Identifies (data : CJson) (taskId : Int) (address : Nat) :
    Prop where
  taskId : data.item taskIdName = some (.number taskId)
  deviceAddress : data.item deviceAddressName =
    some (.string (scriptDevAddr address))

def ReportsNamed (address : Nat) (reports : OtaReports) : Prop :=
  ∀ entry ∈ reports.posted, ∃ origin ∈ entry.origin,
    0 ≤ origin.task.taskId →
      Identifies entry.data origin.task.taskId address

/-- Whenever a report is posted for a task, its id fits 16 bits and was kept by
the mission file, and the address is known and has four digits or more. -/
def PostsNamed (address : Nat) (reports : OtaReports) (event : ReportEvent) :
    Prop :=
  ∀ directory connected info,
    event.event = .update directory connected →
    reports.history.system.download = .transferred info →
    fkz9FwUpdateResult info directory connected event.upgraded = 0 →
    ∀ origin ∈ reports.origins.head?, 0 ≤ origin.task.taskId →
      origin.task.taskId < 65536 ∧ origin.Kept ∧
        reports.devAddr.toNat = address ∧ 1000 ≤ address

instance (found : Option CJson) (value : Int) :
    Decidable (found = some (.number value)) :=
  match found with
  | some (.number other) => decidable_of_iff (other = value) (by simp)
  | none | some .null | some (.bool _) | some (.string _) | some (.array _)
  | some (.object _) => isFalse (by simp)

instance (found : Option CJson) (text : CString) :
    Decidable (found = some (.string text)) :=
  match found with
  | some (.string other) => decidable_of_iff (other = text) (by simp)
  | none | some .null | some (.bool _) | some (.number _) | some (.array _)
  | some (.object _) => isFalse (by simp)

instance (data : CJson) (taskId : Int) (address : Nat) :
    Decidable (Identifies data taskId address) :=
  decidable_of_iff
    (data.item taskIdName = some (.number taskId) ∧
      data.item deviceAddressName = some (.string (scriptDevAddr address)))
    ⟨fun ⟨number, text⟩ => ⟨number, text⟩,
      fun ⟨number, text⟩ => ⟨number, text⟩⟩

instance (address : Nat) (reports : OtaReports) :
    Decidable (ReportsNamed address reports) :=
  inferInstanceAs (Decidable (∀ entry ∈ reports.posted, _))

theorem ofInt_toNat_iff {value : Int} (nonnegative : 0 ≤ value) :
    ((UInt16.ofInt value).toNat : Int) = value ↔ value < 65536 := by
  rw [UInt16.ofInt, UInt16.toNat_ofNat']
  omega

/-- The task has its own id exactly when 16 bits hold it and it was kept. -/
theorem TaskOrigin.id_iff {origin : TaskOrigin}
    (nonnegative : 0 ≤ origin.task.taskId) :
    (origin.id.toNat : Int) = origin.task.taskId ↔
      origin.task.taskId < 65536 ∧ origin.Kept := by
  have fits := ofInt_toNat_iff nonnegative
  cases origin with
  | delivered task =>
      exact fits.trans (and_iff_left trivial).symm
  | readBack task line block =>
      change ((readId line block).toNat : Int) = task.taskId ↔
        task.taskId < 65536 ∧ readId line block = .ofInt task.taskId
      constructor
      · intro same
        have small : task.taskId < 65536 := by
          have range := (readId line block).toNat_lt
          omega
        refine ⟨small, ?_⟩
        rw [← same]
        exact (ofInt_toNat _).symm
      · rintro ⟨small, kept⟩
        rw [kept]
        exact fits.mpr small

/-- Every task is kept by the first line of its record. -/
theorem TaskOrigin.kept_first {task : HeartbeatTask} {info : FwDownInfo}
    {upTime : CArray 30} {line : CString} {block : FwDownInfo}
    (delivered : info.id = .ofInt task.taskId)
    (first : line ∈ (fileLines (missionRecord info upTime)).head?) :
    (TaskOrigin.readBack task line block).Kept := by
  obtain ⟨body, more, names, lines⟩ := missionRecord_first info upTime
  rw [lines] at first
  cases first
  exact (readId_namesTask names).trans delivered

theorem identifies_iff {devAddr : UInt16} {info : FwUpdateInfo}
    {respInfo : UpdateRespInfo} {taskId : Int} {address : Nat} :
    Identifies (createOtaReportData devAddr info respInfo) taskId address ↔
      (info.id.toNat : Int) = taskId ∧ devAddr.toNat = address ∧
        1000 ≤ address := by
  have number : (createOtaReportData devAddr info respInfo).item taskIdName =
      some (.number info.id.toNat) := rfl
  have text : (createOtaReportData devAddr info respInfo).item
      deviceAddressName = some (.string (decimal devAddr.toNat)) := rfl
  constructor
  · rintro ⟨sameId, sameAddress⟩
    rw [number, Option.some.injEq, CJson.number.injEq] at sameId
    rw [text, Option.some.injEq, CJson.string.injEq] at sameAddress
    exact ⟨sameId, decimal_eq_scriptDevAddr_iff.mp sameAddress⟩
  · rintro ⟨sameId, sameAddress⟩
    refine ⟨?_, ?_⟩
    · rw [number, sameId]
    · rw [text, decimal_eq_scriptDevAddr_iff.mpr sameAddress]

/-- A report for the first queued task identifies it under the condition. -/
theorem reportsNamed_append_iff {address : Nat} {posted : List PostedReport}
    {data : CJson} {origins : List TaskOrigin} {origin : TaskOrigin}
    (named : ∀ entry ∈ posted, ∃ origin ∈ entry.origin,
      0 ≤ origin.task.taskId →
        Identifies entry.data origin.task.taskId address)
    (first : origin ∈ origins.head?) :
    (∀ entry ∈ posted ++ [{ origin := origins.head?, data }],
      ∃ origin ∈ entry.origin, 0 ≤ origin.task.taskId →
        Identifies entry.data origin.task.taskId address) ↔
      (0 ≤ origin.task.taskId →
        Identifies data origin.task.taskId address) := by
  constructor
  · intro all
    obtain ⟨other, here, identifies⟩ :=
      all _ (List.mem_append_right _ List.mem_cons_self)
    cases Option.mem_unique here first
    exact identifies
  · intro now entry member
    rcases List.mem_append.mp member with before | added
    · exact named entry before
    · cases List.mem_singleton.mp added
      exact ⟨origin, first, now⟩

theorem reportsNamed_step_iff {address : Nat}
    {reports following : OtaReports} {event : ReportEvent}
    {emitted : List OtaOutput} (sound : ReportsSound reports)
    (named : ReportsNamed address reports)
    (stepped : reportStep reports event = some (following, emitted)) :
    ReportsNamed address following ↔ PostsNamed address reports event := by
  obtain ⟨⟨history, outputs⟩, _, result⟩ := Option.map_eq_some_iff.mp stepped
  obtain ⟨rfl, rfl⟩ := Prod.mk.inj result
  obtain ⟨event, upgraded, respInfo⟩ := event
  cases event with
  | update directory connected =>
      simp only [OtaReports.remember]
      split
      · rename_i info transferred
        split
        · rename_i succeeded
          obtain ⟨origin, first, same⟩ :=
            sound.download info (by rw [transferred]; rfl)
          rw [ReportsNamed, reportsNamed_append_iff named first,
            imp_congr_right fun nonnegative => identifies_iff.trans
              (and_congr_left' (same ▸ origin.id_iff nonnegative))]
          constructor
          · intro condition _ _ other sameEvent sameInfo _ task atFront
            cases Option.mem_unique atFront first
            intro nonnegative
            obtain ⟨⟨small, kept⟩, known⟩ := condition nonnegative
            exact ⟨small, kept, known⟩
          · intro posts nonnegative
            obtain ⟨small, kept, known⟩ := posts directory connected info rfl
              transferred succeeded origin first nonnegative
            exact ⟨⟨small, kept⟩, known⟩
        · rename_i failed
          refine iff_of_true named ?_
          intro _ _ other sameEvent sameInfo succeeded
          cases sameEvent
          cases transferred.symm.trans sameInfo
          exact absurd succeeded failed
      · rename_i elsewhere
        refine iff_of_true named ?_
        intro _ _ info _ transferred
        exact absurd transferred (elsewhere info)
  | takeTask ftpDownload =>
      refine iff_of_true ?_ (by simp [PostsNamed])
      simp only [OtaReports.remember]
      split
      · split
        · exact named
        · exact named
      · exact named
  | _ => exact iff_of_true named (by simp [PostsNamed])

/-- For every device address, every history of the mission file and every
start, each report names its task and the address of the heartbeat exactly when
reports are only posted for ids that were kept within 16 bits and an address
that both formats print alike. -/
theorem reportsNamed_along_iff {reports : OtaReports} (address : Nat)
    (starts : ReportsInitial reports) (events : List ReportEvent) :
    reportMachine.Along (ReportsNamed address) reports events ↔
      reportMachine.Takes (PostsNamed address) reports events := by
  have sound := ReportsSound.initial starts
  have named : ReportsNamed address reports := by
    obtain ⟨_, _, _, rfl⟩ := starts
    exact fun _ member => absurd member List.not_mem_nil
  exact @Machine.along_iff_takes _ _ _ reportMachine (PostsNamed address)
    ReportsSound (ReportsNamed address)
    (fun _ _ _ _ sound stepped => sound.step stepped)
    (fun _ _ _ _ sound named stepped =>
      reportsNamed_step_iff sound named stepped)
    reports sound named events

/-! ## Short addresses and long ids -/

/-- The start of the program, with what the script prints for an address. -/
def addressReply (address : Nat) : CString :=
  scriptDevAddr address ++ ",10.0.0.1,80,1,1,1,1,1,1,1,1,boot 1,".toList

def startedAt (address : Nat) : OtaReports :=
  startedReports (some (addressReply address)) firstBoot

def plainEvent (event : OtaEvent) : ReportEvent :=
  { event, upgraded := true
    respInfo := { time := [], report := [] } }

/-- A heartbeat delivers a task, and the download thread works it off. -/
def oneTask (taskId : Int) : List ReportEvent :=
  ([bootReply "boot 1", waitingTask taskId] ++ downloadOne).map plainEvent

theorem startedAt_initial {address : Nat}
    (read : initUpTime (some (addressReply address)) = some firstBoot) :
    ReportsInitial (startedAt address) :=
  ⟨some (addressReply address), firstBoot, read, rfl⟩

theorem reportsNamed_along_oneTask :
    reportMachine.Along (ReportsNamed 1356) (startedAt 1356) (oneTask 7) ↔
      reportMachine.Takes (PostsNamed 1356) (startedAt 1356) (oneTask 7) :=
  reportsNamed_along_iff 1356 (startedAt_initial (by decide +kernel))
    (oneTask 7)

/-- A run that ends with a wrong report. -/
theorem misnamed_of_run {address : Nat} {taskId : Int}
    (read : initUpTime (some (addressReply address)) = some firstBoot)
    (computed : (reportMachine.run (fun _ _ => true) (startedAt address)
      (oneTask taskId)).map (fun result =>
        decide (ReportsNamed address result.1)) = some false) :
    ∃ outputs reports, reportMachine.Reaches Machine.anyStep outputs reports ∧
      ¬ReportsNamed address reports := by
  obtain ⟨outputs, reports, reached, wrong⟩ :=
    Machine.Reaches.of_run (fun _ _ _ => trivial) (startedAt_initial read)
      computed
  exact ⟨outputs, reports, reached, of_decide_eq_false wrong⟩

/-- The address 356 is reported without its zero, and the id 65543 as 7. -/
theorem short_address_long_id_misnamed :
    (∃ outputs reports, reportMachine.Reaches Machine.anyStep outputs reports ∧
      ¬ReportsNamed 356 reports) ∧
    ∃ outputs reports, reportMachine.Reaches Machine.anyStep outputs reports ∧
      ¬ReportsNamed 1356 reports :=
  ⟨@misnamed_of_run 356 7 (by decide +kernel) (by decide +kernel),
    @misnamed_of_run 1356 65543 (by decide +kernel) (by decide +kernel)⟩

end RtA100
