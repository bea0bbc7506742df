import RtA100.OtaVerified

/-!
# The mission file round trip

`do_downlaod_firmware` appends a record for every task that waits for the next
reboot, and `reboot_upgrade_task_cb` loads the records after it.  The writer
puts the strings between commas without looking at them, and the reader counts
the lines in 8 bits and compares the `up_time` of the first record as a prefix:
the tasks come back exactly when there are fewer than 256, no string would be
split by the reader, and the comparison sees the reboot.
-/

namespace RtA100

open Library

/-- `up_time` as `sscanf` leaves it. -/
structure UpTime where
  time : CArray 30
  oneLine : '\n' ∉ time.text
  free : ',' ∉ time.text

/-- A task for the next reboot as `ota_heartbeat_resp_parse` has stored it, and
the `up_time` under which it is recorded. -/
structure WaitingTask where
  info : FwDownInfo
  upTime : UpTime
  download : info.flag = fwNeedDownload
  next : ForNextReboot info.type.text

/-- The mission file after the tasks have been appended one by one. -/
def missionFile (tasks : List WaitingTask) : CString :=
  tasks.foldl (fun mission task =>
    task.info.appendMission task.upTime.time mission) []

/-- The device after a reboot, with the mission file it has kept. -/
def rebootedOta (mission : CString) (upTime : CArray 30) : OtaState :=
  { tasks := [], download := .idle, timer := .idle, upTime, mission }

/-- `reboot_upgrade_task_cb` while the download thread is idle; `block` is what
its local task holds, and `malloc` gives the blocks. -/
def rebootUpgradeTaskCb (system : OtaState) (block : FwDownInfo)
    (malloc : Nat → FwDownInfo) : Option OtaState :=
  if system.mission = [] then some system
  else do
    let (system, _) ← otaStep system .countMissions
    let (system, _) ← otaStep system (.compareUpTime block)
    match system.timer with
    | .rebooted num _ => do
        let blocks := (List.range num.toNat).map malloc
        let (system, _) ← otaStep system (.loadMissions blocks)
        let (system, _) ← otaStep system .removeMissions
        some system
    | _ => some system

/-- The comparison sees that the device has been rebooted since the first task
was recorded.  It never does where no `up_time` was known then. -/
def LaterBoot (tasks : List WaitingTask) (upTime : CArray 30) : Prop :=
  ∀ task ∈ tasks.head?, ¬task.upTime.time.text.isPrefixOf upTime.text = true

/-- Whatever the blocks hold, the queue is exactly the recorded tasks. -/
def ReloadExact (tasks : List WaitingTask) (upTime : CArray 30) : Prop :=
  ∀ block malloc, ∃ system,
    rebootUpgradeTaskCb (rebootedOta (missionFile tasks) upTime) block
        malloc = some system ∧
      system.tasks = tasks.map fun task => { task.info with flag := 0 }

/-- The strings of a task come back from its record. -/
structure WaitingTask.Plain (task : WaitingTask) : Prop where
  oneLine : task.info.OneLine
  separated : task.info.Separated

def recordText (task : WaitingTask) : CString :=
  missionRecord task.info task.upTime.time

theorem missionFile_flatMap (tasks : List WaitingTask) :
    missionFile tasks = tasks.flatMap recordText := by
  have appended (task : WaitingTask) (mission : CString) :
      task.info.appendMission task.upTime.time mission =
        mission ++ recordText task := by
    rw [FwDownInfo.appendMission, if_pos ⟨task.download, task.next⟩]
    rfl
  have appends (tasks : List WaitingTask) (mission : CString) :
      tasks.foldl (fun mission task =>
        task.info.appendMission task.upTime.time mission) mission =
          mission ++ tasks.flatMap recordText := by
    induction tasks generalizing mission with
    | nil => exact (List.append_nil _).symm
    | cons task tasks induction =>
        rw [List.foldl_cons, appended, induction, List.append_assoc]
        rfl
  exact appends tasks []

/-! ## `up_time` -/

theorem storeField_comma {size position : Nat} {format : List Conversion}
    {input : CString} {old stored : CArray size} (oldFree : ',' ∉ old.text)
    (result : storeField (scan format input) position old = some stored) :
    ',' ∉ stored.text := by
  unfold storeField at result
  split at result
  · rename_i text found
    rw [strcpy_text result]
    exact (scan_field_free (List.mem_of_getElem? found)).2
  · cases result
    exact oldFree

theorem initUpTime_comma {reply : Option CString} {upTime : CArray 30}
    (result : initUpTime reply = some upTime) : ',' ∉ upTime.text := by
  cases reply with
  | none =>
      cases result
      exact List.not_mem_nil
  | some reply =>
      obtain ⟨resp, _, stored⟩ := Option.bind_eq_some_iff.mp result
      exact storeField_comma List.not_mem_nil stored

theorem heartbeatUpTime_comma {old upTime : CArray 30} {reply : CString}
    (oldFree : ',' ∉ old.text)
    (result : heartbeatUpTime old reply = some upTime) :
    ',' ∉ upTime.text := by
  obtain ⟨resp, _, result⟩ := Option.bind_eq_some_iff.mp result
  obtain ⟨read, stored, result⟩ := Option.bind_eq_some_iff.mp result
  split at result
  · cases result
    exact oldFree
  · rw [strcpy_text result]
    exact storeField_comma List.not_mem_nil stored

/-- In every run, the tasks are recorded under such an `up_time`. -/
theorem upTime_of_reaches {outputs : List OtaOutput} {system : OtaState}
    (reached : otaMachine.Reaches Machine.anyStep outputs system) :
    '\n' ∉ system.upTime.text ∧ ',' ∉ system.upTime.text := by
  refine @Machine.invariant _ _ _ otaMachine _
    (fun _ state => '\n' ∉ state.upTime.text ∧ ',' ∉ state.upTime.text)
    ?_ ?_ _ _ reached
  · rintro state ⟨reply, upTime, read, rfl⟩
    exact ⟨initUpTime_oneLine read, initUpTime_comma read⟩
  · intro _ state event following emitted known _ stepped
    obtain ⟨oneLine, free⟩ := known
    cases otaStep_transition stepped with
    | heartbeatInfo _ _ _ read =>
        exact ⟨heartbeatUpTime_oneLine oneLine read,
          heartbeatUpTime_comma free read⟩
    | reboot _ _ read =>
        exact ⟨initUpTime_oneLine read, initUpTime_comma read⟩
    | _ => exact ⟨oneLine, free⟩

/-! ## The first line of a record -/

/-- What a line gives back of the strings of a task. -/
structure GivesBack (line : CString) (info : FwDownInfo) : Prop where
  url : (scan recordFormat (systemOutput 256 line))[1]? =
    some (.field info.url.text)
  md5 : (scan recordFormat (systemOutput 256 line))[2]? =
    some (.field info.md5.text)
  type : (scan recordFormat (systemOutput 256 line))[3]? =
    some (.field info.type.text)

theorem systemOutput_firstLine {text : CString} (short : text.length < 255) :
    systemOutput 256 (firstLine text) = firstLine text := by
  have inside := Nat.lt_of_le_of_lt
    (List.takeWhile_prefix (· ≠ '\n')).length_le short
  exact systemOutput_line (not_mem_takeWhile '\n' text) inside

theorem scan_firstLine (info : FwDownInfo) (upTime : CArray 30) :
    scan recordFormat (firstLine (missionBody info upTime)) =
      .integer info.id.toNat ::
        scan [.field, .field, .field, .field]
          (firstLine (info.url.text ++ ',' ::
            (info.md5.text ++ ',' :: (info.type.text ++ ',' ::
              (upTime.text ++ [',']))))) := by
  rw [missionBody, firstLine_comma _ (newline_not_mem_decimal _),
    recordFormat, scan, scanInteger_id]
  rfl

/-- A record whose first line gives the strings of its task back holds no
separator, but for a newline at its end of the type. -/
theorem givesBack_first {info : FwDownInfo} {upTime : CArray 30}
    (back : GivesBack (firstLine (missionBody info upTime)) info) :
    info.Separated ∧ ('\n' ∉ info.url.text ∧ '\n' ∉ info.md5.text) ∧
      ('\n' ∉ info.type.text ∨
        ∃ body, '\n' ∉ body ∧ info.type.text = body ++ ['\n']) := by
  obtain ⟨url, md5, type⟩ := back
  rw [systemOutput_firstLine (missionBody_length info upTime),
    scan_firstLine, List.getElem?_cons_succ] at url md5 type
  obtain ⟨⟨urlSome, urlFree⟩, inLine | last⟩ := scan_field_back url
  · obtain ⟨urlLine, urlScan⟩ := inLine
    rw [urlScan, List.getElem?_cons_succ] at md5 type
    obtain ⟨⟨md5Some, md5Free⟩, inLine | last⟩ := scan_field_back md5
    · obtain ⟨md5Line, md5Scan⟩ := inLine
      rw [md5Scan, List.getElem?_cons_succ] at type
      obtain ⟨⟨typeSome, typeFree⟩, ending⟩ := scan_field_back type
      exact ⟨⟨⟨urlSome, md5Some, typeSome⟩, urlFree, md5Free, typeFree⟩,
        ⟨urlLine, md5Line⟩, ending.imp And.left And.left⟩
    · rw [last.2] at type
      cases type
  · rw [last.2] at md5
    cases md5

/-! ## The lines of the file -/

theorem recordText_append (task : WaitingTask) (file : CString) :
    recordText task ++ file =
      missionBody task.info task.upTime.time ++ '\n' :: file := by
  rw [recordText, missionRecord, List.append_assoc]
  rfl

theorem fileLines_plain {task : WaitingTask} (oneLine : task.info.OneLine)
    (file : CString) :
    fileLines (recordText task ++ file) =
      recordText task :: fileLines file := by
  rw [recordText_append]
  exact fileLines_line
    (missionBody_namesTask oneLine task.upTime.oneLine).1

/-- A newline at the end of the type leaves a second line that begins with a
comma. -/
theorem fileLines_split {task : WaitingTask} {body : CString}
    (urlLine : '\n' ∉ task.info.url.text)
    (md5Line : '\n' ∉ task.info.md5.text) (bodyLine : '\n' ∉ body)
    (type : task.info.type.text = body ++ ['\n']) (file : CString) :
    ∃ first, fileLines (recordText task ++ file) =
      first :: (',' :: (task.upTime.time.text ++ [',']) ++ ['\n']) ::
        fileLines file := by
  have whole : recordText task ++ file =
      (decimal task.info.id.toNat ++ ',' :: (task.info.url.text ++ ',' ::
        (task.info.md5.text ++ ',' :: body))) ++ '\n' ::
          (',' :: (task.upTime.time.text ++ [',']) ++ '\n' :: file) := by
    rw [recordText_append, missionBody, type]
    simp
  have firstLine : '\n' ∉ decimal task.info.id.toNat ++ ',' ::
      (task.info.url.text ++ ',' :: (task.info.md5.text ++ ',' :: body)) := by
    simp [newline_not_mem_decimal, urlLine, md5Line, bodyLine]
  have secondLine : '\n' ∉ ',' :: (task.upTime.time.text ++ [',']) := by
    simp [task.upTime.oneLine]
  rw [whole, fileLines_line firstLine, fileLines_line secondLine]
  exact ⟨_, rfl⟩

theorem not_givesBack_comma {text : CString} {info : FwDownInfo}
    (oneLine : '\n' ∉ text) (short : text.length < 254) :
    ¬GivesBack (',' :: text ++ ['\n']) info := by
  rintro ⟨url, _, _⟩
  have nothing : scan recordFormat
      (systemOutput 256 (',' :: text ++ ['\n'])) = [] := by
    have whole : systemOutput 256 (',' :: text ++ ['\n']) =
        ',' :: text ++ ['\n'] :=
      systemOutput_line (by simp [oneLine]) (by rw [List.length_cons]; omega)
    rw [whole]
    rfl
  rw [nothing] at url
  cases url

/-- When every line gives its task back, the tasks are plain, or there is one
line more than there are tasks. -/
theorem plain_or_longer {tasks : List WaitingTask}
    (back : ∀ index task, tasks[index]? = some task →
      GivesBack (sedLine index (tasks.flatMap recordText)) task.info) :
    (∀ task ∈ tasks, task.Plain) ∨
      (fileLines (tasks.flatMap recordText)).length = tasks.length + 1 := by
  induction tasks with
  | nil => exact .inl fun _ member => absurd member List.not_mem_nil
  | cons task tasks induction =>
      rw [List.flatMap_cons] at back ⊢
      obtain ⟨more, lines⟩ := fileLines_first
        (missionBody task.info task.upTime.time)
        (tasks.flatMap recordText)
      rw [← recordText_append] at lines
      have here := back 0 task rfl
      rw [sedLine, lines] at here
      obtain ⟨separated, ⟨urlLine, md5Line⟩, typeLine | ⟨body, bodyLine, type⟩⟩
        := givesBack_first here
      · have oneLine : task.info.OneLine := ⟨urlLine, md5Line, typeLine⟩
        rw [fileLines_plain oneLine]
        have rest := induction fun index other found => by
          have later := back (index + 1) other found
          rwa [sedLine, fileLines_plain oneLine,
            List.getElem?_cons_succ] at later
        rcases rest with plain | longer
        · refine .inl fun other member => ?_
          rcases List.mem_cons.mp member with rfl | behind
          · exact ⟨oneLine, separated⟩
          · exact plain other behind
        · exact .inr (by rw [List.length_cons, longer]; rfl)
      · obtain ⟨first, split⟩ := fileLines_split urlLine md5Line bodyLine type
          (tasks.flatMap recordText)
        cases tasks with
        | nil => exact .inr (by rw [split]; rfl)
        | cons next tasks =>
            have second := back 1 next rfl
            rw [sedLine, split] at second
            have upTimeLength := task.upTime.time.fits
            refine absurd second (not_givesBack_comma ?_ ?_)
            · simp [task.upTime.oneLine]
            · rw [List.length_append, List.length_singleton]
              omega

/-! ## What the callback does -/

/-- The blocks for as many lines as 8 bits count. -/
def missionBlocks (mission : CString) (malloc : Nat → FwDownInfo) :
    List FwDownInfo :=
  (List.range (mission.count '\n' % 256)).map malloc

theorem rebootUpgradeTaskCb_eq {mission : CString} (upTime : CArray 30)
    (block : FwDownInfo) (malloc : Nat → FwDownInfo)
    (nonempty : mission ≠ []) :
    rebootUpgradeTaskCb (rebootedOta mission upTime) block malloc =
      (scanRecord (systemOutput 256 (sedLine 0 mission)) block
        (.cleared 29)).bind fun read =>
          if read.2.text.isPrefixOf upTime.text = true then
            some (rebootedOta mission upTime)
          else
            (loadMissions mission read.2 0
              (missionBlocks mission malloc)).map fun infos =>
                { rebootedOta [] upTime with tasks := infos } := by
  have holding : (rebootedOta mission upTime).mission ≠ [] := nonempty
  have counts : otaStep (rebootedOta mission upTime) .countMissions =
      some ({ rebootedOta mission upTime with
        timer := .counted (.ofNat (mission.count '\n')) }, []) := by
    rw [otaStep, if_pos ⟨rfl, nonempty⟩]
    rfl
  rw [rebootUpgradeTaskCb, if_neg holding, counts]
  simp only [Option.bind_eq_bind, Option.bind_some, otaStep, rebootedOta]
  cases scanRecord (systemOutput 256 (sedLine 0 mission)) block
      (.cleared 29) with
  | none => rfl
  | some result =>
      obtain ⟨info, uptime⟩ := result
      simp only [Option.bind_some]
      split
      · rfl
      · have byte : (UInt8.ofNat (mission.count '\n')).toNat =
            mission.count '\n' % 256 := UInt8.toNat_ofNat'
        simp only [Option.bind_some, byte, List.length_map,
          List.length_range, and_self, if_true]
        rw [missionBlocks]
        cases loadMissions mission uptime 0
            ((List.range (mission.count '\n' % 256)).map malloc) with
        | none => rfl
        | some infos => rfl

/-- What is stored over every old content was scanned. -/
theorem storeField_scanned {size position : Nat} {scanned : List Scanned}
    {stored : CArray (size + 2)}
    (each : ∀ old, storeField scanned position old = some stored) :
    scanned[position]? = some (.field stored.text) := by
  have empty := each { text := [], fits := by simp }
  have given := each { text := ['x'], fits := by simp }
  unfold storeField at empty given
  split at empty
  · rename_i text found
    rw [found, strcpy_text empty]
  · rename_i other
    split at given
    · rename_i text found
      exact absurd found (other text)
    · cases empty
      cases given

/-! ## What comes back -/

theorem missionFile_ne_nil {tasks : List WaitingTask} (given : tasks ≠ []) :
    missionFile tasks ≠ [] := by
  obtain ⟨task, more, rfl⟩ := List.exists_cons_of_ne_nil given
  rw [missionFile_flatMap, List.flatMap_cons, recordText_append]
  simp

theorem ReloadExact.loaded {tasks : List WaitingTask} {upTime : CArray 30}
    (reloads : ReloadExact tasks upTime) (nonempty : tasks ≠ [])
    (malloc : Nat → FwDownInfo) :
    ∃ uptime, loadMissions (missionFile tasks) uptime 0
      (missionBlocks (missionFile tasks) malloc) =
        some (tasks.map fun task => { task.info with flag := 0 }) := by
  obtain ⟨system, ran, same⟩ := reloads blankInfo malloc
  rw [rebootUpgradeTaskCb_eq upTime blankInfo malloc
    (missionFile_ne_nil nonempty)] at ran
  obtain ⟨⟨info, uptime⟩, _, ran⟩ := Option.bind_eq_some_iff.mp ran
  split at ran
  · cases ran
    exact absurd (List.map_eq_nil_iff.mp same.symm) nonempty
  · obtain ⟨infos, loaded, rfl⟩ := Option.map_eq_some_iff.mp ran
    rw [← same]
    exact ⟨uptime, loaded⟩

theorem ReloadExact.count {tasks : List WaitingTask} {upTime : CArray 30}
    (reloads : ReloadExact tasks upTime) (nonempty : tasks ≠ []) :
    (missionFile tasks).count '\n' % 256 = tasks.length := by
  obtain ⟨uptime, loaded⟩ := reloads.loaded nonempty fun _ => blankInfo
  have length := loadMissions_length loaded
  rw [List.length_map, missionBlocks, List.length_map,
    List.length_range] at length
  exact length.symm

theorem ReloadExact.givesBack {tasks : List WaitingTask}
    {upTime : CArray 30} {index : Nat} {task : WaitingTask}
    (reloads : ReloadExact tasks upTime)
    (found : tasks[index]? = some task) :
    GivesBack (sedLine index (missionFile tasks)) task.info := by
  have nonempty : tasks ≠ [] := by
    rintro rfl
    cases found
  have each (block : FwDownInfo) :
      storeField (scan recordFormat
          (systemOutput 256 (sedLine index (missionFile tasks)))) 1
          block.url = some task.info.url ∧
        storeField (scan recordFormat
          (systemOutput 256 (sedLine index (missionFile tasks)))) 2
          block.md5 = some task.info.md5 ∧
        storeField (scan recordFormat
          (systemOutput 256 (sedLine index (missionFile tasks)))) 3
          block.type = some task.info.type := by
    obtain ⟨uptime, loaded⟩ := reloads.loaded nonempty fun _ => block
    have infoAt : (tasks.map fun task =>
        { task.info with flag := 0 })[index]? =
          some { task.info with flag := 0 } := by
      rw [List.getElem?_map, found]
      rfl
    obtain ⟨other, before, read, after, blockAt, scanned, same⟩ :=
      loadMissions_get loaded infoAt
    obtain ⟨_, _, rfl⟩ := List.mem_map.mp (List.mem_of_getElem? blockAt)
    rw [Nat.zero_add] at scanned
    have stores := scanRecord_stores scanned
    injection same with _ url md5 type
    exact ⟨url ▸ stores.url, md5 ▸ stores.md5, type ▸ stores.type⟩
  exact
    { url := storeField_scanned fun old =>
        (each { blankInfo with url := old }).1
      md5 := storeField_scanned fun old =>
        (each { blankInfo with md5 := old }).2.1
      type := storeField_scanned fun old =>
        (each { blankInfo with type := old }).2.2 }

theorem missionFile_count (tasks : List WaitingTask) :
    (missionFile tasks).count '\n' =
      (fileLines (missionFile tasks)).length := by
  refine count_newline fun line member => ?_
  rcases List.eq_nil_or_concat tasks with rfl | ⟨early, last, rfl⟩
  · cases member
  · have whole : missionFile (early.concat last) =
        (early.flatMap recordText ++
          missionBody last.info last.upTime.time) ++ ['\n'] := by
      rw [missionFile_flatMap, List.concat_eq_append, List.flatMap_append,
        List.flatMap_singleton, List.append_assoc]
      rfl
    rw [whole] at member
    exact fileLines_complete member

/-- Tasks that come back are fewer than 256, and plain. -/
theorem ReloadExact.plain {tasks : List WaitingTask} {upTime : CArray 30}
    (reloads : ReloadExact tasks upTime) :
    tasks.length < 256 ∧ ∀ task ∈ tasks, task.Plain := by
  by_cases empty : tasks = []
  · rw [empty]
    exact ⟨by decide, fun _ member => absurd member List.not_mem_nil⟩
  · have counted := reloads.count empty
    have few : tasks.length < 256 := by omega
    refine ⟨few, ?_⟩
    rcases plain_or_longer fun index task found =>
      missionFile_flatMap tasks ▸ reloads.givesBack found with plain | longer
    · exact plain
    · rw [missionFile_count, missionFile_flatMap, longer] at counted
      omega

/-- Plain tasks are read back from the lines of their records. -/
theorem scanRecord_plain {task : WaitingTask} (plain : task.Plain)
    (block : FwDownInfo) (uptime : CArray 30) :
    scanRecord (systemOutput 256 (recordText task)) block uptime =
      some ({ task.info with flag := block.flag },
        if task.upTime.time.text = [] then uptime
        else task.upTime.time) := by
  obtain ⟨oneLine, inside, _⟩ :=
    missionBody_namesTask plain.oneLine task.upTime.oneLine
  have line : systemOutput 256 (recordText task) = recordText task :=
    systemOutput_line oneLine inside
  have scanned : scan recordFormat (recordText task) = _ :=
    missionRecord_scan plain.separated task.upTime.free
  rw [line, scanRecord, scanned]
  by_cases unknown : task.upTime.time.text = []
  · simp only [if_pos unknown, storeField, storeShort, List.cons_append,
      List.nil_append, List.getElem?_cons_succ, List.getElem?_cons_zero,
      strcpy_self, Option.bind_eq_bind, Option.bind_some, ofInt_toNat]
    rfl
  · simp only [if_neg unknown, storeField, storeShort, List.cons_append,
      List.nil_append, List.getElem?_cons_succ, List.getElem?_cons_zero,
      strcpy_self, Option.bind_eq_bind, Option.bind_some, ofInt_toNat]

theorem loadMissions_plain {tasks : List WaitingTask} {mission : CString}
    (plain : ∀ task ∈ tasks, task.Plain)
    (lines : fileLines mission = tasks.map recordText)
    (uptime : CArray 30) {number : Nat} {blocks : List FwDownInfo}
    (all : number + blocks.length = tasks.length) :
    loadMissions mission uptime number blocks =
      some ((tasks.drop number).map fun task =>
        { task.info with flag := 0 }) := by
  induction blocks generalizing number uptime with
  | nil =>
      have behind : tasks.length ≤ number := Nat.le_of_eq all.symm
      rw [List.drop_of_length_le behind]
      rfl
  | cons block blocks induction =>
      rw [List.length_cons] at all
      have inside : number < tasks.length := by omega
      have line : sedLine number mission = recordText tasks[number] := by
        rw [sedLine, lines, List.getElem?_map,
          List.getElem?_eq_getElem inside]
        rfl
      have read := scanRecord_plain
        (plain tasks[number] (List.getElem_mem inside)) block uptime
      rw [loadMissions, line, read, List.drop_eq_getElem_cons inside]
      simp only [Option.bind_eq_bind, Option.bind_some]
      rw [induction _ (by omega)]
      rfl

theorem fileLines_missionFile {tasks : List WaitingTask}
    (plain : ∀ task ∈ tasks, task.Plain) :
    fileLines (missionFile tasks) = tasks.map recordText := by
  rw [missionFile_flatMap]
  induction tasks with
  | nil => rfl
  | cons task tasks induction =>
      rw [List.flatMap_cons,
        fileLines_plain (plain task List.mem_cons_self).oneLine,
        induction fun other member =>
          plain other (List.mem_cons_of_mem _ member)]
      rfl

/-- Fewer than 256 plain tasks come back. -/
theorem reloadExact_of_plain {tasks : List WaitingTask} {upTime : CArray 30}
    (later : LaterBoot tasks upTime) (few : tasks.length < 256)
    (plain : ∀ task ∈ tasks, task.Plain) : ReloadExact tasks upTime := by
  intro block malloc
  cases tasks with
  | nil => exact ⟨rebootedOta [] upTime, rfl, rfl⟩
  | cons head rest =>
      have lines := fileLines_missionFile plain
      have first : sedLine 0 (missionFile (head :: rest)) =
          recordText head := by
        rw [sedLine, lines]
        rfl
      have read := scanRecord_plain (plain head List.mem_cons_self) block
        (.cleared 29)
      have rebooted := later head rfl
      have known : head.upTime.time.text ≠ [] := by
        intro unknown
        rw [unknown] at rebooted
        exact rebooted rfl
      have blocks : (missionBlocks (missionFile (head :: rest))
          malloc).length = (head :: rest).length := by
        rw [missionBlocks, List.length_map, List.length_range,
          missionFile_count, lines, List.length_map, Nat.mod_eq_of_lt few]
      have loaded := @loadMissions_plain (head :: rest)
        (missionFile (head :: rest)) plain lines head.upTime.time 0
        (missionBlocks (missionFile (head :: rest)) malloc) (by omega)
      rw [if_neg known] at read
      rw [rebootUpgradeTaskCb_eq upTime block malloc
        (missionFile_ne_nil (List.cons_ne_nil _ _)), first, read]
      simp only [Option.bind_some]
      rw [if_neg rebooted, loaded]
      exact ⟨_, rfl, rfl⟩

/-- Tasks that come back have been recorded in an earlier boot, as far as the
callback can see. -/
theorem ReloadExact.later {tasks : List WaitingTask} {upTime : CArray 30}
    (reloads : ReloadExact tasks upTime) : LaterBoot tasks upTime := by
  rintro head first before
  obtain ⟨rest, rfl⟩ : ∃ rest, tasks = head :: rest :=
    List.head?_eq_some_iff.mp first
  have plain := reloads.plain.2
  have lines := fileLines_missionFile plain
  have line : sedLine 0 (missionFile (head :: rest)) = recordText head := by
    rw [sedLine, lines]
    rfl
  have read := scanRecord_plain (plain head List.mem_cons_self) blankInfo
    (.cleared 29)
  obtain ⟨system, ran, same⟩ := reloads blankInfo fun _ => blankInfo
  rw [rebootUpgradeTaskCb_eq upTime blankInfo _
    (missionFile_ne_nil (List.cons_ne_nil _ _)), line, read,
    Option.bind_some] at ran
  have prefixed : (if head.upTime.time.text = [] then CArray.cleared 29
      else head.upTime.time).text.isPrefixOf upTime.text = true := by
    split
    · rfl
    · exact before
  rw [if_pos prefixed] at ran
  cases ran
  exact absurd same.symm (List.cons_ne_nil _ _)

/-- For every list of recorded tasks and every current `up_time`, the reload
queues exactly these tasks if and only if there are fewer than 256, all are
plain, and the reboot is seen. -/
theorem reloadExact_iff (tasks : List WaitingTask) (upTime : CArray 30) :
    ReloadExact tasks upTime ↔
      tasks.length < 256 ∧ (∀ task ∈ tasks, task.Plain) ∧
        LaterBoot tasks upTime :=
  ⟨fun reloads => ⟨reloads.plain.1, reloads.plain.2, reloads.later⟩,
    fun ⟨few, plain, later⟩ => reloadExact_of_plain later few plain⟩

/-- A task for the next reboot with the given address of its file. -/
def recordedTask (url : CArray 128) : WaitingTask :=
  { info :=
      { id := 7
        url
        md5 := { text := "0f".toList, fits := by decide }
        type := { text := otaTaskNext, fits := by decide }
        flag := fwNeedDownload }
    upTime :=
      { time := firstBoot
        oneLine := by decide
        free := by decide }
    download := rfl
    next := show ForNextReboot otaTaskNext by decide }

def plainUrl : CArray 128 :=
  { text := "f.tgz".toList
    fits := by decide }

def commaUrl : CArray 128 :=
  { text := "f,1.tgz".toList
    fits := by decide }

def secondBoot : CArray 30 :=
  { text := "boot 2".toList
    fits := by decide }

theorem plainUrl_reloads : ReloadExact [recordedTask plainUrl] secondBoot := by
  have later : LaterBoot [recordedTask plainUrl] secondBoot := by
    rintro task ⟨⟩
    decide
  refine (reloadExact_iff _ _).mpr ⟨by decide, fun task member => ?_, later⟩
  cases List.mem_singleton.mp member
  exact
    { oneLine := by unfold FwDownInfo.OneLine; decide
      separated := ⟨by decide, by decide⟩ }

/-- A comma in a string splits it, and 256 records are counted as none. -/
theorem comma_url_and_256_tasks_lost :
    (LaterBoot [recordedTask commaUrl] secondBoot ∧
      ¬ReloadExact [recordedTask commaUrl] secondBoot) ∧
    LaterBoot (List.replicate 256 (recordedTask plainUrl)) secondBoot ∧
      ¬ReloadExact (List.replicate 256 (recordedTask plainUrl))
        secondBoot := by
  refine ⟨⟨?_, fun reloads => ?_⟩, ?_, fun reloads => ?_⟩
  · rintro task ⟨⟩
    decide
  · have plain := reloads.plain.2 (recordedTask commaUrl) List.mem_cons_self
    exact plain.separated.free.1 (by decide)
  · rintro task ⟨⟩
    decide
  · exact absurd reloads.plain.1 (by rw [List.length_replicate]; decide)

end RtA100
