import RtA100.DownloadHandoff
import RtA100.JsonBuffers

/-!
# Working off the task list

`do_downlaod_firmware` takes the first task, derives its file name from the
url, downloads the package, hands the task to `do_upgrade_firmware`, posts a
report if that returns 0, and frees the task and its node.

Two copies on the way are not bounded: each segment of the url goes into the
64 bytes of the file name, and the printed report into a buffer of 10240 bytes.
When all of them fit, every task is worked off exactly once.
-/

namespace RtA100

open Library

def upgradeFileLocalPath : CString := "/upgrade/cktt/".toList

theorem otaTaskNow_fits : otaTaskNow.length < 20 := by decide

/-- `GetFileName`, whose loop copies every segment of the url over the last
one. -/
def getFileName (url : CString) (fileName : CArray 64) :
    Option (CArray 64) :=
  (strtok '/' url).foldlM (fun _ token => strcpy 64 token) fileName

/-- What `do_downlaod_firmware` hands to `do_upgrade_firmware`. -/
structure UpgradeCall where
  info : FwUpdateInfo
  path : CArray 128
  name : CArray 64

/-- The copies into `remp_url`, `file_name` and `up_info`. -/
def prepareTask (fileName : CArray 64) (info : FwDownInfo) :
    Option UpgradeCall := do
  let rempUrl ← strcpy 128 info.url.text
  let fileName ← getFileName rempUrl.text fileName
  some
    { info := info.updateInfo
      path := CArray.truncate 127 (upgradeFileLocalPath ++
        decimal info.id.toNat ++ '/' :: fileName.text)
      name := fileName }

/-- What the steps of a task give back: the results of `ftp_download`,
`trans_func` and `update_func`, and what the update leaves in `resp_info`. -/
structure TaskOutcome where
  ftpDownload : Int
  transferred : Int
  updated : Int
  time : CArray 64
  report : CArray 10240

/-- `do_upgrade_firmware` -/
def doUpgradeFirmware (outcome : TaskOutcome) : Int :=
  if outcome.transferred ≠ 0 then outcome.transferred else outcome.updated

/-- The report of a task. -/
def reportContent (devAddr : UInt16) (info : FwUpdateInfo)
    (outcome : TaskOutcome) : OutgoingDocument :=
  .report
    { devAddr, info, time := outcome.time, report := outcome.report }

/-- The calls that `do_downlaod_firmware` makes for a task. -/
inductive TaskEffect where
  | ftpDownload (url : CArray 128) (localPath : CArray 128)
  | upgrade (call : UpgradeCall)
  | report (data : CString)
  | free (info : FwDownInfo)

/-- `do_ota_report` posts what fits its buffer. -/
def doOtaReport (devAddr : UInt16) (info : FwUpdateInfo)
    (outcome : TaskOutcome) : Option (List TaskEffect) := do
  let data ← (reportContent devAddr info outcome).data
  some [.report data.text]

def downloadTask (info : FwDownInfo) (path : CArray 128) :
    List TaskEffect :=
  if info.flag = fwNeedDownload then [.ftpDownload info.url path] else []

def reportTask (devAddr : UInt16) (outcome : TaskOutcome)
    (info : FwUpdateInfo) : Option (List TaskEffect) :=
  if doUpgradeFirmware outcome = 0 then doOtaReport devAddr info outcome
  else some []

/-- One turn of the loop, with the file name that the next turn starts from. -/
def processTask (devAddr : UInt16) (outcome : TaskOutcome)
    (fileName : CArray 64) (info : FwDownInfo) :
    Option (List TaskEffect × CArray 64) := do
  let call ← prepareTask fileName info
  let reported ← reportTask devAddr outcome call.info
  some (downloadTask info call.path ++
    .upgrade call :: (reported ++ [.free info]), call.name)

theorem TaskList.delHead_count {list : TaskList} {info : FwDownInfo}
    (head : list.getHead = some info) :
    list.delHead.count.toNat < list.count.toNat := by
  unfold TaskList.getHead at head
  split at head
  · cases head
  · rename_i nonzero
    rw [TaskList.delHead, dif_neg nonzero]
    have positive : list.count.toNat ≠ 0 := fun zero =>
      nonzero (UInt16.toNat_inj.mp zero)
    have bounded : list.count.toNat < 2 ^ 16 := list.count.toNat_lt
    have one : (1 : UInt16).toNat = 1 := rfl
    rw [UInt16.toNat_sub, one]
    omega

/-- The loop of `do_downlaod_firmware`; each turn has an outcome of its own. -/
def workOff (devAddr : UInt16) (outcomes : Nat → TaskOutcome) (turn : Nat)
    (fileName : CArray 64) (list : TaskList) :
    Option (List TaskEffect × TaskList) :=
  match _taken : list.getHead with
  | none => some ([], list)
  | some info => do
      let (effects, fileName) ←
        processTask devAddr (outcomes turn) fileName info
      let (more, following) ←
        workOff devAddr outcomes (turn + 1) fileName list.delHead
      some (effects ++ more, following)
termination_by list.count.toNat
decreasing_by exact TaskList.delHead_count _taken

/-- `do_downlaod_firmware`, with the calls it makes. -/
def doDownlaodFirmware (devAddr : UInt16) (outcomes : Nat → TaskOutcome)
    (list : TaskList) : Option (List TaskEffect × TaskList × Int) :=
  if list.count > 0 then do
    let (effects, following) ←
      workOff devAddr outcomes 0 (.cleared 63) list
    some (effects, following, 0)
  else some ([], list, 0)

/-! ## Once for each task -/

def TaskEffect.upgraded : TaskEffect → Option (UInt16 × CString)
  | .upgrade call => some (call.info.id, call.info.md5.text)
  | _ => none

def TaskEffect.reported : TaskEffect → Option CString
  | .report data => some data
  | _ => none

def TaskEffect.freed : TaskEffect → Option FwDownInfo
  | .free info => some info
  | _ => none

/-- The document that reports a task. -/
def reportText (devAddr : UInt16) (outcome : TaskOutcome)
    (info : FwDownInfo) : CString :=
  cJsonPrint (reportContent devAddr info.updateInfo outcome).root

/-- The reports of the tasks that `do_upgrade_firmware` returns 0 for. -/
def expectedReports (devAddr : UInt16) (outcomes : Nat → TaskOutcome)
    (turn : Nat) (nodes : List FwDownInfo) : List CString :=
  ((nodes.zipIdx turn).filter fun task =>
      doUpgradeFirmware (outcomes task.2) = 0).map fun task =>
    reportText devAddr (outcomes task.2) task.1

/-- The calls treat every task once, in the order of the list. -/
structure OnceEach (devAddr : UInt16) (outcomes : Nat → TaskOutcome)
    (turn : Nat) (nodes : List FwDownInfo) (effects : List TaskEffect) :
    Prop where
  upgraded : effects.filterMap TaskEffect.upgraded =
    nodes.map fun info => (info.id, info.md5.text)
  reported : effects.filterMap TaskEffect.reported =
    expectedReports devAddr outcomes turn nodes
  freed : effects.filterMap TaskEffect.freed = nodes

/-- A call works off the whole list and returns 0. -/
def ProcessedOnce (devAddr : UInt16) (outcomes : Nat → TaskOutcome)
    (list : TaskList) : Prop :=
  ∃ effects following,
    doDownlaodFirmware devAddr outcomes list =
        some (effects, following, 0) ∧
      OnceEach devAddr outcomes 0 list.nodes effects ∧
      following.nodes = [] ∧ following.count = 0

/-- Every segment of the url fits the file name. -/
def FwDownInfo.ShortSegments (info : FwDownInfo) : Prop :=
  ∀ segment ∈ strtok '/' info.url.text, segment.length < 64

instance (info : FwDownInfo) : Decidable info.ShortSegments :=
  inferInstanceAs (Decidable (∀ segment ∈ _, _))

/-- The segments of the url fit, and so does the report if there is one. -/
def FwDownInfo.Processable (devAddr : UInt16) (outcome : TaskOutcome)
    (info : FwDownInfo) : Prop :=
  info.ShortSegments ∧
    (doUpgradeFirmware outcome = 0 →
      (reportContent devAddr info.updateInfo outcome).Short)

/-! ## One turn -/

theorem getFileName_defined_iff {url : CString} {fileName : CArray 64} :
    (∃ copied, getFileName url fileName = some copied) ↔
      ∀ segment ∈ strtok '/' url, segment.length < 64 := by
  unfold getFileName
  induction strtok '/' url generalizing fileName with
  | nil => exact iff_of_true ⟨fileName, rfl⟩ (by simp)
  | cons segment segments induction =>
      rw [List.foldlM_cons, List.forall_mem_cons, ← strcpy_defined_iff]
      constructor
      · rintro ⟨copied, whole⟩
        obtain ⟨first, here, rest⟩ := Option.bind_eq_some_iff.mp whole
        exact ⟨⟨first, here⟩, induction.mp ⟨copied, rest⟩⟩
      · rintro ⟨⟨first, here⟩, rest⟩
        obtain ⟨copied, later⟩ := induction.mpr rest
        exact ⟨copied, Option.bind_eq_some_iff.mpr ⟨first, here, later⟩⟩

theorem prepareTask_info {fileName : CArray 64} {info : FwDownInfo}
    {call : UpgradeCall} (prepared : prepareTask fileName info = some call) :
    call.info = info.updateInfo := by
  simp only [prepareTask, Option.bind_eq_bind, Option.bind_eq_some_iff,
    Option.some.injEq] at prepared
  obtain ⟨_, _, _, _, rfl⟩ := prepared
  rfl

theorem prepareTask_defined_iff {fileName : CArray 64} {info : FwDownInfo} :
    (∃ call, prepareTask fileName info = some call) ↔
      info.ShortSegments := by
  rw [FwDownInfo.ShortSegments, ← @getFileName_defined_iff _ fileName]
  simp only [prepareTask, strcpy_self, Option.bind_eq_bind,
    Option.bind_some, Option.bind_eq_some_iff, Option.some.injEq]
  constructor
  · rintro ⟨_, copied, named, _⟩
    exact ⟨copied, named⟩
  · rintro ⟨copied, named⟩
    exact ⟨_, copied, named, rfl⟩

theorem doOtaReport_eq_some_iff {devAddr : UInt16} {info : FwUpdateInfo}
    {outcome : TaskOutcome} {reported : List TaskEffect} :
    doOtaReport devAddr info outcome = some reported ↔
      (reportContent devAddr info outcome).Fits ∧
        reported =
          [.report (cJsonPrint (reportContent devAddr info outcome).root)] := by
  simp only [doOtaReport, Option.bind_eq_bind, Option.bind_eq_some_iff,
    Option.some.injEq]
  constructor
  · rintro ⟨data, printed, rfl⟩
    exact ⟨⟨data, printed⟩, by rw [strcpy_text printed]⟩
  · rintro ⟨⟨data, printed⟩, rfl⟩
    exact ⟨data, printed, by rw [strcpy_text printed]⟩

/-- A report is posted exactly when the upgrade has returned 0. -/
theorem reportTask_eq_some_iff {devAddr : UInt16} {outcome : TaskOutcome}
    {info : FwUpdateInfo} {reported : List TaskEffect} :
    reportTask devAddr outcome info = some reported ↔
      (doUpgradeFirmware outcome = 0 →
        (reportContent devAddr info outcome).Short) ∧
      reported =
        if doUpgradeFirmware outcome = 0 then
          [.report (cJsonPrint (reportContent devAddr info outcome).root)]
        else [] := by
  unfold reportTask
  split
  · rename_i succeeded
    rw [doOtaReport_eq_some_iff, reportContent,
      OutgoingDocument.report_fits_iff]
    simp only [succeeded, true_implies]
  · rename_i failed
    simp only [failed, false_implies, true_and, Option.some.injEq, eq_comm]

/-- A turn is defined exactly when its copies fit. -/
theorem processTask_defined_iff {devAddr : UInt16} {outcome : TaskOutcome}
    {fileName : CArray 64} {info : FwDownInfo} :
    (∃ result, processTask devAddr outcome fileName info = some result) ↔
      info.Processable devAddr outcome := by
  rw [FwDownInfo.Processable, ← @prepareTask_defined_iff fileName]
  simp only [processTask, Option.bind_eq_bind, Option.bind_eq_some_iff,
    Option.some.injEq, reportTask_eq_some_iff]
  constructor
  · rintro ⟨_, call, prepared, _, ⟨fits, _⟩, _⟩
    rw [prepareTask_info prepared] at fits
    exact ⟨⟨call, prepared⟩, fits⟩
  · rintro ⟨⟨call, prepared⟩, fits⟩
    rw [← prepareTask_info prepared] at fits
    exact ⟨_, call, prepared, _, ⟨fits, rfl⟩, rfl⟩

theorem downloadTask_effects (info : FwDownInfo) (path : CArray 128) :
    (downloadTask info path).filterMap TaskEffect.upgraded = [] ∧
      (downloadTask info path).filterMap TaskEffect.reported = [] ∧
      (downloadTask info path).filterMap TaskEffect.freed = [] := by
  unfold downloadTask
  split <;> exact ⟨rfl, rfl, rfl⟩

/-- What the calls of one turn contain. -/
theorem processTask_effects {devAddr : UInt16} {outcome : TaskOutcome}
    {fileName following : CArray 64} {info : FwDownInfo}
    {effects : List TaskEffect}
    (processed : processTask devAddr outcome fileName info =
      some (effects, following)) :
    effects.filterMap TaskEffect.upgraded = [(info.id, info.md5.text)] ∧
      effects.filterMap TaskEffect.reported =
        (if doUpgradeFirmware outcome = 0 then
          [reportText devAddr outcome info] else []) ∧
      effects.filterMap TaskEffect.freed = [info] := by
  obtain ⟨call, prepared, rest⟩ := Option.bind_eq_some_iff.mp processed
  obtain ⟨reported, posted, result⟩ := Option.bind_eq_some_iff.mp rest
  cases result
  obtain ⟨_, rfl⟩ := reportTask_eq_some_iff.mp posted
  obtain ⟨noUpgrade, noReport, noFree⟩ := downloadTask_effects info call.path
  have same := prepareTask_info prepared
  simp only [List.filterMap_append, List.filterMap_cons, noUpgrade, noReport,
    noFree, List.nil_append, TaskEffect.upgraded, same]
  by_cases succeeded : doUpgradeFirmware outcome = 0
  · simp only [if_pos succeeded]
    exact ⟨rfl, rfl, rfl⟩
  · simp only [if_neg succeeded]
    exact ⟨rfl, rfl, rfl⟩

/-! ## The loop -/

theorem TaskList.getHead_cons {list : TaskList} {info : FwDownInfo}
    {rest : List FwDownInfo} (short : list.nodes.length < 65536)
    (nodes : list.nodes = info :: rest) : list.getHead = some info := by
  have exact := TaskList.count_toNat short
  have nonzero : list.count ≠ 0 := by
    intro zero
    rw [zero, nodes, List.length_cons] at exact
    cases exact
  rw [TaskList.getHead, if_neg nonzero, nodes]
  rfl

theorem TaskList.getHead_nil {list : TaskList} (nodes : list.nodes = []) :
    list.getHead = none := by
  unfold TaskList.getHead
  split
  · rfl
  · rw [nodes]
    rfl

theorem TaskList.delHead_nodes {list : TaskList} {info : FwDownInfo}
    {rest : List FwDownInfo} (short : list.nodes.length < 65536)
    (nodes : list.nodes = info :: rest) : list.delHead.nodes = rest := by
  have exact := TaskList.count_toNat short
  rw [nodes, List.length_cons] at exact
  have nonzero : list.count ≠ 0 := by
    intro zero
    rw [zero] at exact
    cases exact
  rw [TaskList.delHead, dif_neg nonzero]
  simp only [nodes, List.tail_cons]
  split
  · rename_i last
    have one : list.count = 1 := by
      rw [← UInt16.sub_add_cancel list.count 1, last, UInt16.zero_add]
    rw [one] at exact
    exact (List.eq_nil_of_length_eq_zero (Nat.succ.inj exact).symm).symm
  · rfl

/-- A turn of the loop on a list that has not wrapped its count. -/
theorem workOff_cons {devAddr : UInt16} {outcomes : Nat → TaskOutcome}
    {turn : Nat} {fileName : CArray 64} {list : TaskList}
    {info : FwDownInfo} {rest : List FwDownInfo}
    (short : list.nodes.length < 65536) (nodes : list.nodes = info :: rest) :
    workOff devAddr outcomes turn fileName list =
      (processTask devAddr (outcomes turn) fileName info).bind fun done =>
        (workOff devAddr outcomes (turn + 1) done.2 list.delHead).bind
          fun later => some (done.1 ++ later.1, later.2) := by
  rw [workOff]
  split
  · rename_i nothing
    rw [TaskList.getHead_cons short nodes] at nothing
    cases nothing
  · rename_i taken
    rw [TaskList.getHead_cons short nodes] at taken
    cases taken
    rfl

theorem workOff_nil {devAddr : UInt16} {outcomes : Nat → TaskOutcome}
    {turn : Nat} {fileName : CArray 64} {list : TaskList}
    (nodes : list.nodes = []) :
    workOff devAddr outcomes turn fileName list = some ([], list) := by
  rw [workOff]
  split
  · rfl
  · rename_i taken
    rw [TaskList.getHead_nil nodes] at taken
    cases taken

/-- Every task of the list can be processed in its turn. -/
def ProcessableFrom (devAddr : UInt16) (outcomes : Nat → TaskOutcome)
    (turn : Nat) (nodes : List FwDownInfo) : Prop :=
  ∀ task ∈ nodes.zipIdx turn, task.1.Processable devAddr (outcomes task.2)

theorem workOff_defined_iff {devAddr : UInt16}
    {outcomes : Nat → TaskOutcome} {nodes : List FwDownInfo} {turn : Nat}
    {fileName : CArray 64} {list : TaskList}
    (short : list.nodes.length < 65536) (same : list.nodes = nodes) :
    (∃ result, workOff devAddr outcomes turn fileName list = some result) ↔
      ProcessableFrom devAddr outcomes turn nodes := by
  induction nodes generalizing turn fileName list with
  | nil =>
      refine iff_of_true ⟨_, workOff_nil same⟩ ?_
      intro task member
      cases member
  | cons info rest induction =>
      have tail := TaskList.delHead_nodes short same
      have shorter : list.delHead.nodes.length < 65536 := by
        rw [same, List.length_cons] at short
        rw [tail]
        omega
      rw [ProcessableFrom, List.zipIdx_cons, List.forall_mem_cons,
        ← @processTask_defined_iff devAddr (outcomes turn) fileName info,
        workOff_cons short same]
      simp only [Option.bind_eq_some_iff]
      constructor
      · rintro ⟨_, done, here, later, there, _⟩
        exact ⟨⟨done, here⟩, (induction shorter tail).mp ⟨later, there⟩⟩
      · rintro ⟨⟨done, here⟩, rest⟩
        obtain ⟨later, there⟩ := (induction shorter tail).mpr rest
        exact ⟨_, done, here, later, there, rfl⟩

theorem expectedReports_cons (devAddr : UInt16)
    (outcomes : Nat → TaskOutcome) (turn : Nat) (info : FwDownInfo)
    (rest : List FwDownInfo) :
    expectedReports devAddr outcomes turn (info :: rest) =
      (if doUpgradeFirmware (outcomes turn) = 0 then
        [reportText devAddr (outcomes turn) info] else []) ++
        expectedReports devAddr outcomes (turn + 1) rest := by
  rw [expectedReports, List.zipIdx_cons, List.filter_cons]
  simp only [decide_eq_true_eq]
  split <;> rfl

/-- The loop treats every task of the list once, and leaves the list empty. -/
theorem workOff_onceEach {devAddr : UInt16} {outcomes : Nat → TaskOutcome}
    {nodes : List FwDownInfo} {turn : Nat} {fileName : CArray 64}
    {list following : TaskList} {effects : List TaskEffect}
    (short : list.nodes.length < 65536) (same : list.nodes = nodes)
    (worked : workOff devAddr outcomes turn fileName list =
      some (effects, following)) :
    OnceEach devAddr outcomes turn nodes effects ∧ following.nodes = [] := by
  induction nodes generalizing turn fileName list effects with
  | nil =>
      rw [workOff_nil same] at worked
      cases worked
      exact ⟨⟨rfl, rfl, rfl⟩, same⟩
  | cons info rest induction =>
      have tail := TaskList.delHead_nodes short same
      have shorter : list.delHead.nodes.length < 65536 := by
        rw [same, List.length_cons] at short
        rw [tail]
        omega
      rw [workOff_cons short same] at worked
      obtain ⟨⟨here, _⟩, processed, worked⟩ :=
        Option.bind_eq_some_iff.mp worked
      obtain ⟨⟨later, _⟩, done, result⟩ := Option.bind_eq_some_iff.mp worked
      cases result
      obtain ⟨once, empty⟩ := induction shorter tail done
      obtain ⟨upgraded, reported, freed⟩ := processTask_effects processed
      refine ⟨⟨?_, ?_, ?_⟩, empty⟩
      · rw [List.filterMap_append, upgraded, once.upgraded]
        rfl
      · rw [List.filterMap_append, reported, once.reported,
          expectedReports_cons]
      · rw [List.filterMap_append, freed, once.freed]
        rfl

/-! ## The whole call -/

theorem TaskList.nodes_eq_nil {list : TaskList}
    (short : list.nodes.length < 65536) (zero : ¬list.count > 0) :
    list.nodes = [] := by
  have exact := TaskList.count_toNat short
  have none : ¬0 < list.count.toNat := zero
  exact List.eq_nil_of_length_eq_zero (by omega)

theorem TaskList.count_eq_zero {list : TaskList} (nodes : list.nodes = []) :
    list.count = 0 := by
  rw [list.counted, nodes]
  rfl

theorem ProcessedOnce.processable {devAddr : UInt16}
    {outcomes : Nat → TaskOutcome} {list : TaskList}
    (short : list.nodes.length < 65536)
    (processed : ProcessedOnce devAddr outcomes list) :
    ProcessableFrom devAddr outcomes 0 list.nodes := by
  obtain ⟨effects, following, called, _⟩ := processed
  unfold doDownlaodFirmware at called
  split at called
  · obtain ⟨result, worked, _⟩ := Option.bind_eq_some_iff.mp called
    exact (workOff_defined_iff short rfl).mp ⟨result, worked⟩
  · rename_i zero
    rw [TaskList.nodes_eq_nil short zero]
    intro task member
    cases member

theorem ProcessableFrom.processed {devAddr : UInt16}
    {outcomes : Nat → TaskOutcome} {list : TaskList}
    (short : list.nodes.length < 65536)
    (processable : ProcessableFrom devAddr outcomes 0 list.nodes) :
    ProcessedOnce devAddr outcomes list := by
  rw [ProcessedOnce, doDownlaodFirmware]
  split
  · obtain ⟨⟨effects, following⟩, worked⟩ :=
      (@workOff_defined_iff _ _ _ _ (.cleared 63) _ short rfl).mpr processable
    obtain ⟨once, empty⟩ := workOff_onceEach short rfl worked
    rw [worked]
    exact ⟨effects, following, rfl, once, empty,
      TaskList.count_eq_zero empty⟩
  · rename_i zero
    have empty := TaskList.nodes_eq_nil short zero
    rw [empty]
    exact ⟨[], list, rfl, ⟨rfl, rfl, rfl⟩, empty,
      TaskList.count_eq_zero empty⟩

/-- Every task is worked off once exactly when all segments of the urls and all
reports fit. -/
theorem processedOnce_iff {devAddr : UInt16} {outcomes : Nat → TaskOutcome}
    {list : TaskList} (short : list.nodes.length < 65536) :
    ProcessedOnce devAddr outcomes list ↔
      ProcessableFrom devAddr outcomes 0 list.nodes :=
  ⟨ProcessedOnce.processable short, ProcessableFrom.processed short⟩

def emptyOutcome : TaskOutcome :=
  { ftpDownload := 0, transferred := 0, updated := 0, time := .cleared 63
    report := .cleared 10239 }

/-- The first task succeeds, the second fails in its transfer. -/
def firstSucceeds : Nat → TaskOutcome
  | 0 => emptyOutcome
  | _ => { emptyOutcome with transferred := -1 }

theorem shortMd5_fits : "0f".toList.length < 64 := by decide

def downloadTaskOf (id : UInt16) (url : CArray 128) : FwDownInfo :=
  { id, url
    md5 := { text := "0f".toList, fits := shortMd5_fits }
    type := { text := otaTaskNow, fits := otaTaskNow_fits }
    flag := fwNeedDownload }

def twoTasks : TaskList :=
  { nodes :=
      [downloadTaskOf 7 { text := "ftp://h/a.tgz".toList, fits := by decide },
        downloadTaskOf 8 { text := "ftp://h/b.tgz".toList, fits := by decide }]
    count := 2
    counted := rfl }

theorem twoTasks_processedOnce : ProcessedOnce 356 firstSucceeds twoTasks :=
  (processedOnce_iff (by decide)).mpr (by
    intro task member
    rcases List.mem_cons.mp member with first | rest
    · rw [first]
      exact ⟨by decide, fun _ => by decide⟩
    · rw [List.mem_singleton.mp rest]
      exact ⟨by decide, fun succeeded => absurd succeeded (by decide)⟩)

def longSegment : TaskList :=
  { nodes := [downloadTaskOf 7 (sameText 128 64 (by decide))]
    count := 1
    counted := rfl }

def longReport : TaskOutcome :=
  { emptyOutcome with report := sameText 10240 10239 fullReport_fits }

theorem long_segment_and_report_overflow :
    ¬ProcessedOnce 356 (fun _ => emptyOutcome) longSegment ∧
      ¬ProcessedOnce 356 (fun _ => longReport) twoTasks := by
  constructor
  · intro processed
    have processable := processed.processable (by decide)
    have segments := (processable _ List.mem_cons_self).1
    exact absurd segments (by decide)
  · intro processed
    have processable := processed.processable (by decide)
    have short := (processable _ List.mem_cons_self).2 (by decide)
    have full : longReport.report.text.length = 10239 :=
      sameText_length (by decide)
    exact OutgoingDocument.report_long (by rw [full]; decide) short

end RtA100
