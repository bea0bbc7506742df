import RtA100.OtaUpdater

/-!
# Updates only start for verified files

The record of a task that waits for the next reboot is written before its file
is verified, and a task read back from the file is not verified again.
`KeepsVerified` is the condition that no task claims to be read back, that a
recorded task is one line, and that its file passes the comparison before the
device reboots.
-/

namespace RtA100

open Library

def Verified (outputs : List OtaOutput) (id : UInt16) : Prop :=
  .md5Matched id ∈ outputs

/-- Every update command comes after a successful comparison for its task. -/
def UpdatesVerified (outputs : List OtaOutput) : Prop :=
  ∀ before command id after,
    outputs = before ++ .update command id :: after → Verified before id

abbrev ForNextReboot (type : CString) : Prop :=
  strstr type otaTaskNext = true

/-- The task is taken for one read back from the mission file. -/
abbrev ClaimsRebooted (type : CString) : Prop :=
  strstr type otaTaskRebooted = true

def HeartbeatTask.Trusted (task : HeartbeatTask) : Prop :=
  ¬ClaimsRebooted task.taskType ∧
    (ForNextReboot task.taskType →
      '\n' ∉ task.artifactUrl ∧ '\n' ∉ task.artifactMd5 ∧
        '\n' ∉ task.taskType)

instance (task : HeartbeatTask) : Decidable task.Trusted :=
  inferInstanceAs (Decidable (_ ∧ _))

/-- The task that the download thread has recorded and not yet verified. -/
def DownloadPc.pending : DownloadPc → Option FwUpdateInfo
  | .prepared info =>
      if ForNextReboot info.type.text then some info else none
  | _ => none

/-- Heartbeats deliver trusted tasks, and a recorded task passes the comparison
and does so before the device reboots. -/
def KeepsVerified (system : OtaState) : OtaEvent → Prop
  | .heartbeatTasks tasks => ∀ task ∈ tasks, task.Trusted
  | .check md5sum => ∀ info ∈ system.download.pending,
      strstr (systemOutput 128 md5sum) info.md5.text = true
  | .reboot _ => system.download.pending = none
  | _ => True

instance (system : OtaState) :
    (event : OtaEvent) → Decidable (KeepsVerified system event)
  | .heartbeatTasks tasks =>
      inferInstanceAs (Decidable (∀ task ∈ tasks, task.Trusted))
  | .check md5sum =>
      inferInstanceAs (Decidable (∀ info ∈ system.download.pending,
        strstr (systemOutput 128 md5sum) info.md5.text = true))
  | .reboot _ =>
      inferInstanceAs (Decidable (system.download.pending = none))
  | .heartbeatInfo _ | .lock | .takeTask _ | .transfer _ | .update _ _
  | .finishTask | .countMissions | .compareUpTime _ | .loadMissions _
  | .removeMissions => inferInstanceAs (Decidable True)

/-! ## The invariant -/

/-- The file of the task is verified, or is about to be. -/
def Vouched (outputs : List OtaOutput) (download : DownloadPc)
    (id : UInt16) : Prop :=
  Verified outputs id ∨ ∃ info ∈ download.pending, info.id = id

/-- A task of the list that is not read back is harmless, and one that is read
back is verified. -/
def TaskSound (outputs : List OtaOutput) (info : FwDownInfo) : Prop :=
  if info.flag = fwNeedDownload then
    ¬ClaimsRebooted info.type.text ∧
      (ForNextReboot info.type.text → info.OneLine)
  else Verified outputs info.id

def DownloadSound (outputs : List OtaOutput) : DownloadPc → Prop
  | .prepared info => ClaimsRebooted info.type.text →
      Verified outputs info.id
  | .checked info => Verified outputs info.id
  | .transferred info => strstr info.type.text otaTaskNow = true →
      Verified outputs info.id
  | _ => True

/-- Every line of the mission file names a task that is vouched for. -/
def MissionSound (outputs : List OtaOutput) (download : DownloadPc)
    (mission : CString) : Prop :=
  ∃ bodies, mission = linesText bodies ∧
    ∀ body ∈ bodies, ∃ id, NamesTask body id ∧ Vouched outputs download id

def TimerPc.records : TimerPc → Nat
  | .counted num | .rebooted num _ => num.toNat
  | _ => 0

structure OtaSound (outputs : List OtaOutput) (system : OtaState) : Prop where
  updates : UpdatesVerified outputs
  upTime : '\n' ∉ system.upTime.text
  tasks : ∀ info ∈ system.tasks, TaskSound outputs info
  download : DownloadSound outputs system.download
  mission : MissionSound outputs system.download system.mission
  counted : system.timer.records ≤ system.mission.count '\n'

theorem UpdatesVerified.concat {outputs : List OtaOutput}
    {output : OtaOutput} (verified : UpdatesVerified outputs)
    (started : ∀ command id, output = .update command id →
      Verified outputs id) : UpdatesVerified (outputs ++ [output]) := by
  intro before command id after split
  rcases List.eq_nil_or_concat after with rfl | ⟨later, last, rfl⟩
  · obtain ⟨rfl, same⟩ := List.append_inj' split rfl
    exact started command id (List.cons.inj same).1
  · rw [List.concat_eq_append, ← List.cons_append,
      ← List.append_assoc] at split
    obtain ⟨same, _⟩ := List.append_inj' split rfl
    exact verified before command id later same

theorem Verified.later {outputs emitted : List OtaOutput} {id : UInt16}
    (verified : Verified outputs id) : Verified (outputs ++ emitted) id :=
  List.mem_append_left _ verified

theorem TaskSound.later {outputs emitted : List OtaOutput}
    {info : FwDownInfo} (sound : TaskSound outputs info) :
    TaskSound (outputs ++ emitted) info := by
  unfold TaskSound at *
  split
  · rename_i fresh
    rwa [if_pos fresh] at sound
  · rename_i loaded
    rw [if_neg loaded] at sound
    exact sound.later

/-- The mission file stays sound while no recorded task is dropped before it is
verified. -/
theorem MissionSound.later {outputs emitted : List OtaOutput}
    {download next : DownloadPc} {mission : CString}
    (sound : MissionSound outputs download mission)
    (pending : ∀ info ∈ download.pending,
      Vouched (outputs ++ emitted) next info.id) :
    MissionSound (outputs ++ emitted) next mission := by
  obtain ⟨bodies, rfl, names⟩ := sound
  refine ⟨bodies, rfl, fun body member => ?_⟩
  obtain ⟨id, named, vouched⟩ := names body member
  refine ⟨id, named, ?_⟩
  rcases vouched with verified | ⟨info, waiting, rfl⟩
  · exact Or.inl verified.later
  · exact pending info waiting

theorem MissionSound.oneLine {outputs : List OtaOutput}
    {download : DownloadPc} {bodies : List CString}
    (names : ∀ body ∈ bodies, ∃ id, NamesTask body id ∧
      Vouched outputs download id) : ∀ body ∈ bodies, '\n' ∉ body := by
  intro body member
  obtain ⟨_, ⟨oneLine, _⟩, _⟩ := names body member
  exact oneLine

theorem MissionSound.idle {outputs : List OtaOutput}
    {download next : DownloadPc} {mission : CString}
    (sound : MissionSound outputs download mission)
    (idle : download.pending = none) : MissionSound outputs next mission := by
  have kept := @MissionSound.later outputs [] download next mission sound
    (by simp [idle])
  rwa [List.append_nil] at kept

/-! ## `up_time` stays one line -/

theorem sshExecute_oneLine {outputSize : Nat} {output resp : CString}
    (result : sshExecute outputSize output = some resp) : '\n' ∉ resp := by
  simp only [sshExecute, Option.bind_eq_bind, Option.bind_eq_some_iff,
    Option.some.injEq] at result
  obtain ⟨copied, _, rfl⟩ := result
  exact not_mem_takeWhile '\n' _

theorem storeField_oneLine {size position : Nat} {format : List Conversion}
    {input : CString} {old stored : CArray size}
    (inputLine : '\n' ∉ input) (oldLine : '\n' ∉ old.text)
    (result : storeField (scan format input) position old = some stored) :
    '\n' ∉ stored.text := by
  unfold storeField at result
  split at result
  · rename_i text found
    rw [strcpy_text result]
    exact fun member => inputLine
      (scan_field_mem (List.mem_of_getElem? found) _ member)
  · cases result
    exact oldLine

theorem initUpTime_oneLine {reply : Option CString} {upTime : CArray 30}
    (result : initUpTime reply = some upTime) : '\n' ∉ upTime.text := by
  cases reply with
  | none =>
      cases result
      exact List.not_mem_nil
  | some reply =>
      obtain ⟨resp, executed, stored⟩ := Option.bind_eq_some_iff.mp result
      exact storeField_oneLine (sshExecute_oneLine executed)
        List.not_mem_nil stored

theorem heartbeatUpTime_oneLine {old upTime : CArray 30} {reply : CString}
    (oldLine : '\n' ∉ old.text)
    (result : heartbeatUpTime old reply = some upTime) :
    '\n' ∉ upTime.text := by
  obtain ⟨resp, executed, result⟩ := Option.bind_eq_some_iff.mp result
  obtain ⟨read, stored, result⟩ := Option.bind_eq_some_iff.mp result
  split at result
  · cases result
    exact oldLine
  · rw [strcpy_text result]
    have respLine : '\n' ∉ resp.dropWhile isSpace := fun member =>
      sshExecute_oneLine executed ((List.dropWhile_suffix _).mem member)
    exact storeField_oneLine respLine List.not_mem_nil stored

/-! ## Steps -/

theorem otaHeartbeatRespParse_sound {outputs : List OtaOutput}
    {tasks : List HeartbeatTask} {infos : List FwDownInfo}
    (trusted : ∀ task ∈ tasks, task.Trusted)
    (parsed : otaHeartbeatRespParse tasks = some infos) :
    ∀ info ∈ infos, TaskSound outputs info := by
  induction tasks generalizing infos with
  | nil =>
      cases parsed
      exact fun _ member => absurd member List.not_mem_nil
  | cons task tasks induction =>
      obtain ⟨info, more, stored, rest, rfl⟩ :=
        otaHeartbeatRespParse_cons parsed
      rw [List.forall_mem_cons] at trusted ⊢
      obtain ⟨harmless, later⟩ := trusted
      refine ⟨?_, induction later rest⟩
      rw [HeartbeatTask.Trusted, ← stored.url, ← stored.md5,
        ← stored.type] at harmless
      rw [TaskSound, if_pos stored.flag]
      exact harmless

theorem appendMission_sound {outputs : List OtaOutput} {info : FwDownInfo}
    {upTime : CArray 30} {mission : CString}
    (task : TaskSound outputs info) (upTimeLine : '\n' ∉ upTime.text)
    (sound : MissionSound outputs .scanning mission) :
    MissionSound outputs (.prepared info.updateInfo)
      (info.appendMission upTime mission) := by
  have kept : MissionSound outputs (.prepared info.updateInfo) mission :=
    sound.idle rfl
  unfold FwDownInfo.appendMission
  split
  · rename_i recorded
    obtain ⟨fresh, next⟩ := recorded
    rw [TaskSound, if_pos fresh] at task
    obtain ⟨bodies, rfl, names⟩ := kept
    refine ⟨bodies ++ [missionBody info upTime], ?_, ?_⟩
    · simp [linesText, missionRecord]
    · intro body member
      rcases List.mem_append.mp member with earlier | added
      · exact names body earlier
      · rw [List.mem_singleton.mp added]
        refine ⟨info.id, missionBody_namesTask (task.2 next) upTimeLine,
          Or.inr ⟨info.updateInfo, ?_, rfl⟩⟩
        rw [DownloadPc.pending, FwDownInfo.updateInfo, if_pos fresh]
        exact if_pos next
  · exact kept

theorem updateInfo_sound {outputs : List OtaOutput} {info : FwDownInfo}
    (task : TaskSound outputs info) :
    DownloadSound outputs (.prepared info.updateInfo) := by
  intro claims
  unfold TaskSound at task
  split at task
  · rename_i fresh
    rw [FwDownInfo.updateInfo, if_pos fresh] at claims
    exact absurd claims task.1
  · exact task

theorem appendMission_count (info : FwDownInfo) (upTime : CArray 30)
    (mission : CString) :
    mission.count '\n' ≤ (info.appendMission upTime mission).count '\n' := by
  unfold FwDownInfo.appendMission
  split
  · rw [List.count_append]
    exact Nat.le_add_right _ _
  · exact Nat.le_refl _

theorem OtaSound.timerStep {outputs : List OtaOutput} {system : OtaState}
    {upTime : CArray 30} {timer : TimerPc} {added : List FwDownInfo}
    (sound : OtaSound outputs system) (upTimeLine : '\n' ∉ upTime.text)
    (loaded : ∀ info ∈ added, TaskSound outputs info)
    (records : timer.records ≤ system.mission.count '\n') :
    OtaSound outputs
      { system with tasks := system.tasks ++ added, upTime, timer } := by
  refine { sound with upTime := upTimeLine, counted := records, tasks := ?_ }
  intro info member
  rcases List.mem_append.mp member with earlier | later
  · exact sound.tasks info earlier
  · exact loaded info later

theorem OtaSound.downloadStep {outputs emitted : List OtaOutput}
    {system : OtaState} {next : DownloadPc} (sound : OtaSound outputs system)
    (updates : UpdatesVerified (outputs ++ emitted))
    (pending : ∀ info ∈ system.download.pending,
      Vouched (outputs ++ emitted) next info.id)
    (download : DownloadSound (outputs ++ emitted) next) :
    OtaSound (outputs ++ emitted) { system with download := next } :=
  { updates
    upTime := sound.upTime
    tasks := fun info member => (sound.tasks info member).later
    download
    mission := sound.mission.later pending
    counted := sound.counted }

/-- A step of the download thread while no recorded task is unverified. -/
theorem OtaSound.idleStep {outputs : List OtaOutput} {system : OtaState}
    {next : DownloadPc} (sound : OtaSound outputs system)
    (idle : system.download.pending = none)
    (download : DownloadSound outputs next) :
    OtaSound outputs { system with download := next } :=
  { sound with
    download
    mission := sound.mission.idle idle }

theorem pending_prepared {info other : FwUpdateInfo}
    (pending : other ∈ (DownloadPc.prepared info).pending) : other = info := by
  rw [DownloadPc.pending] at pending
  split at pending
  · exact (Option.some.inj pending).symm
  · cases pending

theorem OtaSound.check {outputs : List OtaOutput} {system : OtaState}
    {info : FwUpdateInfo} {md5sum : CString}
    (sound : OtaSound outputs system)
    (permitted : KeepsVerified system (.check md5sum))
    (prepared : system.download = .prepared info) :
    OtaSound (outputs ++ (fkz9FwTransCheck info md5sum).2)
      { system with download := (fkz9FwTransCheck info md5sum).1 } := by
  have ready := sound.download
  rw [prepared] at ready
  have same (other : FwUpdateInfo)
      (pending : other ∈ system.download.pending) : other = info := by
    rw [prepared] at pending
    exact pending_prepared pending
  unfold fkz9FwTransCheck
  split
  · rename_i claims
    have verified : Verified (outputs ++ []) info.id :=
      Verified.later (ready claims)
    refine sound.downloadStep ?_ ?_ fun _ => verified
    · rw [List.append_nil]
      exact sound.updates
    · intro other pending
      rw [same other pending]
      exact Or.inl verified
  · split
    · have verified : Verified (outputs ++ [.md5Matched info.id]) info.id :=
        List.mem_append_right _ List.mem_cons_self
      refine sound.downloadStep ?_ ?_ verified
      · exact sound.updates.concat fun _ _ other => by cases other
      · intro other pending
        rw [same other pending]
        exact Or.inl verified
    · rename_i mismatch
      refine sound.downloadStep ?_ ?_ ?_
      · rw [List.append_nil]
        exact sound.updates
      · intro other pending
        have matched := permitted other pending
        rw [same other pending] at matched
        exact absurd matched mismatch
      · have cleared : ¬strstr [] otaTaskNow = true := by decide
        exact fun now => absurd now cleared

theorem OtaSound.update {outputs : List OtaOutput} {system : OtaState}
    {info : FwUpdateInfo} {directory connected : Bool}
    (sound : OtaSound outputs system)
    (transferred : system.download = .transferred info) :
    OtaSound (outputs ++ fkz9FwUpdate info directory connected)
      { system with download := .finishing } := by
  have ready := sound.download
  rw [transferred] at ready
  refine sound.downloadStep ?_ (by simp [transferred, DownloadPc.pending])
    trivial
  unfold fkz9FwUpdate
  split
  · rename_i now
    have started (command : UpdateCommand) :
        UpdatesVerified (outputs ++ [.update command info.id]) := by
      refine sound.updates.concat fun other id same => ?_
      cases same
      exact ready now
    split
    · exact started .runSh
    · split
      · exact started .upgradeSh
      · rw [List.append_nil]
        exact sound.updates
  · rw [List.append_nil]
    exact sound.updates

/-- Loading happens while the download thread is idle, so every record is
verified. -/
theorem OtaSound.load {outputs : List OtaOutput} {system : OtaState}
    {num : UInt8} {uptime : CArray 30} {blocks infos : List FwDownInfo}
    (sound : OtaSound outputs system)
    (rebooted : system.timer = .rebooted num uptime)
    (idle : system.download = .idle) (enough : blocks.length = num.toNat)
    (loaded : loadMissions system.mission uptime 0 blocks = some infos) :
    ∀ info ∈ infos, TaskSound outputs info := by
  have counted := sound.counted
  rw [rebooted] at counted
  obtain ⟨bodies, mission, names⟩ := sound.mission
  rw [mission] at loaded counted
  rw [count_linesText (MissionSound.oneLine names)] at counted
  have inside : 0 + blocks.length ≤ bodies.length := by
    have records : num.toNat ≤ bodies.length := counted
    omega
  intro info member
  obtain ⟨flag, vouched⟩ := loadMissions_ids names inside loaded info member
  unfold TaskSound
  rw [flag, if_neg (by decide)]
  rcases vouched with verified | ⟨other, pending, _⟩
  · exact verified
  · rw [idle] at pending
    cases pending

theorem OtaSound.step {outputs emitted : List OtaOutput}
    {system following : OtaState} {event : OtaEvent}
    (sound : OtaSound outputs system)
    (permitted : KeepsVerified system event)
    (transition : OtaTransition system event following emitted) :
    OtaSound (outputs ++ emitted) following := by
  cases transition with
  | heartbeatInfo reply upTime _ read =>
      rw [List.append_nil]
      exact { sound with upTime := heartbeatUpTime_oneLine sound.upTime read }
  | heartbeatTasks tasks infos _ _ parsed =>
      rw [List.append_nil]
      exact sound.timerStep sound.upTime
        (otaHeartbeatRespParse_sound permitted parsed) sound.counted
  | lock idle =>
      rw [List.append_nil]
      exact sound.idleStep (by rw [idle]; rfl) trivial
  | unlock _ scanning _ =>
      rw [List.append_nil]
      exact sound.idleStep (by rw [scanning]; rfl) trivial
  | takeTask _ info rest scanning tasks =>
      have task : TaskSound outputs info :=
        sound.tasks info (by rw [tasks]; exact List.mem_cons_self)
      have mission := sound.mission
      rw [scanning] at mission
      rw [List.append_nil]
      exact
        { sound with
          download := updateInfo_sound task
          mission := appendMission_sound task sound.upTime mission
          counted := Nat.le_trans sound.counted
            (appendMission_count info system.upTime system.mission) }
  | check md5sum info prepared => exact sound.check permitted prepared
  | transfer info checked =>
      have verified := sound.download
      rw [checked] at verified
      rw [List.append_nil]
      exact sound.idleStep (by rw [checked]; rfl) fun _ => verified
  | transferFails info checked =>
      rw [List.append_nil]
      exact sound.idleStep (by rw [checked]; rfl) trivial
  | update _ _ info transferred => exact sound.update transferred
  | finishTask finishing =>
      have kept := @OtaSound.idleStep _ _ .scanning sound
        (by rw [finishing]; rfl) trivial
      rw [List.append_nil]
      exact
        { kept with
          tasks := fun info member =>
            sound.tasks info (List.mem_of_mem_tail member) }
  | countMissions _ _ =>
      rw [List.append_nil]
      refine { sound with counted := ?_ }
      exact Nat.mod_le _ _
  | sameBoot _ _ _ _ _ _ _ =>
      rw [List.append_nil]
      exact { sound with counted := Nat.zero_le _ }
  | laterBoot _ _ num uptime counted _ _ =>
      have records := sound.counted
      rw [counted] at records
      rw [List.append_nil]
      exact { sound with counted := records }
  | loadMissions blocks infos num uptime rebooted idle enough loaded =>
      rw [List.append_nil]
      exact sound.timerStep sound.upTime
        (sound.load rebooted idle enough loaded) (Nat.zero_le _)
  | removeMissions _ =>
      rw [List.append_nil]
      refine { sound with mission := ?_, counted := Nat.zero_le _ }
      exact ⟨[], rfl, fun _ member => absurd member List.not_mem_nil⟩
  | reboot _ upTime read =>
      rw [List.append_nil]
      exact
        { updates := sound.updates
          upTime := initUpTime_oneLine read
          tasks := fun _ member => absurd member List.not_mem_nil
          download := trivial
          mission := sound.mission.idle permitted
          counted := Nat.zero_le _ }

theorem OtaSound.initial {system : OtaState} (starts : OtaInitial system) :
    OtaSound [] system := by
  obtain ⟨reply, upTime, read, rfl⟩ := starts
  exact
    { updates := fun before _ _ _ split => by
        cases before <;> cases split
      upTime := initUpTime_oneLine read
      tasks := fun _ member => absurd member List.not_mem_nil
      download := trivial
      mission := ⟨[], rfl, fun _ member => absurd member List.not_mem_nil⟩
      counted := Nat.zero_le _ }

theorem reaches_otaSound {outputs : List OtaOutput} {system : OtaState}
    (reached : otaMachine.Reaches KeepsVerified outputs system) :
    OtaSound outputs system :=
  Machine.invariant (fun _ starts => .initial starts)
    (fun _ _ _ _ _ sound permitted stepped =>
      sound.step permitted (otaStep_transition stepped))
    reached

/-- In a run that keeps recorded tasks verified, an update command only starts
after the comparison has succeeded for its task. -/
theorem updates_verified {outputs : List OtaOutput} {system : OtaState}
    (reached : otaMachine.Reaches KeepsVerified outputs system) :
    UpdatesVerified outputs :=
  (reaches_otaSound reached).updates

def freshOta : OtaState :=
  { tasks := [], download := .idle, timer := .idle, upTime := .cleared 29
    mission := [] }

theorem freshOta_initial : OtaInitial freshOta :=
  ⟨none, .cleared 29, rfl, rfl⟩

def firstBoot : CArray 30 :=
  { text := "boot 1".toList
    fits := by decide }

def blankInfo : FwDownInfo :=
  { id := 0, url := .cleared 127, md5 := .cleared 63, type := .cleared 19
    flag := 0 }

/-- A task for the next reboot whose file is checked with the given output of
`md5sum`, then a later start of the server and the update from the mission
file. -/
def rebootEvents (md5sum : CString) (transfer : List OtaEvent) :
    List OtaEvent :=
  [.heartbeatInfo "1,2,3,4,5,6,boot 1,8,".toList,
    .heartbeatTasks
      [{ taskId := 7, artifactUrl := "f.tgz".toList
         artifactMd5 := "0f".toList, taskType := otaTaskNext }],
    .lock, .takeTask 0, .check md5sum] ++ transfer ++
    [.update true true, .finishTask, .takeTask 0,
      .heartbeatInfo "1,2,3,4,5,6,boot 2,8,".toList, .countMissions,
      .compareUpTime blankInfo, .loadMissions [blankInfo], .removeMissions,
      .lock, .takeTask 0, .check [], .update true true]

theorem matched_task_updates_verified :
    UpdatesVerified [.md5Matched 7, .update .runSh 7] := by
  have emitted : (otaMachine.run
      (fun system event => decide (KeepsVerified system event)) freshOta
      (rebootEvents "0f  f.tgz\n".toList [.transfer true])).map Prod.snd =
        some [.md5Matched 7, .update .runSh 7] := by
    decide +kernel
  obtain ⟨outputs, system, reached, same⟩ :=
    Machine.Reaches.of_run (fun _ _ checked => of_decide_eq_true checked)
      freshOta_initial emitted
  rw [← same]
  exact updates_verified reached

/-- The comparison fails, and the update starts after the next reboot. -/
theorem mismatched_task_updates : ∃ outputs system,
    otaMachine.Reaches Machine.anyStep outputs system ∧
      ¬UpdatesVerified outputs := by
  have emitted : (otaMachine.run (fun _ _ => true) freshOta
      (rebootEvents "1e  f.tgz\n".toList [])).map Prod.snd =
        some [.update .runSh 7] := by
    decide +kernel
  obtain ⟨outputs, system, reached, same⟩ :=
    Machine.Reaches.of_run (fun _ _ _ => trivial) freshOta_initial emitted
  refine ⟨outputs, system, reached, fun verified => ?_⟩
  exact absurd (verified [] .runSh 7 [] same) List.not_mem_nil

end RtA100
