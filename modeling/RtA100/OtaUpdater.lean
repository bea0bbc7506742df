import RtA100.Library.Machine
import RtA100.OtaMission

/-!
# The firmware updater

Two threads share the task list under a mutex.  The timer thread runs the
heartbeat and `reboot_upgrade_task_cb`; the download thread takes the mutex,
works the list off and gives the mutex back.  A reboot of the device may come
between any two steps; it keeps only the mission file.

Log lines, reports and the texts of the shell commands other than `md5sum` are
left out, since no decision depends on them.
-/

namespace RtA100

open Library

/-- The fields of `FwUpdateInfo` that decide about an update. -/
structure FwUpdateInfo where
  id : UInt16
  md5 : CArray 64
  type : CArray 20
deriving DecidableEq

/-- The download thread: `idle` does not hold the mutex, and the other states
stand inside `do_downlaod_firmware`. -/
inductive DownloadPc where
  | idle
  | scanning
  | prepared (info : FwUpdateInfo)
  | checked (info : FwUpdateInfo)
  | transferred (info : FwUpdateInfo)
  | finishing
deriving DecidableEq

/-- The timer thread: the states inside `reboot_upgrade_task_cb` carry the
number of records it has counted. -/
inductive TimerPc where
  | idle
  | counted (num : UInt8)
  | rebooted (num : UInt8) (uptime : CArray 30)
  | loaded
deriving DecidableEq

structure OtaState where
  tasks : List FwDownInfo
  download : DownloadPc
  timer : TimerPc
  upTime : CArray 30
  mission : CString
deriving DecidableEq

inductive UpdateCommand where
  | runSh
  | upgradeSh
deriving DecidableEq

/-- A successful comparison of `fkz9_fw_trans_func` and the start of an update
command of `fkz9_fw_update_func`, each for a task. -/
inductive OtaOutput where
  | md5Matched (id : UInt16)
  | update (command : UpdateCommand) (id : UInt16)
deriving DecidableEq

/-! ## `up_time`, the start of the last boot -/

/-- `execute` of `SSHClient`: the first line of the output. -/
def sshExecute (outputSize : Nat) (output : CString) : Option CString := do
  let output ← strcpy outputSize output
  some (output.text.takeWhile (· ≠ '\n'))

def devInfoFormat : List Conversion :=
  [.integer, .field, .integer, .integer, .integer, .integer, .integer,
    .integer, .integer, .integer, .integer, .field]

def heartbeatFormat : List Conversion :=
  List.replicate 8 .field

/-- `up_time` after `init_updater_environment`, from the reply of `dev_info`
if there is one. -/
def initUpTime : Option CString → Option (CArray 30)
  | none => some (.cleared 29)
  | some reply => do
      let resp ← sshExecute 128 reply
      storeField (scan devInfoFormat resp) 11 (.cleared 29)

/-- `up_time` after `get_ota_heartbeat_info`, from the reply of `base_info`. -/
def heartbeatUpTime (upTime : CArray 30) (reply : CString) :
    Option (CArray 30) := do
  let resp ← sshExecute 512 reply
  let read : CArray 32 ←
    storeField (scan heartbeatFormat (resp.dropWhile isSpace)) 6 (.cleared 31)
  if read.text.isPrefixOf upTime.text = true then some upTime
  else strcpy 30 read.text

/-! ## `do_downlaod_firmware` -/

/-- What the download thread hands to `do_upgrade_firmware`. -/
def FwDownInfo.updateInfo (info : FwDownInfo) : FwUpdateInfo :=
  { id := info.id
    md5 := info.md5
    type :=
      if info.flag = fwNeedDownload then info.type
      else { text := otaTaskRebooted, fits := by decide } }

/-- The mission file after a task has been downloaded. -/
def FwDownInfo.appendMission (info : FwDownInfo) (upTime : CArray 30)
    (mission : CString) : CString :=
  if info.flag = fwNeedDownload ∧
      strstr info.type.text otaTaskNext = true then
    mission ++ missionRecord info upTime
  else mission

/-- `fkz9_fw_trans_func` up to the comparison with the output of `md5sum`. -/
def fkz9FwTransCheck (info : FwUpdateInfo) (md5sum : CString) :
    DownloadPc × List OtaOutput :=
  if strstr info.type.text otaTaskRebooted = true then
    (.transferred
      { info with type := { text := otaTaskNow, fits := by decide } }, [])
  else if strstr (systemOutput 128 md5sum) info.md5.text = true then
    (.checked info, [.md5Matched info.id])
  else (.transferred { info with type := .cleared 19 }, [])

/-- The commands that `fkz9_fw_update_func` starts. -/
def fkz9FwUpdate (info : FwUpdateInfo) (directory connected : Bool) :
    List OtaOutput :=
  if strstr info.type.text otaTaskNow = true then
    if directory = true then [.update .runSh info.id]
    else if connected = true then [.update .upgradeSh info.id]
    else []
  else []

/-! ## Steps -/

/-- The steps of the two threads, with what they get from outside: the texts of
replies and of `md5sum`, the result of `ftp_download` and of the transfer to the
server, and the blocks that `malloc` returns. -/
inductive OtaEvent where
  | heartbeatInfo (reply : CString)
  | heartbeatTasks (tasks : List HeartbeatTask)
  | lock
  | takeTask (ftpDownload : Int)
  | check (md5sum : CString)
  | transfer (done : Bool)
  | update (directory connected : Bool)
  | finishTask
  | countMissions
  | compareUpTime (block : FwDownInfo)
  | loadMissions (blocks : List FwDownInfo)
  | removeMissions
  | reboot (reply : Option CString)

def otaStep (system : OtaState) :
    OtaEvent → Option (OtaState × List OtaOutput)
  | .heartbeatInfo reply =>
      if system.timer = .idle then do
        let upTime ← heartbeatUpTime system.upTime reply
        some ({ system with upTime }, [])
      else none
  | .heartbeatTasks tasks =>
      if system.timer = .idle ∧ system.download = .idle then do
        let infos ← otaHeartbeatRespParse tasks
        some ({ system with tasks := system.tasks ++ infos }, [])
      else none
  | .lock =>
      if system.download = .idle then
        some ({ system with download := .scanning }, [])
      else none
  | .takeTask _ =>
      match system.download, system.tasks with
      | .scanning, [] => some ({ system with download := .idle }, [])
      | .scanning, info :: _ =>
          some ({ system with
            download := .prepared info.updateInfo
            mission := info.appendMission system.upTime system.mission }, [])
      | _, _ => none
  | .check md5sum =>
      match system.download with
      | .prepared info =>
          let (download, outputs) := fkz9FwTransCheck info md5sum
          some ({ system with download }, outputs)
      | _ => none
  | .transfer done =>
      match system.download with
      | .checked info =>
          some ({ system with
            download := if done = true then .transferred info
              else .finishing }, [])
      | _ => none
  | .update directory connected =>
      match system.download with
      | .transferred info =>
          some ({ system with download := .finishing },
            fkz9FwUpdate info directory connected)
      | _ => none
  | .finishTask =>
      if system.download = .finishing then
        some ({ system with
          download := .scanning
          tasks := system.tasks.tail }, [])
      else none
  | .countMissions =>
      if system.timer = .idle ∧ system.mission ≠ [] then
        some ({ system with
          timer := .counted (.ofNat (system.mission.count '\n')) }, [])
      else none
  | .compareUpTime block =>
      match system.timer with
      | .counted num => do
          let (_, uptime) ← scanRecord
            (systemOutput 256 (sedLine 0 system.mission)) block (.cleared 29)
          if uptime.text.isPrefixOf system.upTime.text = true then
            some ({ system with timer := .idle }, [])
          else some ({ system with timer := .rebooted num uptime }, [])
      | _ => none
  | .loadMissions blocks =>
      match system.timer with
      | .rebooted num uptime =>
          if system.download = .idle ∧ blocks.length = num.toNat then do
            let infos ←
              RtA100.loadMissions system.mission uptime 0 blocks
            some ({ system with
              tasks := system.tasks ++ infos
              timer := .loaded }, [])
          else none
      | _ => none
  | .removeMissions =>
      if system.timer = .loaded then
        some ({ system with timer := .idle, mission := [] }, [])
      else none
  | .reboot reply => do
      let upTime ← initUpTime reply
      some ({ system with
        tasks := []
        download := .idle
        timer := .idle
        upTime }, [])

/-- A device that has just been started and has no mission file. -/
def OtaInitial (system : OtaState) : Prop :=
  ∃ reply upTime, initUpTime reply = some upTime ∧
    system =
      { tasks := [], download := .idle, timer := .idle, upTime
        mission := [] }

def otaMachine : Machine OtaState OtaEvent OtaOutput :=
  { initial := OtaInitial
    step := otaStep }

/-! ## What a step can do -/

/-- Every step of the updater. -/
inductive OtaTransition (system : OtaState) :
    OtaEvent → OtaState → List OtaOutput → Prop where
  | heartbeatInfo (reply : CString) (upTime : CArray 30) :
      system.timer = .idle →
      heartbeatUpTime system.upTime reply = some upTime →
      OtaTransition system (.heartbeatInfo reply) { system with upTime } []
  | heartbeatTasks (tasks : List HeartbeatTask) (infos : List FwDownInfo) :
      system.timer = .idle →
      system.download = .idle →
      otaHeartbeatRespParse tasks = some infos →
      OtaTransition system (.heartbeatTasks tasks)
        { system with tasks := system.tasks ++ infos } []
  | lock :
      system.download = .idle →
      OtaTransition system .lock { system with download := .scanning } []
  | unlock (ftpDownload : Int) :
      system.download = .scanning →
      system.tasks = [] →
      OtaTransition system (.takeTask ftpDownload)
        { system with download := .idle } []
  | takeTask (ftpDownload : Int) (info : FwDownInfo)
      (rest : List FwDownInfo) :
      system.download = .scanning →
      system.tasks = info :: rest →
      OtaTransition system (.takeTask ftpDownload)
        { system with
          download := .prepared info.updateInfo
          mission := info.appendMission system.upTime system.mission } []
  | check (md5sum : CString) (info : FwUpdateInfo) :
      system.download = .prepared info →
      OtaTransition system (.check md5sum)
        { system with download := (fkz9FwTransCheck info md5sum).1 }
        (fkz9FwTransCheck info md5sum).2
  | transfer (info : FwUpdateInfo) :
      system.download = .checked info →
      OtaTransition system (.transfer true)
        { system with download := .transferred info } []
  | transferFails (info : FwUpdateInfo) :
      system.download = .checked info →
      OtaTransition system (.transfer false)
        { system with download := .finishing } []
  | update (directory connected : Bool) (info : FwUpdateInfo) :
      system.download = .transferred info →
      OtaTransition system (.update directory connected)
        { system with download := .finishing }
        (fkz9FwUpdate info directory connected)
  | finishTask :
      system.download = .finishing →
      OtaTransition system .finishTask
        { system with download := .scanning, tasks := system.tasks.tail } []
  | countMissions :
      system.timer = .idle →
      system.mission ≠ [] →
      OtaTransition system .countMissions
        { system with
          timer := .counted (.ofNat (system.mission.count '\n')) } []
  | sameBoot (block info : FwDownInfo) (num : UInt8) (uptime : CArray 30) :
      system.timer = .counted num →
      scanRecord (systemOutput 256 (sedLine 0 system.mission)) block
        (.cleared 29) = some (info, uptime) →
      uptime.text.isPrefixOf system.upTime.text = true →
      OtaTransition system (.compareUpTime block)
        { system with timer := .idle } []
  | laterBoot (block info : FwDownInfo) (num : UInt8) (uptime : CArray 30) :
      system.timer = .counted num →
      scanRecord (systemOutput 256 (sedLine 0 system.mission)) block
        (.cleared 29) = some (info, uptime) →
      ¬uptime.text.isPrefixOf system.upTime.text = true →
      OtaTransition system (.compareUpTime block)
        { system with timer := .rebooted num uptime } []
  | loadMissions (blocks infos : List FwDownInfo) (num : UInt8)
      (uptime : CArray 30) :
      system.timer = .rebooted num uptime →
      system.download = .idle →
      blocks.length = num.toNat →
      RtA100.loadMissions system.mission uptime 0 blocks = some infos →
      OtaTransition system (.loadMissions blocks)
        { system with tasks := system.tasks ++ infos, timer := .loaded } []
  | removeMissions :
      system.timer = .loaded →
      OtaTransition system .removeMissions
        { system with timer := .idle, mission := [] } []
  | reboot (reply : Option CString) (upTime : CArray 30) :
      initUpTime reply = some upTime →
      OtaTransition system (.reboot reply)
        { system with
          tasks := [], download := .idle, timer := .idle, upTime } []

theorem otaStep_transition {system following : OtaState} {event : OtaEvent}
    {emitted : List OtaOutput}
    (stepped : otaStep system event = some (following, emitted)) :
    OtaTransition system event following emitted := by
  cases event with
  | heartbeatInfo reply =>
      rw [otaStep] at stepped
      split at stepped
      · rename_i idle
        obtain ⟨upTime, read, result⟩ := Option.bind_eq_some_iff.mp stepped
        cases result
        exact .heartbeatInfo reply upTime idle read
      · cases stepped
  | heartbeatTasks tasks =>
      rw [otaStep] at stepped
      split at stepped
      · rename_i idle
        obtain ⟨infos, parsed, result⟩ := Option.bind_eq_some_iff.mp stepped
        cases result
        exact .heartbeatTasks tasks infos idle.1 idle.2 parsed
      · cases stepped
  | lock =>
      rw [otaStep] at stepped
      split at stepped
      · rename_i idle
        cases stepped
        exact .lock idle
      · cases stepped
  | takeTask ftpDownload =>
      rw [otaStep] at stepped
      split at stepped
      · rename_i scanning nothing
        cases stepped
        exact .unlock ftpDownload scanning nothing
      · rename_i info rest scanning tasks
        cases stepped
        exact .takeTask ftpDownload info rest scanning tasks
      · cases stepped
  | check md5sum =>
      rw [otaStep] at stepped
      split at stepped
      · rename_i info prepared
        cases stepped
        exact .check md5sum info prepared
      · cases stepped
  | transfer done =>
      rw [otaStep] at stepped
      split at stepped
      · rename_i info checked
        cases stepped
        cases done with
        | true => exact .transfer info checked
        | false => exact .transferFails info checked
      · cases stepped
  | update directory connected =>
      rw [otaStep] at stepped
      split at stepped
      · rename_i info transferred
        cases stepped
        exact .update directory connected info transferred
      · cases stepped
  | finishTask =>
      rw [otaStep] at stepped
      split at stepped
      · rename_i finishing
        cases stepped
        exact .finishTask finishing
      · cases stepped
  | countMissions =>
      rw [otaStep] at stepped
      split at stepped
      · rename_i idle
        cases stepped
        exact .countMissions idle.1 idle.2
      · cases stepped
  | compareUpTime block =>
      rw [otaStep] at stepped
      split at stepped
      · rename_i num counted
        obtain ⟨⟨info, uptime⟩, scanned, result⟩ :=
          Option.bind_eq_some_iff.mp stepped
        simp only at result
        split at result
        · rename_i same
          cases result
          exact .sameBoot block info num uptime counted scanned same
        · rename_i later
          cases result
          exact .laterBoot block info num uptime counted scanned later
      · cases stepped
  | loadMissions blocks =>
      rw [otaStep] at stepped
      split at stepped
      · rename_i num uptime rebooted
        split at stepped
        · rename_i locked
          obtain ⟨infos, loaded, result⟩ :=
            Option.bind_eq_some_iff.mp stepped
          cases result
          exact .loadMissions blocks infos num uptime rebooted locked.1
            locked.2 loaded
        · cases stepped
      · cases stepped
  | removeMissions =>
      rw [otaStep] at stepped
      split at stepped
      · rename_i loaded
        cases stepped
        exact .removeMissions loaded
      · cases stepped
  | reboot reply =>
      obtain ⟨upTime, read, result⟩ := Option.bind_eq_some_iff.mp stepped
      cases result
      exact .reboot reply upTime read

end RtA100
