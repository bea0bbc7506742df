import RtA100.OtaUpdater

/-!
# The history of the mission file

`OtaHistory` follows the updater and remembers what the program forgets: every
line that was ever appended to the mission file, numbered, with the task and
the `up_time` it was written for; the lines the file holds; how many it held
when `reboot_upgrade_task_cb` counted them; and the lines that were queued,
with the `up_time` of that moment.

A record whose strings have no newline is one line.  The callback reads lines,
so lines are what is remembered.
-/

namespace RtA100

open Library

structure MissionLine where
  number : Nat
  line : CString
  info : FwDownInfo
  upTime : CArray 30
deriving DecidableEq

structure OtaHistory where
  system : OtaState
  appended : List MissionLine
  file : List MissionLine
  counted : Nat
  queued : List (MissionLine × CArray 30)
deriving DecidableEq

def missionLines (number : Nat) (info : FwDownInfo) (upTime : CArray 30) :
    List MissionLine :=
  (fileLines (missionRecord info upTime)).mapIdx fun index line =>
    { number := number + index, line, info, upTime }

/-- The lines of a record that is appended now. -/
def OtaHistory.newLines (history : OtaHistory) (info : FwDownInfo) :
    List MissionLine :=
  missionLines history.appended.length info history.system.upTime

def OtaHistory.remember (history : OtaHistory) : OtaEvent → OtaHistory
  | .takeTask _ =>
      match history.system.download, history.system.tasks with
      | .scanning, info :: _ =>
          if info.flag = fwNeedDownload ∧
              strstr info.type.text otaTaskNext = true then
            { history with
              appended := history.appended ++ history.newLines info
              file := history.file ++ history.newLines info }
          else history
      | _, _ => history
  | .countMissions => { history with counted := history.file.length }
  | .loadMissions blocks =>
      { history with
        queued := history.queued ++
          (history.file.take blocks.length).map fun line =>
            (line, history.system.upTime) }
  | .removeMissions => { history with file := [], counted := 0 }
  | _ => history

def historyStep (history : OtaHistory) (event : OtaEvent) :
    Option (OtaHistory × List OtaOutput) :=
  (otaStep history.system event).map fun (system, outputs) =>
    ({ history.remember event with system }, outputs)

/-- Nothing has been appended before the updater starts. -/
def HistoryInitial (history : OtaHistory) : Prop :=
  OtaInitial history.system ∧
    history = { system := history.system, appended := [], file := []
                counted := 0, queued := [] }

def historyMachine : Machine OtaHistory OtaEvent OtaOutput :=
  { initial := HistoryInitial
    step := historyStep }

/-! ## What a step does to the file -/

/-- Every step, by what it does to the mission file and to the part of the
callback that is under way. -/
inductive HistoryChange (history : OtaHistory) :
    OtaEvent → OtaHistory → Prop where
  | quiet {event : OtaEvent} (system : OtaState) :
      (∀ blocks, event ≠ .loadMissions blocks) →
      event ≠ .removeMissions →
      system.mission = history.system.mission →
      (system.timer = .idle ∨ system.timer = history.system.timer ∧
        system.upTime = history.system.upTime) →
      HistoryChange history event { history with system }
  | appends {ftpDownload : Int} (system : OtaState) (info : FwDownInfo) :
      system.mission = history.system.mission ++
        missionRecord info history.system.upTime →
      system.timer = history.system.timer →
      system.upTime = history.system.upTime →
      HistoryChange history (.takeTask ftpDownload)
        { history with
          system
          appended := history.appended ++ history.newLines info
          file := history.file ++ history.newLines info }
  | counts :
      history.system.mission ≠ [] →
      HistoryChange history .countMissions
        { history with
          system := { history.system with
            timer :=
              .counted (.ofNat (history.system.mission.count '\n')) }
          counted := history.file.length }
  | compares (block info : FwDownInfo) (num : UInt8) (uptime : CArray 30) :
      history.system.timer = .counted num →
      scanRecord (systemOutput 256 (sedLine 0 history.system.mission)) block
        (.cleared 29) = some (info, uptime) →
      ¬uptime.text.isPrefixOf history.system.upTime.text = true →
      HistoryChange history (.compareUpTime block)
        { history with
          system := { history.system with timer := .rebooted num uptime } }
  | loads (blocks infos : List FwDownInfo) (num : UInt8)
      (uptime : CArray 30) :
      history.system.timer = .rebooted num uptime →
      blocks.length = num.toNat →
      HistoryChange history (.loadMissions blocks)
        { history with
          system := { history.system with
            tasks := history.system.tasks ++ infos, timer := .loaded }
          queued := history.queued ++
            (history.file.take blocks.length).map fun line =>
              (line, history.system.upTime) }
  | removes :
      history.system.timer = .loaded →
      HistoryChange history .removeMissions
        { history with
          system := { history.system with timer := .idle, mission := [] }
          file := [], counted := 0 }

theorem historyStep_change {history following : OtaHistory}
    {event : OtaEvent} {emitted : List OtaOutput}
    (stepped : historyStep history event = some (following, emitted)) :
    HistoryChange history event following := by
  obtain ⟨⟨system, outputs⟩, systemStep, result⟩ :=
    Option.map_eq_some_iff.mp stepped
  obtain ⟨rfl, rfl⟩ := Prod.mk.inj result
  cases otaStep_transition systemStep with
  | heartbeatInfo _ _ idle _ =>
      exact .quiet _ (by simp) (by simp) rfl (.inl idle)
  | heartbeatTasks _ _ idle _ _ =>
      exact .quiet _ (by simp) (by simp) rfl (.inl idle)
  | takeTask _ info rest scanning tasks =>
      simp only [OtaHistory.remember, scanning, tasks]
      unfold FwDownInfo.appendMission
      split
      · exact .appends _ info rfl rfl rfl
      · exact .quiet _ (by simp) (by simp) rfl (.inr ⟨rfl, rfl⟩)
  | unlock _ scanning tasks =>
      simp only [OtaHistory.remember, scanning, tasks]
      exact .quiet _ (by simp) (by simp) rfl (.inr ⟨rfl, rfl⟩)
  | countMissions _ nonempty => exact .counts nonempty
  | laterBoot block info num uptime counted scanned later =>
      exact .compares block info num uptime counted scanned later
  | sameBoot _ _ _ _ _ _ _ =>
      exact .quiet _ (by simp) (by simp) rfl (.inl rfl)
  | loadMissions blocks infos num uptime rebooted _ enough _ =>
      exact .loads blocks infos num uptime rebooted enough
  | removeMissions loaded => exact .removes loaded
  | reboot _ _ _ => exact .quiet _ (by simp) (by simp) rfl (.inl rfl)
  | lock _ => exact .quiet _ (by simp) (by simp) rfl (.inr ⟨rfl, rfl⟩)
  | check _ _ _ => exact .quiet _ (by simp) (by simp) rfl (.inr ⟨rfl, rfl⟩)
  | transfer _ _ => exact .quiet _ (by simp) (by simp) rfl (.inr ⟨rfl, rfl⟩)
  | transferFails _ _ =>
      exact .quiet _ (by simp) (by simp) rfl (.inr ⟨rfl, rfl⟩)
  | update _ _ _ _ =>
      exact .quiet _ (by simp) (by simp) rfl (.inr ⟨rfl, rfl⟩)
  | finishTask _ => exact .quiet _ (by simp) (by simp) rfl (.inr ⟨rfl, rfl⟩)

/-! ## The invariant -/

/-- A line of the file is complete, and belongs to the record of its task. -/
structure MissionLine.OfRecord (line : MissionLine) : Prop where
  complete : ∃ body, '\n' ∉ body ∧ line.line = body ++ ['\n']
  member : line.line ∈ fileLines (missionRecord line.info line.upTime)

/-- The strings of a task and its `up_time` are read back as they were
written: they have no newline and no comma, and those that others follow are
not empty. -/
structure MissionLine.Plain (line : MissionLine) : Prop where
  oneLine : line.info.OneLine ∧ '\n' ∉ line.upTime.text
  free : ',' ∉ line.info.url.text ∧ ',' ∉ line.info.md5.text ∧
    ',' ∉ line.info.type.text ∧ ',' ∉ line.upTime.text
  nonempty : line.info.url.text ≠ [] ∧ line.info.md5.text ≠ [] ∧
    line.info.type.text ≠ []

theorem missionLines_text (number : Nat) (info : FwDownInfo)
    (upTime : CArray 30) :
    (missionLines number info upTime).flatMap (·.line) =
      missionRecord info upTime := by
  have same : (missionLines number info upTime).map (·.line) =
      fileLines (missionRecord info upTime) := by
    refine List.ext_getElem? fun index => ?_
    rw [List.getElem?_map, missionLines, List.getElem?_mapIdx,
      Option.map_map]
    exact Option.map_id'
  rw [List.flatMap_def, same, fileLines_flatten]

theorem missionLines_ofRecord {number : Nat} {info : FwDownInfo}
    {upTime : CArray 30} {line : MissionLine}
    (member : line ∈ missionLines number info upTime) : line.OfRecord := by
  obtain ⟨index, inside, rfl⟩ := List.mem_mapIdx.mp member
  have read := List.getElem_mem inside
  exact ⟨fileLines_complete read, read⟩

theorem missionLines_number {number index : Nat} {info : FwDownInfo}
    {upTime : CArray 30} {line : MissionLine}
    (found : (missionLines number info upTime)[index]? = some line) :
    line.number = number + index := by
  rw [missionLines, List.getElem?_mapIdx] at found
  obtain ⟨_, _, rfl⟩ := Option.map_eq_some_iff.mp found
  rfl

/-- The callback under way: the file is not empty, the counter holds the count
in 8 bits, and once the callback has decided to queue, its comparison stands. -/
structure TimerOrder (history : OtaHistory) : Prop where
  counted : ∀ num, history.system.timer = .counted num →
    history.file ≠ [] ∧ num.toNat = history.counted % 256
  rebooted : ∀ num uptime, history.system.timer = .rebooted num uptime →
    history.file ≠ [] ∧ num.toNat = history.counted % 256 ∧
      ¬uptime.text.isPrefixOf history.system.upTime.text = true ∧
      ∀ head ∈ history.file.head?, head.Plain →
        uptime.text = head.upTime.text
  loaded : history.system.timer = .loaded →
    ∀ line ∈ history.file.take (history.counted % 256),
      line ∈ history.queued.map Prod.fst

/-- The lines are numbered in the order in which they were appended, the file
is a suffix of them, and what was queued from the file was counted, in 8
bits. -/
structure HistoryOrder (history : OtaHistory) : Prop where
  numbered : ∀ (index : Nat) (line : MissionLine),
    history.appended[index]? = some line → line.number = index
  suffix : history.file <:+ history.appended
  text : history.system.mission = history.file.flatMap (·.line)
  lines : ∀ line ∈ history.file, line.OfRecord
  counted : history.counted ≤ history.file.length
  queued : ∀ line ∈ history.queued.map Prod.fst,
    line.number + history.file.length <
        history.appended.length + history.counted ∧
      line.number + history.file.length < history.appended.length + 255
  timer : TimerOrder history

/-- The number of a line from its place in the file. -/
theorem HistoryOrder.number {history : OtaHistory} {index : Nat}
    {line : MissionLine} (order : HistoryOrder history)
    (found : history.file[index]? = some line) :
    line.number + history.file.length = history.appended.length + index := by
  obtain ⟨old, whole⟩ := order.suffix
  have later : history.appended[old.length + index]? = some line := by
    rw [← whole, List.getElem?_append_right (Nat.le_add_right _ _),
      Nat.add_sub_cancel_left]
    exact found
  rw [order.numbered _ _ later, ← whole, List.length_append]
  omega

theorem MissionLine.linesText {file : List MissionLine}
    (lines : ∀ line ∈ file, line.OfRecord) :
    ∃ bodies : List CString, (∀ body ∈ bodies, '\n' ∉ body) ∧
      file.map (·.line) = bodies.map (· ++ ['\n']) := by
  induction file with
  | nil => exact ⟨[], by simp, rfl⟩
  | cons line file induction =>
      obtain ⟨bodies, oneLine, same⟩ := induction fun other member =>
        lines other (List.mem_cons_of_mem _ member)
      obtain ⟨body, free, complete⟩ := (lines line List.mem_cons_self).complete
      refine ⟨body :: bodies, ?_, by simp [same, complete]⟩
      intro other member
      rcases List.mem_cons.mp member with rfl | later
      · exact free
      · exact oneLine other later

/-- The lines of the file are the remembered ones. -/
theorem HistoryOrder.fileLines {history : OtaHistory}
    (order : HistoryOrder history) :
    fileLines history.system.mission = history.file.map (·.line) ∧
      history.system.mission.count '\n' = history.file.length := by
  obtain ⟨bodies, oneLine, same⟩ := MissionLine.linesText order.lines
  have text : history.system.mission = Library.linesText bodies := by
    rw [order.text, List.flatMap_def, same, Library.linesText,
      List.flatMap_def]
  have length : history.file.length = bodies.length := by
    rw [← List.length_map (·.line), same, List.length_map]
  rw [text, fileLines_linesText oneLine, count_linesText oneLine]
  exact ⟨same.symm, length.symm⟩

/-! ## Reading a plain record back -/

/-- What `sscanf` finds in the record of a plain line.  An empty `up_time` is
not matched. -/
theorem MissionLine.Plain.scan {line : MissionLine} (plain : line.Plain) :
    (scan recordFormat (missionRecord line.info line.upTime))[4]? =
      if line.upTime.text = [] then none
      else some (.field line.upTime.text) := by
  obtain ⟨_, ⟨urlFree, md5Free, typeFree, upTimeFree⟩, nonempty⟩ := plain
  rw [missionRecord_scan ⟨nonempty, urlFree, md5Free, typeFree⟩ upTimeFree]
  split
  · rfl
  · rfl

theorem MissionLine.Plain.readBack {line : MissionLine}
    {block info : FwDownInfo} {uptime : CArray 30} (plain : line.Plain)
    (record : line.OfRecord)
    (scanned : scanRecord (systemOutput 256 line.line) block (.cleared 29) =
      some (info, uptime)) : uptime.text = line.upTime.text := by
  obtain ⟨oneLine, inside, _⟩ :=
    missionBody_namesTask plain.oneLine.1 plain.oneLine.2
  have single : line.line = missionRecord line.info line.upTime := by
    have member := record.member
    rw [missionRecord, fileLines_line oneLine] at member
    exact List.mem_singleton.mp member
  rw [single, missionRecord, systemOutput_line oneLine inside] at scanned
  have kept := (scanRecord_stores scanned).uptime
  have read := plain.scan
  rw [missionRecord] at read
  rw [storeField, read] at kept
  by_cases empty : line.upTime.text = []
  · rw [if_pos empty] at kept
    cases kept
    exact empty.symm
  · rw [if_neg empty] at kept
    exact strcpy_text kept

/-- The callback compares the `up_time` of the first line. -/
theorem HistoryOrder.firstLine {history : OtaHistory}
    (order : HistoryOrder history) {head : MissionLine}
    (first : head ∈ history.file.head?) :
    sedLine 0 history.system.mission = head.line ∧ head.OfRecord := by
  have found : history.file[0]? = some head := by
    rw [← List.head?_eq_getElem?]
    exact first
  refine ⟨?_, order.lines head (List.mem_of_getElem? found)⟩
  rw [sedLine, order.fileLines.1, List.getElem?_map, found]
  rfl

/-! ## Every step keeps it -/

theorem HistoryOrder.initial {history : OtaHistory}
    (starts : HistoryInitial history) : HistoryOrder history := by
  obtain ⟨⟨reply, upTime, _, system⟩, fresh⟩ := starts
  rw [system] at fresh
  subst fresh
  constructor
  · simp
  · exact List.suffix_refl _
  · rfl
  · simp
  · exact Nat.le_refl _
  · simp
  · constructor <;> simp

theorem TimerOrder.quiet {history : OtaHistory} {system : OtaState}
    (order : TimerOrder history)
    (timer : system.timer = .idle ∨ system.timer = history.system.timer ∧
      system.upTime = history.system.upTime) :
    TimerOrder { history with system } := by
  rcases timer with idle | ⟨sameTimer, sameUpTime⟩
  · constructor <;> simp [idle]
  · obtain ⟨counted, rebooted, loaded⟩ := order
    constructor
    · simpa [sameTimer] using counted
    · simpa [sameTimer, sameUpTime] using rebooted
    · simpa [sameTimer] using loaded

/-- Lines behind the ones that the callback works on do not matter to it. -/
theorem TimerOrder.appends {history following : OtaHistory}
    {lines : List MissionLine} (order : TimerOrder history)
    (inside : history.counted ≤ history.file.length)
    (timer : following.system.timer = history.system.timer)
    (upTime : following.system.upTime = history.system.upTime)
    (file : following.file = history.file ++ lines)
    (counted : following.counted = history.counted)
    (queued : following.queued = history.queued) : TimerOrder following := by
  have early : history.counted % 256 ≤ history.file.length :=
    Nat.le_trans (Nat.mod_le _ _) inside
  constructor
  · intro num here
    obtain ⟨nonempty, count⟩ := order.counted num (timer ▸ here)
    exact ⟨by simp [file, nonempty], counted ▸ count⟩
  · intro num uptime here
    obtain ⟨nonempty, count, later, first⟩ :=
      order.rebooted num uptime (timer ▸ here)
    refine ⟨by simp [file, nonempty], counted ▸ count, upTime ▸ later, ?_⟩
    obtain ⟨head, rest, split⟩ := List.exists_cons_of_ne_nil nonempty
    rw [split] at first
    rw [file, split]
    exact first
  · intro here
    rw [file, counted, queued, List.take_append_of_le_length early]
    exact order.loaded (timer ▸ here)

theorem HistoryOrder.appends {history : OtaHistory} {system : OtaState}
    {info : FwDownInfo} (order : HistoryOrder history)
    (mission : system.mission = history.system.mission ++
      missionRecord info history.system.upTime)
    (timer : system.timer = history.system.timer)
    (upTime : system.upTime = history.system.upTime) :
    HistoryOrder
      { history with
        system
        appended := history.appended ++ history.newLines info
        file := history.file ++ history.newLines info } := by
  obtain ⟨old, whole⟩ := order.suffix
  constructor
  · intro index line found
    by_cases inside : index < history.appended.length
    · rw [List.getElem?_append_left inside] at found
      exact order.numbered index line found
    · have after : history.appended.length ≤ index := Nat.le_of_not_lt inside
      rw [List.getElem?_append_right after] at found
      have number := missionLines_number found
      omega
  · exact ⟨old, by rw [← List.append_assoc, whole]⟩
  · rw [mission, order.text, List.flatMap_append, OtaHistory.newLines,
      missionLines_text]
  · intro line member
    rcases List.mem_append.mp member with earlier | added
    · exact order.lines line earlier
    · exact missionLines_ofRecord added
  · have inside := order.counted
    simp only [List.length_append]
    omega
  · intro line member
    have bounds := order.queued line member
    simp only [List.length_append]
    omega
  · exact order.timer.appends order.counted timer upTime rfl rfl rfl

theorem HistoryOrder.compares {history : OtaHistory}
    {block info : FwDownInfo} {num : UInt8} {uptime : CArray 30}
    (order : HistoryOrder history)
    (counted : history.system.timer = .counted num)
    (scanned : scanRecord (systemOutput 256
      (sedLine 0 history.system.mission)) block (.cleared 29) =
        some (info, uptime))
    (later : ¬uptime.text.isPrefixOf history.system.upTime.text = true) :
    TimerOrder
      { history with
        system := { history.system with timer := .rebooted num uptime } } := by
  obtain ⟨nonempty, count⟩ := order.timer.counted num counted
  constructor
  · simp
  · intro other compared same
    cases same
    refine ⟨nonempty, count, later, fun head first plain => ?_⟩
    obtain ⟨line, record⟩ := order.firstLine first
    rw [line] at scanned
    exact plain.readBack record scanned
  · simp

theorem HistoryOrder.loads {history : OtaHistory}
    {blocks infos : List FwDownInfo} {num : UInt8} {uptime : CArray 30}
    (order : HistoryOrder history)
    (rebooted : history.system.timer = .rebooted num uptime)
    (enough : blocks.length = num.toNat) :
    HistoryOrder
      { history with
        system := { history.system with
          tasks := history.system.tasks ++ infos, timer := .loaded }
        queued := history.queued ++
          (history.file.take blocks.length).map fun line =>
            (line, history.system.upTime) } := by
  obtain ⟨_, count, _⟩ := order.timer.rebooted num uptime rebooted
  have fresh (lines : List MissionLine) :
      (lines.map fun line => (line, history.system.upTime)).map Prod.fst =
        lines := by
    simp [List.map_map, Function.comp_def]
  refine ⟨order.numbered, order.suffix, order.text, order.lines,
    order.counted, ?_, ?_⟩
  · intro line member
    rw [List.map_append, fresh] at member
    rcases List.mem_append.mp member with before | now
    · exact order.queued line before
    · obtain ⟨index, found⟩ := List.getElem?_of_mem now
      rw [List.getElem?_take] at found
      split at found
      · rename_i early
        have number := order.number found
        have byte := num.toNat_lt
        have most : num.toNat ≤ history.counted :=
          count ▸ Nat.mod_le _ _
        simp only
        omega
      · cases found
  · constructor
    · simp
    · simp
    · intro _ line member
      rw [List.map_append, fresh, enough, count]
      exact List.mem_append_right _ member

theorem HistoryOrder.step {history following : OtaHistory}
    {event : OtaEvent} {emitted : List OtaOutput}
    (order : HistoryOrder history)
    (stepped : historyStep history event = some (following, emitted)) :
    HistoryOrder following := by
  cases historyStep_change stepped with
  | quiet system _ _ mission timer =>
      exact { order with
        text := mission.trans order.text, timer := order.timer.quiet timer }
  | appends system info mission timer upTime =>
      exact order.appends mission timer upTime
  | counts nonempty =>
      have holding : history.file ≠ [] := by
        intro empty
        rw [order.text, empty] at nonempty
        exact nonempty rfl
      refine { order with counted := Nat.le_refl _, queued := ?_, timer := ?_ }
      · intro line member
        have bounds := order.queued line member
        have inside := order.counted
        simp only
        omega
      · constructor
        · intro num same
          cases same
          refine ⟨holding, ?_⟩
          rw [order.fileLines.2]
          rfl
        · simp
        · simp
  | compares block info num uptime counted scanned later =>
      exact { order with timer := order.compares counted scanned later }
  | loads blocks infos num uptime rebooted enough =>
      exact order.loads rebooted enough
  | removes _ =>
      constructor
      · exact order.numbered
      · exact List.nil_suffix
      · rfl
      · simp
      · exact Nat.le_refl _
      · intro line member
        have bounds := order.queued line member
        have inside := order.counted
        simp only [List.length_nil]
        omega
      · constructor <;> simp

end RtA100
