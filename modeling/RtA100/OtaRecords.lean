import RtA100.OtaHistory
import RtA100.OtaVerified

/-!
# Records are kept, and wait for a reboot

`reboot_upgrade_task_cb` compares the `up_time` of the first line of the
mission file, queues as many lines as it has counted before, and then removes
the whole file, outside the mutex under which lines are appended.  The two
conditions say when the first line speaks for the counted ones, and when the
counted ones are the whole file.
-/

namespace RtA100

open Library

/-! ## Runs of the updater -/

def freshHistory : OtaHistory :=
  { system := freshOta, appended := [], file := [], counted := 0
    queued := [] }

theorem freshHistory_initial : HistoryInitial freshHistory :=
  ⟨freshOta_initial, rfl⟩

/-- The device reports the start of its last boot. -/
def bootReply (boot : String) : OtaEvent :=
  .heartbeatInfo ("1,2,3,4,5,6,".toList ++ boot.toList ++ ",8,".toList)

/-- A heartbeat delivers a task for the next reboot. -/
def waitingTask (taskId : Int) : OtaEvent :=
  .heartbeatTasks
    [{ taskId, artifactUrl := "f.tgz".toList, artifactMd5 := "0f".toList
       taskType := otaTaskNext }]

/-- The download thread works off its only task and releases the mutex. -/
def downloadOne : List OtaEvent :=
  [.lock, .takeTask 0, .check "0f  f.tgz\n".toList, .transfer true,
    .update true true, .finishTask, .takeTask 0]

/-- A task recorded under the first boot, and another one delivered under the
second. -/
def twoBoots : List OtaEvent :=
  [bootReply "boot 1", waitingTask 7] ++ downloadOne ++
    [bootReply "boot 2", waitingTask 8]

/-- The second task is recorded before the callback runs. -/
def earlyAppend : List OtaEvent :=
  twoBoots ++ downloadOne ++
    [.countMissions, .compareUpTime blankInfo,
      .loadMissions [blankInfo, blankInfo], .removeMissions]

/-- The second task is recorded after the callback has counted the lines. -/
def lateAppend : List OtaEvent :=
  twoBoots ++ [.countMissions, .compareUpTime blankInfo] ++ downloadOne ++
    [.loadMissions [blankInfo], .removeMissions]

/-! ## No record is lost -/

/-- Every line ever appended is in the file or has been queued. -/
def RecordsKept (history : OtaHistory) : Prop :=
  ∀ line ∈ history.appended, line ∈ history.file ∨
    line ∈ history.queued.map Prod.fst

instance (history : OtaHistory) : Decidable (RecordsKept history) :=
  inferInstanceAs (Decidable (∀ line ∈ history.appended, _))

/-- The file that is removed holds the lines that were counted, and they were
fewer than 256. -/
def RemovesCounted (history : OtaHistory) (event : OtaEvent) : Prop :=
  event = .removeMissions →
    history.file.length = history.counted ∧ history.counted < 256

/-- The lines of the file have all been queued exactly when the count was right
and still is. -/
theorem HistoryOrder.queued_iff {history : OtaHistory}
    (order : HistoryOrder history) (loaded : history.system.timer = .loaded) :
    (∀ line ∈ history.file, line ∈ history.queued.map Prod.fst) ↔
      history.file.length = history.counted ∧ history.counted < 256 := by
  have counted := order.counted
  constructor
  · intro queued
    rcases List.eq_nil_or_concat history.file with empty | ⟨early, last, split⟩
    · rw [empty] at counted ⊢
      simp only [List.length_nil] at counted ⊢
      omega
    · have found : history.file[early.length]? = some last := by
        simp [split]
      have number := order.number found
      have length : history.file.length = early.length + 1 := by
        simp [split]
      obtain ⟨below, byte⟩ :=
        order.queued last (queued last (List.mem_of_getElem? found))
      omega
  · rintro ⟨whole, byte⟩ line member
    refine order.timer.loaded loaded line ?_
    rw [Nat.mod_eq_of_lt byte, ← whole, List.take_length]
    exact member

theorem recordsKept_step_iff {history following : OtaHistory}
    {event : OtaEvent} {emitted : List OtaOutput}
    (order : HistoryOrder history) (kept : RecordsKept history)
    (stepped : historyStep history event = some (following, emitted)) :
    RecordsKept following ↔ RemovesCounted history event := by
  cases historyStep_change stepped with
  | quiet _ _ other _ _ =>
      exact iff_of_true kept fun same => absurd same other
  | appends _ _ _ _ _ =>
      refine iff_of_true ?_ (by simp [RemovesCounted])
      intro line member
      rcases List.mem_append.mp member with earlier | added
      · rcases kept line earlier with inFile | queued
        · exact .inl (List.mem_append_left _ inFile)
        · exact .inr queued
      · exact .inl (List.mem_append_right _ added)
  | counts _ => exact iff_of_true kept (by simp [RemovesCounted])
  | compares _ _ _ _ _ _ _ => exact iff_of_true kept (by simp [RemovesCounted])
  | loads _ _ _ _ _ _ =>
      refine iff_of_true ?_ (by simp [RemovesCounted])
      intro line member
      rcases kept line member with inFile | queued
      · exact .inl inFile
      · refine .inr ?_
        rw [List.map_append]
        exact List.mem_append_left _ queued
  | removes loaded =>
      have removing : RemovesCounted history .removeMissions ↔
          history.file.length = history.counted ∧ history.counted < 256 := by
        simp [RemovesCounted]
      rw [removing, ← order.queued_iff loaded]
      constructor
      · intro keptAfter line member
        rcases keptAfter line (order.suffix.mem member) with inFile | queued
        · cases inFile
        · exact queued
      · intro queued line member
        rcases kept line member with inFile | before
        · exact .inr (queued line inFile)
        · exact .inr before

/-- For every interleaving of the threads, no line is lost exactly when the
file is only removed with the lines that were counted. -/
theorem recordsKept_along_iff {history : OtaHistory}
    (starts : HistoryInitial history) (events : List OtaEvent) :
    historyMachine.Along RecordsKept history events ↔
      historyMachine.Takes RemovesCounted history events := by
  have order := HistoryOrder.initial starts
  have kept : RecordsKept history := by
    rw [starts.2]
    exact fun _ member => absurd member List.not_mem_nil
  exact @Machine.along_iff_takes _ _ _ historyMachine RemovesCounted
    HistoryOrder RecordsKept
    (fun _ _ _ _ order stepped => order.step stepped)
    (fun _ _ _ _ order kept stepped =>
      recordsKept_step_iff order kept stepped)
    history order kept events

theorem recordsKept_along_lateAppend :
    historyMachine.Along RecordsKept freshHistory lateAppend ↔
      historyMachine.Takes RemovesCounted freshHistory lateAppend :=
  recordsKept_along_iff freshHistory_initial lateAppend

/-- A record that is appended after the count is removed with the file. -/
theorem late_append_lost : ∃ outputs history,
    historyMachine.Reaches Machine.anyStep outputs history ∧
      ¬RecordsKept history := by
  have computed : (historyMachine.run (fun _ _ => true) freshHistory
      lateAppend).map (fun result => decide (RecordsKept result.1)) =
        some false := by
    decide +kernel
  obtain ⟨outputs, history, reached, lost⟩ :=
    Machine.Reaches.of_run (fun _ _ _ => trivial) freshHistory_initial computed
  exact ⟨outputs, history, reached, of_decide_eq_false lost⟩

/-! ## A record waits for its own reboot -/

/-- Every line is queued under a known `up_time` that is not its own. -/
def RecordsWait (history : OtaHistory) : Prop :=
  ∀ entry ∈ history.queued,
    entry.2.text ≠ [] ∧ entry.2.text ≠ entry.1.upTime.text

instance (history : OtaHistory) : Decidable (RecordsWait history) :=
  inferInstanceAs (Decidable (∀ entry ∈ history.queued, _))

/-- The first of the lines that are queued speaks for them: `up_time` is known,
no later one was appended under it, and the first is either read back as it was
written or was not appended under it. -/
structure FirstSpeaks (upTime : CArray 30) (lines : List MissionLine) :
    Prop where
  known : lines ≠ [] → upTime.text ≠ []
  later : ∀ line ∈ lines.tail, upTime.text ≠ line.upTime.text
  first : ∀ line ∈ lines.head?,
    line.Plain ∨ upTime.text ≠ line.upTime.text

def QueuesEarlier (history : OtaHistory) : OtaEvent → Prop
  | .loadMissions blocks =>
      FirstSpeaks history.system.upTime (history.file.take blocks.length)
  | _ => True

theorem isPrefixOf_self (text : CString) : text.isPrefixOf text = true :=
  List.isPrefixOf_iff_prefix.mpr (List.prefix_refl _)

/-- The comparison has settled the question for a plain first line. -/
theorem firstSpeaks_iff {upTime : CArray 30} {lines : List MissionLine}
    (compared : ∀ head ∈ lines.head?, head.Plain →
      upTime.text ≠ head.upTime.text) :
    (∀ line ∈ lines, upTime.text ≠ [] ∧ upTime.text ≠ line.upTime.text) ↔
      FirstSpeaks upTime lines := by
  constructor
  · intro wait
    refine ⟨fun nonempty => ?_, fun line member => ?_, fun line member => ?_⟩
    · obtain ⟨line, member⟩ := List.exists_mem_of_ne_nil _ nonempty
      exact (wait line member).1
    · exact (wait line (List.mem_of_mem_tail member)).2
    · exact .inr (wait line (List.mem_of_mem_head? member)).2
  · rintro ⟨known, later, first⟩ line member
    refine ⟨known (List.ne_nil_of_mem member), ?_⟩
    cases lines with
    | nil => cases member
    | cons head rest =>
        rcases List.mem_cons.mp member with rfl | behind
        · rcases first line rfl with plain | other
          · exact compared line rfl plain
          · exact other
        · exact later line behind

theorem recordsWait_step_iff {history following : OtaHistory}
    {event : OtaEvent} {emitted : List OtaOutput}
    (order : HistoryOrder history) (wait : RecordsWait history)
    (stepped : historyStep history event = some (following, emitted)) :
    RecordsWait following ↔ QueuesEarlier history event := by
  cases historyStep_change stepped with
  | quiet _ other _ _ _ =>
      refine iff_of_true wait ?_
      cases event with
      | loadMissions blocks => exact absurd rfl (other blocks)
      | _ => trivial
  | appends _ _ _ _ _ => exact iff_of_true wait trivial
  | counts _ => exact iff_of_true wait trivial
  | compares _ _ _ _ _ _ _ => exact iff_of_true wait trivial
  | removes _ => exact iff_of_true wait trivial
  | loads blocks infos num uptime rebooted enough =>
      obtain ⟨_, _, different, first⟩ :=
        order.timer.rebooted num uptime rebooted
      have compared : ∀ head ∈ (history.file.take blocks.length).head?,
          head.Plain →
            history.system.upTime.text ≠ head.upTime.text := by
        intro head member plain same
        have atFront : head ∈ history.file.head? := by
          rw [List.head?_take] at member
          split at member
          · cases member
          · exact member
        rw [first head atFront plain, ← same] at different
        exact different (isPrefixOf_self _)
      rw [QueuesEarlier, ← firstSpeaks_iff compared]
      constructor
      · intro waitAfter line member
        exact waitAfter (line, history.system.upTime)
          (List.mem_append_right _ (List.mem_map.mpr ⟨line, member, rfl⟩))
      · intro now entry member
        rcases List.mem_append.mp member with before | added
        · exact wait entry before
        · obtain ⟨line, here, rfl⟩ := List.mem_map.mp added
          exact now line here

/-- For every history of the file and of `up_time`, every line waits for its
own reboot exactly when lines are only queued while the first one speaks for
them. -/
theorem recordsWait_along_iff {history : OtaHistory}
    (starts : HistoryInitial history) (events : List OtaEvent) :
    historyMachine.Along RecordsWait history events ↔
      historyMachine.Takes QueuesEarlier history events := by
  have order := HistoryOrder.initial starts
  have wait : RecordsWait history := by
    rw [starts.2]
    exact fun _ member => absurd member List.not_mem_nil
  exact @Machine.along_iff_takes _ _ _ historyMachine QueuesEarlier
    HistoryOrder RecordsWait
    (fun _ _ _ _ order stepped => order.step stepped)
    (fun _ _ _ _ order wait stepped =>
      recordsWait_step_iff order wait stepped)
    history order wait events

theorem recordsWait_along_earlyAppend :
    historyMachine.Along RecordsWait freshHistory earlyAppend ↔
      historyMachine.Takes QueuesEarlier freshHistory earlyAppend :=
  recordsWait_along_iff freshHistory_initial earlyAppend

/-- A record of the present boot is queued behind one of an earlier boot. -/
theorem early_append_queued : ∃ outputs history,
    historyMachine.Reaches Machine.anyStep outputs history ∧
      ¬RecordsWait history := by
  have computed : (historyMachine.run (fun _ _ => true) freshHistory
      earlyAppend).map (fun result => decide (RecordsWait result.1)) =
        some false := by
    decide +kernel
  obtain ⟨outputs, history, reached, queued⟩ :=
    Machine.Reaches.of_run (fun _ _ _ => trivial) freshHistory_initial computed
  exact ⟨outputs, history, reached, of_decide_eq_false queued⟩

end RtA100
