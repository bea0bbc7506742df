import RtA100.TaskProcessing

/-!
# Strings of a task and their arrays

The strings of a response are copied into the arrays of `FwDownInfo` when it is
parsed, and once more when `do_downlaod_firmware` prepares the task.  The first
copies overflow on long strings, the second on a url with a long segment, also
when that is not the file name.
-/

namespace RtA100

open Library

/-- Every segment of the url leaves room for the terminator of the file
name. -/
def HeartbeatTask.ShortSegments (task : HeartbeatTask) : Prop :=
  ∀ segment ∈ strtok '/' task.artifactUrl, segment.length < 64

/-- If the response is accepted, the copies of the parser are defined, and so
are those that `do_downlaod_firmware` makes for each new entry. -/
def OtaStringsFit (cJsonParse : CString → Option CJson) (list : TaskList)
    (respond : CString) : Prop :=
  ¬ResponseRejected (cJsonParse respond) →
    ∃ following entries,
      otaHeartbeatRespParseText cJsonParse list respond =
          some (following, 0) ∧
        following.nodes = list.nodes ++ entries ∧
        ∀ info ∈ entries, ∀ fileName,
          ∃ call, prepareTask fileName info = some call

theorem HeartbeatTask.StoredAs.shortSegments {task : HeartbeatTask}
    {info : FwDownInfo} (stored : task.StoredAs info) :
    info.ShortSegments ↔ task.ShortSegments := by
  rw [FwDownInfo.ShortSegments, HeartbeatTask.ShortSegments, stored.url]

/-- The entries have short segments exactly when their tasks have. -/
theorem otaHeartbeatRespParse_shortSegments {tasks : List HeartbeatTask}
    {infos : List FwDownInfo}
    (parsed : otaHeartbeatRespParse tasks = some infos) :
    (∀ info ∈ infos, info.ShortSegments) ↔
      ∀ task ∈ tasks, task.ShortSegments := by
  induction tasks generalizing infos with
  | nil =>
      cases parsed
      exact iff_of_true (by simp) (by simp)
  | cons task tasks induction =>
      obtain ⟨info, more, stored, rest, rfl⟩ :=
        otaHeartbeatRespParse_cons parsed
      rw [List.forall_mem_cons, List.forall_mem_cons, induction rest,
        stored.shortSegments]

theorem prepareTask_always_defined_iff {info : FwDownInfo} :
    (∀ fileName, ∃ call, prepareTask fileName info = some call) ↔
      info.ShortSegments :=
  ⟨fun defined => prepareTask_defined_iff.mp (defined (.cleared 63)),
    fun short _ => prepareTask_defined_iff.mpr short⟩

theorem OtaStringsFit.short {cJsonParse : CString → Option CJson}
    {list : TaskList} {respond : CString} {task : HeartbeatTask}
    (fits : OtaStringsFit cJsonParse list respond)
    (accepted : ¬ResponseRejected (cJsonParse respond))
    (member : task ∈ describedTasks (cJsonParse respond)) :
    task.Fits ∧ task.ShortSegments := by
  obtain ⟨following, entries, parsed, nodes, prepared⟩ := fits accepted
  rw [otaHeartbeatRespParseText, otaHeartbeatRespParseTree_accepted accepted]
    at parsed
  obtain ⟨infos, defined, result⟩ := Option.map_eq_some_iff.mp parsed
  cases result
  rw [TaskList.insertAll_nodes] at nodes
  simp only [prepareTask_always_defined_iff,
    ← List.append_cancel_left nodes] at prepared
  exact ⟨(otaHeartbeatRespParse_defined_iff _).mp ⟨infos, defined⟩ task member,
    (otaHeartbeatRespParse_shortSegments defined).mp prepared task member⟩

/-- All strings of an accepted response fit exactly when those of its tasks are
short, with all segments of their urls. -/
theorem otaStringsFit_iff (cJsonParse : CString → Option CJson)
    (list : TaskList) (respond : CString) :
    OtaStringsFit cJsonParse list respond ↔
      (¬ResponseRejected (cJsonParse respond) →
        ∀ task ∈ describedTasks (cJsonParse respond),
          task.Fits ∧ task.ShortSegments) := by
  constructor
  · intro fits accepted task member
    exact fits.short accepted member
  · intro short accepted
    obtain ⟨infos, defined⟩ := (otaHeartbeatRespParse_defined_iff _).mpr
      fun task member => (short accepted task member).1
    have parsed : otaHeartbeatRespParseText cJsonParse list respond =
        some (list.insertAll infos, 0) := by
      rw [otaHeartbeatRespParseText,
        otaHeartbeatRespParseTree_accepted accepted, defined]
      rfl
    refine ⟨list.insertAll infos, infos, parsed,
      list.insertAll_nodes infos, ?_⟩
    simp only [prepareTask_always_defined_iff]
    exact (otaHeartbeatRespParse_shortSegments defined).mpr
      fun task member => (short accepted task member).2

/-- A url of one segment of 64 characters fits its own array, but not the file
name. -/
theorem long_segment_overflows_name :
    ¬OtaStringsFit (fun _ => some (urlResponse 64)) emptyTaskList [] := by
  intro claimed
  have accepted : ¬ResponseRejected (some (urlResponse 64)) := by
    rintro ⟨code, found, failure⟩
    cases found
    exact failure rfl
  have short := (claimed.short accepted List.mem_cons_self).2
  have segment : List.replicate 64 'u' ∈
      strtok '/' (List.replicate 64 'u') := by decide
  exact absurd (short _ segment) (by decide)

end RtA100
