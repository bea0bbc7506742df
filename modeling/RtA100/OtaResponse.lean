import RtA100.OtaMission

/-!
# The response to an OTA heartbeat

`ota_heartbeat_resp_parse` reads the tree that cJSON makes of a response, and
appends a task for every well-typed element of `taskList`.  It copies the
strings of a task with `strcpy`, so a string that does not fit its array is
undefined behaviour; otherwise the response is taken over exactly, or not at
all.
-/

namespace RtA100

open Library

/-! ## Trees and lists -/

/-- A cJSON tree, with the members and elements that the parser reads.  Of a
number only `valueint` is kept, which is all that the program looks at. -/
inductive CJson where
  | null
  | bool (value : Bool)
  | number (valueint : Int)
  | string (valuestring : CString)
  | array (elements : List CJson)
  | object (members : List (CString × CJson))

/-- `cJSON_GetObjectItemCaseSensitive`: the first member of that name. -/
def CJson.item (name : CString) : CJson → Option CJson
  | .object members =>
      (members.find? fun member => member.1 = name).map Prod.snd
  | _ => none

/-- `struct List` of tasks; it counts its nodes in 16 bits. -/
structure TaskList where
  nodes : List FwDownInfo
  count : UInt16
  counted : count = .ofNat nodes.length

/-- `List_Insert` -/
def TaskList.insert (list : TaskList) (info : FwDownInfo) : TaskList :=
  { nodes := list.nodes ++ [info]
    count := list.count + 1
    counted := by
      rw [list.counted, List.length_append, UInt16.ofNat_add]
      rfl }

/-- Insert several tasks in order. -/
def TaskList.insertAll (list : TaskList) (infos : List FwDownInfo) :
    TaskList :=
  infos.foldl TaskList.insert list

theorem TaskList.insertAll_nodes (list : TaskList)
    (infos : List FwDownInfo) :
    (list.insertAll infos).nodes = list.nodes ++ infos := by
  induction infos generalizing list with
  | nil => exact (List.append_nil _).symm
  | cons info infos induction =>
      have rest := induction (list.insert info)
      rw [TaskList.insert, List.append_assoc] at rest
      exact rest

/-- The count is exact as long as it does not wrap. -/
theorem TaskList.count_toNat {list : TaskList}
    (short : list.nodes.length < 65536) :
    list.count.toNat = list.nodes.length := by
  rw [list.counted, UInt16.toNat_ofNat']
  omega

/-! ## The parser -/

def codeName : CString := "code".toList

def codeSuccess : CString := "SUCCESS".toList

def taskListName : CString := "taskList".toList

def taskIdName : CString := "taskId".toList

def artifactUrlName : CString := "artifactUrl".toList

def artifactMd5Name : CString := "artifactMd5".toList

def taskTypeName : CString := "taskType".toList

/-- The loop of `ota_heartbeat_resp_parse` over the elements of `taskList`. -/
def parseTaskList : List CJson → TaskList → Option TaskList
  | [], list => some list
  | taskObj :: rest, list =>
      match taskObj.item taskIdName, taskObj.item artifactUrlName,
        taskObj.item artifactMd5Name, taskObj.item taskTypeName with
      | some (.number valueint), some (.string urlString),
        some (.string md5String), some (.string typeString) => do
          let url ← strcpy 128 urlString
          let md5 ← strcpy 64 md5String
          let type ← strcpy 20 typeString
          parseTaskList rest (list.insert
            { id := .ofInt valueint, url, md5, type, flag := fwNeedDownload })
      | _, _, _, _ => parseTaskList rest list

/-- `ota_heartbeat_resp_parse` behind its test of `code`. -/
def parseAccepted (list : TaskList) (root : CJson) :
    Option (TaskList × Int) :=
  match root.item taskListName with
  | some (.array elements) =>
      (parseTaskList elements list).map fun list => (list, 0)
  | _ => some (list, 0)

/-- `ota_heartbeat_resp_parse`, on what `cJSON_Parse` makes of the text. -/
def otaHeartbeatRespParseTree (list : TaskList) :
    Option CJson → Option (TaskList × Int)
  | none => some (list, -1)
  | some root =>
      match root.item codeName with
      | some (.string code) =>
          if code = codeSuccess then parseAccepted list root
          else some (list, -1)
      | _ => parseAccepted list root

/-- `ota_heartbeat_resp_parse`, for a given parser of texts. -/
def otaHeartbeatRespParseText (cJsonParse : CString → Option CJson)
    (list : TaskList) (respond : CString) : Option (TaskList × Int) :=
  otaHeartbeatRespParseTree list (cJsonParse respond)

/-! ## What a response means -/

/-- The task that an element of `taskList` describes, if its four members have
the right types. -/
def CJson.task (element : CJson) : Option HeartbeatTask :=
  match element.item taskIdName, element.item artifactUrlName,
    element.item artifactMd5Name, element.item taskTypeName with
  | some (.number taskId), some (.string artifactUrl),
    some (.string artifactMd5), some (.string taskType) =>
      some { taskId, artifactUrl, artifactMd5, taskType }
  | _, _, _, _ => none

/-- The response is no JSON, or its code is a string other than success. -/
def ResponseRejected : Option CJson → Prop
  | none => True
  | some root => ∃ code, root.item codeName = some (.string code) ∧
      code ≠ codeSuccess

/-- The tasks of an array `taskList`, in order. -/
def describedTasks : Option CJson → List HeartbeatTask
  | none => []
  | some root =>
      match root.item taskListName with
      | some (.array elements) => elements.filterMap CJson.task
      | _ => []

/-- The strings of a task fit the arrays of `FwDownInfo`. -/
def HeartbeatTask.Fits (task : HeartbeatTask) : Prop :=
  task.artifactUrl.length < 128 ∧ task.artifactMd5.length < 64 ∧
    task.taskType.length < 20

instance (task : HeartbeatTask) : Decidable task.Fits :=
  inferInstanceAs (Decidable (_ ∧ _ ∧ _))

/-- What an entry of the list takes from its task. -/
def FwDownInfo.contents (info : FwDownInfo) :
    UInt8 × CString × CString × CString :=
  (info.flag, info.url.text, info.md5.text, info.type.text)

/-- What an entry for the task should hold. -/
def HeartbeatTask.contents (task : HeartbeatTask) :
    UInt8 × CString × CString × CString :=
  (fwNeedDownload, task.artifactUrl, task.artifactMd5, task.taskType)

/-- The call returns -1 and leaves the list alone on a rejected response, and
otherwise returns 0 and appends one entry for each task that fits. -/
def ResponseExact (cJsonParse : CString → Option CJson) (list : TaskList)
    (respond : CString) : Prop :=
  ∃ following ret,
    otaHeartbeatRespParseText cJsonParse list respond =
        some (following, ret) ∧
      (ret = -1 ∧ ResponseRejected (cJsonParse respond) ∧ following = list ∨
        ret = 0 ∧ ¬ResponseRejected (cJsonParse respond) ∧
          (∃ entries, following.nodes = list.nodes ++ entries ∧
            entries.map FwDownInfo.contents =
              ((describedTasks (cJsonParse respond)).filter
                (·.Fits)).map HeartbeatTask.contents) ∧
          (following.nodes.length < 65536 →
            following.count.toNat = following.nodes.length))

/-! ## The loop over the elements -/

/-- The loop inserts the tasks that its elements describe. -/
theorem parseTaskList_eq (elements : List CJson) (list : TaskList) :
    parseTaskList elements list =
      (otaHeartbeatRespParse (elements.filterMap CJson.task)).map
        list.insertAll := by
  induction elements generalizing list with
  | nil => rfl
  | cons element elements induction =>
      unfold parseTaskList
      split
      · rename_i valueint url md5 type idFound urlFound md5Found typeFound
        have described : element.task = some
            { taskId := valueint, artifactUrl := url, artifactMd5 := md5
              taskType := type } := by
          unfold CJson.task
          rw [idFound, urlFound, md5Found, typeFound]
        rw [List.filterMap_cons_some described, otaHeartbeatRespParse]
        cases strcpy 128 url with
        | none => rfl
        | some url =>
            cases strcpy 64 md5 with
            | none => rfl
            | some md5 =>
                cases strcpy 20 type with
                | none => rfl
                | some type =>
                    simp only [Option.bind_eq_bind, Option.bind_some,
                      induction, Option.map_bind]
                    cases otaHeartbeatRespParse
                      (elements.filterMap CJson.task) <;> rfl
      · rename_i other
        have nothing : element.task = none := by
          unfold CJson.task
          split
          · rename_i idFound urlFound md5Found typeFound
            exact absurd typeFound (other _ _ _ _ idFound urlFound md5Found)
          · rfl
        rw [List.filterMap_cons_none nothing, induction]

theorem strcpy_defined_iff {size : Nat} {source : CString} :
    (∃ copied, strcpy size source = some copied) ↔ source.length < size := by
  unfold strcpy
  split
  · rename_i fits
    exact iff_of_true ⟨_, rfl⟩ fits
  · rename_i long
    exact iff_of_false (by simp) long

/-- The copies are defined exactly when every task fits, and then hold what the
tasks say. -/
theorem otaHeartbeatRespParse_defined_iff (tasks : List HeartbeatTask) :
    (∃ infos, otaHeartbeatRespParse tasks = some infos) ↔
      ∀ task ∈ tasks, task.Fits := by
  induction tasks with
  | nil => exact iff_of_true ⟨[], rfl⟩ (by simp)
  | cons task tasks induction =>
      rw [List.forall_mem_cons, ← induction, HeartbeatTask.Fits,
        ← strcpy_defined_iff, ← strcpy_defined_iff, ← strcpy_defined_iff]
      simp only [otaHeartbeatRespParse, Option.bind_eq_bind,
        Option.bind_eq_some_iff]
      constructor
      · rintro ⟨_, url, copied, md5, md5Copied, type, typeCopied, infos,
          rest, _⟩
        exact ⟨⟨⟨url, copied⟩, ⟨md5, md5Copied⟩, ⟨type, typeCopied⟩⟩,
          infos, rest⟩
      · rintro ⟨⟨⟨url, copied⟩, ⟨md5, md5Copied⟩, ⟨type, typeCopied⟩⟩,
          infos, rest⟩
        exact ⟨_, url, copied, md5, md5Copied, type, typeCopied, infos,
          rest, rfl⟩

theorem otaHeartbeatRespParse_contents {tasks : List HeartbeatTask}
    {infos : List FwDownInfo}
    (parsed : otaHeartbeatRespParse tasks = some infos) :
    infos.map FwDownInfo.contents = tasks.map HeartbeatTask.contents := by
  induction tasks generalizing infos with
  | nil =>
      cases parsed
      rfl
  | cons task tasks induction =>
      obtain ⟨info, more, stored, rest, rfl⟩ :=
        otaHeartbeatRespParse_cons parsed
      rw [List.map_cons, List.map_cons, induction rest, FwDownInfo.contents,
        HeartbeatTask.contents, stored.flag, stored.url, stored.md5,
        stored.type]

/-! ## The whole response -/

theorem parseAccepted_eq (list : TaskList) (root : CJson) :
    parseAccepted list root =
      (otaHeartbeatRespParse (describedTasks (some root))).map
        fun infos => (list.insertAll infos, 0) := by
  unfold parseAccepted
  split
  · rename_i elements found
    have described : describedTasks (some root) =
        elements.filterMap CJson.task := by
      simp only [describedTasks, found]
    rw [described, parseTaskList_eq, Option.map_map]
    rfl
  · rename_i other
    have nothing : describedTasks (some root) = [] := by
      simp only [describedTasks]
    rw [nothing]
    rfl

theorem otaHeartbeatRespParseTree_rejected {list : TaskList}
    {response : Option CJson} (rejected : ResponseRejected response) :
    otaHeartbeatRespParseTree list response = some (list, -1) := by
  cases response with
  | none => rfl
  | some root =>
      obtain ⟨code, found, failure⟩ := rejected
      unfold otaHeartbeatRespParseTree
      simp only [found, failure, if_false]

theorem otaHeartbeatRespParseTree_accepted {list : TaskList}
    {response : Option CJson} (accepted : ¬ResponseRejected response) :
    otaHeartbeatRespParseTree list response =
      (otaHeartbeatRespParse (describedTasks response)).map
        fun infos => (list.insertAll infos, 0) := by
  cases response with
  | none => exact absurd trivial accepted
  | some root =>
      unfold otaHeartbeatRespParseTree
      simp only
      split
      · rename_i code found
        have success : code = codeSuccess :=
          Decidable.byContradiction fun failure =>
            accepted ⟨code, found, failure⟩
        rw [if_pos success, parseAccepted_eq]
      · rw [parseAccepted_eq]

/-- The list only ever grows at its end. -/
theorem otaHeartbeatRespParseTree_extends {list following : TaskList}
    {response : Option CJson} {ret : Int}
    (parsed : otaHeartbeatRespParseTree list response =
      some (following, ret)) : list.nodes <+: following.nodes := by
  by_cases rejected : ResponseRejected response
  · rw [otaHeartbeatRespParseTree_rejected rejected] at parsed
    cases parsed
    exact List.prefix_rfl
  · rw [otaHeartbeatRespParseTree_accepted rejected] at parsed
    obtain ⟨infos, _, result⟩ := Option.map_eq_some_iff.mp parsed
    cases result
    rw [TaskList.insertAll_nodes]
    exact List.prefix_append _ _

/-- A response is taken over exactly, for any parser of texts and any list,
exactly when it is rejected or all its tasks fit. -/
theorem responseExact_iff (cJsonParse : CString → Option CJson)
    (list : TaskList) (respond : CString) :
    ResponseExact cJsonParse list respond ↔
      ResponseRejected (cJsonParse respond) ∨
        ∀ task ∈ describedTasks (cJsonParse respond), task.Fits := by
  unfold ResponseExact otaHeartbeatRespParseText
  generalize cJsonParse respond = response
  by_cases rejected : ResponseRejected response
  · refine iff_of_true ⟨list, -1, ?_, .inl ⟨rfl, rejected, rfl⟩⟩
      (.inl rejected)
    exact otaHeartbeatRespParseTree_rejected rejected
  · rw [otaHeartbeatRespParseTree_accepted rejected,
      ← otaHeartbeatRespParse_defined_iff]
    constructor
    · rintro ⟨following, ret, parsed, _⟩
      obtain ⟨infos, defined, _⟩ := Option.map_eq_some_iff.mp parsed
      exact .inr ⟨infos, defined⟩
    · rintro (impossible | ⟨infos, defined⟩)
      · exact absurd impossible rejected
      · have nodes := list.insertAll_nodes infos
        have fitting := (otaHeartbeatRespParse_defined_iff _).mp
          ⟨infos, defined⟩
        refine ⟨list.insertAll infos, 0, by rw [defined]; rfl,
          .inr ⟨rfl, rejected, ⟨infos, nodes, ?_⟩,
            TaskList.count_toNat⟩⟩
        rw [otaHeartbeatRespParse_contents defined, List.filter_eq_self.mpr
          (fun task member => decide_eq_true (fitting task member))]

def emptyTaskList : TaskList :=
  { nodes := [], count := 0, counted := rfl }

/-- A response with one task, whose url is as long as given. -/
def urlResponse (length : Nat) : CJson :=
  .object
    [(codeName, .string codeSuccess),
      (taskListName, .array
        [.object
          [(taskIdName, .number 7),
            (artifactUrlName, .string (List.replicate length 'u')),
            (artifactMd5Name, .string "0f".toList),
            (taskTypeName, .string otaTaskNow)]])]

/-- A url of 128 characters does not leave room for its terminator. -/
theorem longUrl_undefined :
    ¬∀ (cJsonParse : CString → Option CJson) (list : TaskList)
      (respond : CString), ResponseExact cJsonParse list respond := by
  intro claimed
  obtain ⟨following, ret, parsed, _⟩ :=
    claimed (fun _ => some (urlResponse 128)) emptyTaskList []
  have overflow : (otaHeartbeatRespParseTree emptyTaskList
      (some (urlResponse 128))).isSome = false := by
    decide +kernel
  unfold otaHeartbeatRespParseText at parsed
  rw [parsed] at overflow
  cases overflow

end RtA100
