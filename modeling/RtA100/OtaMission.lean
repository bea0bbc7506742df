import RtA100.Library.Stream

/-!
# OTA tasks and the mission file

`do_downlaod_firmware` appends a record to the mission file for every task that
waits for the next reboot, and `reboot_upgrade_task_cb` reads the records back
with `sed` and `sscanf`.  A record without newlines in its strings is one line
that fits the buffer of the reader, so its id is read back.

An absent mission file is the empty text: `is_file_empty` keeps the reader from
both.
-/

namespace RtA100

open Library

def otaTaskNow : CString := "AT_ONCE".toList

def otaTaskNext : CString := "NEXT_REBOOT".toList

def otaTaskRebooted : CString := "REBOOTED".toList

def fwNeedDownload : UInt8 := 0xA0

structure FwDownInfo where
  id : UInt16
  url : CArray 128
  md5 : CArray 64
  type : CArray 20
  flag : UInt8
deriving DecidableEq

/-- A task of the `taskList` of a heartbeat response. -/
structure HeartbeatTask where
  taskId : Int
  artifactUrl : CString
  artifactMd5 : CString
  taskType : CString

/-- The tasks that `ota_heartbeat_resp_parse` inserts. -/
def otaHeartbeatRespParse : List HeartbeatTask → Option (List FwDownInfo)
  | [] => some []
  | task :: tasks => do
      let url ← strcpy 128 task.artifactUrl
      let md5 ← strcpy 64 task.artifactMd5
      let type ← strcpy 20 task.taskType
      let infos ← otaHeartbeatRespParse tasks
      some ({ id := .ofInt task.taskId, url, md5, type,
              flag := fwNeedDownload } :: infos)

/-- What is stored of a task: its strings, and its id in 16 bits. -/
structure HeartbeatTask.StoredAs (task : HeartbeatTask)
    (info : FwDownInfo) : Prop where
  id : info.id = .ofInt task.taskId
  url : info.url.text = task.artifactUrl
  md5 : info.md5.text = task.artifactMd5
  type : info.type.text = task.taskType
  flag : info.flag = fwNeedDownload

theorem otaHeartbeatRespParse_cons {task : HeartbeatTask}
    {tasks : List HeartbeatTask} {infos : List FwDownInfo}
    (parsed : otaHeartbeatRespParse (task :: tasks) = some infos) :
    ∃ info more, task.StoredAs info ∧
      otaHeartbeatRespParse tasks = some more ∧ infos = info :: more := by
  simp only [otaHeartbeatRespParse, Option.bind_eq_bind,
    Option.bind_eq_some_iff, Option.some.injEq] at parsed
  obtain ⟨url, urlCopied, md5, md5Copied, type, typeCopied, more, rest,
    same⟩ := parsed
  refine ⟨_, more, ?_, rest, same.symm⟩
  exact
    { id := rfl
      url := strcpy_text urlCopied
      md5 := strcpy_text md5Copied
      type := strcpy_text typeCopied
      flag := rfl }

/-! ## Writing and reading records -/

/-- `"%d,%s,%s,%s,%s,"`, a record without its newline. -/
def missionBody (info : FwDownInfo) (upTime : CArray 30) : CString :=
  decimal info.id.toNat ++ ',' :: (info.url.text ++ ',' ::
    (info.md5.text ++ ',' :: (info.type.text ++ ',' ::
      (upTime.text ++ [',']))))

def missionRecord (info : FwDownInfo) (upTime : CArray 30) : CString :=
  missionBody info upTime ++ ['\n']

/-- The text that `_system_` leaves in a buffer of `msgLen` bytes. -/
def systemOutput (msgLen : Nat) (output : CString) : CString :=
  lastChunk (msgLen - 1) [] output

def sedLine (number : Nat) (file : CString) : CString :=
  (fileLines file)[number]?.getD []

def recordFormat : List Conversion :=
  [.integer, .field, .field, .field, .field]

def storeShort (scanned : List Scanned) (position : Nat) (old : UInt16) :
    UInt16 :=
  match scanned[position]? with
  | some (.integer value) => .ofInt value
  | _ => old

def storeField {size : Nat} (scanned : List Scanned) (position : Nat)
    (old : CArray size) : Option (CArray size) :=
  match scanned[position]? with
  | some (.field text) => strcpy size text
  | _ => some old

/-- `sscanf` of a record into a task and `uptime`, which keep what is not
matched. -/
def scanRecord (line : CString) (info : FwDownInfo) (uptime : CArray 30) :
    Option (FwDownInfo × CArray 30) := do
  let scanned := scan recordFormat line
  let url ← storeField scanned 1 info.url
  let md5 ← storeField scanned 2 info.md5
  let type ← storeField scanned 3 info.type
  let uptime ← storeField scanned 4 uptime
  some ({ info with id := storeShort scanned 0 info.id, url, md5, type },
    uptime)

/-- The id that `sscanf` reads from a line into a block. -/
def readId (line : CString) (block : FwDownInfo) : UInt16 :=
  storeShort (scan recordFormat (systemOutput 256 line)) 0 block.id

/-- The loop of `reboot_upgrade_task_cb` over the records from a line on, into
blocks as `malloc` returns them. -/
def loadMissions (mission : CString) (uptime : CArray 30) :
    Nat → List FwDownInfo → Option (List FwDownInfo)
  | _, [] => some []
  | number, block :: blocks => do
      let (info, uptime) ←
        scanRecord (systemOutput 256 (sedLine number mission)) block uptime
      let infos ← loadMissions mission uptime (number + 1) blocks
      some ({ info with flag := 0 } :: infos)

/-! ## What a reader gets back -/

/-- The strings of a task have no newline. -/
def FwDownInfo.OneLine (info : FwDownInfo) : Prop :=
  '\n' ∉ info.url.text ∧ '\n' ∉ info.md5.text ∧ '\n' ∉ info.type.text

/-- A line without its newline that fits the buffer of the reader and begins
with an id. -/
def NamesTask (body : CString) (id : UInt16) : Prop :=
  '\n' ∉ body ∧ body.length < 255 ∧
    ∃ rest, body = decimal id.toNat ++ ',' :: rest

theorem decimal_id_length (id : UInt16) : (decimal id.toNat).length ≤ 5 := by
  have small : id.toNat < 2 ^ 16 := id.toNat_lt
  exact (Nat.length_toDigits_le_iff (by decide) (by decide)).mpr (by omega)

theorem newline_not_mem_decimal (value : Nat) : '\n' ∉ decimal value := by
  intro member
  exact absurd (decimal_isDigit member) (by decide)

theorem missionBody_length (info : FwDownInfo) (upTime : CArray 30) :
    (missionBody info upTime).length < 255 := by
  have idLength := decimal_id_length info.id
  have urlLength := info.url.fits
  have md5Length := info.md5.fits
  have typeLength := info.type.fits
  have upTimeLength := upTime.fits
  simp only [missionBody, List.length_append, List.length_cons,
    List.length_nil]
  omega

theorem missionBody_namesTask {info : FwDownInfo} {upTime : CArray 30}
    (oneLine : info.OneLine) (upTimeLine : '\n' ∉ upTime.text) :
    NamesTask (missionBody info upTime) info.id := by
  obtain ⟨urlLine, md5Line, typeLine⟩ := oneLine
  refine ⟨?_, missionBody_length info upTime, _, rfl⟩
  simp [missionBody, newline_not_mem_decimal, urlLine, md5Line, typeLine,
    upTimeLine]

/-- Whatever its strings hold, the first line of a record names its task. -/
theorem missionRecord_first (info : FwDownInfo) (upTime : CArray 30) :
    ∃ body more, NamesTask body info.id ∧
      fileLines (missionRecord info upTime) = (body ++ ['\n']) :: more := by
  obtain ⟨more, lines⟩ := fileLines_first (missionBody info upTime) []
  refine ⟨_, more, ⟨not_mem_takeWhile '\n' _, ?_, ?_⟩, lines⟩
  · exact Nat.lt_of_le_of_lt (List.takeWhile_prefix _).length_le
      (missionBody_length info upTime)
  · have digits := ne_of_not_mem (newline_not_mem_decimal info.id.toNat)
    have comma : decide (',' ≠ '\n') = true := by decide
    rw [missionBody, List.takeWhile_append_of_pos digits, List.takeWhile_cons,
      if_pos comma]
    exact ⟨_, rfl⟩

/-- Of a line what stands behind the full pieces is left. -/
theorem systemOutput_oneLine {msgLen : Nat} (atLeastTwo : 2 ≤ msgLen)
    {output : CString} (oneLine : '\n' ∉ output.dropLast) :
    systemOutput msgLen output =
      output.drop ((output.length - 1) / (msgLen - 1) * (msgLen - 1)) :=
  lastChunk_oneLine (Nat.sub_pos_of_lt atLeastTwo) oneLine

/-- A line is left whole exactly when it is shorter than the memory. -/
theorem systemOutput_oneLine_iff {msgLen : Nat} (atLeastTwo : 2 ≤ msgLen)
    {output : CString} (oneLine : '\n' ∉ output.dropLast) :
    systemOutput msgLen output = output ↔ output.length < msgLen := by
  have room : 0 < msgLen - 1 := Nat.sub_pos_of_lt atLeastTwo
  rw [systemOutput, lastChunk_oneLine_iff room oneLine]
  omega

theorem systemOutput_line {body : CString} (oneLine : '\n' ∉ body)
    (inside : body.length < 255) :
    systemOutput 256 (body ++ ['\n']) = body ++ ['\n'] := by
  have line : '\n' ∉ (body ++ ['\n']).dropLast := by
    rw [List.dropLast_concat]
    exact oneLine
  refine (systemOutput_oneLine_iff (by decide) line).mpr ?_
  rw [List.length_append, List.length_singleton]
  omega

theorem ofInt_toNat (id : UInt16) : UInt16.ofInt (id.toNat : Int) = id := by
  have small : id.toNat < 2 ^ 16 := id.toNat_lt
  have same : ((id.toNat : Int) % 2 ^ 16).toNat = id.toNat := by omega
  rw [UInt16.ofInt, same]
  exact UInt16.ofNat_toNat

/-- Each part of a task that `sscanf` fills. -/
structure StoresRecord (line : CString) (block read : FwDownInfo)
    (before after : CArray 30) : Prop where
  id : read.id = storeShort (scan recordFormat line) 0 block.id
  url : storeField (scan recordFormat line) 1 block.url = some read.url
  md5 : storeField (scan recordFormat line) 2 block.md5 = some read.md5
  type : storeField (scan recordFormat line) 3 block.type = some read.type
  uptime : storeField (scan recordFormat line) 4 before = some after

theorem scanRecord_stores {line : CString} {block read : FwDownInfo}
    {before after : CArray 30}
    (scanned : scanRecord line block before = some (read, after)) :
    StoresRecord line block read before after := by
  simp only [scanRecord, Option.bind_eq_bind, Option.bind_eq_some_iff,
    Option.some.injEq, Prod.mk.injEq] at scanned
  obtain ⟨_, url, _, md5, _, type, _, uptime, rfl, rfl⟩ := scanned
  exact ⟨rfl, url, md5, type, uptime⟩

theorem scanRecord_readId {line : CString} {block info : FwDownInfo}
    {uptime stored : CArray 30}
    (scanned : scanRecord (systemOutput 256 line) block uptime =
      some (info, stored)) : info.id = readId line block :=
  (scanRecord_stores scanned).id

theorem scanInteger_id (id : UInt16) (rest : CString) :
    scanInteger (decimal id.toNat ++ ',' :: rest) =
      some ((id.toNat : Int), ',' :: rest) := by
  have small : id.toNat < 2 ^ 16 := id.toNat_lt
  exact scanInteger_decimal rest (by omega)

/-- The id read from a line that names a task. -/
theorem readId_namesTask {body : CString} {id : UInt16} {block : FwDownInfo}
    (names : NamesTask body id) : readId (body ++ ['\n']) block = id := by
  obtain ⟨oneLine, inside, rest, rfl⟩ := names
  have head : (scan recordFormat
      ((decimal id.toNat ++ ',' :: rest) ++ ['\n']))[0]? =
        some (.integer id.toNat) := by
    rw [List.append_assoc, List.cons_append, recordFormat, scan,
      scanInteger_id]
    rfl
  unfold readId storeShort
  rw [systemOutput_line oneLine inside, head]
  exact ofInt_toNat id

/-- The id of a task read from a line that names a task. -/
theorem scanRecord_id {body : CString} {id : UInt16}
    {block info : FwDownInfo} {uptime stored : CArray 30}
    (names : NamesTask body id)
    (scanned : scanRecord (systemOutput 256 (body ++ ['\n'])) block uptime =
      some (info, stored)) : info.id = id :=
  (scanRecord_readId scanned).trans (readId_namesTask names)

/-- No string of a task is empty or has a comma. -/
structure FwDownInfo.Separated (info : FwDownInfo) : Prop where
  nonempty : info.url.text ≠ [] ∧ info.md5.text ≠ [] ∧ info.type.text ≠ []
  free : ',' ∉ info.url.text ∧ ',' ∉ info.md5.text ∧ ',' ∉ info.type.text

/-- What `sscanf` finds in the record of such a task.  An empty `up_time` is
not matched. -/
theorem missionRecord_scan {info : FwDownInfo} {upTime : CArray 30}
    (separated : info.Separated) (upTimeFree : ',' ∉ upTime.text) :
    scan recordFormat (missionRecord info upTime) =
      [.integer info.id.toNat, .field info.url.text, .field info.md5.text,
        .field info.type.text] ++
          if upTime.text = [] then [] else [.field upTime.text] := by
  obtain ⟨⟨urlSome, md5Some, typeSome⟩, urlFree, md5Free, typeFree⟩ :=
    separated
  have whole : missionRecord info upTime =
      decimal info.id.toNat ++ ',' :: (info.url.text ++ ',' ::
        (info.md5.text ++ ',' :: (info.type.text ++ ',' ::
          (upTime.text ++ ',' :: ['\n'])))) := by
    simp [missionRecord, missionBody]
  rw [whole, recordFormat, scan, scanInteger_id]
  simp only [afterComma]
  rw [scan_field _ urlSome urlFree, scan_field _ md5Some md5Free,
    scan_field _ typeSome typeFree]
  split
  · rename_i empty
    rw [empty]
    rfl
  · rename_i given
    rw [scan_field _ given upTimeFree]
    rfl

/-- The first record and the rest. -/
theorem loadMissions_cons {mission : CString} {uptime : CArray 30}
    {number : Nat} {block : FwDownInfo} {blocks infos : List FwDownInfo}
    (loaded : loadMissions mission uptime number (block :: blocks) =
      some infos) :
    ∃ read stored more,
      scanRecord (systemOutput 256 (sedLine number mission)) block uptime =
          some (read, stored) ∧
        loadMissions mission stored (number + 1) blocks = some more ∧
        infos = { read with flag := 0 } :: more := by
  rw [loadMissions] at loaded
  simp only [Option.bind_eq_bind, Option.bind_eq_some_iff, Prod.exists,
    Option.some.injEq] at loaded
  obtain ⟨read, stored, scanned, more, rest, same⟩ := loaded
  exact ⟨read, stored, more, scanned, rest, same.symm⟩

theorem loadMissions_length {mission : CString} {uptime : CArray 30}
    {number : Nat} {blocks infos : List FwDownInfo}
    (loaded : loadMissions mission uptime number blocks = some infos) :
    infos.length = blocks.length := by
  induction blocks generalizing number uptime infos with
  | nil =>
      cases loaded
      rfl
  | cons block blocks induction =>
      obtain ⟨read, stored, more, _, rest, rfl⟩ := loadMissions_cons loaded
      rw [List.length_cons, List.length_cons, induction rest]

/-- Each loaded task was read from its line into its block. -/
theorem loadMissions_get {mission : CString} {uptime : CArray 30}
    {number index : Nat} {blocks infos : List FwDownInfo} {info : FwDownInfo}
    (loaded : loadMissions mission uptime number blocks = some infos)
    (infoAt : infos[index]? = some info) :
    ∃ block before read after, blocks[index]? = some block ∧
      scanRecord (systemOutput 256 (sedLine (number + index) mission)) block
        before = some (read, after) ∧ info = { read with flag := 0 } := by
  induction blocks generalizing number uptime infos index with
  | nil =>
      cases loaded
      cases infoAt
  | cons block blocks induction =>
      obtain ⟨read, stored, more, scanned, rest, rfl⟩ :=
        loadMissions_cons loaded
      cases index with
      | zero =>
          cases infoAt
          exact ⟨block, uptime, read, stored, rfl, scanned, rfl⟩
      | succ index =>
          obtain ⟨other, before, later, after, blockAt, laterScanned, same⟩ :=
            induction rest infoAt
          rw [Nat.add_right_comm, Nat.add_assoc] at laterScanned
          exact ⟨other, before, later, after, blockAt, laterScanned, same⟩

/-- Every task loaded from a file of lines that name tasks has the id of one of
its lines. -/
theorem loadMissions_ids {named : UInt16 → Prop} {bodies : List CString}
    {uptime : CArray 30} {number : Nat} {blocks infos : List FwDownInfo}
    (names : ∀ body ∈ bodies, ∃ id, NamesTask body id ∧ named id)
    (enough : number + blocks.length ≤ bodies.length)
    (loaded : loadMissions (linesText bodies) uptime number blocks =
      some infos) :
    ∀ info ∈ infos, info.flag = 0 ∧ named info.id := by
  intro info member
  obtain ⟨index, infoAt⟩ := List.getElem?_of_mem member
  obtain ⟨block, before, read, after, blockAt, scanned, rfl⟩ :=
    loadMissions_get loaded infoAt
  obtain ⟨early, _⟩ := List.getElem?_eq_some_iff.mp blockAt
  have inside : number + index < bodies.length := by omega
  have oneLine : ∀ body ∈ bodies, '\n' ∉ body := by
    intro body member
    obtain ⟨_, ⟨free, _⟩, _⟩ := names body member
    exact free
  have line : sedLine (number + index) (linesText bodies) =
      bodies[number + index] ++ ['\n'] := by
    unfold sedLine
    rw [fileLines_linesText oneLine, List.getElem?_map,
      List.getElem?_eq_getElem inside]
    rfl
  obtain ⟨id, namesTask, holds⟩ :=
    names bodies[number + index] (List.getElem_mem inside)
  rw [line] at scanned
  refine ⟨rfl, ?_⟩
  rw [scanRecord_id namesTask scanned]
  exact holds

end RtA100
