import RtA100.JsonBuffers
import RtA100.Library.Search

/-!
# The upload of the configuration files

For each file `fkz9_fw_update_func` reads a row of the list into `resp`, posts
the file, copies the answer into the same array and looks for `SUCCESS` there.
The copy has no terminator, so the array shows the answer with what the row has
behind it; and an answer that was never produced is copied from a null pointer.
-/

namespace RtA100

open Library

/-- The 512 bytes of `resp` after `execute`, which had cleared them. -/
structure RespArray where
  chars : List Char
  size : chars.length = 512
  terminated : chars.getLast? = some '\x00'

/-- What a reader of an array sees, if a zero ends it. -/
def arrayString (chars : List Char) : Option CString :=
  if '\x00' ∈ chars then some (untilNul chars) else none

/-- `strncpy(destination, source, strlen(source))` -/
def strncpyUnterminated (destination : List Char) (source : CString) :
    Option (List Char) :=
  if source.length ≤ destination.length then
    some (source ++ destination.drop source.length)
  else none

/-- A file of the list: the array that its row was read into, the output of
`base64` in its array, and the answer to the request, if there is one. -/
structure ConfigFile where
  resp : RespArray
  base64Str : CArray 512000
  post : Option CString
  nulFree : ∀ response ∈ post, '\x00' ∉ response

inductive UploadLog where
  | response (resp : CString)
  | result (filePath : CString) (success : Bool)
  | sendFileEnd
deriving DecidableEq

def uploadFormat : List Conversion := [.field, .field, .field]

def successText : CString := "SUCCESS".toList

/-- `sscanf` of a row, into arrays that have been cleared. -/
def scanUploadRow (row : CString) (base64Str : CArray 512000) :
    Option (FileUploadfInfo × CArray 80) := do
  let scanned := scan uploadFormat row
  let devAddr ← storeField scanned 0 (.cleared 9)
  let filePath ← storeField scanned 1 (.cleared 79)
  let uploadPath ← storeField scanned 2 (.cleared 99)
  some ({ devAddr, uploadPath, base64Str }, filePath)

/-- `do_file_upload`, on the array `post_resp`. -/
def doFileUpload (info : FileUploadfInfo) (post : Option CString)
    (postResp : List Char) : Option (List Char × Int) := do
  let _ ← (OutgoingDocument.fileUpload info).data
  let resp ← post
  let postResp ← strncpyUnterminated postResp resp
  some (postResp, 0)

/-- One turn of the loop over the files. -/
def uploadTurn (file : ConfigFile) : Option (List UploadLog) := do
  let row ← arrayString file.resp.chars
  let (info, filePath) ← scanUploadRow row file.base64Str
  let (chars, ret) ← doFileUpload info file.post file.resp.chars
  let resp ← arrayString chars
  some [.response resp,
    .result filePath.text (ret = 0 && strstr resp successText)]

def uploadFilesLoop : List ConfigFile → List UploadLog → Option (List UploadLog)
  | [], log => some log
  | file :: files, log => do
      let entries ← uploadTurn file
      uploadFilesLoop files (log ++ entries)

/-- The block of `fkz9_fw_update_func` under `if (file_num)`, on the log of the
task. -/
def uploadFiles (files : List ConfigFile) (log : List UploadLog) :
    Option (List UploadLog) :=
  if files = [] then some log
  else do
    let log ← uploadFilesLoop files log
    some (log ++ [.sendFileEnd])

/-- The lines that say how an upload went. -/
def resultLines (log : List UploadLog) : List (CString × Bool) :=
  log.filterMap fun
    | .result filePath success => some (filePath, success)
    | _ => none

def ConfigFile.row (file : ConfigFile) : CString := untilNul file.resp.chars

/-- A line names the file, and says success only for an answer that does. -/
structure ReportedBy (file : ConfigFile) (line : CString × Bool) : Prop where
  named : ∃ info filePath,
    scanUploadRow file.row file.base64Str = some (info, filePath) ∧
      line.1 = filePath.text
  own : line.2 = true →
    ∃ response, file.post = some response ∧ strstr response successText = true

/-- One line for each file, in order. -/
def ReportsEach : List ConfigFile → List (CString × Bool) → Prop
  | [], [] => True
  | file :: files, line :: lines =>
      ReportedBy file line ∧ ReportsEach files lines
  | _, _ => False

/-- The loop ends, inside its arrays, with one line for each file. -/
def UploadsReported (files : List ConfigFile) (log : List UploadLog) : Prop :=
  ∃ entries, uploadFiles files log = some (log ++ entries) ∧
    ReportsEach files (resultLines entries)

/-- What `resp` shows once the answer has been copied over the row. -/
def ConfigFile.shown (file : ConfigFile) (response : CString) : CString :=
  response ++ untilNul (file.resp.chars.drop response.length)

/-- The row and the document fit their arrays, the request is answered, the
answer fits behind a terminator, and the row behind it adds no `SUCCESS`. -/
structure ConfigFile.Clean (file : ConfigFile) : Prop where
  fits : ∃ info filePath,
    scanUploadRow file.row file.base64Str = some (info, filePath) ∧
      (OutgoingDocument.fileUpload info).Fits
  answered : ∃ response, file.post = some response ∧ response.length < 512 ∧
    (strstr (file.shown response) successText = true →
      strstr response successText = true)

theorem RespArray.nul_mem_drop (resp : RespArray) {count : Nat}
    (inside : count < 512) : '\x00' ∈ resp.chars.drop count := by
  have last : (resp.chars.drop count).getLast? = some '\x00' := by
    rw [List.getLast?_drop, if_neg (by rw [resp.size]; omega)]
    exact resp.terminated
  exact List.mem_of_getLast? last

theorem ConfigFile.arrayString_row (file : ConfigFile) :
    arrayString file.resp.chars = some file.row := by
  have terminated := file.resp.nul_mem_drop (show 0 < 512 by omega)
  exact if_pos terminated

theorem untilNul_prepend {front : CString} (free : '\x00' ∉ front)
    (back : CString) : untilNul (front ++ back) = front ++ untilNul back :=
  List.takeWhile_append_of_pos (ne_of_not_mem free)

/-- The copy shows the answer and the rest of the row, unless it fills the
array. -/
theorem copied_string (file : ConfigFile) {response : CString}
    (free : '\x00' ∉ response) :
    ((strncpyUnterminated file.resp.chars response).bind arrayString) =
      if response.length < 512 then some (file.shown response) else none := by
  unfold strncpyUnterminated
  rw [file.resp.size]
  by_cases short : response.length < 512
  · have terminated := file.resp.nul_mem_drop short
    rw [if_pos (Nat.le_of_lt short), Option.bind_some, if_pos short,
      arrayString, if_pos (List.mem_append_right response terminated),
      untilNul_prepend free]
    rfl
  · rw [if_neg short]
    by_cases full : response.length ≤ 512
    · have nothing : file.resp.chars.drop response.length = [] := by
        rw [List.drop_eq_nil_iff, file.resp.size]
        omega
      rw [if_pos full, Option.bind_some, nothing, List.append_nil, arrayString,
        if_neg free]
    · rw [if_neg full]
      rfl

/-- What a turn does when everything fits and is answered. -/
theorem uploadTurn_answered {file : ConfigFile} {info : FileUploadfInfo}
    {filePath : CArray 80} {response : CString}
    (scanned : scanUploadRow file.row file.base64Str = some (info, filePath))
    (fits : (OutgoingDocument.fileUpload info).Fits)
    (answered : file.post = some response) (short : response.length < 512) :
    uploadTurn file = some
      [.response (file.shown response),
        .result filePath.text
          (strstr (file.shown response) successText)] := by
  obtain ⟨data, printed⟩ := fits
  have copied := copied_string file (file.nulFree response answered)
  rw [if_pos short] at copied
  obtain ⟨chars, written, shown⟩ := Option.bind_eq_some_iff.mp copied
  simp only [uploadTurn, file.arrayString_row, scanned, doFileUpload, printed,
    answered, written, shown, Option.bind_eq_bind, Option.bind_some,
    decide_true, Bool.true_and]

/-- A turn is defined only then. -/
theorem uploadTurn_defined {file : ConfigFile} {entries : List UploadLog}
    (result : uploadTurn file = some entries) :
    ∃ info filePath response,
      scanUploadRow file.row file.base64Str = some (info, filePath) ∧
        (OutgoingDocument.fileUpload info).Fits ∧
          file.post = some response ∧ response.length < 512 := by
  simp only [uploadTurn, file.arrayString_row, Option.bind_eq_bind,
    Option.bind_some, Option.bind_eq_some_iff, Prod.exists] at result
  obtain ⟨info, filePath, scanned, chars, ret, uploaded, resp, string, _⟩ :=
    result
  simp only [doFileUpload, Option.bind_eq_bind, Option.bind_eq_some_iff,
    Option.some.injEq, Prod.mk.injEq] at uploaded
  obtain ⟨data, printed, response, answered, copied, written, rfl, _⟩ :=
    uploaded
  refine ⟨info, filePath, response, scanned, ⟨data, printed⟩, answered, ?_⟩
  have shown := copied_string file (file.nulFree response answered)
  rw [written, Option.bind_some, string] at shown
  by_cases short : response.length < 512
  · exact short
  · rw [if_neg short] at shown
    cases shown

/-- A turn writes one line for its file, about its own answer, exactly when the
file is clean. -/
theorem uploadTurn_reported_iff (file : ConfigFile) :
    (∃ entries line, uploadTurn file = some entries ∧
        resultLines entries = [line] ∧ ReportedBy file line) ↔
      file.Clean := by
  constructor
  · rintro ⟨entries, line, result, lines, reported⟩
    obtain ⟨info, filePath, response, scanned, fits, answered, short⟩ :=
      uploadTurn_defined result
    rw [uploadTurn_answered scanned fits answered short,
      Option.some.injEq] at result
    rw [← result] at lines
    obtain ⟨own, same⟩ : ∃ own : line.2 = true → _,
        (filePath.text, strstr (file.shown response) successText) = line :=
      ⟨reported.own, (List.cons.inj lines).1⟩
    refine ⟨⟨info, filePath, scanned, fits⟩, response, answered, short, ?_⟩
    intro success
    rw [← same] at own
    obtain ⟨actual, produced, contains⟩ := own success
    rw [answered, Option.some.injEq] at produced
    rw [produced]
    exact contains
  · rintro ⟨⟨info, filePath, scanned, fits⟩, response, answered, short, clean⟩
    exact ⟨_, (filePath.text, strstr (file.shown response) successText),
      uploadTurn_answered scanned fits answered short, rfl,
      ⟨info, filePath, scanned, rfl⟩,
      fun success => ⟨response, answered, clean success⟩⟩

theorem resultLines_append (left right : List UploadLog) :
    resultLines (left ++ right) = resultLines left ++ resultLines right :=
  List.filterMap_append

/-- The loop appends to the log. -/
theorem uploadFilesLoop_appends {files : List ConfigFile}
    {log after : List UploadLog}
    (result : uploadFilesLoop files log = some after) :
    ∃ entries, after = log ++ entries := by
  induction files generalizing log with
  | nil =>
      cases result
      exact ⟨[], (List.append_nil _).symm⟩
  | cons file files induction =>
      obtain ⟨turn, _, later⟩ := Option.bind_eq_some_iff.mp result
      obtain ⟨entries, same⟩ := induction later
      exact ⟨turn ++ entries, by rw [same, List.append_assoc]⟩

theorem uploadTurn_lines {file : ConfigFile} {entries : List UploadLog}
    (result : uploadTurn file = some entries) :
    ∃ line, resultLines entries = [line] := by
  obtain ⟨info, filePath, response, scanned, fits, answered, short⟩ :=
    uploadTurn_defined result
  rw [uploadTurn_answered scanned fits answered short] at result
  cases result
  exact ⟨_, rfl⟩

theorem uploadFilesLoop_reported_iff (files : List ConfigFile)
    (log : List UploadLog) :
    (∃ entries, uploadFilesLoop files log = some (log ++ entries) ∧
        ReportsEach files (resultLines entries)) ↔
      ∀ file ∈ files, file.Clean := by
  induction files generalizing log with
  | nil =>
      refine iff_of_true ⟨[], ?_, trivial⟩ nofun
      rw [List.append_nil]
      rfl
  | cons file files induction =>
      rw [List.forall_mem_cons, ← uploadTurn_reported_iff]
      constructor
      · rintro ⟨entries, result, reports⟩
        obtain ⟨turn, first, later⟩ := Option.bind_eq_some_iff.mp result
        obtain ⟨rest, same⟩ := uploadFilesLoop_appends later
        rw [List.append_assoc, List.append_cancel_left_eq] at same
        subst same
        obtain ⟨line, lines⟩ := uploadTurn_lines first
        rw [resultLines_append, lines] at reports
        obtain ⟨reported, others⟩ := reports
        rw [← List.append_assoc] at later
        exact ⟨⟨turn, line, first, lines, reported⟩,
          (induction (log ++ turn)).mp ⟨rest, later, others⟩⟩
      · rintro ⟨⟨turn, line, first, lines, reported⟩, clean⟩
        obtain ⟨rest, later, others⟩ := (induction (log ++ turn)).mpr clean
        refine ⟨turn ++ rest, ?_, ?_⟩
        · rw [uploadFilesLoop, first, Option.bind_eq_bind, Option.bind_some,
            later, List.append_assoc]
        · rw [resultLines_append, lines]
          exact ⟨reported, others⟩

/-- The uploads are reported one by one and for their own answers exactly when
every file is clean. -/
theorem uploadsReported_iff (files : List ConfigFile) (log : List UploadLog) :
    UploadsReported files log ↔ ∀ file ∈ files, file.Clean := by
  rw [← uploadFilesLoop_reported_iff files log]
  unfold UploadsReported uploadFiles
  by_cases nothing : files = []
  · subst nothing
    exact iff_of_true ⟨[], by rw [if_pos rfl, List.append_nil], trivial⟩
      ⟨[], by rw [uploadFilesLoop, List.append_nil], trivial⟩
  · rw [if_neg nothing]
    constructor
    · rintro ⟨entries, result, reports⟩
      obtain ⟨after, looped, ended⟩ := Option.bind_eq_some_iff.mp result
      obtain ⟨turns, same⟩ := uploadFilesLoop_appends looped
      subst same
      rw [Option.some.injEq, List.append_assoc,
        List.append_cancel_left_eq] at ended
      rw [← ended, resultLines_append] at reports
      refine ⟨turns, looped, ?_⟩
      rw [show resultLines [.sendFileEnd] = [] from rfl,
        List.append_nil] at reports
      exact reports
    · rintro ⟨turns, looped, reports⟩
      refine ⟨turns ++ [.sendFileEnd], ?_, ?_⟩
      · rw [looped, Option.bind_eq_bind, Option.bind_some, List.append_assoc]
      · rw [resultLines_append]
        rw [show resultLines [.sendFileEnd] = [] from rfl, List.append_nil]
        exact reports

theorem uploadTurn_unanswered {file : ConfigFile}
    (unanswered : file.post = none) : uploadTurn file = none := by
  cases result : uploadTurn file with
  | none => rfl
  | some entries =>
      obtain ⟨_, _, _, _, _, answered, _⟩ := uploadTurn_defined result
      rw [unanswered] at answered
      cases answered

theorem emptyBase64_fits : ([] : CString).length < 512000 := by decide

/-- A file whose request fails. -/
def unansweredFile : ConfigFile :=
  { resp :=
      { chars := List.replicate 512 '\x00'
        size := List.length_replicate
        terminated := by rw [List.getLast?_replicate, if_neg (by decide)] }
    base64Str := { text := [], fits := emptyBase64_fits }
    post := none
    nulFree := nofun }

theorem unansweredFile_not_reported :
    ¬∀ (files : List ConfigFile) (log : List UploadLog),
      UploadsReported files log := by
  intro claimed
  obtain ⟨entries, result, _⟩ := claimed [unansweredFile] []
  have undefined : uploadTurn unansweredFile = none :=
    uploadTurn_unanswered rfl
  simp [uploadFiles, uploadFilesLoop, undefined] at result

end RtA100
