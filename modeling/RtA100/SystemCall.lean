import RtA100.FileUploads
import RtA100.Library.Stream
import RtA100.Md5Gate

/-!
# Commands run by `_system_`

`_system_` clears the memory that it is given and reads the output of a command
with `fgets` until the output ends.  Each call of `fgets` begins at the front of
the memory again, so the memory is left with the last piece of the output, and
0 is returned however many pieces there were.

The callers read a report, the data of an upload, the line of `md5sum` and the
records of the missions in this way.
-/

namespace RtA100

open Library

/-- What a call meets: the command, whether `popen` starts it, what it writes,
and the result of `pclose`. -/
structure SystemCall where
  cmd : Option CString
  popen : Bool
  output : CString
  nulFree : '\x00' ∉ output
  pclose : Int

/-- The memory from `pRetMsg` on, which holds `msg_len` bytes. -/
structure RetMsg where
  memory : List Char
  msgLen : Nat
  atLeastTwo : 2 ≤ msgLen
  inside : msgLen ≤ memory.length

/-- `memset(pRetMsg, 0, msg_len)` -/
def RetMsg.cleared (retMsg : RetMsg) : List Char :=
  List.replicate retMsg.msgLen '\x00' ++ retMsg.memory.drop retMsg.msgLen

theorem RetMsg.room (retMsg : RetMsg) : 0 < retMsg.msgLen - 1 :=
  Nat.sub_pos_of_lt retMsg.atLeastTwo

/-- `pRetMsg[strlen(pRetMsg)] = '\0'` -/
def endString (memory : List Char) : Option (List Char) :=
  (arrayString memory).map fun text => memory.set text.length '\x00'

/-- `_system_`, with what it leaves at `pRetMsg`. -/
def system (call : SystemCall) (pRetMsg : Option RetMsg) :
    Option (Option (List Char) × Int) :=
  if call.cmd = none then some (pRetMsg.map RetMsg.memory, -1)
  else if call.popen = false then some (pRetMsg.map RetMsg.memory, -2)
  else
    let read := pRetMsg.map fun retMsg =>
      fgetsLoop retMsg.room retMsg.cleared call.output
    if call.pclose = -1 then some (read, -3)
    else
      match read with
      | none => some (none, 0)
      | some memory => do
          let memory ← endString memory
          some (some memory, 0)

/-- If the call returns 0, the memory holds the whole output. -/
def SystemComplete (call : SystemCall) (retMsg : RetMsg) : Prop :=
  ∃ memory ret, system call (some retMsg) = some (some memory, ret) ∧
    (ret = 0 → arrayString memory = some call.output)

/-- A command that writes one line, with or without its newline. -/
structure LineCall extends SystemCall where
  oneLine : '\n' ∉ output.dropLast

/-- The command is given, starts, and is closed without an error. -/
structure SystemCall.Succeeds (call : SystemCall) : Prop where
  cmd : call.cmd ≠ none
  popen : call.popen = true
  pclose : call.pclose ≠ -1

/-! ## The memory -/

theorem RetMsg.cleared_terminated (retMsg : RetMsg) :
    '\x00' ∈ retMsg.cleared := by
  have positive : retMsg.msgLen ≠ 0 := by
    have atLeastTwo := retMsg.atLeastTwo
    omega
  exact List.mem_append_left _ (List.mem_replicate.mpr ⟨positive, rfl⟩)

theorem RetMsg.cleared_string (retMsg : RetMsg) :
    untilNul retMsg.cleared = [] := by
  obtain ⟨rest, positive⟩ := Nat.exists_eq_add_of_le retMsg.atLeastTwo
  rw [RetMsg.cleared, positive, Nat.add_comm 2 rest, List.replicate_succ]
  rfl

theorem RetMsg.cleared_behind (retMsg : RetMsg) :
    retMsg.cleared.drop retMsg.msgLen =
      retMsg.memory.drop retMsg.msgLen := by
  rw [RetMsg.cleared, List.drop_append, List.length_replicate, Nat.sub_self,
    List.drop_zero, List.drop_eq_nil_of_le (Nat.le_of_eq List.length_replicate),
    List.nil_append]

/-- What the loop leaves at `pRetMsg`. -/
def RetMsg.read (retMsg : RetMsg) (output : CString) : List Char :=
  fgetsLoop retMsg.room retMsg.cleared output

theorem RetMsg.read_terminated (retMsg : RetMsg) (output : CString) :
    '\x00' ∈ retMsg.read output :=
  fgetsLoop_keeps retMsg.room
    (fun memory piece _ _ => storeString_terminated memory piece)
    retMsg.cleared_terminated output

/-- Nothing behind `msg_len` bytes is written. -/
theorem RetMsg.read_behind (retMsg : RetMsg) (output : CString) :
    (retMsg.read output).drop retMsg.msgLen =
      retMsg.memory.drop retMsg.msgLen := by
  have whole : retMsg.msgLen - 1 + 1 = retMsg.msgLen :=
    Nat.sub_add_cancel (Nat.le_of_lt retMsg.atLeastTwo)
  have stored (memory : List Char) (piece : CString)
      (short : piece.length ≤ retMsg.msgLen - 1)
      (kept : memory.drop retMsg.msgLen =
        retMsg.memory.drop retMsg.msgLen) :
      (storeString memory piece).drop retMsg.msgLen =
        retMsg.memory.drop retMsg.msgLen := by
    rw [← kept, ← whole]
    exact storeString_behind short
  exact fgetsLoop_keeps retMsg.room stored retMsg.cleared_behind output

/-- The memory shows the last piece of the output. -/
theorem RetMsg.read_string (retMsg : RetMsg) {output : CString}
    (free : '\x00' ∉ output) :
    arrayString (retMsg.read output) =
      some (systemOutput retMsg.msgLen output) := by
  rw [arrayString, if_pos (retMsg.read_terminated output)]
  by_cases nothing : output = []
  · rw [nothing, RetMsg.read, fgetsLoop_nil, retMsg.cleared_string]
    rfl
  · rw [RetMsg.read, fgetsLoop_string retMsg.room nothing free]
    rfl

theorem set_untilNul (memory : List Char) :
    memory.set (untilNul memory).length '\x00' = memory := by
  induction memory with
  | nil => rfl
  | cons first memory induction =>
      by_cases zero : first = '\x00'
      · subst zero
        rfl
      · have shown : untilNul (first :: memory) =
            first :: untilNul memory :=
          List.takeWhile_cons_of_pos (decide_eq_true zero)
        rw [shown, List.length_cons, List.set_cons_succ, induction]

theorem endString_terminated {memory : List Char}
    (terminated : '\x00' ∈ memory) : endString memory = some memory := by
  rw [endString, arrayString, if_pos terminated, Option.map_some,
    set_untilNul]

/-! ## The call -/

theorem system_succeeds {call : SystemCall} (succeeds : call.Succeeds)
    (retMsg : RetMsg) :
    system call (some retMsg) =
      some (some (retMsg.read call.output), 0) := by
  have started : ¬call.popen = false := by
    rw [succeeds.popen]
    exact nofun
  have ended := endString_terminated (retMsg.read_terminated call.output)
  simp only [system, if_neg succeeds.cmd, if_neg started,
    if_neg succeeds.pclose, Option.map_some]
  change (endString (retMsg.read call.output)).bind _ = _
  rw [ended]
  rfl

/-- A failure is reported, whatever the memory holds by then. -/
theorem system_fails {call : SystemCall} (fails : ¬call.Succeeds)
    (retMsg : RetMsg) :
    ∃ memory ret, system call (some retMsg) = some (some memory, ret) ∧
      memory.drop retMsg.msgLen = retMsg.memory.drop retMsg.msgLen ∧
        ret ≠ 0 := by
  by_cases absent : call.cmd = none
  · exact ⟨retMsg.memory, -1, if_pos absent, rfl, by decide⟩
  by_cases refused : call.popen = false
  · refine ⟨retMsg.memory, -2, ?_, rfl, by decide⟩
    rw [system, if_neg absent, if_pos refused]
    rfl
  by_cases broken : call.pclose = -1
  · refine ⟨retMsg.read call.output, -3, ?_,
      retMsg.read_behind call.output, by decide⟩
    simp only [system, if_neg absent, if_neg refused, if_pos broken]
    rfl
  · rw [Bool.not_eq_false] at refused
    exact absurd ⟨absent, refused, broken⟩ fails

/-- A call is defined and writes nothing behind `msg_len` bytes. -/
theorem system_behind (call : SystemCall) (retMsg : RetMsg) :
    ∃ memory ret, system call (some retMsg) = some (some memory, ret) ∧
      memory.drop retMsg.msgLen = retMsg.memory.drop retMsg.msgLen := by
  by_cases succeeds : call.Succeeds
  · exact ⟨retMsg.read call.output, 0, system_succeeds succeeds retMsg,
      retMsg.read_behind call.output⟩
  · obtain ⟨memory, ret, result, behind, _⟩ := system_fails succeeds retMsg
    exact ⟨memory, ret, result, behind⟩

/-- A call that succeeds leaves the last piece of the output. -/
theorem system_shows {call : SystemCall} (succeeds : call.Succeeds)
    (retMsg : RetMsg) :
    ∃ memory, system call (some retMsg) = some (some memory, 0) ∧
      arrayString memory =
        some (systemOutput retMsg.msgLen call.output) :=
  ⟨retMsg.read call.output, system_succeeds succeeds retMsg,
    retMsg.read_string call.nulFree⟩

/-- The output is whole when its last piece is all of it. -/
theorem systemComplete_iff_whole (call : SystemCall) (retMsg : RetMsg) :
    SystemComplete call retMsg ↔
      (call.Succeeds →
        systemOutput retMsg.msgLen call.output = call.output) := by
  by_cases succeeds : call.Succeeds
  · obtain ⟨memory, result, shown⟩ := system_shows succeeds retMsg
    constructor
    · rintro ⟨left, ret, returned, complete⟩ _
      rw [result] at returned
      cases returned
      rw [complete rfl] at shown
      exact (Option.some.inj shown).symm
    · intro whole
      refine ⟨memory, 0, result, fun _ => ?_⟩
      rw [shown, whole succeeds]
  · obtain ⟨memory, ret, result, _, failure⟩ := system_fails succeeds retMsg
    exact iff_of_true ⟨memory, ret, result, fun zero => absurd zero failure⟩
      fun ran => absurd ran succeeds

/-- A command of one line is read completely or reported as failed exactly when
it fails, or its output is shorter than `msg_len`. -/
theorem systemComplete_iff (call : LineCall) (retMsg : RetMsg) :
    SystemComplete call.toSystemCall retMsg ↔
      (call.Succeeds → call.output.length < retMsg.msgLen) := by
  rw [systemComplete_iff_whole,
    systemOutput_oneLine_iff retMsg.atLeastTwo call.oneLine]

/-! ## The readers -/

/-- The text that `base64` writes, without the newlines that break it. -/
structure Base64 where
  encode : List UInt8 → CString
  length : ∀ bytes, (encode bytes).length = 4 * ((bytes.length + 2) / 3)
  oneLine : ∀ bytes, '\n' ∉ encode bytes

/-- What the callers read: the log of a task, a file to upload, the md5 line of
a package, or the record of a task. -/
inductive SystemReader (Content : Type) where
  | report (log : List UInt8)
  | uploadData (file : List UInt8)
  | md5sumLine (path : CString) (oneLine : '\n' ∉ path)
      (package : Option Content)
  | missionRecord (info : FwDownInfo) (upTime : CArray 30)
      (oneLine : info.OneLine) (upTimeLine : '\n' ∉ upTime.text)

namespace SystemReader

variable {Content : Type}

def msgLen : SystemReader Content → Nat
  | report _ => 1024 * 10
  | uploadData _ => 1024 * 500
  | md5sumLine _ _ _ => 128
  | missionRecord _ _ _ _ => 256

def output (base64 : Base64) (md5sum : Md5sum Content) :
    SystemReader Content → CString
  | report log => base64.encode log
  | uploadData file => base64.encode file
  | md5sumLine path _ package => md5sum.output path package
  | missionRecord info upTime _ _ => RtA100.missionRecord info upTime

/-- What is read is short enough for its memory. -/
def Short : SystemReader Content → Prop
  | report log => log.length ≤ 7677
  | uploadData file => file.length ≤ 383997
  | md5sumLine path _ package => package.isSome → path.length ≤ 92
  | missionRecord _ _ _ _ => True

variable (base64 : Base64) (md5sum : Md5sum Content)

theorem atLeastTwo (reader : SystemReader Content) : 2 ≤ reader.msgLen := by
  cases reader <;> exact Nat.le_add_left 2 _

theorem output_oneLine (reader : SystemReader Content) :
    '\n' ∉ (reader.output base64 md5sum).dropLast := by
  cases reader with
  | report log => exact not_mem_dropLast (base64.oneLine log)
  | uploadData file => exact not_mem_dropLast (base64.oneLine file)
  | md5sumLine path oneLine package =>
      exact md5sum.output_oneLine oneLine package
  | missionRecord info upTime oneLine upTimeLine =>
      rw [SystemReader.output, RtA100.missionRecord, List.dropLast_concat]
      exact (missionBody_namesTask oneLine upTimeLine).1

theorem output_length_iff (reader : SystemReader Content) :
    (reader.output base64 md5sum).length < reader.msgLen ↔
      reader.Short := by
  cases reader with
  | report log =>
      simp only [SystemReader.output, msgLen, Short, base64.length]
      omega
  | uploadData file =>
      simp only [SystemReader.output, msgLen, Short, base64.length]
      omega
  | md5sumLine path oneLine package =>
      cases package with
      | none => exact iff_of_true (Nat.zero_lt_succ 127) nofun
      | some content =>
          simp only [SystemReader.output, md5sum.output_length, msgLen, Short,
            Option.isSome_some, true_implies]
          omega
  | missionRecord info upTime _ _ =>
      have short := missionBody_length info upTime
      refine iff_of_true ?_ trivial
      rw [SystemReader.output, RtA100.missionRecord, List.length_append]
      exact Nat.succ_lt_succ short

/-- The records of the missions are read whole, the reports and the data of the
uploads up to a length of what they encode. -/
theorem whole_iff (reader : SystemReader Content) :
    systemOutput reader.msgLen (reader.output base64 md5sum) =
        reader.output base64 md5sum ↔
      reader.Short := by
  rw [systemOutput_oneLine_iff reader.atLeastTwo
    (reader.output_oneLine base64 md5sum),
    reader.output_length_iff base64 md5sum]

end SystemReader

/-- The path of a prepared package leaves room for its digest. -/
theorem prepareTask_path_length {fileName : CArray 64} {info : FwDownInfo}
    {call : UpgradeCall} (prepared : prepareTask fileName info = some call) :
    call.path.text.length ≤ 92 := by
  simp only [prepareTask, Option.bind_eq_bind, Option.bind_eq_some_iff,
    Option.some.injEq] at prepared
  obtain ⟨_, _, fileName, _, rfl⟩ := prepared
  have id := decimal_id_length info.id
  have name := fileName.fits
  have fixed : upgradeFileLocalPath.length = 14 := by decide
  simp only [CArray.truncate, List.length_take, List.length_append,
    List.length_cons, fixed]
  omega

/-- The md5 line of a prepared package is read whole. -/
theorem prepareTask_md5Line {Content : Type} (md5sum : Md5sum Content)
    {fileName : CArray 64} {info : FwDownInfo} {call : UpgradeCall}
    (prepared : prepareTask fileName info = some call)
    (oneLine : '\n' ∉ call.path.text) (package : Option Content) :
    systemOutput 128 (md5sum.output call.path.text package) =
      md5sum.output call.path.text package := by
  cases package with
  | none => rfl
  | some content =>
      have short := prepareTask_path_length prepared
      have line := md5sum.output_oneLine oneLine (some content)
      refine (systemOutput_oneLine_iff (by decide) line).mpr ?_
      rw [md5sum.output_length]
      omega

/-! ## A report that is cut -/

/-- The base64 text of three letters x. -/
def encodedLetters : CString := ['e', 'H', 'h', '4']

/-- The base64 text of three times as many letters. -/
def encodedText (count : Nat) : CString :=
  (List.replicate count encodedLetters).flatten

theorem encodedText_length (count : Nat) :
    (encodedText count).length = count * 4 := by
  rw [encodedText, List.length_flatten, List.map_replicate,
    List.sum_replicate_nat]
  rfl

theorem encodedText_free {other : Char} (different : other ∉ encodedLetters)
    (count : Nat) : other ∉ encodedText count := by
  intro member
  obtain ⟨letters, inside, here⟩ := List.mem_flatten.mp member
  rw [List.eq_of_mem_replicate inside] at here
  exact different here

theorem encodedText_oneLine (count : Nat) :
    '\n' ∉ (encodedText count).dropLast :=
  not_mem_dropLast (encodedText_free (by decide) count)

/-- The command that encodes a log of 7680 letters. -/
def encodedLog : LineCall :=
  { cmd := some "base64 1.log | tr -d '\n\r'".toList
    popen := true
    output := encodedText 2560
    nulFree := encodedText_free (by decide) 2560
    pclose := 0
    oneLine := encodedText_oneLine 2560 }

theorem encodedLog_succeeds : encodedLog.Succeeds :=
  { cmd := nofun
    popen := rfl
    pclose := by decide }

theorem replicate_inside (count : Nat) (character : Char) :
    count ≤ (List.replicate count character).length :=
  Nat.le_of_eq List.length_replicate.symm

/-- `resp_info.report` -/
def reportMemory : RetMsg :=
  { memory := List.replicate 10240 'x'
    msgLen := 10240
    atLeastTwo := Nat.le_add_left 2 10238
    inside := replicate_inside 10240 'x' }

/-- One letter of the report is left. -/
theorem encodedLog_shows :
    systemOutput reportMemory.msgLen encodedLog.output = ['4'] := by
  have left := systemOutput_oneLine reportMemory.atLeastTwo encodedLog.oneLine
  have length : encodedLog.output.length = 10240 := encodedText_length 2560
  have front : (encodedText 2559).length = 10236 := encodedText_length 2559
  have split : encodedLog.output = encodedText 2559 ++ encodedLetters := by
    change (List.replicate (2559 + 1) encodedLetters).flatten = _
    rw [List.replicate_succ', List.flatten_append]
    rfl
  rw [left, length, split, List.drop_append, front,
    List.drop_eq_nil_of_le (by rw [front]; decide)]
  rfl

theorem encodedLog_cut :
    ¬∀ (call : LineCall) (retMsg : RetMsg),
      SystemComplete call.toSystemCall retMsg := by
  intro claimed
  have complete := claimed encodedLog reportMemory
  rw [systemComplete_iff_whole, encodedLog_shows] at complete
  have lengths := congrArg List.length (complete encodedLog_succeeds)
  rw [encodedLog, encodedText_length] at lengths
  exact absurd lengths (by decide)

end RtA100
