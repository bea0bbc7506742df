import RtA100.TaskProcessing

/-!
# The md5 checks of a package

`fkz9_fw_trans_func` runs `md5sum` on the package, and again on the copy on the
server, and searches the output for the md5 string of the task.  The output
also shows the path, so the search succeeds for more strings than the digest:
for every piece of the digest, for pieces of the path, and for strings across
the border of the two.

Neither `md5sum` nor the shell that runs its command line is part of the
repository.  A path that the shell passes on as it stands is printed behind the
digest and two blanks, and nothing is printed when the file cannot be read.  No
path is quoted, so with any other path the shell runs another command line, and
its output can be anything.
-/

namespace RtA100

open Library

/-- The digests that `md5sum` computes. -/
structure Md5sum (Content : Type) where
  digest : Content → CString
  length : ∀ content, (digest content).length = 32
  hexadecimal : ∀ content, ∀ character ∈ digest content,
    character ∈ "0123456789abcdef".toList

variable {Content : Type}

/-- What `md5sum` prints behind the digest. -/
def shownPath (path : CString) : CString :=
  [' ', ' '] ++ path ++ ['\n']

/-- The output of `md5sum` on a path, for the content of the file, if it is run
and can read it. -/
def Md5sum.output (md5sum : Md5sum Content) (path : CString) :
    Option Content → CString
  | none => []
  | some content => md5sum.digest content ++ shownPath path

/-- The characters, besides letters and digits, that need no quotes. -/
def plainCharacters : CString := "/._-+,:@%=".toList

/-- A path that a shell passes on as one word, as it stands, and that `md5sum`
does not take for an option. -/
def plainWord (path : CString) : Bool :=
  path.head?.any (· ≠ '-') &&
    path.all fun character =>
      character.isAlphanum || plainCharacters.contains character

/-- What the command line `md5sum path` prints, for the content of the file of
that path. -/
structure Md5Printed (md5sum : Md5sum Content) (path : CString)
    (file : Option Content) where
  text : CString
  plain : plainWord path = true → text = md5sum.output path file

def upgradeFileRemotePath : CString := "/upgrade".toList

def remotePath (call : UpgradeCall) : CArray 128 :=
  CArray.truncate 127 (upgradeFileRemotePath ++
    '/' :: (decimal call.info.id.toNat ++ '/' :: call.name.text))

/-- What `fkz9_fw_trans_func` gets from outside. -/
structure TransOutcome (md5sum : Md5sum Content) (call : UpgradeCall) where
  localFile : Option Content
  localPrinted : Md5Printed md5sum call.path.text localFile
  directory : Bool
  connect : Int
  mkdir : Int
  upload : Int
  remoteFile : Option Content
  execute : Int
  remotePrinted : Md5Printed md5sum (remotePath call).text remoteFile
  chattr : Int

/-- The comparisons that the function gets past. -/
inductive Md5Check where
  | localCheck
  | remoteCheck
deriving DecidableEq

structure TransResult where
  ret : Int
  info : FwUpdateInfo
  checks : List Md5Check

/-- The transfer to the server, for a package without `rt-a100`. -/
def transferPackage {md5sum : Md5sum Content} {call : UpgradeCall}
    (outcome : TransOutcome md5sum call) : Option TransResult :=
  let failure : TransResult :=
    { ret := -1, info := call.info, checks := [.localCheck] }
  if outcome.connect ≠ 0 ∨ outcome.mkdir ≠ 0 ∨ outcome.upload ≠ 0 then
    some failure
  else if outcome.execute ≠ 0 then some failure
  else
    (sshExecute 128 outcome.remotePrinted.text).map fun resp =>
      if strstr resp call.info.md5.text = false then failure
      else
        { ret := if outcome.chattr ≠ 0 then -1 else 0
          info := call.info
          checks := [.localCheck, .remoteCheck] }

/-- `fkz9_fw_trans_func` -/
def fkz9FwTransFunc {md5sum : Md5sum Content} {call : UpgradeCall}
    (outcome : TransOutcome md5sum call) : Option TransResult :=
  let resp := systemOutput 128 outcome.localPrinted.text
  if strstr call.info.type.text otaTaskRebooted = true then
    some
      { ret := 0
        info := { call.info with
          type := { text := otaTaskNow, fits := otaTaskNow_fits } }
        checks := [] }
  else if strstr resp call.info.md5.text = false then
    some
      { ret := 0, info := { call.info with type := .cleared 19 }
        checks := [] }
  else if outcome.directory = true then
    some { ret := 0, info := call.info, checks := [.localCheck] }
  else transferPackage outcome

/-! ## When the checks are exact -/

/-- The md5 string is the digest of the file. -/
def Md5sum.IsDigest (md5sum : Md5sum Content) (file : Option Content)
    (md5 : CString) : Prop :=
  ∃ content, file = some content ∧ md5sum.digest content = md5

/-- The function gets past a check only with the digest of the file that it
checks. -/
def Md5GateExact {md5sum : Md5sum Content} {call : UpgradeCall}
    (outcome : TransOutcome md5sum call) : Prop :=
  ∃ result, fkz9FwTransFunc outcome = some result ∧
    (.localCheck ∈ result.checks →
      md5sum.IsDigest outcome.localFile call.info.md5.text) ∧
    (.remoteCheck ∈ result.checks →
      md5sum.IsDigest outcome.remoteFile call.info.md5.text)

/-- The digest of a file, and what is shown behind it. -/
def Md5sum.shownDigest (md5sum : Md5sum Content) (behind : CString) :
    Option Content → CString × CString
  | none => ([], [])
  | some content => (md5sum.digest content, behind)

section Shown

variable {md5sum : Md5sum Content} {path : CString} {file : Option Content}

/-- What the buffer of `_system_` shows of the digest, and what it shows of the
rest.  A line of more than 127 characters is read in pieces, of which only the
last one is kept. -/
def Md5Printed.localShown (printed : Md5Printed md5sum path file) :
    CString × CString :=
  if plainWord path = true ∧ path.length ≤ 92 then
    md5sum.shownDigest (shownPath path) file
  else ([], systemOutput 128 printed.text)

/-- What `execute` returns of the digest, and of the rest. -/
def Md5Printed.remoteShown (printed : Md5Printed md5sum path file) :
    CString × CString :=
  if plainWord path = true then
    md5sum.shownDigest ([' ', ' '] ++ path) file
  else ([], printed.text.takeWhile (· ≠ '\n'))

end Shown

/-- A string other than the digest that is a piece of the digest, a piece of
what stands behind it, or consists of the end of the one and the beginning of
the other. -/
structure Md5sum.Lookalike (md5sum : Md5sum Content) (file : Option Content)
    (shown : CString × CString) (md5 : CString) : Prop where
  different : ¬md5sum.IsDigest file md5
  found : md5 <:+: shown.1 ∨ md5 <:+: shown.2 ∨
    ∃ ending beginning, md5 = ending ++ beginning ∧ ending <:+ shown.1 ∧
      beginning <+: shown.2

/-- The task is not marked as rebooted, so the package is checked. -/
def UpgradeCall.Checked (call : UpgradeCall) : Prop :=
  ¬strstr call.info.type.text otaTaskRebooted = true

/-- The copy on the server is checked. -/
structure RemoteChecked {md5sum : Md5sum Content} {call : UpgradeCall}
    (outcome : TransOutcome md5sum call) : Prop where
  checked : call.Checked
  matched : strstr (systemOutput 128 outcome.localPrinted.text)
    call.info.md5.text = true
  directory : outcome.directory = false
  connect : outcome.connect = 0
  mkdir : outcome.mkdir = 0
  upload : outcome.upload = 0
  execute : outcome.execute = 0

/-! ## What the buffers hold -/

theorem Md5sum.newline_not_mem (md5sum : Md5sum Content)
    (content : Content) : '\n' ∉ md5sum.digest content := by
  intro member
  exact absurd (md5sum.hexadecimal content _ member) (by decide)

theorem Md5sum.output_oneLine (md5sum : Md5sum Content) {path : CString}
    (oneLine : '\n' ∉ path) (file : Option Content) :
    '\n' ∉ (md5sum.output path file).dropLast := by
  cases file with
  | none => exact List.not_mem_nil
  | some content =>
      have digest := md5sum.newline_not_mem content
      have line : md5sum.output path (some content) =
          (md5sum.digest content ++ [' ', ' '] ++ path) ++ ['\n'] := by
        simp [Md5sum.output, shownPath]
      rw [line, List.dropLast_concat]
      simp [digest, oneLine]

theorem Md5sum.output_length (md5sum : Md5sum Content) (path : CString)
    (content : Content) :
    (md5sum.output path (some content)).length = path.length + 35 := by
  simp only [Md5sum.output, shownPath, List.length_append, List.length_cons,
    List.length_nil, md5sum.length]
  omega

theorem newline_not_mem_plainWord {path : CString}
    (plain : plainWord path = true) : '\n' ∉ path := by
  rw [plainWord, Bool.and_eq_true, List.all_eq_true] at plain
  intro newline
  exact absurd (plain.2 '\n' newline) (by decide)

section Shown

variable {md5sum : Md5sum Content} {path : CString} {file : Option Content}

theorem Md5Printed.localShown_append
    (printed : Md5Printed md5sum path file) :
    systemOutput 128 printed.text =
      printed.localShown.1 ++ printed.localShown.2 := by
  rw [Md5Printed.localShown]
  split
  · rename_i short
    rw [printed.plain short.1]
    cases file with
    | none => rfl
    | some content =>
        have oneLine := md5sum.output_oneLine
          (newline_not_mem_plainWord short.1) (some content)
        refine (systemOutput_oneLine_iff (by decide) oneLine).mpr ?_
        rw [md5sum.output_length]
        omega
  · rfl

/-- A short plain path and its digest fit the array of `execute`. -/
theorem Md5Printed.plain_fits (printed : Md5Printed md5sum path file)
    (plain : plainWord path = true) (short : path.length ≤ 78) :
    printed.text.length < 128 := by
  rw [printed.plain plain]
  cases file with
  | none => exact Nat.zero_lt_succ 127
  | some content =>
      rw [md5sum.output_length]
      omega

theorem Md5Printed.remoteShown_append
    (printed : Md5Printed md5sum path file) :
    printed.text.takeWhile (· ≠ '\n') =
      printed.remoteShown.1 ++ printed.remoteShown.2 := by
  rw [Md5Printed.remoteShown]
  split
  · rename_i plain
    rw [printed.plain plain]
    cases file with
    | none => rfl
    | some content =>
        have digest := md5sum.newline_not_mem content
        have blanks : '\n' ∉ [' ', ' '] ++ path := by
          simp [newline_not_mem_plainWord plain]
        exact (List.takeWhile_append_of_pos (ne_of_not_mem digest)).trans
          (congrArg _ (takeWhile_stop [] blanks))
  · rfl

theorem Md5Printed.sshExecute_eq (printed : Md5Printed md5sum path file) :
    sshExecute 128 printed.text =
      if printed.text.length < 128 then
        some (printed.remoteShown.1 ++ printed.remoteShown.2)
      else none := by
  rw [← printed.remoteShown_append, sshExecute, strcpy]
  by_cases fits : printed.text.length < 128
  · rw [dif_pos fits, if_pos fits]
    rfl
  · rw [dif_neg fits, if_neg fits]
    rfl

end Shown

theorem remotePath_length (call : UpgradeCall) :
    (remotePath call).text.length ≤ 78 := by
  have id := decimal_id_length call.info.id
  have name := call.name.fits
  have shorter := List.length_take_le 127 (upgradeFileRemotePath ++
    '/' :: (decimal call.info.id.toNat ++ '/' :: call.name.text))
  have fixed : upgradeFileRemotePath.length = 8 := by decide
  rw [remotePath, CArray.truncate, List.length_take]
  simp only [List.length_append, List.length_cons, fixed]
  omega

theorem strstr_append_iff {front back needle : CString} :
    strstr (front ++ back) needle = true ↔
      needle <:+: front ∨ needle <:+: back ∨
        ∃ ending beginning, needle = ending ++ beginning ∧
          ending <:+ front ∧ beginning <+: back := by
  rw [strstr_iff, List.infix_append_iff]

/-! ## The checks -/

section Checks

variable {md5sum : Md5sum Content} {call : UpgradeCall}

/-- A copy on the server is compared once all steps before have succeeded; what
the server prints has to fit the array. -/
theorem transferPackage_checks (outcome : TransOutcome md5sum call)
    (checked : call.Checked)
    (matched : strstr (systemOutput 128 outcome.localPrinted.text)
      call.info.md5.text = true) (server : outcome.directory = false) :
    ((∃ result, transferPackage outcome = some result) ↔
        (RemoteChecked outcome → outcome.remotePrinted.text.length < 128)) ∧
      ∀ result, transferPackage outcome = some result →
        .localCheck ∈ result.checks ∧
        (.remoteCheck ∈ result.checks ↔
          RemoteChecked outcome ∧
            strstr (outcome.remotePrinted.remoteShown.1 ++
              outcome.remotePrinted.remoteShown.2)
                call.info.md5.text = true) := by
  have notRemote : Md5Check.remoteCheck ∉ [Md5Check.localCheck] := by decide
  have both : Md5Check.remoteCheck ∈
      [Md5Check.localCheck, Md5Check.remoteCheck] := by decide
  rw [transferPackage]
  simp only [Md5Printed.sshExecute_eq]
  split
  · rename_i broken
    have unreached : ¬RemoteChecked outcome := by
      rintro reached
      simp [reached.connect, reached.mkdir, reached.upload] at broken
    refine ⟨iff_of_true ⟨_, rfl⟩ fun reached => absurd reached unreached, ?_⟩
    rintro _ ⟨⟩
    exact ⟨List.mem_cons_self,
      iff_of_false notRemote fun both => unreached both.1⟩
  · rename_i reached
    simp only [ne_eq, not_or, Decidable.not_not] at reached
    obtain ⟨connect, mkdir, upload⟩ := reached
    split
    · rename_i failed
      have unreached : ¬RemoteChecked outcome := fun reached =>
        failed reached.execute
      refine ⟨iff_of_true ⟨_, rfl⟩ fun reached => absurd reached unreached,
        ?_⟩
      rintro _ ⟨⟩
      exact ⟨List.mem_cons_self,
        iff_of_false notRemote fun both => unreached both.1⟩
    · rename_i executed
      rw [ne_eq, Decidable.not_not] at executed
      have reached : RemoteChecked outcome :=
        ⟨checked, matched, server, connect, mkdir, upload, executed⟩
      by_cases fits : outcome.remotePrinted.text.length < 128
      · simp only [if_pos fits, Option.map_some, Option.some.injEq]
        refine ⟨iff_of_true ⟨_, rfl⟩ fun _ => fits, ?_⟩
        rintro _ rfl
        split
        · rename_i refused
          refine ⟨List.mem_cons_self, iff_of_false notRemote ?_⟩
          rintro ⟨_, found⟩
          rw [refused] at found
          cases found
        · rename_i accepted
          rw [Bool.not_eq_false] at accepted
          exact ⟨List.mem_cons_self, iff_of_true both ⟨reached, accepted⟩⟩
      · simp only [if_neg fits, Option.map_none]
        exact ⟨iff_of_false nofun fun room => fits (room reached), nofun⟩

/-- Which checks the function gets past. -/
theorem fkz9FwTransFunc_checks (outcome : TransOutcome md5sum call) :
    ((∃ result, fkz9FwTransFunc outcome = some result) ↔
        (RemoteChecked outcome → outcome.remotePrinted.text.length < 128)) ∧
      ∀ result, fkz9FwTransFunc outcome = some result →
        (.localCheck ∈ result.checks ↔
          call.Checked ∧
            strstr (systemOutput 128 outcome.localPrinted.text)
              call.info.md5.text = true) ∧
        (.remoteCheck ∈ result.checks ↔
          RemoteChecked outcome ∧
            strstr (outcome.remotePrinted.remoteShown.1 ++
              outcome.remotePrinted.remoteShown.2)
                call.info.md5.text = true) := by
  have notRemote : Md5Check.remoteCheck ∉ [Md5Check.localCheck] := by decide
  rw [fkz9FwTransFunc]
  simp only
  split
  · rename_i rebooted
    have unreached : ¬RemoteChecked outcome := fun reached =>
      reached.checked rebooted
    refine ⟨iff_of_true ⟨_, rfl⟩ fun reached => absurd reached unreached, ?_⟩
    rintro _ ⟨⟩
    exact ⟨iff_of_false List.not_mem_nil fun both => both.1 rebooted,
      iff_of_false List.not_mem_nil fun both => unreached both.1⟩
  · rename_i checked
    split
    · rename_i refused
      have unmatched : ¬strstr (systemOutput 128 outcome.localPrinted.text)
          call.info.md5.text = true := by
        rw [refused]
        exact Bool.false_ne_true
      refine ⟨iff_of_true ⟨_, rfl⟩ fun reached =>
        absurd reached.matched unmatched, ?_⟩
      rintro _ ⟨⟩
      exact ⟨iff_of_false List.not_mem_nil fun both => unmatched both.2,
        iff_of_false List.not_mem_nil fun both => unmatched both.1.matched⟩
    · rename_i accepted
      rw [Bool.not_eq_false] at accepted
      split
      · rename_i directory
        have unreached : ¬RemoteChecked outcome := by
          intro reached
          rw [reached.directory] at directory
          cases directory
        refine ⟨iff_of_true ⟨_, rfl⟩ fun reached =>
          absurd reached unreached, ?_⟩
        rintro _ ⟨⟩
        exact ⟨iff_of_true List.mem_cons_self ⟨checked, accepted⟩,
          iff_of_false notRemote fun both => unreached both.1⟩
      · rename_i server
        rw [Bool.not_eq_true] at server
        obtain ⟨defined, checks⟩ :=
          transferPackage_checks outcome checked accepted server
        refine ⟨defined, fun result transferred => ?_⟩
        obtain ⟨here, there⟩ := checks result transferred
        exact ⟨iff_of_true here ⟨checked, accepted⟩, there⟩

end Checks

/-- A search accepts only the digest exactly when the string is no
lookalike. -/
theorem Md5sum.search_exact_iff {md5sum : Md5sum Content}
    {file : Option Content} {shown : CString × CString} {md5 : CString} :
    (strstr (shown.1 ++ shown.2) md5 = true → md5sum.IsDigest file md5) ↔
      ¬md5sum.Lookalike file shown md5 := by
  rw [strstr_append_iff]
  constructor
  · intro exact lookalike
    exact lookalike.different (exact lookalike.found)
  · intro absent found
    exact Classical.byContradiction fun different =>
      absent ⟨different, found⟩

/-- A plain path leaves no doubt that what the server prints fits. -/
theorem remotePrinted_fits_iff {md5sum : Md5sum Content} {call : UpgradeCall}
    (outcome : TransOutcome md5sum call) :
    outcome.remotePrinted.text.length < 128 ↔
      (plainWord (remotePath call).text = false →
        outcome.remotePrinted.text.length < 128) := by
  refine ⟨fun fits _ => fits, fun fits => ?_⟩
  cases plain : plainWord (remotePath call).text with
  | true =>
      exact outcome.remotePrinted.plain_fits plain (remotePath_length call)
  | false => exact fits plain

/-- The checks accept nothing but the digests exactly when the md5 string looks
like neither of them where it is searched, and what the server prints for a
path that is not plain fits the array. -/
theorem md5GateExact_iff {md5sum : Md5sum Content} {call : UpgradeCall}
    (outcome : TransOutcome md5sum call) :
    Md5GateExact outcome ↔
      (call.Checked →
        ¬md5sum.Lookalike outcome.localFile outcome.localPrinted.localShown
          call.info.md5.text) ∧
      (RemoteChecked outcome →
        (plainWord (remotePath call).text = false →
          outcome.remotePrinted.text.length < 128) ∧
        ¬md5sum.Lookalike outcome.remoteFile
          outcome.remotePrinted.remoteShown call.info.md5.text) := by
  obtain ⟨defined, checks⟩ := fkz9FwTransFunc_checks outcome
  rw [outcome.localPrinted.localShown_append] at checks
  rw [← remotePrinted_fits_iff, ← md5sum.search_exact_iff,
    ← md5sum.search_exact_iff]
  constructor
  · rintro ⟨result, called, localExact, remoteExact⟩
    obtain ⟨localIff, remoteIff⟩ := checks result called
    refine ⟨fun checked found => localExact (localIff.mpr ⟨checked, found⟩),
      fun reached => ⟨defined.mp ⟨result, called⟩ reached, fun found =>
        remoteExact (remoteIff.mpr ⟨reached, found⟩)⟩⟩
  · rintro ⟨localExact, remoteExact⟩
    obtain ⟨result, called⟩ := defined.mpr fun reached =>
      (remoteExact reached).1
    obtain ⟨localIff, remoteIff⟩ := checks result called
    refine ⟨result, called, fun here => ?_, fun there => ?_⟩
    · obtain ⟨checked, found⟩ := localIff.mp here
      exact localExact checked found
    · obtain ⟨reached, found⟩ := remoteIff.mp there
      exact (remoteExact reached).2 found

/-- The digest of an empty file. -/
def emptyDigest : CString := "d41d8cd98f00b204e9800998ecf8427e".toList

theorem emptyDigest_hexadecimal :
    (emptyDigest.all fun character =>
      decide (character ∈ "0123456789abcdef".toList)) = true := by
  decide

/-- `md5sum` on empty files. -/
def emptyFileMd5sum : Md5sum Unit :=
  { digest := fun _ => emptyDigest
    length := fun _ => by decide
    hexadecimal := fun _ character member =>
      of_decide_eq_true
        (List.all_eq_true.mp emptyDigest_hexadecimal character member) }

/-- A task with an md5 string for a package `a.tgz`. -/
def packageCall (md5 : CArray 64) : UpgradeCall :=
  { info :=
      { id := 7, md5
        type := { text := otaTaskNow, fits := otaTaskNow_fits } }
    path :=
      { text := "/upgrade/cktt/7/a.tgz".toList, fits := by decide }
    name := { text := "a.tgz".toList, fits := by decide } }

def Md5sum.prints (md5sum : Md5sum Content) (path : CString)
    (file : Option Content) : Md5Printed md5sum path file :=
  { text := md5sum.output path file
    plain := fun _ => rfl }

def emptyPackage (md5 : CArray 64) :
    TransOutcome emptyFileMd5sum (packageCall md5) :=
  { localFile := some (), localPrinted := emptyFileMd5sum.prints _ _
    directory := true, connect := 0, mkdir := 0, upload := 0
    remoteFile := some (), execute := 0
    remotePrinted := emptyFileMd5sum.prints _ _, chattr := 0 }

theorem localCheck_not_exact {md5 : CArray 64}
    (matched : strstr (systemOutput 128 (emptyFileMd5sum.output
      "/upgrade/cktt/7/a.tgz".toList (some ()))) md5.text = true)
    (different : emptyFileMd5sum.digest () ≠ md5.text) :
    ¬Md5GateExact (emptyPackage md5) := by
  rintro ⟨result, called, exact, _⟩
  obtain ⟨localIff, _⟩ :=
    (fkz9FwTransFunc_checks (emptyPackage md5)).2 result called
  have checked : (packageCall md5).Checked :=
    show ¬strstr otaTaskNow otaTaskRebooted = true by decide
  obtain ⟨_, _, digest⟩ := exact (localIff.mpr ⟨checked, matched⟩)
  exact different digest

/-- An empty md5 string, and the extension of the package, are accepted. -/
theorem empty_and_extension_accepted :
    ¬Md5GateExact (emptyPackage (.cleared 63)) ∧
      ¬Md5GateExact
        (emptyPackage { text := "tgz".toList, fits := by decide }) :=
  ⟨localCheck_not_exact (by decide) (by decide),
    localCheck_not_exact (by decide) (by decide)⟩

end RtA100
