import Mathlib.Logic.Function.Basic
import RtA100.Library.Machine
import RtA100.Md5Gate
import RtA100.SftpTransfer

/-!
# Packages on the server

`fkz9_fw_trans_func` uploads a package, has the server compute its digest, and
makes it immutable with `chattr +i`.  `fkz9_fw_update_func` starts the update
command, and sends and locks further files.  An immutable file no longer opens
for writing: what an update finds, after any number of other tasks and of
reboots, is the file that was checked, and a task that is delivered again never
gets past its upload.

Each of these steps is a command of its own, and the programs of the server run
on between them.  So a task meets, besides the results of its steps, what these
programs do to the files from one step to the next.  Packages that hold
`rt-a100` are not sent to the server; their `run.sh` is run on the device.
-/

namespace RtA100

open Library

/-! ## The files of the server -/

/-- A file, and its attribute `+i`. -/
structure ServerFile where
  content : List UInt8
  immutable : Bool
deriving DecidableEq

abbrev Server := CString → Option ServerFile

def Server.content (server : Server) (path : CString) : Option (List UInt8) :=
  (server path).map ServerFile.content

/-- An upload to a file that opens only if it is not immutable. -/
def UploadCall.onto (call : UploadCall) (immutable : Bool) : UploadCall :=
  { call with remoteOpens := call.remoteOpens && !immutable }

/-- `SSHClient_UploadFile` to a path. -/
def Server.upload (server : Server) (path : CString) (call : UploadCall) :
    Server × Int :=
  let immutable := (server path).any ServerFile.immutable
  let sent := sshClientUploadFile (call.onto immutable) (server.content path)
  (Function.update server path
    (sent.1.map fun content => { content, immutable }), sent.2)

/-- `chattr +i` on a path, if it works. -/
def Server.chattr (server : Server) (path : CString) : Server :=
  Function.update server path ((server path).map fun file =>
    { file with immutable := true })

/-! ## `do_upgrade_firmware` -/

/-- A file that `fkz9_fw_update_func` sends on: what is done on the server
before, the upload, and the `execute` that locks the file. -/
structure FetchedFile where
  path : CString
  before : Server → Server
  upload : UploadCall
  lock : Server → Server
  execute : Int

/-- What a task meets, in the order of its steps: first what
`fkz9_fw_trans_func` does, then from `reconnect` on `fkz9_fw_update_func`.  The
fields that change the server stand for the commands and for all programs that
run meanwhile: `whileUploaded` from the upload to `md5sum`, `whileCompared` from
there to `chattr`, which is `lock`, and `whileLocked` from there to the update
command, which is `script`.  `fetched` are the files that are sent on, up to the
first step that fails. -/
structure PackageRound (md5sum : Md5sum (List UInt8)) (call : UpgradeCall) where
  localFile : Option (List UInt8)
  localPrinted : Md5Printed md5sum call.path.text localFile
  directory : Bool
  connect : Int
  mkdir : Int
  package : UploadCall
  whileUploaded : Server → Server
  execute : Int
  remotePrinted : ∀ file, Md5Printed md5sum (remotePath call).text file
  whileCompared : Server → Server
  lock : Server → Server
  chattr : Int
  whileLocked : Server → Server
  reconnect : Int
  upgrade : Int
  script : Server → Server
  fetched : List FetchedFile

/-- What is seen of a task: a package that has been compared and locked, with
the content that was compared; the start of the update command, with the
package at that time; and a `run.sh` on the device. -/
inductive PackageOutput where
  | verified (path : CString) (content : Option (List UInt8))
  | upgrade (rebooted : Bool) (path : CString)
      (content : Option (List UInt8))
  | runLocal (path : CString)
deriving DecidableEq

/-- Whether the task has come from the mission file after a reboot. -/
def UpgradeCall.rebooted (call : UpgradeCall) : Bool :=
  strstr call.info.type.text otaTaskRebooted

section Rounds

variable {md5sum : Md5sum (List UInt8)} {call : UpgradeCall}

/-- The server when `md5sum` reads the package. -/
def PackageRound.uploaded (round : PackageRound md5sum call)
    (server : Server) : Server :=
  round.whileUploaded (server.upload (remotePath call).text round.package).1

/-- What the comparisons of `fkz9_fw_trans_func` meet, on this server. -/
def PackageRound.outcome (round : PackageRound md5sum call)
    (server : Server) : TransOutcome md5sum call :=
  let path := (remotePath call).text
  let remoteFile := (round.uploaded server).content path
  { localFile := round.localFile
    localPrinted := round.localPrinted
    directory := round.directory
    connect := round.connect
    mkdir := round.mkdir
    upload := (server.upload path round.package).2
    remoteFile
    execute := round.execute
    remotePrinted := round.remotePrinted remoteFile
    chattr := round.chattr }

/-- `fkz9_fw_trans_func`, with what is done on the server until the update. -/
def transPackage (round : PackageRound md5sum call) (server : Server) :
    Option (Server × TransResult) := do
  let result ← fkz9FwTransFunc (round.outcome server)
  if .localCheck ∈ result.checks ∧ round.directory = false ∧
      round.connect = 0 ∧ round.mkdir = 0 then
    let uploaded := round.uploaded server
    if .remoteCheck ∈ result.checks then
      let locked := round.lock (round.whileCompared uploaded)
      some (round.whileLocked locked, result)
    else some (uploaded, result)
  else some (server, result)

/-- The loop of `fkz9_fw_update_func` over the files to fetch. -/
def sendFetched : List FetchedFile → Server → Server
  | [], server => server
  | file :: files, server =>
      let (uploaded, ret) := (file.before server).upload file.path file.upload
      if ret ≠ 0 then uploaded
      else
        let locked := file.lock uploaded
        if file.execute ≠ 0 then locked else sendFetched files locked

/-- `fkz9_fw_update_func`, as far as it concerns the packages. -/
def updatePackage (round : PackageRound md5sum call) (info : FwUpdateInfo)
    (server : Server) : Server × List PackageOutput :=
  if strstr info.type.text otaTaskNow = true then
    if round.directory = true then (server, [.runLocal call.path.text])
    else if round.reconnect = 0 ∧ round.upgrade = 0 then
      (sendFetched round.fetched (round.script server),
        [.upgrade call.rebooted (remotePath call).text
          (server.content (remotePath call).text)])
    else (server, [])
  else (server, [])

/-- `do_upgrade_firmware` -/
def upgradePackage (round : PackageRound md5sum call) (server : Server) :
    Option (Server × List PackageOutput) := do
  let (following, result) ← transPackage round server
  let path := (remotePath call).text
  if result.ret ≠ 0 then some (following, [])
  else
    let verified : List PackageOutput :=
      if .remoteCheck ∈ result.checks then
        [.verified path ((round.uploaded server).content path)]
      else []
    let (updated, started) := updatePackage round result.info following
    some (updated, verified ++ started)

end Rounds

/-- A task, as `do_downlaod_firmware` prepares it, and what it meets. -/
structure PackageTask (md5sum : Md5sum (List UInt8)) where
  fileName : CArray 64
  info : FwDownInfo
  call : UpgradeCall
  prepared : prepareTask fileName info = some call
  round : PackageRound md5sum call

/-- The server sees the tasks of the device, one after the other in its one
download thread, and between them its own programs.  Reboots of the device do
not matter to it. -/
inductive PackageEvent (md5sum : Md5sum (List UInt8)) where
  | task (task : PackageTask md5sum)
  | program (effect : Server → Server)

def packageStep (md5sum : Md5sum (List UInt8)) (server : Server) :
    PackageEvent md5sum → Option (Server × List PackageOutput)
  | .task task => upgradePackage task.round server
  | .program effect => some (effect server, [])

def packageMachine (md5sum : Md5sum (List UInt8)) :
    Machine Server (PackageEvent md5sum) PackageOutput :=
  { initial := fun _ => True
    step := packageStep md5sum }

/-! ## What stays -/

/-- No immutable file has changed. -/
def KeepsImmutable (before after : Server) : Prop :=
  ∀ path file, before path = some file → file.immutable = true →
    after path = some file

/-- What is done on the server leaves immutable files alone. -/
def RespectsImmutable (effect : Server → Server) : Prop :=
  ∀ server, KeepsImmutable server (effect server)

/-- What is done on the server leaves immutable files alone.  The package stays
where it is from its upload to `md5sum`, nothing changes it from there to
`chattr`, and `chattr` makes it immutable when it succeeds. -/
structure PackageRound.AttributeHolds {md5sum : Md5sum (List UInt8)}
    {call : UpgradeCall} (round : PackageRound md5sum call) : Prop where
  whileUploaded : RespectsImmutable round.whileUploaded
  whileCompared : RespectsImmutable round.whileCompared
  lock : RespectsImmutable round.lock
  whileLocked : RespectsImmutable round.whileLocked
  script : RespectsImmutable round.script
  fetched : ∀ file ∈ round.fetched,
    RespectsImmutable file.before ∧ RespectsImmutable file.lock
  stays : ∀ server file, server (remotePath call).text = some file →
    ∃ other, round.whileUploaded server (remotePath call).text = some other
  unchanged : ∀ server, round.whileCompared server (remotePath call).text =
    server (remotePath call).text
  locks : round.chattr = 0 → ∀ server file,
    server (remotePath call).text = some file →
      round.lock server (remotePath call).text =
        some { file with immutable := true }

def AttributeHolds {md5sum : Md5sum (List UInt8)} (_ : Server) :
    PackageEvent md5sum → Prop
  | .task task => task.round.AttributeHolds
  | .program effect => RespectsImmutable effect

theorem KeepsImmutable.refl (server : Server) :
    KeepsImmutable server server := fun _ _ found _ => found

theorem KeepsImmutable.trans {before middle after : Server}
    (first : KeepsImmutable before middle)
    (second : KeepsImmutable middle after) : KeepsImmutable before after :=
  fun path file found immutable =>
    second path file (first path file found immutable) immutable

theorem sshClientUploadFile_onto_immutable (call : UploadCall)
    (remote : Option (List UInt8)) :
    sshClientUploadFile (call.onto true) remote = (remote, -1) := by
  have closed : (call.onto true).remoteOpens = false := Bool.and_false _
  simp only [sshClientUploadFile, closed, sftpOpen_refused]
  split
  · rfl
  · split <;> rfl

theorem sshClientUploadFile_written {call : UploadCall}
    (succeeds : call.Succeeds) (remote : Option (List UInt8)) :
    ∃ content, (sshClientUploadFile call remote).1 = some content :=
  ⟨_, sshClientUploadFile_content succeeds remote⟩

theorem Server.upload_immutable {server : Server} {path : CString}
    {file : ServerFile} (found : server path = some file)
    (immutable : file.immutable = true) (call : UploadCall) :
    (server.upload path call).2 = -1 ∧
      (server.upload path call).1 path = some file := by
  simp only [Server.upload, found, Option.any_some, immutable,
    sshClientUploadFile_onto_immutable, Function.update_self, Server.content,
    Option.map_some, true_and]
  rw [← immutable]

theorem Server.upload_keeps (server : Server) (path : CString)
    (call : UploadCall) :
    KeepsImmutable server (server.upload path call).1 := by
  intro other file found immutable
  by_cases same : other = path
  · subst same
    exact (Server.upload_immutable found immutable call).2
  · exact (Function.update_of_ne same _ _).trans found

/-- A file that has been uploaded is there, and was not immutable before. -/
theorem Server.upload_done {server : Server} {path : CString}
    {call : UploadCall} (done : (server.upload path call).2 = 0) :
    (∃ content, (server.upload path call).1 path =
        some { content, immutable := false }) ∧
      ∀ file, server path = some file → file.immutable = false := by
  have free : ∀ file, server path = some file → file.immutable = false := by
    intro file found
    rw [← Bool.not_eq_true]
    intro immutable
    rw [(Server.upload_immutable found immutable call).1] at done
    exact absurd done (by decide)
  have unlocked : (server path).any ServerFile.immutable = false := by
    cases found : server path with
    | none => rfl
    | some file => exact free file found
  have succeeds := (sshClientUploadFile_zero_iff _ _).mp done
  obtain ⟨content, sent⟩ := sshClientUploadFile_written succeeds
    (server.content path)
  rw [unlocked] at sent
  refine ⟨⟨content, ?_⟩, free⟩
  simp only [Server.upload, unlocked, sent, Function.update_self,
    Option.map_some]

theorem sendFetched_keeps {files : List FetchedFile}
    (respects : ∀ file ∈ files,
      RespectsImmutable file.before ∧ RespectsImmutable file.lock)
    (server : Server) : KeepsImmutable server (sendFetched files server) := by
  induction files generalizing server with
  | nil => exact .refl server
  | cons file files induction =>
      obtain ⟨before, lock⟩ := respects file List.mem_cons_self
      have uploaded := (before server).trans
        (Server.upload_keeps _ file.path file.upload)
      have locked := uploaded.trans (lock _)
      simp only [sendFetched]
      split
      · exact uploaded
      · split
        · exact locked
        · exact locked.trans (induction
            (fun other member => respects other (List.mem_cons_of_mem _ member))
            _)

/-! ## One task -/

section Task

variable {md5sum : Md5sum (List UInt8)} {call : UpgradeCall}
  {round : PackageRound md5sum call} {server following : Server}
  {result : TransResult}

/-- The comparison on the server comes after an upload. -/
theorem remoteCheck_uploaded {outcome : TransOutcome md5sum call}
    (called : fkz9FwTransFunc outcome = some result)
    (compared : .remoteCheck ∈ result.checks) :
    .localCheck ∈ result.checks ∧ RemoteChecked outcome := by
  obtain ⟨localIff, remoteIff⟩ :=
    (fkz9FwTransFunc_checks outcome).2 result called
  have reached := (remoteIff.mp compared).1
  exact ⟨localIff.mpr ⟨reached.checked, reached.matched⟩, reached⟩

/-- A transfer with a comparison on the server succeeds only if `chattr`
does. -/
theorem remoteCheck_chattr {outcome : TransOutcome md5sum call}
    (called : fkz9FwTransFunc outcome = some result)
    (compared : .remoteCheck ∈ result.checks) (succeeded : result.ret = 0) :
    outcome.chattr = 0 := by
  have failure : ¬(-1 : Int) = 0 := by decide
  have reached := (remoteCheck_uploaded called compared).2
  simp only [fkz9FwTransFunc, if_neg reached.checked, reached.matched,
    reached.directory, transferPackage, reached.connect, reached.mkdir,
    reached.upload, reached.execute, ne_eq, not_true_eq_false, or_self,
    Bool.true_eq_false, Bool.false_eq_true, if_false] at called
  obtain ⟨resp, _, rfl⟩ := Option.map_eq_some_iff.mp called
  split at succeeded
  · exact absurd succeeded failure
  · exact Decidable.byContradiction fun failed => by
      simp [failed] at succeeded

/-- What a transfer leaves on the server. -/
structure Transferred (round : PackageRound md5sum call)
    (server following : Server) (verified : Prop) : Prop where
  keeps : KeepsImmutable server following
  locked : verified → ∃ bytes,
    (round.uploaded server).content (remotePath call).text = some bytes ∧
      following (remotePath call).text =
        some { content := bytes, immutable := true }
  fresh : verified → ∀ file, server (remotePath call).text = some file →
    file.immutable = false

theorem transPackage_called
    (transferred : transPackage round server = some (following, result)) :
    fkz9FwTransFunc (round.outcome server) = some result := by
  simp only [transPackage, Option.bind_eq_bind,
    Option.bind_eq_some_iff] at transferred
  obtain ⟨result, called, rest⟩ := transferred
  split at rest
  · split at rest <;>
    · cases rest
      exact called
  · cases rest
    exact called

/-- After a comparison and a `chattr` that succeed the package is there, as it
was compared, and immutable. -/
theorem transPackage_transferred (attributes : round.AttributeHolds)
    (transferred : transPackage round server = some (following, result)) :
    Transferred round server following
      (.remoteCheck ∈ result.checks ∧ result.ret = 0) := by
  have called := transPackage_called transferred
  have uploaded : KeepsImmutable server (round.uploaded server) :=
    (server.upload_keeps _ round.package).trans (attributes.whileUploaded _)
  simp only [transPackage, called, Option.bind_eq_bind,
    Option.bind_some] at transferred
  split at transferred
  · split at transferred
    · rename_i compared
      cases transferred
      have done : (server.upload (remotePath call).text
          round.package).2 = 0 :=
        (remoteCheck_uploaded called compared).2.upload
      obtain ⟨⟨content, written⟩, fresh⟩ := Server.upload_done done
      obtain ⟨file, found⟩ := attributes.stays _ _ written
      refine ⟨((uploaded.trans (attributes.whileCompared _)).trans
        (attributes.lock _)).trans (attributes.whileLocked _), ?_,
        fun _ => fresh⟩
      rintro ⟨_, succeeded⟩
      have lockedFile := attributes.locks
        (remoteCheck_chattr called compared succeeded)
        (round.whileCompared (round.uploaded server)) file
        ((attributes.unchanged _).trans found)
      exact ⟨file.content, congrArg (Option.map ServerFile.content) found,
        attributes.whileLocked _ _ _ lockedFile rfl⟩
    · rename_i skipped
      cases transferred
      exact ⟨uploaded, fun both => absurd both.1 skipped,
        fun both => absurd both.1 skipped⟩
  · rename_i elsewhere
    cases transferred
    have skipped : .remoteCheck ∉ result.checks := by
      intro compared
      obtain ⟨here, reached⟩ := remoteCheck_uploaded called compared
      exact elsewhere ⟨here, reached.directory, reached.connect,
        reached.mkdir⟩
    exact ⟨.refl server, fun both => absurd both.1 skipped,
      fun both => absurd both.1 skipped⟩

/-- A task that is not marked as rebooted is updated on the server only after
its package has been compared there. -/
theorem fkz9FwTransFunc_compared {outcome : TransOutcome md5sum call}
    (called : fkz9FwTransFunc outcome = some result)
    (checked : call.rebooted = false) (directory : outcome.directory = false)
    (succeeded : result.ret = 0)
    (now : strstr result.info.type.text otaTaskNow = true) :
    .remoteCheck ∈ result.checks := by
  have notRebooted : ¬strstr call.info.type.text otaTaskRebooted = true := by
    rw [← UpgradeCall.rebooted, checked]
    exact Bool.false_ne_true
  have silent : ¬strstr [] otaTaskNow = true := by decide
  have failure : ¬(-1 : Int) = 0 := by decide
  simp only [fkz9FwTransFunc, notRebooted, directory, Bool.false_eq_true,
    if_false] at called
  split at called
  · cases called
    exact absurd now silent
  · rw [transferPackage] at called
    split at called
    · cases called
      exact absurd succeeded failure
    · split at called
      · cases called
        exact absurd succeeded failure
      · obtain ⟨resp, _, rfl⟩ := Option.map_eq_some_iff.mp called
        split
        · rename_i refused
          rw [if_pos refused] at succeeded
          exact absurd succeeded failure
        · exact List.mem_cons_of_mem _ List.mem_cons_self

/-- What a task starts: nothing, `run.sh` on the device, or the update command
on the server. -/
inductive Started (call : UpgradeCall) (server : Server) (compared : Prop) :
    List PackageOutput → Prop where
  | nothing : Started call server compared []
  | device : Started call server compared [.runLocal call.path.text]
  | server (checked : call.rebooted = false → compared) :
      Started call server compared
        [.upgrade call.rebooted (remotePath call).text
          (server.content (remotePath call).text)]

/-- Everything that a task does: its transfer, and perhaps its update. -/
theorem upgradePackage_cases {emitted : List PackageOutput}
    (attributes : round.AttributeHolds)
    (upgraded : upgradePackage round server = some (following, emitted)) :
    ∃ middle result, transPackage round server = some (middle, result) ∧
      KeepsImmutable middle following ∧
      (result.ret ≠ 0 ∧ emitted = [] ∨
        result.ret = 0 ∧ ∃ started,
          emitted = (if .remoteCheck ∈ result.checks then
            [.verified (remotePath call).text
              ((round.uploaded server).content (remotePath call).text)]
            else []) ++ started ∧
          Started call middle (.remoteCheck ∈ result.checks) started) := by
  simp only [upgradePackage, Option.bind_eq_bind, Option.bind_eq_some_iff,
    Prod.exists] at upgraded
  obtain ⟨middle, result, transferred, rest⟩ := upgraded
  refine ⟨middle, result, transferred, ?_⟩
  split at rest
  · rename_i failed
    cases rest
    exact ⟨.refl _, .inl ⟨failed, rfl⟩⟩
  · rename_i succeeded
    rw [ne_eq, Decidable.not_not] at succeeded
    cases rest
    rw [updatePackage]
    split
    · rename_i now
      split
      · exact ⟨.refl _, .inr ⟨succeeded, _, rfl, .device⟩⟩
      · rename_i elsewhere
        split
        · refine ⟨(attributes.script middle).trans
            (sendFetched_keeps attributes.fetched _),
            .inr ⟨succeeded, _, rfl, .server fun checked => ?_⟩⟩
          exact fkz9FwTransFunc_compared (transPackage_called transferred)
            checked (eq_false_of_ne_true elsewhere) succeeded now
        · exact ⟨.refl _, .inr ⟨succeeded, _, rfl, .nothing⟩⟩
    · exact ⟨.refl _, .inr ⟨succeeded, _, rfl, .nothing⟩⟩

end Task

/-! ## Any number of tasks -/

/-- What an earlier output says about a later one. -/
def PackageOutput.Precedes : PackageOutput → PackageOutput → Prop
  | .verified path content, .upgrade _ other found =>
      path = other → found = content
  | .verified path _, .verified other _ => path ≠ other
  | .upgrade false path _, .upgrade false other _ => path ≠ other
  | _, _ => True

/-- What holds after a run: every package that has been verified is as it was
then, and immutable. -/
structure PackagesHold (outputs : List PackageOutput) (server : Server) :
    Prop where
  kept : ∀ path content, .verified path content ∈ outputs →
    ∃ bytes, content = some bytes ∧
      server path = some { content := bytes, immutable := true }
  compared : ∀ path found, .upgrade false path found ∈ outputs →
    ∃ content, .verified path content ∈ outputs
  ordered : outputs.Pairwise PackageOutput.Precedes

section Steps

variable {outputs : List PackageOutput} {server following : Server}
  {path : CString}

theorem PackagesHold.keeps (holds : PackagesHold outputs server)
    (keeps : KeepsImmutable server following) :
    PackagesHold outputs following where
  kept path content member := by
    obtain ⟨bytes, same, found⟩ := holds.kept path content member
    exact ⟨bytes, same, keeps path _ found rfl⟩
  compared := holds.compared
  ordered := holds.ordered

/-- A package that has been verified was not immutable before. -/
theorem PackagesHold.not_verified (holds : PackagesHold outputs server)
    (fresh : ∀ file, server path = some file → file.immutable = false)
    (content : Option (List UInt8)) : .verified path content ∉ outputs := by
  intro member
  obtain ⟨bytes, _, found⟩ := holds.kept path content member
  cases fresh _ found

/-- One more output, from what it says itself and what the earlier ones say
about it. -/
theorem PackagesHold.append (holds : PackagesHold outputs server)
    {output : PackageOutput}
    (kept : ∀ path content, output = .verified path content →
      ∃ bytes, content = some bytes ∧
        server path = some { content := bytes, immutable := true })
    (compared : ∀ path found, output = .upgrade false path found →
      ∃ content, .verified path content ∈ outputs)
    (precedes : ∀ earlier ∈ outputs, earlier.Precedes output) :
    PackagesHold (outputs ++ [output]) server where
  kept path content member := by
    rcases List.mem_append.mp member with earlier | last
    · exact holds.kept path content earlier
    · exact kept path content (List.mem_singleton.mp last).symm
  compared path found member := by
    have verified : ∃ content, .verified path content ∈ outputs := by
      rcases List.mem_append.mp member with earlier | last
      · exact holds.compared path found earlier
      · exact compared path found (List.mem_singleton.mp last).symm
    obtain ⟨content, before⟩ := verified
    exact ⟨content, List.mem_append_left _ before⟩
  ordered := by
    rw [List.pairwise_append]
    refine ⟨holds.ordered, List.pairwise_singleton _ _, ?_⟩
    intro earlier member last here
    rw [List.mem_singleton.mp here]
    exact precedes earlier member

theorem PackagesHold.verify (holds : PackagesHold outputs server)
    (keeps : KeepsImmutable server following) {bytes : List UInt8}
    (locked : following path = some { content := bytes, immutable := true })
    (fresh : ∀ file, server path = some file → file.immutable = false) :
    PackagesHold (outputs ++ [.verified path (some bytes)]) following := by
  refine (holds.keeps keeps).append ?_ nofun ?_
  · rintro other content ⟨⟩
    exact ⟨bytes, rfl, locked⟩
  · intro earlier member
    cases earlier with
    | verified other content =>
        rintro rfl
        exact holds.not_verified fresh content member
    | upgrade rebooted other found => cases rebooted <;> trivial
    | runLocal other => trivial

theorem PackagesHold.upgrade (holds : PackagesHold outputs server)
    {rebooted : Bool}
    (compared : rebooted = false →
      (∃ content, .verified path content ∈ outputs) ∧
        ∀ found, .upgrade false path found ∉ outputs) :
    PackagesHold
      (outputs ++ [.upgrade rebooted path (server.content path)])
      server := by
  refine holds.append nofun ?_ ?_
  · rintro other found ⟨⟩
    exact (compared rfl).1
  · intro earlier member
    cases earlier with
    | verified other content =>
        rintro rfl
        obtain ⟨bytes, rfl, found⟩ := holds.kept _ content member
        rw [Server.content, found, Option.map_some]
    | upgrade marked other found =>
        cases marked with
        | true => trivial
        | false =>
            cases rebooted with
            | true => trivial
            | false =>
                rintro rfl
                exact (compared rfl).2 found member
    | runLocal other => trivial

/-- A `run.sh` on the device says nothing about the server. -/
theorem PackagesHold.runLocal (holds : PackagesHold outputs server)
    (shown : CString) :
    PackagesHold (outputs ++ [.runLocal shown]) server := by
  refine holds.append nofun nofun fun earlier _ => ?_
  cases earlier with
  | verified other content => trivial
  | upgrade rebooted other found => cases rebooted <;> trivial
  | runLocal other => trivial

theorem PackagesHold.started (holds : PackagesHold outputs server)
    {call : UpgradeCall} {compared : Prop} {started : List PackageOutput}
    (starts : Started call server compared started)
    (verified : compared →
      (∃ content, .verified (remotePath call).text content ∈ outputs) ∧
        ∀ found, .upgrade false (remotePath call).text found ∉ outputs) :
    PackagesHold (outputs ++ started) server := by
  cases starts with
  | nothing =>
      rw [List.append_nil]
      exact holds
  | device => exact holds.runLocal _
  | server checked =>
      exact holds.upgrade fun marked => verified (checked marked)

theorem PackagesHold.task {md5sum : Md5sum (List UInt8)} {call : UpgradeCall}
    {round : PackageRound md5sum call} {emitted : List PackageOutput}
    (holds : PackagesHold outputs server) (attributes : round.AttributeHolds)
    (upgraded : upgradePackage round server = some (following, emitted)) :
    PackagesHold (outputs ++ emitted) following := by
  obtain ⟨middle, result, transferred, keeps, outcome⟩ :=
    upgradePackage_cases attributes upgraded
  obtain ⟨kept, locked, fresh⟩ :=
    transPackage_transferred attributes transferred
  rcases outcome with ⟨_, rfl⟩ | ⟨succeeded, started, rfl, starts⟩
  · rw [List.append_nil]
    exact holds.keeps (kept.trans keeps)
  · by_cases compared : .remoteCheck ∈ result.checks
    · have unlocked := fresh ⟨compared, succeeded⟩
      obtain ⟨bytes, content, found⟩ := locked ⟨compared, succeeded⟩
      rw [if_pos compared, content, ← List.append_assoc]
      refine ((holds.verify kept found unlocked).started starts
        fun _ => ?_).keeps keeps
      refine ⟨⟨_, List.mem_append_right _ (List.mem_singleton_self _)⟩,
        fun found member => ?_⟩
      rcases List.mem_append.mp member with earlier | last
      · obtain ⟨content, before⟩ := holds.compared _ found earlier
        exact holds.not_verified unlocked content before
      · cases List.mem_singleton.mp last
    · rw [if_neg compared, List.nil_append]
      exact ((holds.keeps kept).started starts fun reached =>
        absurd reached compared).keeps keeps

theorem PackagesHold.step {md5sum : Md5sum (List UInt8)}
    {event : PackageEvent md5sum} {emitted : List PackageOutput}
    (holds : PackagesHold outputs server)
    (attributes : AttributeHolds server event)
    (stepped : packageStep md5sum server event =
      some (following, emitted)) :
    PackagesHold (outputs ++ emitted) following := by
  cases event with
  | task task => exact holds.task attributes stepped
  | program effect =>
      cases stepped
      rw [List.append_nil]
      exact holds.keeps (attributes server)

end Steps

theorem packagesHold {md5sum : Md5sum (List UInt8)}
    {outputs : List PackageOutput} {server : Server}
    (reached : (packageMachine md5sum).Reaches AttributeHolds outputs
      server) : PackagesHold outputs server := by
  refine Machine.invariant (fun _ _ => ⟨nofun, nofun, .nil⟩) ?_ reached
  intro outputs server event following emitted holds attributes stepped
  exact holds.step attributes stepped

/-- What an update finds, after any number of other tasks, is the package that
was verified. -/
theorem upgrade_finds_verified {md5sum : Md5sum (List UInt8)}
    {outputs : List PackageOutput} {server : Server}
    (reached : (packageMachine md5sum).Reaches AttributeHolds outputs server)
    {earlier later : List PackageOutput} {path : CString}
    {content found : Option (List UInt8)} {rebooted : Bool}
    (split : outputs = earlier ++ .verified path content :: later)
    (upgraded : .upgrade rebooted path found ∈ later) : found = content := by
  have ordered := (packagesHold reached).ordered
  rw [split, List.pairwise_append, List.pairwise_cons] at ordered
  exact ordered.2.1.1 _ upgraded rfl

/-- `md5sum` on empty files. -/
def emptyMd5sum : Md5sum (List UInt8) :=
  { digest := fun _ => emptyFileMd5sum.digest ()
    length := fun _ => emptyFileMd5sum.length ()
    hexadecimal := fun _ => emptyFileMd5sum.hexadecimal () }

theorem Server.chattr_keeps (server : Server) (path : CString) :
    KeepsImmutable server (server.chattr path) := by
  intro other file found immutable
  by_cases same : other = path
  · subst same
    rw [Server.chattr, Function.update_self, found, Option.map_some,
      ← immutable]
  · exact (Function.update_of_ne same _ _).trans found

/-- A round without failures, for an empty package; the programs of the server
leave it alone. -/
def emptyRound (call : UpgradeCall) : PackageRound emptyMd5sum call :=
  { localFile := some []
    localPrinted := emptyMd5sum.prints _ _
    directory := false
    connect := 0
    mkdir := 0
    package :=
      { sftp := true, localOpens := true, remoteOpens := true, reads := [] }
    whileUploaded := id
    execute := 0
    remotePrinted := emptyMd5sum.prints _
    whileCompared := id
    lock := fun server => server.chattr (remotePath call).text
    chattr := 0
    whileLocked := id
    reconnect := 0
    upgrade := 0
    script := id
    fetched := [] }

theorem emptyRound_attributes (call : UpgradeCall) :
    (emptyRound call).AttributeHolds where
  whileUploaded := KeepsImmutable.refl
  whileCompared := KeepsImmutable.refl
  lock server := server.chattr_keeps _
  whileLocked := KeepsImmutable.refl
  script := KeepsImmutable.refl
  fetched := nofun
  stays _ file found := ⟨file, found⟩
  unchanged _ := rfl
  locks _ _ _ found :=
    (Function.update_self _ _ _).trans (congrArg _ found)

theorem otaTaskNext_fits : otaTaskNext.length < 20 := by decide

/-- A task for the next reboot, as it is delivered and as it comes back. -/
def rebootTask (flag : UInt8) : FwDownInfo :=
  { id := 7
    url := { text := "u/a".toList, fits := by decide }
    md5 := { text := emptyDigest, fits := by decide }
    type := { text := otaTaskNext, fits := otaTaskNext_fits }
    flag }

/-- A task for now, with the same package name. -/
def nowTask : FwDownInfo :=
  { rebootTask fwNeedDownload with
    id := 8
    type := { text := otaTaskNow, fits := otaTaskNow_fits } }

def emptyPackageCall (info : FwDownInfo) : UpgradeCall :=
  { info := info.updateInfo
    path := CArray.truncate 127 (upgradeFileLocalPath ++
      decimal info.id.toNat ++ "/a".toList)
    name := { text := "a".toList, fits := by decide } }

def emptyPackageTask (info : FwDownInfo)
    (prepared : prepareTask (.cleared 63) info =
      some (emptyPackageCall info)) : PackageEvent emptyMd5sum :=
  .task
    { fileName := .cleared 63
      info, call := emptyPackageCall info, prepared
      round := emptyRound (emptyPackageCall info) }

/-- A program that removes all files that it can remove. -/
def removeMutable (server : Server) : Server :=
  fun path => (server path).filter ServerFile.immutable

theorem removeMutable_respects : RespectsImmutable removeMutable := by
  intro server path file found immutable
  rw [removeMutable, found, Option.filter_some, if_pos immutable]

/-- The package of the first task is delivered twice before it is updated, that
of the second one twice at once, and files are removed between them. -/
def packageEvents : List (PackageEvent emptyMd5sum) :=
  [emptyPackageTask (rebootTask fwNeedDownload) rfl,
    .program removeMutable,
    emptyPackageTask (rebootTask fwNeedDownload) rfl,
    emptyPackageTask nowTask rfl,
    .program removeMutable,
    emptyPackageTask (rebootTask 0) rfl,
    emptyPackageTask nowTask rfl]

theorem packageEvents_attribute :
    ∀ event ∈ packageEvents, ∀ server, AttributeHolds server event := by
  simp only [packageEvents, List.forall_mem_cons]
  exact ⟨fun _ => emptyRound_attributes _, fun _ => removeMutable_respects,
    fun _ => emptyRound_attributes _, fun _ => emptyRound_attributes _,
    fun _ => removeMutable_respects, fun _ => emptyRound_attributes _,
    fun _ => emptyRound_attributes _, fun _ member => nomatch member⟩

/-- Each package is verified once; the first one is updated after the reboot,
the second one once at once. -/
def packageOutputs : List PackageOutput :=
  [.verified "/upgrade/7/a".toList (some []),
    .verified "/upgrade/8/a".toList (some []),
    .upgrade false "/upgrade/8/a".toList (some []),
    .upgrade true "/upgrade/7/a".toList (some [])]

theorem packageEvents_reached : ∃ server,
    (packageMachine emptyMd5sum).Reaches AttributeHolds packageOutputs
      server := by
  have computed : ((packageMachine emptyMd5sum).run (fun _ _ => true)
      (fun _ => none) packageEvents).map Prod.snd =
      some packageOutputs := by
    decide +kernel
  obtain ⟨outputs, server, reached, rfl⟩ := Machine.Reaches.of_events
    packageEvents_attribute trivial computed
  exact ⟨server, reached⟩

theorem upgrade_finds_verified_rebooted : ∃ server later found,
    (packageMachine emptyMd5sum).Reaches AttributeHolds
        (.verified "/upgrade/7/a".toList (some []) :: later) server ∧
      .upgrade true "/upgrade/7/a".toList found ∈ later ∧
      found = some [] := by
  obtain ⟨server, reached⟩ := packageEvents_reached
  have started : .upgrade true "/upgrade/7/a".toList (some []) ∈
      packageOutputs.tail := by decide
  exact ⟨server, packageOutputs.tail, _, reached, started,
    @upgrade_finds_verified _ _ _ reached [] _ _ _ _ _ rfl started⟩

end RtA100
