import RtA100.Library.Session
import RtA100.OtaMission
import RtA100.OtaUpdater

/-!
# The SSH sessions of the services

Four functions initialise an SSH client, use it and destroy it again, and each
of their exits has a cleanup of its own.  Here they are sessions: programs whose
calls on the client may end in any way, with whatever answer.  What they do
besides is kept as far as it decides about the calls.
-/

namespace RtA100

open Library

/-- The commands that the services execute. -/
inductive RemoteCommand where
  | makeDirectory
  | md5sum
  | chattr
  | upgrade
  | countLines
  | printLine (line : Nat)
  | chmod
  | restartAlgorithm
  | baseInfo
  | unitInfo
deriving DecidableEq

inductive SshCall where
  | init
  | connect
  | execute (command : RemoteCommand)
  | uploadFile
  | downloadFile
  | destroy
deriving DecidableEq

/-- What a call returns, and what `execute` leaves in `resp`. -/
structure SshReply where
  ret : Int
  resp : CString

abbrev SshSession := Session SshCall SshReply Int

def sshCall (request : SshCall) : SshSession SshReply := Session.call request

/-- A call with the block `if (failed) { SSHClient_Destroy(&ssh_client); ...;
return -1; }` behind it. -/
def sshCallOrLeave (request : SshCall) (failed : SshReply → Bool) :
    SshSession SshReply := do
  let reply ← sshCall request
  if failed reply = true then
    let _ ← sshCall .destroy
    Session.exit (-1)
  else pure reply

/-- `if (ret)` -/
def nonzero (reply : SshReply) : Bool := reply.ret ≠ 0

/-- `fkz9_fw_trans_func`: `localResp` is the output of `md5sum` on the package,
and `directory` whether the package holds `rt-a100`. -/
def fkz9FwTransSession (arg : Option FwUpdateInfo) (localResp : CString)
    (directory : Bool) : SshSession Int :=
  match arg with
  | none => pure (-1)
  | some info =>
      if strstr info.type.text otaTaskRebooted = true then pure 0
      else if strstr localResp info.md5.text = false then pure 0
      else if directory = true then pure 0
      else do
        let _ ← sshCall .init
        let _ ← sshCallOrLeave .connect nonzero
        let _ ← sshCallOrLeave (.execute .makeDirectory) nonzero
        let _ ← sshCallOrLeave .uploadFile nonzero
        let _ ← sshCallOrLeave (.execute .md5sum) fun reply =>
          nonzero reply || !strstr reply.resp info.md5.text
        let _ ← sshCallOrLeave (.execute .chattr) nonzero
        let _ ← sshCall .destroy
        pure 0

/-- `sscanf(resp, "%d", &file_num)` -/
def scanFileNum (fileNum : Int) (resp : CString) : Int :=
  match scanInteger resp with
  | some (value, _) => (Int32.ofInt value).toInt
  | none => fileNum

/-- One turn of the loop over the configuration files. -/
def uploadRow (i : Nat) : SshSession Unit := do
  let _ ← sshCallOrLeave (.execute (.printLine (i + 1))) nonzero
  let _ ← sshCallOrLeave .downloadFile nonzero
  pure ()

/-- One turn of the loop over the files to fetch. -/
def downloadRow (i : Nat) : SshSession Unit := do
  let _ ← sshCallOrLeave (.execute (.printLine (i + 1))) nonzero
  let _ ← sshCallOrLeave .uploadFile nonzero
  let _ ← sshCallOrLeave (.execute .chmod) nonzero
  pure ()

/-- The block under `if (file_num)` for the files to fetch. -/
def downloadRows (fileNum : Int) : SshSession Unit :=
  if fileNum ≠ 0 then do
    Session.forNumbers downloadRow fileNum.toNat 0
    let _ ← sshCallOrLeave (.execute .restartAlgorithm) nonzero
    pure ()
  else pure ()

/-- `fkz9_fw_update_func` -/
def fkz9FwUpdateSession (arg : Option FwUpdateInfo) (directory : Bool) :
    SshSession Int :=
  match arg with
  | none => pure (-1)
  | some info =>
      if strstr info.type.text otaTaskNow = false then pure 0
      else if directory = true then pure 0
      else do
        let _ ← sshCall .init
        let _ ← sshCallOrLeave .connect nonzero
        let _ ← sshCallOrLeave (.execute .upgrade) nonzero
        let _ ← sshCallOrLeave .downloadFile nonzero
        let counted ← sshCallOrLeave (.execute .countLines) nonzero
        let fileNum := scanFileNum 0 counted.resp
        Session.forNumbers uploadRow fileNum.toNat 0
        let recounted ← sshCallOrLeave (.execute .countLines) nonzero
        downloadRows (scanFileNum fileNum recounted.resp)
        let _ ← sshCall .destroy
        pure 0

/-- `func_wave_file_req`, with the result of its `ftp_upload`. -/
def funcWaveFileReqSession (arg : Option Unit) (ftpUpload : Int) :
    SshSession Int :=
  match arg with
  | none => pure (-1)
  | some _ => do
      let _ ← sshCall .init
      let _ ← sshCallOrLeave .connect nonzero
      let _ ← sshCallOrLeave .downloadFile nonzero
      let _ ← sshCall .destroy
      pure (if ftpUpload ≠ 0 then -1 else 0)

/-- `get_ota_heartbeat_info` -/
def getOtaHeartbeatInfoSession (arg : Option Unit) : SshSession Int :=
  match arg with
  | none => pure (-1)
  | some _ => do
      let _ ← sshCall .init
      let _ ← sshCallOrLeave .connect nonzero
      let _ ← sshCallOrLeave (.execute .baseInfo) nonzero
      let _ ← sshCallOrLeave (.execute .unitInfo) nonzero
      let _ ← sshCall .destroy
      pure 0

/-! ## Balanced sessions -/

/-- A call on a client between its initialisation and its end. -/
def SshCall.IsUse (request : SshCall) : Prop :=
  request ≠ .init ∧ request ≠ .destroy

/-- A call with a result that the callers look at, which is not 0. -/
def FailedCall (made : SshCall × SshReply) : Prop :=
  made.1.IsUse ∧ made.2.ret ≠ 0

def countCalls (request : SshCall) (calls : History SshCall SshReply) : Nat :=
  (calls.map Prod.fst).count request

/-- A client that is initialised is destroyed once and left alone after that,
and a failure on it is reported. -/
structure Balanced (calls : History SshCall SshReply) (ret : Int) : Prop where
  oneClient : countCalls .init calls ≤ 1
  destroyedOnce : countCalls .destroy calls = countCalls .init calls
  silent : ∀ before reply after,
    calls = before ++ (.destroy, reply) :: after → after = []
  reported : (∃ made ∈ calls, FailedCall made) → ret ≠ 0

/-- The result of a function and the calls that it makes. -/
def sessionResult (session : SshSession Int)
    (environment : Environment SshCall SshReply) :
    Int × History SshCall SshReply :=
  match session environment [] with
  | (.ok ret, calls) => (ret, calls)
  | (.error ret, calls) => (ret, calls)

/-- Every execution of the function is balanced. -/
def BalancedFunction (session : SshSession Int) : Prop :=
  ∀ environment, Balanced (sessionResult session environment).2
    (sessionResult session environment).1

/-- A call on a client that succeeds. -/
def SucceedsInUse (made : SshCall × SshReply) : Prop :=
  made.1.IsUse ∧ made.2.ret = 0

/-- Calls on a client with its end. -/
def EndsClient (calls : History SshCall SshReply) : Prop :=
  ∃ uses reply, calls = uses ++ [(.destroy, reply)] ∧
    ∀ made ∈ uses, made.1.IsUse

/-- What an exit has done with the client. -/
def LeavesClient (calls : History SshCall SshReply) (ret : Int) : Prop :=
  EndsClient calls ∧ ret ≠ 0

/-- What the end of a function has done with the client. -/
def ClosesClient (calls : History SshCall SshReply) (_ : Int) : Prop :=
  EndsClient calls ∧ ¬∃ made ∈ calls, FailedCall made

/-- A part of a session that goes on only after successful calls, and destroys
the client when it leaves. -/
def KeepsClient {α : Type} (session : SshSession α) : Prop :=
  Session.Keeps SucceedsInUse LeavesClient session

theorem EndsClient.prepend {calls more : History SshCall SshReply}
    (succeed : ∀ made ∈ calls, SucceedsInUse made) (ends : EndsClient more) :
    EndsClient (calls ++ more) := by
  obtain ⟨later, reply, rfl, laterUses⟩ := ends
  refine ⟨calls ++ later, reply, (List.append_assoc _ _ _).symm, ?_⟩
  intro made member
  cases List.mem_append.mp member with
  | inl earlier => exact (succeed made earlier).1
  | inr after => exact laterUses made after

theorem leavesClient_prepends :
    Session.Prepends SucceedsInUse LeavesClient :=
  fun _ _ _ succeed leaves => ⟨leaves.1.prepend succeed, leaves.2⟩

theorem closesClient_prepends :
    Session.Prepends SucceedsInUse ClosesClient := by
  intro calls more ret succeed closes
  refine ⟨closes.1.prepend succeed, ?_⟩
  rintro ⟨made, member, failed⟩
  cases List.mem_append.mp member with
  | inl earlier => exact failed.2 (succeed made earlier).2
  | inr after => exact closes.2 ⟨made, after, failed⟩

/-- Every exit destroys the client, whether its own call failed or the answer
was not the one wanted. -/
theorem keepsClient_callOrLeave {request : SshCall} (use : request.IsUse)
    {failed : SshReply → Bool}
    (noticed : ∀ reply, reply.ret ≠ 0 → failed reply = true) :
    KeepsClient (sshCallOrLeave request failed) := by
  refine Session.meets_bind (Session.meets_call request) ?_
  rintro _ reply rfl
  split
  · refine Session.meets_bind (Session.meets_call SshCall.destroy) ?_
    rintro _ last rfl
    refine Session.meets_exit ⟨⟨[(request, reply)], last, rfl, ?_⟩, by decide⟩
    intro made member
    rw [List.mem_singleton.mp member]
    exact use
  · rename_i succeeded
    refine Session.meets_pure fun made member => ?_
    rw [List.append_nil] at member
    rw [List.mem_singleton.mp member]
    exact ⟨use, Decidable.byContradiction fun nonzero =>
      succeeded (noticed reply nonzero)⟩

theorem nonzero_noticed (reply : SshReply) (failed : reply.ret ≠ 0) :
    nonzero reply = true :=
  decide_eq_true failed

theorem keepsClient_checked {request : SshCall} (use : request.IsUse) :
    KeepsClient (sshCallOrLeave request nonzero) :=
  keepsClient_callOrLeave use nonzero_noticed

theorem isUse_connect : SshCall.connect.IsUse := ⟨nofun, nofun⟩

theorem isUse_execute (command : RemoteCommand) :
    (SshCall.execute command).IsUse := ⟨nofun, nofun⟩

theorem isUse_uploadFile : SshCall.uploadFile.IsUse := ⟨nofun, nofun⟩

theorem isUse_downloadFile : SshCall.downloadFile.IsUse := ⟨nofun, nofun⟩

section Rules

variable {α β : Type} {session : SshSession α}

theorem keepsClient_bind (first : KeepsClient session)
    {next : α → SshSession β} (second : ∀ value, KeepsClient (next value)) :
    KeepsClient (session >>= next) :=
  Session.keeps_bind leavesClient_prepends first second

theorem keepsClient_after_call {request : SshCall} (use : request.IsUse)
    {next : SshReply → SshSession α}
    (rest : ∀ reply, KeepsClient (next reply)) :
    KeepsClient (sshCallOrLeave request nonzero >>= next) :=
  keepsClient_bind (keepsClient_checked use) rest

theorem keepsClient_pure (value : α) :
    KeepsClient (pure value : SshSession α) :=
  Session.keeps_pure value

/-- A session that ends with its client destroyed. -/
def EndsBalanced (session : SshSession Int) : Prop :=
  session.Meets ClosesClient LeavesClient

theorem endsBalanced_bind (first : KeepsClient session)
    {next : α → SshSession Int} (second : ∀ value, EndsBalanced (next value)) :
    EndsBalanced (session >>= next) :=
  Session.meets_after_keeps closesClient_prepends leavesClient_prepends first
    second

theorem endsBalanced_after_call {request : SshCall} (use : request.IsUse)
    {next : SshReply → SshSession Int}
    (rest : ∀ reply, EndsBalanced (next reply)) :
    EndsBalanced (sshCallOrLeave request nonzero >>= next) :=
  endsBalanced_bind (keepsClient_checked use) rest

theorem endsBalanced_destroy (ret : Int) :
    EndsBalanced (do
      let _ ← sshCall .destroy
      pure ret) := by
  refine Session.meets_bind (Session.meets_call SshCall.destroy) ?_
  rintro _ reply rfl
  refine Session.meets_pure ⟨⟨[], reply, rfl, nofun⟩, ?_⟩
  rintro ⟨made, member, use, _⟩
  rw [List.append_nil] at member
  rw [List.mem_singleton.mp member] at use
  exact use.2 rfl

end Rules

/-! ## The functions -/

theorem balanced_nothing (ret : Int) : Balanced [] ret :=
  { oneClient := Nat.zero_le 1
    destroyedOnce := rfl
    silent := by
      intro before reply after split
      exact absurd split.symm (List.append_ne_nil_of_right_ne_nil _ nofun)
    reported := by
      rintro ⟨made, member, _⟩
      exact absurd member List.not_mem_nil }

theorem countCalls_uses {uses : History SshCall SshReply}
    (areUses : ∀ made ∈ uses, made.1.IsUse) {request : SshCall}
    (other : ¬request.IsUse) : countCalls request uses = 0 := by
  refine List.count_eq_zero.mpr fun member => ?_
  obtain ⟨made, inside, same⟩ := List.mem_map.mp member
  exact other (same ▸ areUses made inside)

/-- Only the two ends of a client are no uses of it. -/
theorem countCalls_client {uses : History SshCall SshReply}
    (areUses : ∀ made ∈ uses, made.1.IsUse) (initReply last : SshReply)
    {request : SshCall} (other : ¬request.IsUse) :
    countCalls request
        ((.init, initReply) :: (uses ++ [(.destroy, last)])) =
      [SshCall.init, .destroy].count request := by
  have none := countCalls_uses areUses other
  simp only [countCalls] at none
  simp [countCalls, List.count_cons, List.count_append, none]

/-- What is destroyed once is left alone after that. -/
theorem silent_of_once {calls : History SshCall SshReply} {last : SshReply}
    (once : countCalls .destroy (calls ++ [(.destroy, last)]) = 1)
    {before after : History SshCall SshReply} {reply : SshReply}
    (split : calls ++ [(.destroy, last)] =
      before ++ (.destroy, reply) :: after) : after = [] := by
  cases List.eq_nil_or_concat after with
  | inl nothing => exact nothing
  | inr something =>
      obtain ⟨earlier, final, same⟩ := something
      rw [same, List.concat_eq_append] at split
      rw [split] at once
      have whole : calls ++ [(.destroy, last)] =
          (before ++ (.destroy, reply) :: earlier) ++ [final] := by
        rw [List.append_assoc, List.cons_append]
        exact split
      have isLast : (.destroy, last) = final :=
        (List.cons.inj (List.append_inj_right' whole rfl)).1
      simp [countCalls, ← isLast, List.count_append] at once
      omega

/-- A client that is initialised, used and destroyed is balanced, if its
failures are reported. -/
theorem balanced_client {ended : History SshCall SshReply}
    (ends : EndsClient ended) (initReply : SshReply) {ret : Int}
    (reported : (∃ made ∈ ended, FailedCall made) → ret ≠ 0) :
    Balanced ((.init, initReply) :: ended) ret := by
  obtain ⟨uses, last, rfl, areUses⟩ := ends
  have noInit : ¬SshCall.init.IsUse := fun use => use.1 rfl
  have noDestroy : ¬SshCall.destroy.IsUse := fun use => use.2 rfl
  have inits := countCalls_client areUses initReply last noInit
  have destroys := countCalls_client areUses initReply last noDestroy
  exact
    { oneClient := Nat.le_of_eq inits
      destroyedOnce := destroys.trans inits.symm
      silent := by
        intro before reply after split
        rw [← List.cons_append] at destroys split
        exact silent_of_once destroys split
      reported := by
        rintro ⟨made, member, failed⟩
        cases List.mem_cons.mp member with
        | inl first =>
            rw [first] at failed
            exact absurd failed.1 noInit
        | inr inside => exact reported ⟨made, inside, failed⟩ }

theorem balancedFunction_pure (ret : Int) :
    BalancedFunction (pure ret) :=
  fun _ => balanced_nothing ret

theorem balancedFunction_client {session : SshSession Int}
    (ends : EndsBalanced session) :
    BalancedFunction (do
      let _ ← sshCall .init
      session) := by
  intro environment
  obtain ⟨calls, ended⟩ := ends environment [(.init, environment [] .init)]
  change Balanced
    (match session environment [(.init, environment [] .init)] with
      | (.ok ret, calls) => (ret, calls)
      | (.error ret, calls) => (ret, calls)).2
    (match session environment [(.init, environment [] .init)] with
      | (.ok ret, calls) => (ret, calls)
      | (.error ret, calls) => (ret, calls)).1
  cases ended with
  | inl went =>
      obtain ⟨ret, result, closes, succeeds⟩ := went
      rw [result]
      exact balanced_client closes _ fun failed => absurd failed succeeds
  | inr left =>
      obtain ⟨ret, result, closes, failure⟩ := left
      rw [result]
      exact balanced_client closes _ fun _ => failure

theorem fkz9FwTransSession_balanced (arg : Option FwUpdateInfo)
    (localResp : CString) (directory : Bool) :
    BalancedFunction (fkz9FwTransSession arg localResp directory) := by
  unfold fkz9FwTransSession
  cases arg with
  | none => exact balancedFunction_pure (-1)
  | some info =>
      simp only
      split
      · exact balancedFunction_pure 0
      split
      · exact balancedFunction_pure 0
      split
      · exact balancedFunction_pure 0
      apply balancedFunction_client
      refine endsBalanced_after_call isUse_connect fun _ => ?_
      refine endsBalanced_after_call (isUse_execute _) fun _ => ?_
      refine endsBalanced_after_call isUse_uploadFile fun _ => ?_
      have noticed (reply : SshReply) (failed : reply.ret ≠ 0) :
          (nonzero reply || !strstr reply.resp info.md5.text) = true := by
        rw [nonzero_noticed reply failed, Bool.true_or]
      refine endsBalanced_bind
        (keepsClient_callOrLeave (isUse_execute _) noticed) fun _ => ?_
      refine endsBalanced_after_call (isUse_execute _) fun _ => ?_
      exact endsBalanced_destroy 0

theorem uploadRow_keepsClient (i : Nat) : KeepsClient (uploadRow i) := by
  refine keepsClient_after_call (isUse_execute _) fun _ => ?_
  refine keepsClient_after_call isUse_downloadFile fun _ => ?_
  exact keepsClient_pure ()

theorem downloadRow_keepsClient (i : Nat) : KeepsClient (downloadRow i) := by
  refine keepsClient_after_call (isUse_execute _) fun _ => ?_
  refine keepsClient_after_call isUse_uploadFile fun _ => ?_
  refine keepsClient_after_call (isUse_execute _) fun _ => ?_
  exact keepsClient_pure ()

/-- A loop over any number of rows keeps the client as its body does. -/
theorem keepsClient_rows {body : Nat → SshSession Unit}
    (each : ∀ i, KeepsClient (body i)) (rows i : Nat) :
    KeepsClient (Session.forNumbers body rows i) :=
  Session.keeps_forNumbers leavesClient_prepends each rows i

theorem downloadRows_keepsClient (fileNum : Int) :
    KeepsClient (downloadRows fileNum) := by
  unfold downloadRows
  split
  · refine keepsClient_bind
      (keepsClient_rows downloadRow_keepsClient _ _) fun _ => ?_
    refine keepsClient_after_call (isUse_execute _) fun _ => ?_
    exact keepsClient_pure ()
  · exact keepsClient_pure ()

theorem fkz9FwUpdateSession_balanced (arg : Option FwUpdateInfo)
    (directory : Bool) :
    BalancedFunction (fkz9FwUpdateSession arg directory) := by
  unfold fkz9FwUpdateSession
  cases arg with
  | none => exact balancedFunction_pure (-1)
  | some info =>
      simp only
      split
      · exact balancedFunction_pure 0
      split
      · exact balancedFunction_pure 0
      apply balancedFunction_client
      refine endsBalanced_after_call isUse_connect fun _ => ?_
      refine endsBalanced_after_call (isUse_execute _) fun _ => ?_
      refine endsBalanced_after_call isUse_downloadFile fun _ => ?_
      refine endsBalanced_after_call (isUse_execute _) fun _ => ?_
      refine endsBalanced_bind (keepsClient_rows uploadRow_keepsClient _ _)
        fun _ => ?_
      refine endsBalanced_after_call (isUse_execute _) fun _ => ?_
      refine endsBalanced_bind (downloadRows_keepsClient _) fun _ => ?_
      exact endsBalanced_destroy 0

theorem funcWaveFileReqSession_balanced (arg : Option Unit)
    (ftpUpload : Int) :
    BalancedFunction (funcWaveFileReqSession arg ftpUpload) := by
  unfold funcWaveFileReqSession
  cases arg with
  | none => exact balancedFunction_pure (-1)
  | some _ =>
      apply balancedFunction_client
      refine endsBalanced_after_call isUse_connect fun _ => ?_
      refine endsBalanced_after_call isUse_downloadFile fun _ => ?_
      exact endsBalanced_destroy _

theorem getOtaHeartbeatInfoSession_balanced (arg : Option Unit) :
    BalancedFunction (getOtaHeartbeatInfoSession arg) := by
  unfold getOtaHeartbeatInfoSession
  cases arg with
  | none => exact balancedFunction_pure (-1)
  | some _ =>
      apply balancedFunction_client
      refine endsBalanced_after_call isUse_connect fun _ => ?_
      refine endsBalanced_after_call (isUse_execute _) fun _ => ?_
      refine endsBalanced_after_call (isUse_execute _) fun _ => ?_
      exact endsBalanced_destroy 0

/-- Every execution of the four functions destroys the client that it
initialised, once and last, and reports every failed call, whatever the calls
answer and however many rows the lists have. -/
theorem sshSessions_balanced :
    (∀ arg localResp directory,
        BalancedFunction (fkz9FwTransSession arg localResp directory)) ∧
      (∀ arg directory,
        BalancedFunction (fkz9FwUpdateSession arg directory)) ∧
      (∀ arg ftpUpload,
        BalancedFunction (funcWaveFileReqSession arg ftpUpload)) ∧
      ∀ arg, BalancedFunction (getOtaHeartbeatInfoSession arg) :=
  ⟨fkz9FwTransSession_balanced, fkz9FwUpdateSession_balanced,
    funcWaveFileReqSession_balanced, getOtaHeartbeatInfoSession_balanced⟩

end RtA100
