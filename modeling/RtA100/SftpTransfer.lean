import RtA100.Library.Bytes

/-!
# File transfers over SFTP

`SSHClient_UploadFile` opens the remote file without `O_TRUNC` and writes the
local file over its beginning, so what an earlier, longer file had behind that
stays.

`SSHClient_DownloadFile` keeps the result of `sftp_read` in a `size_t`.  An
error is then a huge positive count: the loop goes on and hands `fwrite` more
bytes than its buffer has.
-/

namespace RtA100

open Library

/-! ## Uploads -/

/-- The flags of `sftp_open` that bear on the content of the file. -/
structure OpenFlags where
  creat : Bool
  trunc : Bool

/-- `O_WRONLY | O_CREAT` -/
def uploadFlags : OpenFlags :=
  { creat := true
    trunc := false }

/-- An open remote file. -/
structure RemoteFile where
  content : List UInt8
  offset : Nat

/-- `sftp_open` of a path with this content, if it has one. -/
def sftpOpen (granted : Bool) (flags : OpenFlags) :
    Option (List UInt8) → Option RemoteFile
  | some content =>
      if granted = true then
        some { content := if flags.trunc = true then [] else content
               offset := 0 }
      else none
  | none =>
      if granted = true ∧ flags.creat = true then
        some { content := [], offset := 0 }
      else none

/-- A `sftp_write` that succeeds. -/
def RemoteFile.write (file : RemoteFile) (bytes : List UInt8) : RemoteFile :=
  { content := file.content.take file.offset ++ bytes ++
      file.content.drop (file.offset + bytes.length)
    offset := file.offset + bytes.length }

/-- What one `fread` stores in the 1024 bytes of `buffer`, and whether the
`sftp_write` of these bytes succeeds. -/
structure UploadRead where
  bytes : List UInt8
  received : bytes ≠ []
  bounded : bytes.length ≤ 1024
  written : Bool

/-- What an upload meets: whether there is an SFTP session, whether the two
files open, and the reads that make up the local file. -/
structure UploadCall where
  sftp : Bool
  localOpens : Bool
  remoteOpens : Bool
  reads : List UploadRead

/-- The loop around `fread`. -/
def uploadLoop : List UploadRead → RemoteFile → RemoteFile × Int
  | [], file => (file, 0)
  | read :: reads, file =>
      if read.written = true then uploadLoop reads (file.write read.bytes)
      else (file, -1)

/-- `SSHClient_UploadFile`, on a remote path with this content. -/
def sshClientUploadFile (call : UploadCall) (remote : Option (List UInt8)) :
    Option (List UInt8) × Int :=
  if call.sftp = false then (remote, -1)
  else if call.localOpens = false then (remote, -1)
  else
    match sftpOpen call.remoteOpens uploadFlags remote with
    | none => (remote, -1)
    | some file =>
        let (file, status) := uploadLoop call.reads file
        (some file.content, status)

def uploadBytes (reads : List UploadRead) : List UInt8 :=
  (reads.map UploadRead.bytes).flatten

def UploadCall.localContent (call : UploadCall) : List UInt8 :=
  uploadBytes call.reads

/-- Nothing that the upload meets fails. -/
structure UploadCall.Succeeds (call : UploadCall) : Prop where
  sftp : call.sftp = true
  localOpens : call.localOpens = true
  remoteOpens : call.remoteOpens = true
  written : ∀ read ∈ call.reads, read.written = true

/-- If the upload returns 0, the remote path holds the local file. -/
def ReplacesRemote (call : UploadCall) (remote : Option (List UInt8)) : Prop :=
  (sshClientUploadFile call remote).2 = 0 →
    (sshClientUploadFile call remote).1 = some call.localContent

/-- The remote file once `bytes` have been written from its beginning. -/
def RemoteFile.overwritten (old bytes : List UInt8) : RemoteFile :=
  { content := bytes ++ old.drop bytes.length
    offset := bytes.length }

theorem RemoteFile.overwritten_write (old bytes more : List UInt8) :
    (RemoteFile.overwritten old bytes).write more =
      RemoteFile.overwritten old (bytes ++ more) := by
  simp only [RemoteFile.overwritten, RemoteFile.write, List.take_left,
    List.length_append, List.drop_append, List.drop_drop,
    Nat.add_sub_cancel_left, List.append_assoc]
  rw [List.drop_eq_nil_of_le (Nat.le_add_right _ _), List.nil_append]

/-- The loop returns 0 exactly when every write succeeds, and then the reads
stand in front of what the old file had behind them. -/
theorem uploadLoop_overwritten (reads : List UploadRead)
    (old bytes : List UInt8) :
    ((uploadLoop reads (.overwritten old bytes)).2 = 0 ↔
        ∀ read ∈ reads, read.written = true) ∧
      ((∀ read ∈ reads, read.written = true) →
        (uploadLoop reads (.overwritten old bytes)).1 =
          .overwritten old (bytes ++ uploadBytes reads)) := by
  induction reads generalizing bytes with
  | nil => simp [uploadLoop, uploadBytes]
  | cons read reads induction =>
      rw [List.forall_mem_cons, uploadLoop]
      by_cases written : read.written = true
      · obtain ⟨zero_iff, whole⟩ := induction (bytes ++ read.bytes)
        rw [if_pos written, RemoteFile.overwritten_write]
        refine ⟨by simp only [zero_iff, written, true_and], fun all => ?_⟩
        rw [whole all.2, uploadBytes, uploadBytes, List.map_cons,
          List.flatten_cons, List.append_assoc]
      · rw [if_neg written]
        have refusal : ¬(-1 : Int) = 0 := by decide
        exact ⟨iff_of_false refusal fun all => written all.1,
          fun all => absurd all.1 written⟩

theorem sftpOpen_upload (remote : Option (List UInt8)) :
    sftpOpen true uploadFlags remote =
      some (.overwritten (remote.getD []) []) := by
  cases remote <;> rfl

theorem sftpOpen_refused (flags : OpenFlags) (remote : Option (List UInt8)) :
    sftpOpen false flags remote = none := by
  cases remote with
  | none => simp [sftpOpen]
  | some content => rfl

theorem sshClientUploadFile_opened {call : UploadCall}
    (sftp : call.sftp = true) (localOpens : call.localOpens = true)
    (remoteOpens : call.remoteOpens = true) (remote : Option (List UInt8)) :
    sshClientUploadFile call remote =
      (some
          (uploadLoop call.reads
            (.overwritten (remote.getD []) [])).1.content,
        (uploadLoop call.reads (.overwritten (remote.getD []) [])).2) := by
  simp only [sshClientUploadFile, sftp, localOpens, remoteOpens,
    Bool.true_eq_false, if_false, sftpOpen_upload]

theorem sshClientUploadFile_not_opened {call : UploadCall}
    (fails : ¬(call.sftp = true ∧ call.localOpens = true ∧
      call.remoteOpens = true)) (remote : Option (List UInt8)) :
    (sshClientUploadFile call remote).2 = -1 := by
  unfold sshClientUploadFile
  cases sftp : call.sftp with
  | false => rfl
  | true =>
      cases localOpens : call.localOpens with
      | false => rfl
      | true =>
          cases remoteOpens : call.remoteOpens with
          | false => simp only [Bool.true_eq_false, if_false, sftpOpen_refused]
          | true => exact absurd ⟨sftp, localOpens, remoteOpens⟩ fails

theorem sshClientUploadFile_zero_iff (call : UploadCall)
    (remote : Option (List UInt8)) :
    (sshClientUploadFile call remote).2 = 0 ↔ call.Succeeds := by
  by_cases opened : call.sftp = true ∧ call.localOpens = true ∧
      call.remoteOpens = true
  · obtain ⟨sftp, localOpens, remoteOpens⟩ := opened
    rw [sshClientUploadFile_opened sftp localOpens remoteOpens,
      (uploadLoop_overwritten _ _ _).1]
    exact ⟨fun written => ⟨sftp, localOpens, remoteOpens, written⟩,
      fun succeeds => succeeds.written⟩
  · rw [sshClientUploadFile_not_opened opened]
    exact iff_of_false (by decide) fun succeeds =>
      opened ⟨succeeds.sftp, succeeds.localOpens, succeeds.remoteOpens⟩

/-- What an upload without a failure leaves. -/
theorem sshClientUploadFile_content {call : UploadCall}
    (succeeds : call.Succeeds) (remote : Option (List UInt8)) :
    (sshClientUploadFile call remote).1 =
      some (call.localContent ++
        (remote.getD []).drop call.localContent.length) := by
  rw [sshClientUploadFile_opened succeeds.sftp succeeds.localOpens
    succeeds.remoteOpens, (uploadLoop_overwritten _ _ _).2 succeeds.written]
  rfl

/-- An upload replaces the remote file exactly when it fails, or the earlier
file is no longer than the local one. -/
theorem replacesRemote_iff (call : UploadCall)
    (remote : Option (List UInt8)) :
    ReplacesRemote call remote ↔
      (call.Succeeds →
        (remote.getD []).length ≤ call.localContent.length) := by
  unfold ReplacesRemote
  rw [sshClientUploadFile_zero_iff]
  refine forall_congr' fun succeeds => ?_
  rw [sshClientUploadFile_content succeeds, Option.some.injEq,
    List.append_right_eq_self, List.drop_eq_nil_iff]

/-- The upload of a file of one byte. -/
def shortUpload : UploadCall :=
  { sftp := true
    localOpens := true
    remoteOpens := true
    reads := [{ bytes := [0x31]
                received := nofun
                bounded := by decide
                written := true }] }

theorem shortUpload_keeps_tail :
    ¬∀ (call : UploadCall) (remote : Option (List UInt8)),
      ReplacesRemote call remote := by
  intro claimed
  have replaced := claimed shortUpload (some [0x32, 0x33]) (by decide)
  exact absurd replaced (by decide)

/-! ## Downloads -/

/-- The result of a `sftp_read` into the 1024 bytes of `buffer`. -/
structure SftpResult where
  buffer : Buffer 1024
  nbytes : Int
  bounded : nbytes ≤ 1024
  representable : -0x8000000000000000 ≤ nbytes

/-- A count in a `size_t`. -/
def sizeT (count : Int) : Nat := (count % 0x10000000000000000).toNat

/-- The bytes that `fwrite` takes from the buffer. -/
def fwriteBytes (buffer : Buffer 1024) (count : Nat) : Option (List UInt8) :=
  if count ≤ 1024 then some (buffer.bytes.take count) else none

/-- The loop around `sftp_read`, with the results of its calls.  Without a
further result the loop has not ended. -/
def downloadLoop : List SftpResult → List UInt8 → Option (List UInt8)
  | [], _ => none
  | result :: results, localFile =>
      let bytesRead := sizeT result.nbytes
      if 0 < bytesRead then do
        let bytes ← fwriteBytes result.buffer bytesRead
        downloadLoop results (localFile ++ bytes)
      else some localFile

/-- What a download meets: whether there is an SFTP session, whether the two
files open, the positive results of `sftp_read`, the first result that is not
positive, and any others. -/
structure DownloadCall where
  sftp : Bool
  remoteOpens : Bool
  localOpens : Bool
  reads : List SftpResult
  positive : ∀ result ∈ reads, 0 < result.nbytes
  last : SftpResult
  nonpositive : last.nbytes ≤ 0
  later : List SftpResult

/-- `SSHClient_DownloadFile`, on a local path with this content. -/
def sshClientDownloadFile (call : DownloadCall)
    (localFile : Option (List UInt8)) : Option (Option (List UInt8) × Int) :=
  if call.sftp = false then some (localFile, -1)
  else if call.remoteOpens = false then some (localFile, -1)
  else if call.localOpens = false then some (localFile, -1)
  else do
    let written ← downloadLoop (call.reads ++ call.last :: call.later) []
    some (some written, 0)

/-- The bytes that `sftp_read` has returned. -/
def SftpResult.bytes (result : SftpResult) : List UInt8 :=
  result.buffer.bytes.take result.nbytes.toNat

def DownloadCall.received (call : DownloadCall) : List UInt8 :=
  (call.reads.map SftpResult.bytes).flatten

def DownloadCall.Starts (call : DownloadCall) : Prop :=
  call.sftp = true ∧ call.remoteOpens = true ∧ call.localOpens = true

/-- The download ends, inside its buffer, with the bytes read before the first
result that is not positive, and returns 0 only at the end of the file. -/
def DownloadReports (call : DownloadCall) (localFile : Option (List UInt8)) :
    Prop :=
  ∃ written status,
    sshClientDownloadFile call localFile = some (written, status) ∧
      (call.Starts → written = some call.received) ∧
        (status = 0 → call.last.nbytes = 0)

theorem sizeT_of_nonnegative {result : SftpResult}
    (nonnegative : 0 ≤ result.nbytes) :
    sizeT result.nbytes = result.nbytes.toNat := by
  have bounded := result.bounded
  unfold sizeT
  omega

/-- An error is a count far beyond the buffer. -/
theorem sizeT_of_negative {result : SftpResult}
    (negative : result.nbytes < 0) : 1024 < sizeT result.nbytes := by
  have representable := result.representable
  unfold sizeT
  omega

theorem fwriteBytes_of_positive {result : SftpResult}
    (positive : 0 < result.nbytes) :
    fwriteBytes result.buffer (sizeT result.nbytes) = some result.bytes := by
  have bounded := result.bounded
  rw [sizeT_of_nonnegative (Int.le_of_lt positive), fwriteBytes,
    if_pos (by omega)]
  rfl

theorem downloadLoop_last (last : SftpResult)
    (nonpositive : last.nbytes ≤ 0) (later : List SftpResult)
    (localFile : List UInt8) :
    downloadLoop (last :: later) localFile =
      if last.nbytes = 0 then some localFile else none := by
  simp only [downloadLoop]
  by_cases ended : last.nbytes = 0
  · have zero : ¬0 < sizeT last.nbytes := by
      rw [ended]
      decide
    rw [if_neg zero, if_pos ended]
  · have huge : 1024 < sizeT last.nbytes := sizeT_of_negative (by omega)
    have goesOn : 0 < sizeT last.nbytes := by omega
    have outside : ¬sizeT last.nbytes ≤ 1024 := by omega
    rw [if_pos goesOn, if_neg ended, fwriteBytes, if_neg outside]
    rfl

theorem downloadLoop_eq (reads : List SftpResult)
    (positive : ∀ result ∈ reads, 0 < result.nbytes) (last : SftpResult)
    (nonpositive : last.nbytes ≤ 0) (later : List SftpResult)
    (localFile : List UInt8) :
    downloadLoop (reads ++ last :: later) localFile =
      if last.nbytes = 0 then
        some (localFile ++ (reads.map SftpResult.bytes).flatten)
      else none := by
  induction reads generalizing localFile with
  | nil =>
      rw [List.nil_append, downloadLoop_last last nonpositive, List.map_nil,
        List.flatten_nil, List.append_nil]
  | cons result reads induction =>
      rw [List.forall_mem_cons] at positive
      have here := positive.1
      have counted : 0 < sizeT result.nbytes := by
        rw [sizeT_of_nonnegative (Int.le_of_lt here)]
        omega
      rw [List.cons_append, downloadLoop]
      simp only [counted, if_true, fwriteBytes_of_positive here,
        Option.bind_eq_bind, Option.bind_some, induction positive.2,
        List.map_cons, List.flatten_cons, List.append_assoc]

theorem sshClientDownloadFile_starts {call : DownloadCall}
    (starts : call.Starts) (localFile : Option (List UInt8)) :
    sshClientDownloadFile call localFile =
      if call.last.nbytes = 0 then some (some call.received, 0) else none := by
  obtain ⟨sftp, remoteOpens, localOpens⟩ := starts
  simp only [sshClientDownloadFile, sftp, remoteOpens, localOpens,
    Bool.true_eq_false, if_false,
    downloadLoop_eq call.reads call.positive call.last call.nonpositive,
    List.nil_append]
  split
  · rfl
  · rfl

theorem sshClientDownloadFile_not_starts {call : DownloadCall}
    (fails : ¬call.Starts) (localFile : Option (List UInt8)) :
    sshClientDownloadFile call localFile = some (localFile, -1) := by
  unfold DownloadCall.Starts at fails
  unfold sshClientDownloadFile
  cases sftp : call.sftp with
  | false => rfl
  | true =>
      cases remoteOpens : call.remoteOpens with
      | false => rfl
      | true =>
          cases localOpens : call.localOpens with
          | false => rfl
          | true => exact absurd ⟨sftp, remoteOpens, localOpens⟩ fails

/-- A download behaves exactly when it fails to start, or the first result that
is not positive is the end of the file. -/
theorem downloadReports_iff (call : DownloadCall)
    (localFile : Option (List UInt8)) :
    DownloadReports call localFile ↔
      (call.Starts → call.last.nbytes = 0) := by
  by_cases starts : call.Starts
  · have result := sshClientDownloadFile_starts starts localFile
    by_cases ended : call.last.nbytes = 0
    · rw [if_pos ended] at result
      exact iff_of_true
        ⟨some call.received, 0, result, fun _ => rfl, fun _ => ended⟩
        fun _ => ended
    · rw [if_neg ended] at result
      refine iff_of_false ?_ fun reaches => ended (reaches starts)
      rintro ⟨written, status, returned, _⟩
      rw [result] at returned
      cases returned
  · exact iff_of_true
      ⟨localFile, -1, sshClientDownloadFile_not_starts starts localFile,
        fun begun => absurd begun starts, nofun⟩
      fun begun => absurd begun starts

/-- The link breaks at the first read. -/
def brokenDownload : DownloadCall :=
  { sftp := true
    remoteOpens := true
    localOpens := true
    reads := []
    positive := fun _ member => absurd member List.not_mem_nil
    last :=
      { buffer := Buffer.filled 1024 0
        nbytes := -1
        bounded := by omega
        representable := by omega }
    nonpositive := by
      simp only
      omega
    later := [] }

theorem brokenDownload_not_reported :
    ¬∀ (call : DownloadCall) (localFile : Option (List UInt8)),
      DownloadReports call localFile := by
  intro claimed
  obtain ⟨written, status, returned, _⟩ := claimed brokenDownload none
  have result : sshClientDownloadFile brokenDownload none = none := by
    decide
  rw [result] at returned
  cases returned

end RtA100
