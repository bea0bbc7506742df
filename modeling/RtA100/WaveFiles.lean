import Mathlib.Algebra.Group.Nat.Defs
import Mathlib.Logic.Function.Basic
import RtA100.CloudEvent
import RtA100.Library.Machine
import RtA100.Library.Scan
import RtA100.Library.Search
import RtA100.SftpTransfer

/-!
# Wave files on their way to the cloud

For a request of the cloud, `func_wave_file_req` makes a folder, downloads the
file of that minute from the device into it, uploads the file to the cloud, and
removes `/upload` with everything in it.  Here a request meets the local disk
and the cloud as all earlier requests have left them, so the results are about
runs: what the cloud holds, whether a request is answered, and what is left on
the disk.

`fwrite` is not looked at.  So the file that is uploaded, and then answered
for, is the part of the device's file for which the disk had room.
-/

namespace RtA100

open Library

/-! ## Paths -/

def waveFileRemotePath : CString := "/upload/fkz9/wavedat/".toList

def waveFileLocalPath : CString := "/upload/cktt/wavedat/".toList

/-- `%04d` of the year, and `%02d` of the others. -/
def WaveFileRequest.stamp (request : WaveFileRequest) (others : List Nat) :
    CString :=
  paddedDecimal 4 request.year ++ others.flatMap (paddedDecimal 2)

def WaveFileRequest.hourStamp (request : WaveFileRequest) : CString :=
  request.stamp [request.month, request.day, request.hour]

/-- The name of the file, as it is printed in two places. -/
def WaveFileRequest.waveName (request : WaveFileRequest) : CString :=
  paddedDecimal 4 request.devAddr ++ "-wavedat-".toList ++
    request.stamp [request.month, request.day, request.hour,
      request.minute] ++ ".dat.gz".toList

/-- `file_name` -/
def WaveFileRequest.fileName (request : WaveFileRequest) : CArray 64 :=
  .truncate 63 request.waveName

/-- `r_folder` -/
def WaveFileRequest.remoteFolder (request : WaveFileRequest) : CArray 128 :=
  .truncate 127 (waveFileRemotePath ++
    request.stamp [request.month, request.day] ++ "/".toList ++
    request.hourStamp ++ "/".toList)

/-- `r_path` -/
def WaveFileRequest.remotePath (request : WaveFileRequest) : CArray 256 :=
  .truncate 255 (request.remoteFolder.text ++ request.fileName.text)

/-- `l_path`, without the folder for the day that `cloud_comm.h` gives it. -/
def WaveFileRequest.localPath (request : WaveFileRequest) : CArray 128 :=
  .truncate 127 (waveFileLocalPath ++ request.hourStamp ++ "/".toList ++
    request.fileName.text)

def makeDirectoryCommand : CString := "mkdir -p ".toList

/-- `cmd` -/
def WaveFileRequest.cmd (request : WaveFileRequest) : CArray 140 :=
  .truncate 139 (makeDirectoryCommand ++ waveFileLocalPath ++
    request.hourStamp)

/-- `remote_path`, below the address of the FTP server. -/
def WaveFileRequest.cloudPath (request : WaveFileRequest) : CArray 128 :=
  .truncate 127 ("/".toList ++ paddedDecimal 4 request.devAddr ++
    "/wavefile/".toList ++ request.stamp [request.month] ++ "/".toList ++
    paddedDecimal 2 request.day ++ "/".toList ++
    paddedDecimal 2 request.hour ++ "/".toList ++ request.waveName)

/-! ## The local disk -/

/-- The folder is the path or above it. -/
def Within (folder path : CString) : Prop :=
  folder = path ∨ folder ++ "/".toList <+: path

instance (folder path : CString) : Decidable (Within folder path) :=
  inferInstanceAs (Decidable (_ ∨ _))

/-- What stands before the last slash. -/
def parent (path : CString) : CString :=
  ((path.reverse.dropWhile (· ≠ '/')).drop 1).reverse

structure Disk where
  directories : CString → Bool
  files : CString → Option (List UInt8)

/-- `mkdir -p`, as far as it succeeds. -/
def Disk.makeDirectory (disk : Disk) (made : CString → Bool)
    (path : CString) : Disk :=
  { disk with
    directories := fun folder =>
      disk.directories folder || (decide (Within folder path) && made folder) }

/-- `rm -rf`, as far as it succeeds. -/
def Disk.remove (disk : Disk) (removed : CString → Bool) (folder : CString) :
    Disk :=
  { directories := fun path =>
      disk.directories path && !(decide (Within folder path) && removed path)
    files := fun path =>
      if Within folder path ∧ removed path = true then none
      else disk.files path }

/-! ## Download and upload -/

/-- The device: its files, and what an SFTP download of a path meets.  A
download that reads to the end reads the file. -/
structure WaveDevice where
  files : CString → Option (List UInt8)
  serve : CString → DownloadCall
  served : ∀ path, (serve path).remoteOpens = true →
    (serve path).last.nbytes = 0 → files path = some (serve path).received

/-- What `ftp_upload` meets: `curl_easy_init`, `fopen`, `malloc`, the sizes of
the buffers that curl gives to `upload_read_callback`, whether the server takes
what has been read, and what it holds if the transfer breaks off. -/
structure FtpCall where
  initialised : Bool
  opens : Bool
  allocated : Bool
  sizes : List Nat
  taken : Bool
  broken : Option (List UInt8)

/-- `upload_read_callback`: the bytes it returns, and the rest of the file. -/
def uploadReadCallback (size : Nat) (file : List UInt8) :
    List UInt8 × List UInt8 :=
  (file.take size, file.drop size)

/-- The reading of curl, which ends with as many bytes as
`CURLOPT_INFILESIZE_LARGE` has promised.  A file that ends before is only sent
in part, which is a failure. -/
def curlRead (fsize : Nat) :
    List Nat → List UInt8 → List UInt8 → Option (List UInt8)
  | [], _, sent => if fsize ≤ sent.length then some sent else none
  | size :: sizes, file, sent =>
      if fsize ≤ sent.length then some sent
      else
        match uploadReadCallback size file with
        | ([], _) => none
        | (bytes, rest) => curlRead fsize sizes rest (sent ++ bytes)

/-- `ftp_upload`: what the path holds on the server, and the result. -/
def ftpUpload (call : FtpCall) (localFile remote : Option (List UInt8)) :
    Option (List UInt8) × Int :=
  if call.initialised = false then (remote, -1)
  else
    match localFile with
    | none => (remote, -1)
    | some contents =>
        if call.opens = false then (remote, -1)
        else if call.allocated = false then (remote, -1)
        else if call.taken = false then (call.broken, -1)
        else
          match curlRead contents.length call.sizes contents [] with
          | none => (call.broken, -1)
          | some sent => (some sent, 0)

/-! ## The request -/

/-- What a request meets: its frame, the directories that `mkdir -p` can make,
the SSH connection, the device, whether the local file can be created and for
how many bytes there is room, the upload, and the paths that `rm -rf` can
remove. -/
structure WaveRound where
  arg : List UInt8
  made : CString → Bool
  connects : Bool
  device : WaveDevice
  creates : Bool
  room : Nat
  ftp : FtpCall
  removed : CString → Bool

structure WaveState where
  disk : Disk
  cloud : CString → Option (List UInt8)

/-- What the download of a request meets: a file can only be created where its
folder is. -/
def WaveRound.download (round : WaveRound) (request : WaveFileRequest)
    (disk : Disk) : DownloadCall :=
  { round.device.serve request.remotePath.text with
    localOpens := round.creates &&
      disk.directories (parent request.localPath.text) }

/-- `ssh_client.download_file`, with as much of the file as the disk takes. -/
def downloadWaveFile (round : WaveRound) (request : WaveFileRequest)
    (disk : Disk) : Option (Disk × Int) := do
  let path := request.localPath.text
  let (written, ret) ← sshClientDownloadFile
    (round.download request disk) (disk.files path)
  let kept := if ret = 0 then written.map (·.take round.room) else written
  some ({ disk with files := Function.update disk.files path kept }, ret)

/-- `_system_(cmd, NULL, 0)` -/
def WaveRound.makeFolder (round : WaveRound) (request : WaveFileRequest)
    (disk : Disk) : Disk :=
  disk.makeDirectory round.made
    (request.cmd.text.drop makeDirectoryCommand.length)

def uploadFolder : CString := "/upload".toList

/-- The end of `func_wave_file_req`, from `ftp_upload` on. -/
def uploadWaveFile (round : WaveRound) (request : WaveFileRequest)
    (state : WaveState) : WaveState × Int :=
  let path := request.cloudPath.text
  let (held, ret) := ftpUpload round.ftp
    (state.disk.files request.localPath.text) (state.cloud path)
  let cloud := Function.update state.cloud path held
  if ret ≠ 0 then ({ state with cloud }, -1)
  else ({ disk := state.disk.remove round.removed uploadFolder, cloud }, 0)

/-- `func_wave_file_req`, behind the reading of its argument. -/
def transferWaveFile (round : WaveRound) (request : WaveFileRequest)
    (state : WaveState) : Option (WaveState × Int) := do
  let disk := round.makeFolder request state.disk
  if round.connects = false then some ({ state with disk }, -1)
  else
    let (disk, ret) ← downloadWaveFile round request disk
    if ret ≠ 0 then some ({ state with disk }, -1)
    else some (uploadWaveFile round request { state with disk })

/-- A request that has been handled, and its result.  It is answered with
`func_wave_file_resp` exactly when the result is 0. -/
structure WaveOutcome where
  round : WaveRound
  request : WaveFileRequest
  ret : Int

/-- The wave file requests of the event thread, one after another. -/
def waveMachine : Machine WaveState WaveRound WaveOutcome :=
  { initial := fun state =>
      ∀ path, Within uploadFolder path → state.disk.files path = none
    step := fun state round => do
      let request ← readWaveFileReq round.arg
      let (following, ret) ← transferWaveFile round request state
      some (following, [{ round, request, ret }]) }

/-! ## No path is cut off -/

/-- The fields have no more digits than those of a frame. -/
structure WaveFileRequest.Decoded (request : WaveFileRequest) : Prop where
  devAddr : request.devAddr < 10 ^ 5
  year : request.year < 10 ^ 4
  month : request.month < 10 ^ 3
  day : request.day < 10 ^ 3
  hour : request.hour < 10 ^ 3
  minute : request.minute < 10 ^ 3

theorem paddedDecimal_length (width value : Nat) :
    (paddedDecimal width value).length =
      max width (decimal value).length := by
  rw [paddedDecimal, padZeros, List.length_append, List.length_replicate]
  omega

theorem paddedDecimal_length_le (width : Nat) {digits value : Nat}
    (wide : width ≤ digits) (positive : 0 < digits)
    (small : value < 10 ^ digits) :
    (paddedDecimal width value).length ≤ digits := by
  have short : (decimal value).length ≤ digits :=
    (Nat.length_toDigits_le_iff (by decide) positive).mpr small
  rw [paddedDecimal_length]
  exact Nat.max_le.mpr ⟨wide, short⟩

theorem bcdToByte_lt (value : UInt8) : bcdToByte value < 10 ^ 3 := by
  have nibbles : ((value >>> 4) &&& 0x0F).toNat ≤ 15 ∧
      (value &&& 0x0F).toNat ≤ 15 :=
    ⟨Nat.and_le_right, Nat.and_le_right⟩
  unfold bcdToByte
  omega

theorem bcdToDb_lt (value : UInt16) : bcdToDb value < 10 ^ 5 := by
  have nibbles : ((value >>> 12) &&& 0x0F).toNat ≤ 15 ∧
      ((value >>> 8) &&& 0x0F).toNat ≤ 15 ∧
      ((value >>> 4) &&& 0x0F).toNat ≤ 15 ∧ (value &&& 0x0F).toNat ≤ 15 :=
    ⟨Nat.and_le_right, Nat.and_le_right, Nat.and_le_right, Nat.and_le_right⟩
  unfold bcdToDb
  omega

theorem readWaveFileReq_decoded {arg : List UInt8}
    {request : WaveFileRequest} (read : readWaveFileReq arg = some request) :
    request.Decoded := by
  simp only [readWaveFileReq, Option.bind_eq_bind, Option.bind_eq_some_iff,
    Option.some.injEq] at read
  obtain ⟨usDevAddr, _, ucYear, _, ucMonth, _, ucDay, _, ucHour, _, ucMinute,
    _, rfl⟩ := read
  have year := bcdToByte_lt ucYear
  exact ⟨bcdToDb_lt usDevAddr, by simp only; omega, bcdToByte_lt ucMonth,
    bcdToByte_lt ucDay, bcdToByte_lt ucHour, bcdToByte_lt ucMinute⟩

section Lengths

variable {request : WaveFileRequest} (decoded : request.Decoded)
include decoded

theorem WaveFileRequest.Decoded.stamp_length (others : List Nat)
    (small : ∀ value ∈ others, value < 10 ^ 3) :
    (request.stamp others).length ≤ 4 + 3 * others.length := by
  have year := paddedDecimal_length_le 4 (Nat.le_refl 4)
    (by decide) decoded.year
  have rest : (others.flatMap (paddedDecimal 2)).length ≤
      3 * others.length := by
    induction others with
    | nil => exact Nat.le_refl 0
    | cons value others induction =>
        rw [List.forall_mem_cons] at small
        have here := paddedDecimal_length_le 2 (by decide)
          (by decide) small.1
        have later := induction small.2
        rw [List.flatMap_cons, List.length_append, List.length_cons]
        omega
  rw [WaveFileRequest.stamp, List.length_append]
  omega

theorem WaveFileRequest.Decoded.hourStamp_length :
    request.hourStamp.length ≤ 13 :=
  decoded.stamp_length [request.month, request.day, request.hour] (by
    simp only [List.forall_mem_cons]
    exact ⟨decoded.month, decoded.day, decoded.hour, nofun⟩)

theorem WaveFileRequest.Decoded.waveName_length :
    request.waveName.length ≤ 37 := by
  have stamp := decoded.stamp_length
    [request.month, request.day, request.hour, request.minute] (by
      simp only [List.forall_mem_cons]
      exact ⟨decoded.month, decoded.day, decoded.hour, decoded.minute, nofun⟩)
  have address := paddedDecimal_length_le 4 (by decide)
    (by decide) decoded.devAddr
  have between : "-wavedat-".toList.length = 9 := by decide
  have extension : ".dat.gz".toList.length = 7 := by decide
  simp only [List.length_cons, List.length_nil] at stamp
  simp only [WaveFileRequest.waveName, List.length_append]
  omega

theorem WaveFileRequest.Decoded.fileName_text :
    request.fileName.text = request.waveName :=
  CArray.truncate_text (Nat.le_trans decoded.waveName_length (by decide))

theorem WaveFileRequest.Decoded.localPath_text :
    request.localPath.text =
      waveFileLocalPath ++ request.hourStamp ++ '/' :: request.waveName := by
  have hour := decoded.hourStamp_length
  have name := decoded.waveName_length
  have front : waveFileLocalPath.length = 21 := by decide
  have slash : "/".toList.length = 1 := by decide
  rw [WaveFileRequest.localPath, CArray.truncate_text, decoded.fileName_text,
    List.append_assoc]
  · rfl
  · simp only [decoded.fileName_text, List.length_append]
    omega

theorem WaveFileRequest.Decoded.remoteFolder_text :
    request.remoteFolder.text =
      waveFileRemotePath ++ request.stamp [request.month, request.day] ++
        "/".toList ++ request.hourStamp ++ "/".toList := by
  have day := decoded.stamp_length
    [request.month, request.day] (by
      simp only [List.forall_mem_cons]
      exact ⟨decoded.month, decoded.day, nofun⟩)
  have hour := decoded.hourStamp_length
  have front : waveFileRemotePath.length = 21 := by decide
  have slash : "/".toList.length = 1 := by decide
  simp only [List.length_cons, List.length_nil] at day
  rw [WaveFileRequest.remoteFolder, CArray.truncate_text]
  simp only [List.length_append]
  omega

theorem WaveFileRequest.Decoded.remotePath_text :
    request.remotePath.text =
      waveFileRemotePath ++ request.stamp [request.month, request.day] ++
        '/' :: (request.hourStamp ++ '/' :: request.waveName) := by
  have day := decoded.stamp_length
    [request.month, request.day] (by
      simp only [List.forall_mem_cons]
      exact ⟨decoded.month, decoded.day, nofun⟩)
  have hour := decoded.hourStamp_length
  have name := decoded.waveName_length
  have front : waveFileRemotePath.length = 21 := by decide
  have slash : "/".toList.length = 1 := by decide
  simp only [List.length_cons, List.length_nil] at day
  rw [WaveFileRequest.remotePath, decoded.remoteFolder_text,
    decoded.fileName_text, CArray.truncate_text]
  · simp
  · simp only [List.length_append]
    omega

theorem WaveFileRequest.Decoded.cmd_argument :
    request.cmd.text.drop makeDirectoryCommand.length =
      waveFileLocalPath ++ request.hourStamp := by
  have hour := decoded.hourStamp_length
  have front : waveFileLocalPath.length = 21 := by decide
  have command : makeDirectoryCommand.length = 9 := by decide
  rw [WaveFileRequest.cmd, CArray.truncate_text, List.append_assoc,
    List.drop_left]
  simp only [List.length_append]
  omega

theorem WaveFileRequest.Decoded.cloudPath_text :
    request.cloudPath.text =
      '/' :: (paddedDecimal 4 request.devAddr ++
        '/' :: ("wavefile".toList ++
          '/' :: (request.stamp [request.month] ++
            '/' :: (paddedDecimal 2 request.day ++
              '/' :: (paddedDecimal 2 request.hour ++
                '/' :: request.waveName))))) := by
  have month := decoded.stamp_length [request.month] (by
    rw [List.forall_mem_singleton]
    exact decoded.month)
  have address := paddedDecimal_length_le 4 (by decide)
    (by decide) decoded.devAddr
  have day := paddedDecimal_length_le 2 (by decide) (by decide)
    decoded.day
  have hour := paddedDecimal_length_le 2 (by decide) (by decide)
    decoded.hour
  have name := decoded.waveName_length
  have folder : "/wavefile/".toList.length = 10 := by decide
  have slash : "/".toList.length = 1 := by decide
  simp only [List.length_cons, List.length_nil] at month
  rw [WaveFileRequest.cloudPath, CArray.truncate_text]
  · simp
  · simp only [List.length_append]
    omega

end Lengths

/-! ## Paths tell requests apart -/

theorem paddedDecimal_inj {width value other : Nat} :
    paddedDecimal width value = paddedDecimal width other ↔ value = other := by
  constructor
  · intro same
    rw [← ofDigitChars_paddedDecimal width value, same,
      ofDigitChars_paddedDecimal]
  · rintro rfl
    rfl

theorem not_mem_of_isDigit {text : CString} {character : Char}
    (digits : ∀ digit ∈ text, digit.isDigit = true)
    (other : character.isDigit = false) : character ∉ text := by
  intro member
  rw [digits character member] at other
  cases other

theorem WaveFileRequest.stamp_isDigit {request : WaveFileRequest}
    {others : List Nat} {character : Char}
    (member : character ∈ request.stamp others) :
    character.isDigit = true := by
  rcases List.mem_append.mp member with year | rest
  · exact paddedDecimal_isDigit year
  · obtain ⟨_, _, printed⟩ := List.mem_flatMap.mp rest
    exact paddedDecimal_isDigit printed

theorem WaveFileRequest.slash_not_mem_stamp (request : WaveFileRequest)
    (others : List Nat) : '/' ∉ request.stamp others :=
  not_mem_of_isDigit (fun _ => WaveFileRequest.stamp_isDigit) (by decide)

theorem slash_not_mem_number (width value : Nat) :
    '/' ∉ paddedDecimal width value :=
  not_mem_of_isDigit (fun _ => paddedDecimal_isDigit) (by decide)

/-- A name has the address in front of its first hyphen. -/
theorem WaveFileRequest.waveName_inj {request other : WaveFileRequest} :
    request.waveName = other.waveName ↔
      request.devAddr = other.devAddr ∧
        request.stamp [request.month, request.day, request.hour,
            request.minute] =
          other.stamp [other.month, other.day, other.hour, other.minute] := by
  have free : ∀ request : WaveFileRequest,
      '-' ∉ paddedDecimal 4 request.devAddr := fun _ =>
    not_mem_of_isDigit (fun _ => paddedDecimal_isDigit) (by decide)
  have split : ∀ request : WaveFileRequest, request.waveName =
      paddedDecimal 4 request.devAddr ++ '-' :: ("wavedat-".toList ++
        (request.stamp [request.month, request.day, request.hour,
          request.minute] ++ ".dat.gz".toList)) := by
    intro request
    rw [WaveFileRequest.waveName, List.append_assoc, List.append_assoc]
    rfl
  rw [split, split, pieces_inj (free request) (free other),
    paddedDecimal_inj, List.append_right_inj, List.append_left_inj]

/-- A year has four digits. -/
theorem WaveFileRequest.stamp_inj {request other : WaveFileRequest}
    (decoded : request.Decoded) (otherDecoded : other.Decoded)
    {others more : List Nat} :
    request.stamp others = other.stamp more ↔
      request.year = other.year ∧
        others.flatMap (paddedDecimal 2) = more.flatMap (paddedDecimal 2) := by
  have four : ∀ request : WaveFileRequest, request.Decoded →
      (paddedDecimal 4 request.year).length = 4 := by
    intro request decoded
    have short := paddedDecimal_length_le 4 (Nat.le_refl 4)
      (by decide) decoded.year
    rw [paddedDecimal_length] at short ⊢
    omega
  constructor
  · intro same
    obtain ⟨year, rest⟩ := List.append_inj same
      ((four request decoded).trans (four other otherDecoded).symm)
    exact ⟨paddedDecimal_inj.mp year, rest⟩
  · rintro ⟨year, rest⟩
    rw [WaveFileRequest.stamp, WaveFileRequest.stamp, year, rest]

/-- The cloud keeps the files of different requests apart. -/
theorem WaveFileRequest.cloudPath_inj {request other : WaveFileRequest}
    (decoded : request.Decoded) (otherDecoded : other.Decoded) :
    request.cloudPath.text = other.cloudPath.text ↔ request = other := by
  constructor
  · intro same
    rw [decoded.cloudPath_text, otherDecoded.cloudPath_text, List.cons.injEq,
      pieces_inj (slash_not_mem_number _ _) (slash_not_mem_number _ _),
      paddedDecimal_inj, pieces_inj (by decide) (by decide),
      pieces_inj (request.slash_not_mem_stamp _) (other.slash_not_mem_stamp _),
      pieces_inj (slash_not_mem_number _ _) (slash_not_mem_number _ _),
      paddedDecimal_inj,
      pieces_inj (slash_not_mem_number _ _) (slash_not_mem_number _ _),
      paddedDecimal_inj, WaveFileRequest.stamp_inj decoded otherDecoded,
      List.flatMap_singleton, List.flatMap_singleton,
      paddedDecimal_inj, WaveFileRequest.waveName_inj,
      WaveFileRequest.stamp_inj decoded otherDecoded] at same
    obtain ⟨-, address, -, ⟨year, month⟩, day, hour, -, -, rest⟩ := same
    simp only [List.flatMap_cons, month, day, hour, List.append_right_inj,
      List.flatMap_nil, List.append_nil, paddedDecimal_inj] at rest
    cases request
    cases other
    simp only at address year month day hour rest
    rw [address, year, month, day, hour, rest]
  · rintro rfl
    rfl

/-- The fields are those of a frame in binary-coded decimals. -/
structure WaveFileRequest.TwoDigits (request : WaveFileRequest) : Prop where
  month : request.month < 100
  day : request.day < 100
  hour : request.hour < 100
  minute : request.minute < 100

theorem twoDigits_inj {values others : List Nat}
    (small : ∀ value ∈ values, value < 100)
    (othersSmall : ∀ value ∈ others, value < 100) :
    values.flatMap (paddedDecimal 2) = others.flatMap (paddedDecimal 2) ↔
      values = others := by
  have two : ∀ value < 100, (paddedDecimal 2 value).length = 2 := by
    intro value bound
    have short := paddedDecimal_length_le 2 (Nat.le_refl 2)
      (by decide) bound
    rw [paddedDecimal_length] at short ⊢
    omega
  induction values generalizing others with
  | nil =>
      cases others with
      | nil => exact iff_of_true rfl rfl
      | cons other others =>
          refine iff_of_false ?_ nofun
          intro empty
          exact paddedDecimal_ne_nil 2 other
            (List.append_eq_nil_iff.mp empty.symm).1
  | cons value values induction =>
      cases others with
      | nil =>
          refine iff_of_false ?_ nofun
          intro empty
          exact paddedDecimal_ne_nil 2 value
            (List.append_eq_nil_iff.mp empty).1
      | cons other others =>
          rw [List.forall_mem_cons] at small othersSmall
          have later := induction small.2 othersSmall.2
          rw [List.flatMap_cons, List.flatMap_cons]
          constructor
          · intro same
            obtain ⟨first, rest⟩ := List.append_inj same
              ((two value small.1).trans (two other othersSmall.1).symm)
            rw [paddedDecimal_inj.mp first, later.mp rest]
          · intro same
            cases same
            rfl

theorem WaveFileRequest.TwoDigits.waveName_inj
    {request other : WaveFileRequest} (decoded : request.Decoded)
    (otherDecoded : other.Decoded) (digits : request.TwoDigits)
    (otherDigits : other.TwoDigits) :
    request.waveName = other.waveName ↔ request = other := by
  have small : ∀ request : WaveFileRequest, request.TwoDigits →
      ∀ value ∈ [request.month, request.day, request.hour, request.minute],
        value < 100 := by
    intro request digits
    simp only [List.forall_mem_cons]
    exact ⟨digits.month, digits.day, digits.hour, digits.minute, nofun⟩
  rw [WaveFileRequest.waveName_inj,
    WaveFileRequest.stamp_inj decoded otherDecoded,
    twoDigits_inj (small request digits) (small other otherDigits)]
  cases request
  cases other
  simp only [List.cons.injEq, WaveFileRequest.mk.injEq, and_true]

theorem WaveFileRequest.TwoDigits.path_inj
    {request other : WaveFileRequest} (decoded : request.Decoded)
    (otherDecoded : other.Decoded) (digits : request.TwoDigits)
    (otherDigits : other.TwoDigits) :
    (request.remotePath.text = other.remotePath.text ↔ request = other) ∧
      (request.localPath.text = other.localPath.text ↔ request = other) := by
  have free : ∀ request : WaveFileRequest, ∀ others,
      '/' ∉ request.stamp others := WaveFileRequest.slash_not_mem_stamp
  have name :=
    TwoDigits.waveName_inj decoded otherDecoded digits otherDigits
  constructor
  · constructor
    · intro same
      rw [decoded.remotePath_text, otherDecoded.remotePath_text,
        List.append_assoc, List.append_assoc, List.append_right_inj,
        pieces_inj (free _ _) (free _ _),
        WaveFileRequest.hourStamp, WaveFileRequest.hourStamp,
        pieces_inj (free _ _) (free _ _)] at same
      exact name.mp same.2.2
    · rintro rfl
      rfl
  · constructor
    · intro same
      rw [decoded.localPath_text, otherDecoded.localPath_text,
        List.append_assoc, List.append_assoc, List.append_right_inj,
        WaveFileRequest.hourStamp, WaveFileRequest.hourStamp,
        pieces_inj (free _ _) (free _ _)] at same
      exact name.mp same.2
    · rintro rfl
      rfl

/-- The buffers hold what is printed into them, as a whole. -/
structure WaveFileRequest.Uncut (request : WaveFileRequest) : Prop where
  fileName : request.fileName.text = request.waveName
  remoteFolder : request.remoteFolder.text =
    waveFileRemotePath ++ request.stamp [request.month, request.day] ++
      "/".toList ++ request.hourStamp ++ "/".toList
  remotePath : request.remotePath.text =
    waveFileRemotePath ++ request.stamp [request.month, request.day] ++
      '/' :: (request.hourStamp ++ '/' :: request.waveName)
  localPath : request.localPath.text =
    waveFileLocalPath ++ request.hourStamp ++ '/' :: request.waveName
  cmd : request.cmd.text.drop makeDirectoryCommand.length =
    waveFileLocalPath ++ request.hourStamp
  cloudPath : request.cloudPath.text =
    '/' :: (paddedDecimal 4 request.devAddr ++
      '/' :: ("wavefile".toList ++
        '/' :: (request.stamp [request.month] ++
          '/' :: (paddedDecimal 2 request.day ++
            '/' :: (paddedDecimal 2 request.hour ++
              '/' :: request.waveName)))))

theorem WaveFileRequest.Decoded.uncut {request : WaveFileRequest}
    (decoded : request.Decoded) : request.Uncut :=
  ⟨decoded.fileName_text, decoded.remoteFolder_text, decoded.remotePath_text,
    decoded.localPath_text, decoded.cmd_argument, decoded.cloudPath_text⟩

/-- No path of a request is cut off.  The cloud keeps the files of any two
requests apart; the device and the local disk do as long as the requests are in
binary-coded decimals. -/
theorem waveFile_paths_iff {arg otherArg : List UInt8}
    {request other : WaveFileRequest}
    (read : readWaveFileReq arg = some request)
    (otherRead : readWaveFileReq otherArg = some other) :
    request.Uncut ∧
      (request.cloudPath.text = other.cloudPath.text ↔ request = other) ∧
      (request.TwoDigits → other.TwoDigits →
        (request.remotePath.text = other.remotePath.text ↔
            request = other) ∧
          (request.localPath.text = other.localPath.text ↔
            request = other)) := by
  have decoded := readWaveFileReq_decoded read
  have otherDecoded := readWaveFileReq_decoded otherRead
  exact ⟨decoded.uncut, WaveFileRequest.cloudPath_inj decoded otherDecoded,
    WaveFileRequest.TwoDigits.path_inj decoded otherDecoded⟩

theorem waveFile_paths_minutes : ∃ request other,
    readWaveFileReq [0, 0, 0, 0, 0, 0x56, 3, 0x24, 1, 2, 3, 4] =
        some request ∧
      readWaveFileReq [0, 0, 0, 0, 0, 0x56, 3, 0x24, 1, 2, 3, 5] =
        some other ∧
      request.Uncut ∧ request.cloudPath.text ≠ other.cloudPath.text ∧
      request.remotePath.text ≠ other.remotePath.text := by
  obtain ⟨uncut, cloud, device⟩ := @waveFile_paths_iff
    [0, 0, 0, 0, 0, 0x56, 3, 0x24, 1, 2, 3, 4]
    [0, 0, 0, 0, 0, 0x56, 3, 0x24, 1, 2, 3, 5] _ _ rfl rfl
  have digits := device ⟨by decide, by decide, by decide, by decide⟩
    ⟨by decide, by decide, by decide, by decide⟩
  exact ⟨_, _, rfl, rfl, uncut, mt cloud.mp (by decide),
    mt digits.1.mp (by decide)⟩

/-- A month of 10 and a day of 112 look like a month of 101 and a day of 12. -/
theorem waveFile_paths_digits :
    ∃ arg otherArg request other, readWaveFileReq arg = some request ∧
      readWaveFileReq otherArg = some other ∧ request ≠ other ∧
      request.remotePath.text = other.remotePath.text := by
  refine ⟨[0, 0, 0, 0, 0, 0, 0, 0x24, 0x10, 0xAC, 0, 0],
    [0, 0, 0, 0, 0, 0, 0, 0x24, 0x9B, 0x12, 0, 0], _, _, rfl, rfl, ?_, ?_⟩
  · decide
  · decide +kernel

/-! ## Download and upload -/

/-- What has been sent with the rest of the file is the file. -/
theorem curlRead_sent {sizes : List Nat} {file before whole sent : List UInt8}
    (split : before ++ file = whole)
    (read : curlRead whole.length sizes file before = some sent) :
    sent = whole := by
  have ended : ∀ {before file : List UInt8}, before ++ file = whole →
      whole.length ≤ before.length → before = whole := by
    rintro before file rfl long
    rw [List.length_append] at long
    rw [List.length_eq_zero_iff.mp (by omega : file.length = 0),
      List.append_nil]
  induction sizes generalizing file before with
  | nil =>
      rw [curlRead] at read
      split at read
      · rename_i long
        rw [← Option.some.inj read]
        exact ended split long
      · cases read
  | cons size sizes induction =>
      rw [curlRead] at read
      split at read
      · rename_i long
        rw [← Option.some.inj read]
        exact ended split long
      · split at read
        · cases read
        · rename_i bytes rest _ taken
          have parts : file.take size = bytes ∧ file.drop size = rest :=
            Prod.mk.inj taken
          refine induction ?_ read
          rw [List.append_assoc, ← parts.1, ← parts.2,
            List.take_append_drop, split]

/-- Nothing that the upload of a file meets fails. -/
structure FtpCall.Completes (call : FtpCall) (contents : List UInt8) :
    Prop where
  initialised : call.initialised = true
  opens : call.opens = true
  allocated : call.allocated = true
  taken : call.taken = true
  read : curlRead contents.length call.sizes contents [] ≠ none

theorem ftpUpload_completes {call : FtpCall} {contents : List UInt8}
    (completes : call.Completes contents) (remote : Option (List UInt8)) :
    ftpUpload call (some contents) remote = (some contents, 0) := by
  obtain ⟨sent, read⟩ := Option.ne_none_iff_exists'.mp completes.read
  have whole := curlRead_sent (List.nil_append contents) read
  simp only [ftpUpload, completes.initialised, completes.opens,
    completes.allocated, completes.taken, read, Bool.true_eq_false, if_false,
    whole]

theorem ftpUpload_fails {call : FtpCall} {contents : List UInt8}
    (fails : ¬call.Completes contents) (remote : Option (List UInt8)) :
    (ftpUpload call (some contents) remote).2 = -1 := by
  unfold ftpUpload
  cases initialised : call.initialised with
  | false => rfl
  | true =>
      cases opens : call.opens with
      | false => rfl
      | true =>
          cases allocated : call.allocated with
          | false => rfl
          | true =>
              cases taken : call.taken with
              | false => rfl
              | true =>
                  cases read :
                      curlRead contents.length call.sizes contents [] with
                  | none => simp only [Bool.true_eq_false, if_false, read]
                  | some sent =>
                      refine absurd ⟨initialised, opens, allocated, taken, ?_⟩
                        fails
                      rw [read]
                      exact nofun

/-! ## The disk -/

/-- The folder that a request makes is where it downloads to. -/
theorem WaveFileRequest.Decoded.parent_localPath
    {request : WaveFileRequest} (decoded : request.Decoded) :
    parent request.localPath.text =
      request.cmd.text.drop makeDirectoryCommand.length := by
  have free : '/' ∉ request.waveName.reverse := by
    have extension : '/' ∉ ".dat.gz".toList := by decide
    have between : '/' ∉ "-wavedat-".toList := by decide
    rw [List.mem_reverse, WaveFileRequest.waveName]
    simp only [List.mem_append, slash_not_mem_number,
      WaveFileRequest.slash_not_mem_stamp, extension, between, or_self,
      not_false_eq_true]
  rw [decoded.localPath_text, decoded.cmd_argument, parent,
    List.reverse_append, List.reverse_cons, List.append_assoc,
    List.singleton_append, dropWhile_stop _ free]
  exact List.reverse_reverse _

theorem Within.refl (path : CString) : Within path path := .inl rfl

theorem Disk.makeDirectory_directories {disk : Disk} {made : CString → Bool}
    {path : CString} (all : ∀ folder, made folder = true) :
    (disk.makeDirectory made path).directories path = true := by
  simp only [Disk.makeDirectory, Within.refl, all, decide_true, Bool.and_self,
    Bool.or_true]

theorem Disk.remove_within {disk : Disk} {removed : CString → Bool}
    {folder path : CString} (within : Within folder path)
    (gone : removed path = true) :
    (disk.remove removed folder).files path = none :=
  if_pos ⟨within, gone⟩

/-! ## The download -/

/-- The download begins, from the device and onto the disk. -/
structure WaveRound.Fetches (round : WaveRound) (request : WaveFileRequest)
    (disk : Disk) : Prop where
  sftp : (round.device.serve request.remotePath.text).sftp = true
  remoteOpens :
    (round.device.serve request.remotePath.text).remoteOpens = true
  creates : round.creates = true
  folder : disk.directories (parent request.localPath.text) = true

/-- What a download leaves: the file, as far as there was room, or nothing
new. -/
theorem downloadWaveFile_cases {round : WaveRound}
    {request : WaveFileRequest} {disk following : Disk} {ret : Int}
    (downloaded : downloadWaveFile round request disk =
      some (following, ret)) :
    (round.Fetches request disk ∧ ret = 0 ∧ ∃ contents,
        round.device.files request.remotePath.text = some contents ∧
        following = { disk with
          files := Function.update disk.files request.localPath.text
            (some (contents.take round.room)) }) ∨
      (¬round.Fetches request disk ∧ ret = -1 ∧ following = disk) := by
  simp only [downloadWaveFile, Option.bind_eq_bind,
    Option.bind_eq_some_iff, Prod.exists, Option.some.injEq,
    Prod.mk.injEq] at downloaded
  obtain ⟨written, ret, result, rfl, rfl⟩ := downloaded
  have starts_iff : (round.download request disk).Starts ↔
      round.Fetches request disk := by
    unfold DownloadCall.Starts WaveRound.download
    rw [Bool.and_eq_true]
    constructor
    · rintro ⟨sftp, remoteOpens, creates, folder⟩
      exact ⟨sftp, remoteOpens, creates, folder⟩
    · rintro ⟨sftp, remoteOpens, creates, folder⟩
      exact ⟨sftp, remoteOpens, creates, folder⟩
  by_cases fetches : round.Fetches request disk
  · refine .inl ⟨fetches, ?_⟩
    rw [sshClientDownloadFile_starts (starts_iff.mpr fetches)] at result
    by_cases ended : (round.download request disk).last.nbytes = 0
    · rw [if_pos ended, Option.some.injEq, Prod.mk.injEq] at result
      obtain ⟨rfl, rfl⟩ := result
      exact ⟨rfl, _, round.device.served _ fetches.remoteOpens ended, rfl⟩
    · rw [if_neg ended] at result
      cases result
  · refine .inr ⟨fetches, ?_⟩
    rw [sshClientDownloadFile_not_starts (mt starts_iff.mp fetches),
      Option.some.injEq, Prod.mk.injEq] at result
    obtain ⟨rfl, rfl⟩ := result
    refine ⟨rfl, ?_⟩
    rw [if_neg (by decide), Function.update_eq_self]

/-! ## The request -/

theorem uploadWaveFile_cases {round : WaveRound}
    {request : WaveFileRequest} {state following : WaveState} {ret : Int}
    {contents : List UInt8}
    (uploaded : uploadWaveFile round request state = (following, ret))
    (downloaded : state.disk.files request.localPath.text = some contents) :
    (round.ftp.Completes contents ∧ ret = 0 ∧
        following.cloud = Function.update state.cloud request.cloudPath.text
          (some contents) ∧
        following.disk = state.disk.remove round.removed uploadFolder) ∨
      (¬round.ftp.Completes contents ∧ ret = -1 ∧
        (∃ held, following.cloud = Function.update state.cloud
          request.cloudPath.text held) ∧
        following.disk = state.disk) := by
  by_cases completes : round.ftp.Completes contents
  · simp only [uploadWaveFile, downloaded,
      ftpUpload_completes completes] at uploaded
    rw [if_neg (by decide)] at uploaded
    cases uploaded
    exact .inl ⟨completes, rfl, rfl, rfl⟩
  · have refused := ftpUpload_fails completes
      (state.cloud request.cloudPath.text)
    simp only [uploadWaveFile, downloaded, refused] at uploaded
    rw [if_pos (by decide)] at uploaded
    cases uploaded
    exact .inr ⟨completes, rfl, ⟨_, rfl⟩, rfl⟩

/-- Nothing that a request meets fails, on the disk with its folder. -/
structure WaveRound.Succeeds (round : WaveRound) (request : WaveFileRequest)
    (disk : Disk) : Prop where
  connects : round.connects = true
  fetches : round.Fetches request disk
  uploads : ∀ contents,
    round.device.files request.remotePath.text = some contents →
    round.ftp.Completes (contents.take round.room)

/-- What a request does: everything, or it reports a failure, and then at most
its own file has changed on the disk and in the cloud. -/
theorem transferWaveFile_cases {round : WaveRound}
    {request : WaveFileRequest} {state following : WaveState} {ret : Int}
    (transferred : transferWaveFile round request state =
      some (following, ret)) :
    (round.Succeeds request (round.makeFolder request state.disk) ∧
        ret = 0 ∧ ∃ contents,
          round.device.files request.remotePath.text = some contents ∧
          following.cloud = Function.update state.cloud
            request.cloudPath.text (some (contents.take round.room)) ∧
          ∃ disk : Disk, following.disk =
            disk.remove round.removed uploadFolder ∧
            disk.files = Function.update state.disk.files
              request.localPath.text (some (contents.take round.room))) ∨
      (¬round.Succeeds request (round.makeFolder request state.disk) ∧
        ret = -1 ∧
        (∃ held, following.cloud = Function.update state.cloud
          request.cloudPath.text held) ∧
        ∃ kept, following.disk.files = Function.update state.disk.files
          request.localPath.text kept) := by
  have cloudKept : ∃ held, state.cloud = Function.update state.cloud
      request.cloudPath.text held :=
    ⟨_, (Function.update_eq_self _ _).symm⟩
  have diskKept : ∃ kept, state.disk.files = Function.update state.disk.files
      request.localPath.text kept :=
    ⟨_, (Function.update_eq_self _ _).symm⟩
  simp only [transferWaveFile] at transferred
  by_cases unconnected : round.connects = false
  · rw [if_pos unconnected] at transferred
    cases transferred
    refine .inr ⟨fun succeeds => ?_, rfl, cloudKept, diskKept⟩
    rw [succeeds.connects] at unconnected
    cases unconnected
  · rw [if_neg unconnected] at transferred
    simp only [Option.bind_eq_bind, Option.bind_eq_some_iff,
      Prod.exists] at transferred
    obtain ⟨disk, status, downloaded, transferred⟩ := transferred
    rcases downloadWaveFile_cases downloaded with
      ⟨fetches, rfl, contents, held, rfl⟩ | ⟨fails, rfl, rfl⟩
    · rw [if_neg (by decide), Option.some.injEq] at transferred
      rcases uploadWaveFile_cases transferred
        (Function.update_self _ _ _) with
        ⟨completes, rfl, cloud, disk⟩ | ⟨breaks, rfl, cloud, disk⟩
      · refine .inl ⟨⟨eq_true_of_ne_false unconnected, fetches, ?_⟩, rfl,
          contents, held, cloud, _, disk, rfl⟩
        intro other otherHeld
        rw [held, Option.some.injEq] at otherHeld
        rwa [← otherHeld]
      · refine .inr ⟨fun succeeds => breaks (succeeds.uploads _ held), rfl,
          cloud, ?_⟩
        rw [disk]
        exact ⟨_, rfl⟩
    · rw [if_pos (by decide)] at transferred
      cases transferred
      exact .inr ⟨fun succeeds => fails succeeds.fetches, rfl, cloudKept,
        diskKept⟩

/-! ## Runs -/

/-- The last outcome of a request. -/
def latest (request : WaveFileRequest) (outcomes : List WaveOutcome) :
    Option WaveOutcome :=
  outcomes.reverse.find? (·.request = request)

/-- The outcomes since a request was answered. -/
def unanswered (outcomes : List WaveOutcome) : List WaveOutcome :=
  outcomes.reverse.takeWhile (·.ret ≠ 0)

/-- What a step of the machine does. -/
theorem waveMachine_step {state following : WaveState} {round : WaveRound}
    {emitted : List WaveOutcome}
    (stepped : waveMachine.step state round = some (following, emitted)) :
    ∃ request ret, readWaveFileReq round.arg = some request ∧
      transferWaveFile round request state = some (following, ret) ∧
      emitted = [{ round, request, ret }] := by
  simp only [waveMachine, Option.bind_eq_bind, Option.bind_eq_some_iff,
    Prod.exists, Option.some.injEq, Prod.mk.injEq] at stepped
  obtain ⟨request, read, following, ret, transferred, rfl, rfl⟩ := stepped
  exact ⟨request, ret, read, transferred, rfl⟩

/-- The induction over runs, in terms of requests. -/
theorem waveMachine_invariant {allowed : WaveState → WaveRound → Prop}
    {holds : List WaveOutcome → WaveState → Prop}
    (initially : ∀ state, waveMachine.initial state → holds [] state)
    (preserved : ∀ outcomes state round request following ret,
      holds outcomes state → allowed state round →
      readWaveFileReq round.arg = some request →
      transferWaveFile round request state = some (following, ret) →
      holds (outcomes ++ [⟨round, request, ret⟩]) following)
    {outcomes : List WaveOutcome} {state : WaveState}
    (reached : waveMachine.Reaches allowed outcomes state) :
    holds outcomes state := by
  refine Machine.invariant initially ?_ reached
  intro outcomes state round following emitted held permitted stepped
  obtain ⟨request, ret, read, transferred, rfl⟩ := waveMachine_step stepped
  exact preserved _ _ _ _ _ _ held permitted read transferred

/-- The handler of the cloud returns what the transfer returns. -/
theorem waveMachine_handler {state following : WaveState} {round : WaveRound}
    {outcome : WaveOutcome}
    (stepped : waveMachine.step state round = some (following, [outcome]))
    (info : DevBaseInfo) (time : CustomTime) :
    funcWaveFileReq { info, time, transfer := fun _ => outcome.ret }
        round.arg =
      some { ret := outcome.ret
             actions := [.fetchWaveFile outcome.request] } := by
  obtain ⟨request, ret, read, _, same⟩ := waveMachine_step stepped
  cases same
  rw [funcWaveFileReq, read]
  rfl

/-- The requests come from frames, and the cloud holds what the last answer to
each has promised. -/
structure AnswersHold (outcomes : List WaveOutcome) (state : WaveState) :
    Prop where
  decoded : ∀ outcome ∈ outcomes, outcome.request.Decoded
  held : ∀ request outcome, latest request outcomes = some outcome →
    outcome.ret = 0 → ∃ contents,
      outcome.round.device.files request.remotePath.text = some contents ∧
      state.cloud request.cloudPath.text =
        some (contents.take outcome.round.room)

theorem latest_append (request : WaveFileRequest)
    (outcomes : List WaveOutcome) (outcome : WaveOutcome) :
    latest request (outcomes ++ [outcome]) =
      if outcome.request = request then some outcome
      else latest request outcomes := by
  rw [latest, List.reverse_append, List.reverse_singleton,
    List.singleton_append, List.find?_cons]
  by_cases same : outcome.request = request
  · rw [if_pos same, decide_eq_true same]
  · rw [if_neg same, decide_eq_false same]
    rfl

theorem latest_mem {request : WaveFileRequest}
    {outcomes : List WaveOutcome} {outcome : WaveOutcome}
    (last : latest request outcomes = some outcome) :
    outcome ∈ outcomes ∧ outcome.request = request :=
  ⟨List.mem_reverse.mp (List.mem_of_find?_eq_some last),
    by simpa using List.find?_some last⟩

theorem AnswersHold.step {outcomes : List WaveOutcome}
    {state following : WaveState} {round : WaveRound}
    {request : WaveFileRequest} {ret : Int}
    (holds : AnswersHold outcomes state)
    (read : readWaveFileReq round.arg = some request)
    (transferred : transferWaveFile round request state =
      some (following, ret)) :
    AnswersHold (outcomes ++ [⟨round, request, ret⟩]) following := by
  have here := readWaveFileReq_decoded read
  have elsewhere : ∃ held, following.cloud =
      Function.update state.cloud request.cloudPath.text held := by
    rcases transferWaveFile_cases transferred with
      ⟨_, _, _, _, cloud, _⟩ | ⟨_, _, cloud, _⟩
    · exact ⟨_, cloud⟩
    · exact cloud
  refine ⟨?_, ?_⟩
  · rw [List.forall_mem_append, List.forall_mem_singleton]
    exact ⟨holds.decoded, here⟩
  · intro asked outcome last answered
    simp only [latest_append] at last
    by_cases same : request = asked
    · subst same
      rw [if_pos rfl, Option.some.injEq] at last
      subst last
      rcases transferWaveFile_cases transferred with
        ⟨_, _, contents, held, cloud, _⟩ | ⟨_, failed, _⟩
      · refine ⟨contents, held, ?_⟩
        rw [cloud, Function.update_self]
      · have zero : ret = 0 := answered
        omega
    · -- This request does not reach the path of the other one.
      rw [if_neg same] at last
      obtain ⟨contents, held, cloud⟩ := holds.held asked outcome last answered
      obtain ⟨member, rfl⟩ := latest_mem last
      refine ⟨contents, held, ?_⟩
      obtain ⟨left, changed⟩ := elsewhere
      rw [changed, Function.update_of_ne, cloud]
      intro path
      exact same ((WaveFileRequest.cloudPath_inj
        (holds.decoded outcome member) here).mp path).symm

/-- A device that holds one byte under every path. -/
def oneByteDevice : WaveDevice :=
  { files := fun _ => some [0x31]
    serve := fun _ =>
      { sftp := true
        remoteOpens := true
        localOpens := true
        reads := [{ buffer := Buffer.filled 1024 0x31
                    nbytes := 1
                    bounded := by omega
                    representable := by omega }]
        positive := by simp
        last := { buffer := Buffer.filled 1024 0
                  nbytes := 0
                  bounded := by omega
                  representable := by omega }
        nonpositive := by simp
        later := [] }
    served := fun _ _ _ => by decide +kernel }

def quietRound : WaveRound :=
  { arg := [0x4A, 0x4B, 0xAE, 0x00, 0x0E, 0x56, 0x03, 0x24, 0x01, 0x02, 0x03,
      0x04, 0x00, 0x00]
    made := fun _ => true
    connects := true
    device := oneByteDevice
    creates := true
    room := 1024
    ftp :=
      { initialised := true
        opens := true
        allocated := true
        sizes := [16]
        taken := true
        broken := none }
    removed := fun _ => true }

def emptyState : WaveState :=
  { disk := { directories := fun _ => false, files := fun _ => none }
    cloud := fun _ => none }

/-- The request of another minute, which the server does not take. -/
def refusedRound : WaveRound :=
  { quietRound with
    arg := [0x4A, 0x4B, 0xAE, 0x00, 0x0E, 0x56, 0x03, 0x24, 0x01, 0x02, 0x03,
      0x05, 0x00, 0x00]
    ftp := { quietRound.ftp with taken := false } }

/-- The request of a third minute. -/
def laterRound : WaveRound :=
  { quietRound with
    arg := [0x4A, 0x4B, 0xAE, 0x00, 0x0E, 0x56, 0x03, 0x24, 0x01, 0x02, 0x03,
      0x06, 0x00, 0x00] }

def quietRequest : WaveFileRequest :=
  { devAddr := 356, year := 2024, month := 1, day := 2, hour := 3
    minute := 4 }

/-- An answered request, a failed one, and another one that is answered. -/
def mixedOutcomes : List WaveOutcome :=
  [⟨quietRound, quietRequest, 0⟩,
   ⟨refusedRound, { quietRequest with minute := 5 }, -1⟩,
   ⟨laterRound, { quietRequest with minute := 6 }, 0⟩]

/-- The run leaves what it has failed to send until the last request. -/
theorem mixedOutcomes_reached {allowed : WaveState → WaveRound → Prop}
    (permitted : (∀ state, allowed state quietRound) ∧
      (∀ state, allowed state refusedRound) ∧
      ∀ state, allowed state laterRound) :
    ∃ between state,
      waveMachine.Reaches allowed (mixedOutcomes.take 2) between ∧
      waveMachine.Reaches allowed mixedOutcomes state ∧
      between.disk.files
          { quietRequest with minute := 5 }.localPath.text ≠ none := by
  have steps : ∃ first second third,
      waveMachine.step emptyState quietRound =
          some (first, [⟨quietRound, quietRequest, 0⟩]) ∧
        waveMachine.step first refusedRound = some (second,
          [⟨refusedRound, { quietRequest with minute := 5 }, -1⟩]) ∧
        waveMachine.step second laterRound = some (third,
          [⟨laterRound, { quietRequest with minute := 6 }, 0⟩]) ∧
        second.disk.files
          { quietRequest with minute := 5 }.localPath.text ≠ none :=
    ⟨_, _, _, rfl, rfl, rfl, by decide +kernel⟩
  obtain ⟨first, second, third, answered, refused, later, left⟩ := steps
  obtain ⟨quiet, failing, last⟩ := permitted
  have reached : waveMachine.Reaches allowed (mixedOutcomes.take 2) second :=
    .next (.next (.start fun _ _ => rfl) (quiet _) answered) (failing _)
      refused
  exact ⟨second, third, reached, .next reached (last _) later, left⟩

/-- Nothing that a request meets fails, whatever the disk is like. -/
structure WaveRound.Undisturbed (round : WaveRound)
    (request : WaveFileRequest) : Prop where
  connects : round.connects = true
  sftp : (round.device.serve request.remotePath.text).sftp = true
  remoteOpens :
    (round.device.serve request.remotePath.text).remoteOpens = true
  creates : round.creates = true
  uploads : ∀ contents,
    round.device.files request.remotePath.text = some contents →
    round.ftp.Completes (contents.take round.room)

theorem WaveRound.succeeds_iff {round : WaveRound}
    {request : WaveFileRequest} (decoded : request.Decoded)
    (made : ∀ folder, round.made folder = true) (disk : Disk) :
    round.Succeeds request (round.makeFolder request disk) ↔
      round.Undisturbed request := by
  constructor
  · rintro ⟨connects, ⟨sftp, remoteOpens, creates, _⟩, uploads⟩
    exact ⟨connects, sftp, remoteOpens, creates, uploads⟩
  · rintro ⟨connects, sftp, remoteOpens, creates, uploads⟩
    refine ⟨connects, ⟨sftp, remoteOpens, creates, ?_⟩, uploads⟩
    rw [decoded.parent_localPath]
    exact Disk.makeDirectory_directories made

def AnsweredAlone (outcomes : List WaveOutcome) (_ : WaveState) : Prop :=
  ∀ outcome ∈ outcomes,
    (outcome.ret = 0 ↔ outcome.round.Undisturbed outcome.request)

theorem AnsweredAlone.step {outcomes : List WaveOutcome}
    {state following : WaveState} {round : WaveRound}
    {request : WaveFileRequest} {ret : Int}
    (holds : AnsweredAlone outcomes state)
    (made : ∀ folder, round.made folder = true)
    (read : readWaveFileReq round.arg = some request)
    (transferred : transferWaveFile round request state =
      some (following, ret)) :
    AnsweredAlone (outcomes ++ [⟨round, request, ret⟩]) following := by
  have decoded := readWaveFileReq_decoded read
  rw [AnsweredAlone, List.forall_mem_append, List.forall_mem_singleton]
  refine ⟨holds, ?_⟩
  rcases transferWaveFile_cases transferred with
    ⟨succeeds, zero, _⟩ | ⟨fails, failed, _⟩
  · exact iff_of_true zero
      ((WaveRound.succeeds_iff decoded made _).mp succeeds)
  · refine iff_of_false ?_ fun undisturbed =>
      fails ((WaveRound.succeeds_iff decoded made _).mpr undisturbed)
    simp only [failed]
    decide

/-- In every run in which `mkdir -p` works, a request is answered exactly when
nothing that it meets itself fails: the folders that earlier requests have
removed with `/upload`, or the files that they have left, do not matter. -/
theorem waveFiles_answered_iff {outcomes : List WaveOutcome}
    {state : WaveState}
    (reached : waveMachine.Reaches
      (fun _ round => ∀ folder, round.made folder = true) outcomes state)
    {outcome : WaveOutcome} (handled : outcome ∈ outcomes) :
    outcome.ret = 0 ↔ outcome.round.Undisturbed outcome.request := by
  have holds : AnsweredAlone outcomes state :=
    waveMachine_invariant (fun _ _ => nofun)
      (fun _ _ _ _ _ _ => AnsweredAlone.step) reached
  exact holds outcome handled

/-- The last request is answered, although one has failed before it and the
folders have been removed. -/
theorem waveFiles_answered_mixed : ∃ state outcome,
    waveMachine.Reaches
        (fun _ round => ∀ folder, round.made folder = true) mixedOutcomes
        state ∧
      outcome ∈ mixedOutcomes ∧ outcome.round = laterRound ∧
      (outcome.ret = 0 ↔ outcome.round.Undisturbed outcome.request) := by
  obtain ⟨_, state, _, reached, _⟩ := @mixedOutcomes_reached
    (fun _ round => ∀ folder, round.made folder = true)
    ⟨fun _ _ => rfl, fun _ _ => rfl, fun _ _ => rfl⟩
  have handled : ⟨laterRound, { quietRequest with minute := 6 }, 0⟩ ∈
      mixedOutcomes :=
    List.mem_cons_of_mem _ (List.mem_cons_of_mem _ List.mem_cons_self)
  exact ⟨state, _, reached, handled, rfl,
    waveFiles_answered_iff reached handled⟩

/-! ## What is left on the disk -/

def LeftBySome (outcomes : List WaveOutcome) (state : WaveState) : Prop :=
  ∀ path, Within uploadFolder path → state.disk.files path ≠ none →
    ∃ outcome ∈ unanswered outcomes, path = outcome.request.localPath.text

theorem unanswered_append (outcomes : List WaveOutcome)
    {outcome : WaveOutcome} (failed : outcome.ret ≠ 0) :
    unanswered (outcomes ++ [outcome]) = outcome :: unanswered outcomes := by
  rw [unanswered, List.reverse_append, List.reverse_singleton,
    List.singleton_append, List.takeWhile_cons_of_pos (by simpa using failed)]
  rfl

theorem LeftBySome.step {outcomes : List WaveOutcome}
    {state following : WaveState} {round : WaveRound}
    {request : WaveFileRequest} {ret : Int}
    (holds : LeftBySome outcomes state)
    (removed : ∀ path, round.removed path = true)
    (transferred : transferWaveFile round request state =
      some (following, ret)) :
    LeftBySome (outcomes ++ [⟨round, request, ret⟩]) following := by
  intro path within left
  rcases transferWaveFile_cases transferred with
    ⟨_, _, _, _, _, disk, same, _⟩ | ⟨_, failed, _, kept, changed⟩
  · rw [same, Disk.remove_within within (removed path)] at left
    exact absurd rfl left
  · rw [unanswered_append _ (by simp only [failed]; decide)]
    by_cases here : path = request.localPath.text
    · exact ⟨_, List.mem_cons_self, here⟩
    · rw [changed, Function.update_of_ne here] at left
      obtain ⟨outcome, member, own⟩ := holds path within left
      exact ⟨outcome, List.mem_cons_of_mem _ member, own⟩

/-- In every run in which `rm -rf` works, a file below `/upload` is one that a
request has downloaded since the last one was answered. -/
theorem waveFiles_left {outcomes : List WaveOutcome} {state : WaveState}
    (reached : waveMachine.Reaches
      (fun _ round => ∀ path, round.removed path = true) outcomes state)
    {path : CString} (within : Within uploadFolder path)
    (left : state.disk.files path ≠ none) :
    ∃ outcome ∈ unanswered outcomes,
      path = outcome.request.localPath.text := by
  have holds : LeftBySome outcomes state := by
    refine waveMachine_invariant ?_
      (fun _ _ _ _ _ _ holds removed _ => holds.step removed) reached
    intro state clean path within left
    exact absurd (clean path within) left
  exact holds path within left

theorem waveFiles_left_mixed : ∃ state path,
    waveMachine.Reaches
        (fun _ round => ∀ path, round.removed path = true)
        (mixedOutcomes.take 2) state ∧
      Within uploadFolder path ∧ state.disk.files path ≠ none ∧
      ∃ outcome ∈ unanswered (mixedOutcomes.take 2),
        path = outcome.request.localPath.text := by
  obtain ⟨state, _, reached, _, left⟩ := @mixedOutcomes_reached
    (fun _ round => ∀ path, round.removed path = true)
    ⟨fun _ _ => rfl, fun _ _ => rfl, fun _ _ => rfl⟩
  have within : Within uploadFolder
      { quietRequest with minute := 5 }.localPath.text := by
    decide +kernel
  exact ⟨state, _, reached, within, left,
    waveFiles_left reached within left⟩

end RtA100
