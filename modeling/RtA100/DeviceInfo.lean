import RtA100.BcdRoundTrip
import RtA100.OtaReports
import RtA100.SgDataParse
import RtA100.SshExecute

/-!
# The device information on its way to the cloud

`updater.sh` prints a row of the database as one line,
`init_updater_environment` reads the line over SSH and scans it into
`DevBaseInfo`, and `func_dev_info_resp` packs that into a frame.  A receiver of
the frame gets the row back exactly when the line and its texts fit, the address
has a BCD code, every version is a byte, and no empty column has ended the scan.
-/

namespace RtA100

open Library

/-! ## The script -/

/-- A text that does not disturb the line of the script. -/
structure LineField where
  text : CString
  noComma : ',' ∉ text
  oneLine : '\n' ∉ text

/-- The columns of `device_info` that `get_dev_base_info` selects.  The address
is printed with `%04d`; the other numbers can be NULL. -/
structure DeviceRow where
  devAddr : Nat
  ipAddr : LineField
  port : Option Nat
  cpuSoftVer : Option Nat
  cpuHardVer : Option Nat
  adSoftVer : Option Nat
  adHardVer : Option Nat
  controlSoftVer : Option Nat
  controlHardVer : Option Nat
  netSoftVer : Option Nat
  netHardVer : Option Nat

/-- What `psql -t -A` prints for a number. -/
def columnText : Option Nat → CString
  | none => []
  | some value => decimal value

/-- The line that `get_dev_base_info` prints; `upTime` is the output of
`uptime -s`. -/
def deviceLine (row : DeviceRow) (upTime : LineField) : CString :=
  scriptDevAddr row.devAddr ++ ',' :: (row.ipAddr.text ++ ',' ::
    (columnText row.port ++ ',' :: (columnText row.cpuSoftVer ++ ',' ::
    (columnText row.cpuHardVer ++ ',' :: (columnText row.adSoftVer ++ ',' ::
    (columnText row.adHardVer ++ ',' :: (columnText row.controlSoftVer ++
      ',' :: (columnText row.controlHardVer ++ ',' ::
    (columnText row.netSoftVer ++ ',' :: (columnText row.netHardVer ++ ',' ::
    (upTime.text ++ [','])))))))))))

/-- `get_dev_base_info` -/
def getDevBaseInfo (row : DeviceRow) (upTime : LineField) : CString :=
  deviceLine row upTime ++ ['\n']

/-! ## The scan -/

/-- The fields of `struct DevBaseInfo`, in the order of the scan. -/
inductive DevBaseField where
  | devAddr
  | cloudIp
  | cloudPort
  | cpuSw
  | cpuHw
  | adSw
  | adHw
  | ctrlSw
  | ctrlHw
  | netSw
  | netHw
  | upTime
deriving DecidableEq

def DevBaseField.Value : DevBaseField → Type
  | .devAddr => UInt16
  | .cloudIp => CArray 16
  | .cloudPort => Int32
  | .upTime => CArray 30
  | _ => UInt8

/-- A content of `fkz9_devBaseInfo`. -/
abbrev DevBaseRecord := (field : DevBaseField) → field.Value

/-- `%[^,]` into an array. -/
def convertField (size : Nat) (input : CString) : Converted (CArray size) :=
  if input.takeWhile (· ≠ ',') = [] then .failed
  else
    match strcpy size (input.takeWhile (· ≠ ',')) with
    | none => .overflow
    | some text => .stored text (input.dropWhile (· ≠ ','))

/-- `%hd`, `%[^,]`, `%d` and `%hhu` -/
def devBaseConvert :
    (field : DevBaseField) → CString → Converted field.Value
  | .devAddr, input => convertNumber UInt16.ofInt (scanInteger input)
  | .cloudIp, input => convertField 16 input
  | .cloudPort, input => convertNumber Int32.ofInt (scanInteger input)
  | .upTime, input => convertField 30 input
  | .cpuSw, input => convertNumber UInt8.ofNat (scanUnsigned input)
  | .cpuHw, input => convertNumber UInt8.ofNat (scanUnsigned input)
  | .adSw, input => convertNumber UInt8.ofNat (scanUnsigned input)
  | .adHw, input => convertNumber UInt8.ofNat (scanUnsigned input)
  | .ctrlSw, input => convertNumber UInt8.ofNat (scanUnsigned input)
  | .ctrlHw, input => convertNumber UInt8.ofNat (scanUnsigned input)
  | .netSw, input => convertNumber UInt8.ofNat (scanUnsigned input)
  | .netHw, input => convertNumber UInt8.ofNat (scanUnsigned input)

/-- The arguments of `sscanf`. -/
def devBaseArguments : List DevBaseField :=
  [.devAddr, .cloudIp, .cloudPort, .cpuSw, .cpuHw, .adSw, .adHw, .ctrlSw,
   .ctrlHw, .netSw, .netHw, .upTime]

/-- `fkz9_devBaseInfo` after `memset`. -/
def clearedDevBase : DevBaseRecord
  | .devAddr => (0 : UInt16)
  | .cloudIp => CArray.cleared 15
  | .cloudPort => (0 : Int32)
  | .upTime => CArray.cleared 29
  | .cpuSw => (0 : UInt8)
  | .cpuHw => (0 : UInt8)
  | .adSw => (0 : UInt8)
  | .adHw => (0 : UInt8)
  | .ctrlSw => (0 : UInt8)
  | .ctrlHw => (0 : UInt8)
  | .netSw => (0 : UInt8)
  | .netHw => (0 : UInt8)

/-- The fields that `func_dev_info_resp` reads. -/
def DevBaseRecord.info (base : DevBaseRecord) : DevBaseInfo :=
  { devAddr := base .devAddr
    cpuSw := base .cpuSw
    cpuHw := base .cpuHw
    adSw := base .adSw
    adHw := base .adHw
    ctrlSw := base .ctrlSw
    ctrlHw := base .ctrlHw
    netSw := base .netSw
    netHw := base .netHw }

/-! ## The start -/

/-- What the commands and the upload of `init_updater_environment` meet. -/
structure InitEnvironment where
  find : SshChannel
  devInfo : SshChannel
  uploadFile : Int
  chmod : SshChannel

def updaterName : CString := "updater.sh".toList

/-- `init_updater_environment`: what it leaves in `fkz9_devBaseInfo`, and its
result. -/
def initUpdaterEnvironment (environment : InitEnvironment)
    (base : DevBaseRecord) : Option (DevBaseRecord × Int) := do
  let (resp, ret) ←
    sshClientExecute environment.find (CArray.cleared 127)
  if ret ≠ 0 then some (base, -1)
  else if strstr resp.text updaterName = true then
    let (resp, ret) ←
      sshClientExecute environment.devInfo (CArray.cleared 127)
    if ret ≠ 0 then some (base, -1)
    else
      let base ←
        scanFields devBaseConvert devBaseArguments resp.text clearedDevBase
      some (base, 0)
  else if environment.uploadFile ≠ 0 then some (base, -1)
  else
    let (_, ret) ← sshClientExecute environment.chmod resp
    if ret ≠ 0 then some (base, -1) else some (base, 0)

/-! ## The receiver -/

/-- What a `DevInfoDataSeg` tells. -/
structure DevInfoData where
  devAddr : Nat
  swVerCPU : Nat
  hwVerCPU : Nat
  simId : List UInt8
  swVerCTU : Nat
  hwVerCTU : Nat
  swVerNTU : Nat
  hwVerNTU : Nat
  swVerAUS : Nat
  hwVerAUS : Nat
deriving DecidableEq

/-- Read the segment behind the header of the frame. -/
def decodeDevInfo (frame : List UInt8) : Option DevInfoData := do
  let (usDevAddr, bytes) ← takeLittle16 (frame.drop (5 + 0))
  let (ucSwVerCPU, bytes) ← take8 bytes
  let (ucHwVerCPU, bytes) ← take8 bytes
  let cSimID := (bytes.drop 4).take 20
  let (ucSwVerCTU, bytes) ← take8 (bytes.drop 24)
  let (ucHwVerCTU, bytes) ← take8 bytes
  let (ucSwVerNTU, bytes) ← take8 (bytes.drop 10)
  let (ucHwVerNTU, bytes) ← take8 bytes
  let (ucSwVerAUS, bytes) ← take8 bytes
  let (ucHwVerAUS, _) ← take8 bytes
  some
    { devAddr := bcdToDb usDevAddr
      swVerCPU := ucSwVerCPU.toNat
      hwVerCPU := ucHwVerCPU.toNat
      simId := cSimID.takeWhile (· ≠ 0)
      swVerCTU := ucSwVerCTU.toNat
      hwVerCTU := ucHwVerCTU.toNat
      swVerNTU := ucSwVerNTU.toNat
      hwVerNTU := ucHwVerNTU.toNat
      swVerAUS := ucSwVerAUS.toNat
      hwVerAUS := ucHwVerAUS.toNat }

/-- The versions of the row, in the order of the scan. -/
def DeviceRow.versions (row : DeviceRow) : List (Option Nat) :=
  [row.cpuSoftVer, row.cpuHardVer, row.adSoftVer, row.adHardVer,
   row.controlSoftVer, row.controlHardVer, row.netSoftVer, row.netHardVer]

def DevInfoData.versions (data : DevInfoData) : List Nat :=
  [data.swVerCPU, data.hwVerCPU, data.swVerAUS, data.hwVerAUS,
   data.swVerCTU, data.hwVerCTU, data.swVerNTU, data.hwVerNTU]

/-- What is decoded agrees with a row. -/
def DevInfoData.Tells (data : DevInfoData) (row : DeviceRow)
    (simId : List UInt8) : Prop :=
  data.devAddr = row.devAddr ∧ data.simId = simId ∧
    row.versions = data.versions.map some

/-- The program starts, and the frame it then builds is decoded to the row and
the SIM id. -/
def DeviceReported (environment : InitEnvironment) (before : DevBaseRecord)
    (row : DeviceRow) (simId : List UInt8) : Prop :=
  ∃ base frame data,
    initUpdaterEnvironment environment before = some (base, 0) ∧
      funcDevInfoResp base.info simId = some frame ∧
      decodeDevInfo frame = some data ∧ data.Tells row simId

/-- The server has the script, and the script prints the row. -/
structure PrintsRow (environment : InitEnvironment) (row : DeviceRow)
    (upTime : LineField) : Prop where
  found : ∃ resp, sshClientExecute environment.find (CArray.cleared 127) =
    some (resp, 0) ∧ strstr resp.text updaterName = true
  started : environment.devInfo.Started
  output : environment.devInfo.output = getDevBaseInfo row upTime

/-- The scan comes to the versions and to the time of the start. -/
def DeviceRow.Scanned (row : DeviceRow) : Prop :=
  row.ipAddr.text ≠ [] ∧ row.port ≠ none

/-- What the way from the database to the cloud has room for. -/
structure DeviceRow.Reportable (row : DeviceRow) (upTime : LineField) :
    Prop where
  line : (getDevBaseInfo row upTime).length < 128
  ipAddr : row.ipAddr.text.length < 16
  devAddr : row.devAddr < 16000
  versions : ∀ version ∈ row.versions, ∃ number < 256, version = some number
  upTime : row.Scanned → upTime.text.length < 30
  cleared : ¬row.Scanned → ∀ version ∈ row.versions, version = some 0

/-! ## Packing -/

/-- The four digits of two packed bytes. -/
theorem digits_packed {thousands hundreds tens ones : Nat}
    (first : thousands < 16) (second : hundreds < 16) (third : tens < 16)
    (fourth : ones < 16) :
    let packed := (thousands * 16 + hundreds) * 2 ^ 8 + (tens * 2 ^ 4 + ones)
    packed / 4096 % 16 = thousands ∧ packed / 256 % 16 = hundreds ∧
      packed / 16 % 16 = tens ∧ packed % 16 = ones := by
  refine ⟨?_, ?_, ?_, ?_⟩ <;> omega

/-- What a receiver makes of the digits of any address. -/
theorem bcdToDb_dbToBcd_eq (value : UInt16) :
    bcdToDb (dbToBcd value) = value.toNat / 100 % 256 / 10 % 16 * 1000 +
      value.toNat / 100 % 256 % 10 * 100 + value.toNat % 100 := by
  have hundred : (100 : UInt16).toNat = 100 := rfl
  have ten : (10 : UInt16).toNat = 10 := rfl
  have four : (4 : UInt16).toNat % 16 = 4 := rfl
  have eight : (8 : UInt16).toNat % 16 = 8 := rfl
  have lowByte : value.toNat % 100 % 2 ^ 8 = value.toNat % 100 := by omega
  have cut (digits : Nat) :
      digits <<< 8 % 2 ^ 16 = (digits % 256) <<< 8 := by
    rw [Nat.shiftLeft_eq, Nat.shiftLeft_eq]
    omega
  rw [bcdToDb_toNat]
  simp only [dbToBcd, UInt16.toNat_or, UInt16.toNat_shiftLeft,
    UInt16.toNat_div, UInt16.toNat_mod, UInt8.toNat_toUInt16,
    UInt16.toNat_toUInt8, hundred, ten, four, eight, lowByte]
  have high := @digits_or (value.toNat / 100 % 2 ^ 8 / 10)
    (value.toNat / 100 % 2 ^ 8 % 10) 4 16 (by omega) (by omega)
  have low := @digits_or (value.toNat % 100 / 10) (value.toNat % 100 % 10)
    4 16 (by omega) (by omega)
  have byte : (value.toNat / 100 % 2 ^ 8 / 10 * 2 ^ 4 +
      value.toNat / 100 % 2 ^ 8 % 10) % 256 =
        value.toNat / 100 % 256 / 10 % 16 * 16 +
          value.toNat / 100 % 256 % 10 := by
    omega
  rw [high, low, cut, ← Nat.shiftLeft_add_eq_or_of_lt (by omega),
    Nat.shiftLeft_eq, byte]
  obtain ⟨thousands, hundreds, tens, ones⟩ := @digits_packed
    (value.toNat / 100 % 256 / 10 % 16) (value.toNat / 100 % 256 % 10)
    (value.toNat % 100 / 10) (value.toNat % 100 % 10) (by omega) (by omega)
    (by omega) (by omega)
  rw [thousands, hundreds, tens, ones, Nat.add_assoc]
  congr 1
  omega

/-- An address comes back as long as its thousands have a hexadecimal digit. -/
theorem bcdToDb_dbToBcd_iff (value : UInt16) :
    bcdToDb (dbToBcd value) = value.toNat ↔ value.toNat < 16000 := by
  rw [bcdToDb_dbToBcd_eq]
  omega

/-- The array of 20 bytes gives the id back if it is a string of at most as
many. -/
theorem strncpyBytes_read_iff (simId : List UInt8) :
    (strncpyBytes 20 simId).takeWhile (· ≠ 0) = simId ↔
      simId.length ≤ 20 ∧ 0 ∉ simId := by
  constructor
  · intro same
    have short := (List.takeWhile_prefix
      (p := fun byte : UInt8 => decide (byte ≠ 0))
      (l := strncpyBytes 20 simId)).length_le
    rw [same] at short
    refine ⟨?_, fun zero => ?_⟩
    · simp only [strncpyBytes, List.length_append, List.length_take,
        List.length_replicate] at short
      omega
    · rw [← same] at zero
      have kept := List.all_eq_true.mp List.all_takeWhile _ zero
      simp at kept
  · rintro ⟨short, free⟩
    have whole : ∀ byte ∈ simId, decide (byte ≠ 0) = true :=
      fun byte member => decide_eq_true fun zero => free (zero ▸ member)
    rw [strncpyBytes, List.take_of_length_le short,
      List.takeWhile_append_of_pos whole]
    cases 20 - simId.length <;> simp

/-- What a receiver reads in the frame of `func_dev_info_resp`. -/
def DevBaseInfo.decoded (info : DevBaseInfo) (simId : List UInt8) :
    DevInfoData :=
  { devAddr := bcdToDb (dbToBcd info.devAddr)
    swVerCPU := info.cpuSw.toNat
    hwVerCPU := info.cpuHw.toNat
    simId := (strncpyBytes 20 simId).takeWhile (· ≠ 0)
    swVerCTU := info.ctrlSw.toNat
    hwVerCTU := info.ctrlHw.toNat
    swVerNTU := info.netSw.toNat
    hwVerNTU := info.netHw.toNat
    swVerAUS := info.adSw.toNat
    hwVerAUS := info.adHw.toNat }

theorem funcDevInfoResp_decoded (info : DevBaseInfo) (simId : List UInt8) :
    ∃ frame, funcDevInfoResp info simId = some frame ∧
      decodeDevInfo frame = some (info.decoded simId) := by
  have length := devInfoDataSeg_length info simId
  have array : (strncpyBytes 20 simId).length = 20 := by
    rw [strncpyBytes, List.length_append, List.length_take,
      List.length_replicate]
    omega
  obtain ⟨frame, sealed, _⟩ := sealFrame_wellFormed tcpMsgSignDevInfoResp
    (devInfoDataSeg info simId) (by omega)
  obtain ⟨header, trailer, five, _, rfl⟩ := sealFrame_segment sealed
  refine ⟨_, sealed, ?_⟩
  have id (rest : List UInt8) :
      (strncpyBytes 20 simId ++ rest).take 20 = strncpyBytes 20 simId :=
    List.take_left' array
  have behind (rest : List UInt8) :
      (strncpyBytes 20 simId ++ rest).drop 20 = rest :=
    List.drop_left' array
  unfold decodeDevInfo devInfoDataSeg
  rw [drop_length_add five, List.drop_zero]
  simp only [List.append_assoc, takeLittle16_littleEndian, take8,
    Option.bind_eq_bind, Option.bind_some, List.cons_append,
    List.nil_append, List.replicate_succ, List.replicate_zero,
    List.drop_succ_cons, List.drop_zero, id, behind]
  rfl

/-! ## Reading the line -/

theorem convertField_stored {size : Nat} {text : CString} (rest : CString)
    (nonempty : text ≠ []) (free : ',' ∉ text) (fits : text.length < size) :
    convertField size (text ++ ',' :: rest) =
      .stored { text, fits } (',' :: rest) := by
  rw [convertField, takeWhile_stop rest free, dropWhile_stop rest free,
    if_neg nonempty, strcpy, dif_pos fits]

theorem convertField_overflow {size : Nat} {text : CString} (rest : CString)
    (nonempty : text ≠ []) (free : ',' ∉ text) (long : ¬text.length < size) :
    convertField size (text ++ ',' :: rest) = .overflow := by
  rw [convertField, takeWhile_stop rest free, if_neg nonempty, strcpy,
    dif_neg long]

theorem convertField_failed (size : Nat) (rest : CString) :
    convertField size (',' :: rest) = .failed := rfl

/-- `dev_addr` as the scan stores the address of a row. -/
def DeviceRow.storedAddr (row : DeviceRow) : UInt16 :=
  .ofInt (saturate row.devAddr)

theorem convertNumber_scriptDevAddr (address : Nat) (rest : CString) :
    convertNumber UInt16.ofInt
        (scanInteger (scriptDevAddr address ++ ',' :: rest)) =
      .stored (.ofInt (saturate address)) (',' :: rest) := by
  rw [scanInteger_digits rest (scriptDevAddr_ne_nil address)
      fun _ => scriptDevAddr_isDigit, scriptDevAddr,
    ofDigitChars_paddedDecimal]
  rfl

theorem convertNumber_port (number : Nat) (rest : CString) :
    convertNumber Int32.ofInt
        (scanInteger (decimal number ++ ',' :: rest)) =
      .stored (.ofInt (saturate number)) (',' :: rest) := by
  have nonempty : decimal number ≠ [] := Nat.toDigits_ne_nil
  rw [scanInteger_digits rest nonempty fun _ => decimal_isDigit,
    ofDigitChars_decimal]
  rfl

theorem convertNumber_version {number : Nat} (rest : CString)
    (byte : number < 256) :
    convertNumber UInt8.ofNat
        (scanUnsigned (decimal number ++ ',' :: rest)) =
      .stored (.ofNat number) (',' :: rest) := by
  rw [scanUnsigned_decimal (by omega) (comma_ends_digits rest)]
  rfl

/-- The scan of a row that stops in front of its versions. -/
theorem scan_unscanned {row : DeviceRow} (upTime : LineField)
    (stops : ¬row.Scanned) :
    (row.ipAddr.text.length < 16 ∧ ∃ base : DevBaseRecord,
      scanFields devBaseConvert devBaseArguments (deviceLine row upTime)
          clearedDevBase = some base ∧
        base.info = { clearedDevBase.info with devAddr := row.storedAddr }) ∨
    ¬row.ipAddr.text.length < 16 ∧
      scanFields devBaseConvert devBaseArguments (deviceLine row upTime)
          clearedDevBase = none := by
  unfold deviceLine devBaseArguments
  rw [@scanFields_stored _ _ _ devBaseConvert .devAddr _ _ _ _ _
    (convertNumber_scriptDevAddr _ _)]
  by_cases empty : row.ipAddr.text = []
  · left
    rw [empty]
    refine ⟨by decide, _, @scanFields_failed _ _ _ devBaseConvert .cloudIp _
      _ _ (convertField_failed _ _), rfl⟩
  · by_cases fits : row.ipAddr.text.length < 16
    · have noPort : row.port = none := by
        by_contra port
        exact stops ⟨empty, port⟩
      rw [@scanFields_stored _ _ _ devBaseConvert .cloudIp _ _ _ _ _
        (convertField_stored _ empty row.ipAddr.noComma fits), noPort]
      exact .inl ⟨fits, _,
        @scanFields_failed _ _ _ devBaseConvert .cloudPort _ _ _ rfl, rfl⟩
    · right
      exact ⟨fits, @scanFields_overflow _ _ _ devBaseConvert .cloudIp _ _ _
        (convertField_overflow _ empty row.ipAddr.noComma fits)⟩

/-- The scan of a row that reads eight versions. -/
theorem scan_scanned {row : DeviceRow} (upTime : LineField)
    (scanned : row.Scanned) {cpuSw cpuHw adSw adHw ctrlSw ctrlHw netSw netHw :
      Nat}
    (versions : row.versions =
      [some cpuSw, some cpuHw, some adSw, some adHw, some ctrlSw,
       some ctrlHw, some netSw, some netHw])
    (bytes : ∀ version ∈ row.versions, ∃ number < 256,
      version = some number) :
    ((row.ipAddr.text.length < 16 ∧ upTime.text.length < 30) ∧
      ∃ base : DevBaseRecord,
        scanFields devBaseConvert devBaseArguments (deviceLine row upTime)
            clearedDevBase = some base ∧
          base.info =
            { devAddr := row.storedAddr
              cpuSw := .ofNat cpuSw
              cpuHw := .ofNat cpuHw
              adSw := .ofNat adSw
              adHw := .ofNat adHw
              ctrlSw := .ofNat ctrlSw
              ctrlHw := .ofNat ctrlHw
              netSw := .ofNat netSw
              netHw := .ofNat netHw }) ∨
    ¬(row.ipAddr.text.length < 16 ∧ upTime.text.length < 30) ∧
      scanFields devBaseConvert devBaseArguments (deviceLine row upTime)
          clearedDevBase = none := by
  obtain ⟨nonempty, port⟩ := scanned
  obtain ⟨port, numbered⟩ := Option.ne_none_iff_exists'.mp port
  simp only [versions, List.forall_mem_cons, Option.some.injEq,
    exists_eq_right', List.not_mem_nil, false_implies, implies_true,
    and_true] at bytes
  obtain ⟨first, second, third, fourth, fifth, sixth, seventh, eighth⟩ := bytes
  simp only [DeviceRow.versions, List.cons.injEq, and_true] at versions
  obtain ⟨one, two, three, four, five, six, seven, eight⟩ := versions
  unfold deviceLine devBaseArguments
  rw [@scanFields_stored _ _ _ devBaseConvert .devAddr _ _ _ _ _
    (convertNumber_scriptDevAddr _ _)]
  by_cases fits : row.ipAddr.text.length < 16
  · rw [@scanFields_stored _ _ _ devBaseConvert .cloudIp _ _ _ _ _
      (convertField_stored _ nonempty row.ipAddr.noComma fits), numbered,
      one, two, three, four, five, six, seven, eight]
    simp only [columnText]
    rw [@scanFields_stored _ _ _ devBaseConvert .cloudPort _ _ _ _ _
        (convertNumber_port _ _),
      @scanFields_stored _ _ _ devBaseConvert .cpuSw _ _ _ _ _
        (convertNumber_version _ first),
      @scanFields_stored _ _ _ devBaseConvert .cpuHw _ _ _ _ _
        (convertNumber_version _ second),
      @scanFields_stored _ _ _ devBaseConvert .adSw _ _ _ _ _
        (convertNumber_version _ third),
      @scanFields_stored _ _ _ devBaseConvert .adHw _ _ _ _ _
        (convertNumber_version _ fourth),
      @scanFields_stored _ _ _ devBaseConvert .ctrlSw _ _ _ _ _
        (convertNumber_version _ fifth),
      @scanFields_stored _ _ _ devBaseConvert .ctrlHw _ _ _ _ _
        (convertNumber_version _ sixth),
      @scanFields_stored _ _ _ devBaseConvert .netSw _ _ _ _ _
        (convertNumber_version _ seventh),
      @scanFields_stored _ _ _ devBaseConvert .netHw _ _ _ _ _
        (convertNumber_version _ eighth)]
    by_cases empty : upTime.text = []
    · rw [empty]
      exact .inl ⟨⟨fits, by decide⟩, _,
        @scanFields_failed _ _ _ devBaseConvert .upTime _ _ _
          (convertField_failed _ _), rfl⟩
    · by_cases short : upTime.text.length < 30
      · rw [@scanFields_stored _ _ _ devBaseConvert .upTime _ _ _ _ _
          (convertField_stored _ empty upTime.noComma short)]
        exact .inl ⟨⟨fits, short⟩, _, rfl, rfl⟩
      · exact .inr ⟨fun both => short both.2,
          @scanFields_overflow _ _ _ devBaseConvert .upTime _ _ _
            (convertField_overflow _ empty upTime.noComma short)⟩
  · exact .inr ⟨fun both => fits both.1,
      @scanFields_overflow _ _ _ devBaseConvert .cloudIp _ _ _
        (convertField_overflow _ nonempty row.ipAddr.noComma fits)⟩

/-! ## From the row to the receiver -/

theorem columnText_oneLine (column : Option Nat) :
    '\n' ∉ columnText column := by
  cases column with
  | none => exact List.not_mem_nil
  | some value =>
      intro member
      exact absurd (decimal_isDigit member) (by decide)

theorem deviceLine_oneLine (row : DeviceRow) (upTime : LineField) :
    '\n' ∉ deviceLine row upTime := by
  have address : '\n' ∉ scriptDevAddr row.devAddr :=
    not_mem_scriptDevAddr (by decide)
  simp [deviceLine, address, row.ipAddr.oneLine, columnText_oneLine,
    upTime.oneLine]

/-- What the start makes of a row. -/
theorem initUpdaterEnvironment_eq {environment : InitEnvironment}
    {row : DeviceRow} {upTime : LineField}
    (prints : PrintsRow environment row upTime) (before : DevBaseRecord) :
    initUpdaterEnvironment environment before =
      if (getDevBaseInfo row upTime).length < 128 then
        (scanFields devBaseConvert devBaseArguments (deviceLine row upTime)
          clearedDevBase).map fun base => (base, 0)
      else none := by
  obtain ⟨resp, executed, found⟩ := prints.found
  have line : (getDevBaseInfo row upTime).takeWhile (· ≠ '\n') =
      deviceLine row upTime :=
    takeWhile_stop [] (deviceLine_oneLine row upTime)
  unfold initUpdaterEnvironment
  rw [executed]
  simp only [Option.bind_eq_bind, Option.bind_some, ne_eq, not_true_eq_false,
    if_false, found, if_true]
  rw [sshClientExecute_started prints.started, prints.output,
    CArray.cleared, List.nil_append, strcpy]
  by_cases fits : (getDevBaseInfo row upTime).length < 127 + 1
  · rw [dif_pos fits, if_pos fits]
    simp only [Option.map_some, Option.bind_some, not_true_eq_false,
      if_false, cutLine, line]
    cases scanFields devBaseConvert devBaseArguments (deviceLine row upTime)
      clearedDevBase <;> rfl
  · rw [dif_neg fits, if_neg fits]
    rfl

/-- A row is told exactly by a frame whose address, id and versions come
back. -/
theorem decoded_tells_iff {base : DevBaseRecord} {row : DeviceRow}
    (address : base.info.devAddr = row.storedAddr) (simId : List UInt8) :
    (base.info.decoded simId).Tells row simId ↔
      row.devAddr < 16000 ∧ (simId.length ≤ 20 ∧ 0 ∉ simId) ∧
        row.versions = (base.info.decoded simId).versions.map some := by
  unfold DevInfoData.Tells
  have returned : (base.info.decoded simId).devAddr = row.devAddr ↔
      row.devAddr < 16000 := by
    simp only [DevBaseInfo.decoded, address]
    constructor
    · intro same
      rw [bcdToDb_dbToBcd_eq] at same
      omega
    · intro small
      have stored : row.storedAddr.toNat = row.devAddr := by
        rw [DeviceRow.storedAddr, saturate_small (by omega)]
        simp only [UInt16.ofInt]
        rw [UInt16.toNat_ofNat']
        omega
      rw [← stored]
      exact (bcdToDb_dbToBcd_iff _).mpr (by omega)
  rw [returned, ← strncpyBytes_read_iff]
  rfl

/-- Versions that come back are bytes. -/
theorem versions_bytes {info : DevBaseInfo} {simId : List UInt8}
    {row : DeviceRow}
    (same : row.versions = (info.decoded simId).versions.map some) :
    ∀ version ∈ row.versions, ∃ number < 256, version = some number := by
  intro version member
  rw [same] at member
  obtain ⟨number, found, rfl⟩ := List.mem_map.mp member
  refine ⟨number, ?_, rfl⟩
  simp only [DevBaseInfo.decoded, DevInfoData.versions, List.mem_cons,
    List.not_mem_nil, or_false] at found
  rcases found with rfl | rfl | rfl | rfl | rfl | rfl | rfl | rfl <;>
    exact UInt8.toNat_lt _

/-- The eight versions of a row that are known. -/
theorem versions_known {row : DeviceRow}
    (bytes : ∀ version ∈ row.versions, ∃ number < 256,
      version = some number) :
    ∃ cpuSw cpuHw adSw adHw ctrlSw ctrlHw netSw netHw : Nat, row.versions =
      [some cpuSw, some cpuHw, some adSw, some adHw, some ctrlSw,
       some ctrlHw, some netSw, some netHw] := by
  simp only [DeviceRow.versions, List.forall_mem_cons] at bytes
  obtain ⟨⟨cpuSw, _, one⟩, ⟨cpuHw, _, two⟩, ⟨adSw, _, three⟩,
    ⟨adHw, _, four⟩, ⟨ctrlSw, _, five⟩, ⟨ctrlHw, _, six⟩, ⟨netSw, _, seven⟩,
    ⟨netHw, _, eight⟩, _⟩ := bytes
  refine ⟨cpuSw, cpuHw, adSw, adHw, ctrlSw, ctrlHw, netSw, netHw, ?_⟩
  rw [DeviceRow.versions, one, two, three, four, five, six, seven, eight]

/-- Rows that the line has room for are told exactly if they can be
reported. -/
theorem scan_tells_iff {row : DeviceRow} {upTime : LineField}
    (line : (getDevBaseInfo row upTime).length < 128) (simId : List UInt8) :
    (∃ base : DevBaseRecord,
      scanFields devBaseConvert devBaseArguments (deviceLine row upTime)
          clearedDevBase = some base ∧
        (base.info.decoded simId).Tells row simId) ↔
      row.Reportable upTime ∧ simId.length ≤ 20 ∧ 0 ∉ simId := by
  by_cases scanned : row.Scanned
  · constructor
    · rintro ⟨base, scan, tells⟩
      have bytes := versions_bytes tells.2.2
      obtain ⟨_, _, _, _, _, _, _, _, known⟩ := versions_known bytes
      rcases scan_scanned upTime scanned known bytes with
        ⟨⟨ipAddr, time⟩, other, result, info⟩ | ⟨_, nothing⟩
      · rw [scan, Option.some.injEq] at result
        subst result
        obtain ⟨small, id, _⟩ :=
          (decoded_tells_iff (by rw [info]) simId).mp tells
        exact ⟨⟨line, ipAddr, small, bytes, fun _ => time,
          fun stops => absurd scanned stops⟩, id⟩
      · rw [scan] at nothing
        cases nothing
    · rintro ⟨reportable, id⟩
      have bytes := reportable.versions
      obtain ⟨_, _, _, _, _, _, _, _, known⟩ := versions_known bytes
      rcases scan_scanned upTime scanned known bytes with
        ⟨_, base, result, info⟩ | ⟨long, _⟩
      · refine ⟨base, result, (decoded_tells_iff (by rw [info]) simId).mpr
          ⟨reportable.devAddr, id, ?_⟩⟩
        rw [known] at bytes ⊢
        simp only [List.forall_mem_cons, Option.some.injEq,
          exists_eq_right'] at bytes
        obtain ⟨one, two, three, four, five, six, seven, eight, _⟩ := bytes
        simp [info, DevBaseInfo.decoded, DevInfoData.versions, one, two,
          three, four, five, six, seven, eight, Nat.mod_eq_of_lt]
      · exact absurd ⟨reportable.ipAddr, reportable.upTime scanned⟩ long
  · rcases scan_unscanned upTime scanned with
      ⟨ipAddr, base, result, info⟩ | ⟨long, nothing⟩
    · have zeros : (base.info.decoded simId).versions.map some =
          List.replicate 8 (some 0) := by
        rw [info]
        rfl
      have cleared : row.versions =
          (base.info.decoded simId).versions.map some ↔
            ∀ version ∈ row.versions, version = some 0 := by
        rw [zeros, List.eq_replicate_iff]
        exact ⟨fun same => same.2, fun all => ⟨rfl, all⟩⟩
      have tells := decoded_tells_iff (by rw [info]) simId
      constructor
      · rintro ⟨other, scan, told⟩
        rw [scan, Option.some.injEq] at result
        subst result
        obtain ⟨small, id, versions⟩ := tells.mp told
        exact ⟨⟨line, ipAddr, small, versions_bytes versions,
          fun reads => absurd reads scanned,
          fun _ => cleared.mp versions⟩, id⟩
      · rintro ⟨reportable, id⟩
        exact ⟨base, result, tells.mpr ⟨reportable.devAddr, id,
          cleared.mpr (reportable.cleared scanned)⟩⟩
    · refine iff_of_false ?_ fun both => long both.1.ipAddr
      rintro ⟨base, scan, _⟩
      rw [scan] at nothing
      cases nothing

/-- The scan decides what the cloud is told. -/
theorem deviceReported_eq {environment : InitEnvironment} {row : DeviceRow}
    {upTime : LineField} (prints : PrintsRow environment row upTime)
    (before : DevBaseRecord) (simId : List UInt8) :
    DeviceReported environment before row simId ↔
      (getDevBaseInfo row upTime).length < 128 ∧ ∃ base : DevBaseRecord,
        scanFields devBaseConvert devBaseArguments (deviceLine row upTime)
            clearedDevBase = some base ∧
          (base.info.decoded simId).Tells row simId := by
  unfold DeviceReported
  rw [initUpdaterEnvironment_eq prints]
  by_cases line : (getDevBaseInfo row upTime).length < 128
  · rw [if_pos line]
    constructor
    · rintro ⟨base, frame, data, started, sent, read, tells⟩
      obtain ⟨scanned, result, same⟩ := Option.map_eq_some_iff.mp started
      cases same
      obtain ⟨other, built, decoded⟩ :=
        funcDevInfoResp_decoded base.info simId
      rw [sent, Option.some.injEq] at built
      rw [built, decoded, Option.some.injEq] at read
      exact ⟨line, base, result, read ▸ tells⟩
    · rintro ⟨_, base, result, tells⟩
      obtain ⟨frame, built, decoded⟩ :=
        funcDevInfoResp_decoded base.info simId
      exact ⟨base, frame, _, by rw [result]; rfl, built, decoded, tells⟩
  · rw [if_neg line]
    refine iff_of_false ?_ fun both => line both.1
    rintro ⟨_, _, _, started, _⟩
    cases started

theorem DeviceRow.Reportable.reported {environment : InitEnvironment}
    {row : DeviceRow} {upTime : LineField} {simId : List UInt8}
    (reportable : row.Reportable upTime)
    (prints : PrintsRow environment row upTime) (before : DevBaseRecord)
    (idBound : simId.length ≤ 20) (idString : 0 ∉ simId) :
    DeviceReported environment before row simId :=
  (deviceReported_eq prints before simId).mpr ⟨reportable.line,
    (scan_tells_iff reportable.line simId).mpr
      ⟨reportable, idBound, idString⟩⟩

/-- The address is the one that the reports of the updates carry. -/
theorem initUpdaterEnvironment_devAddr {environment : InitEnvironment}
    {row : DeviceRow} {upTime : LineField}
    (prints : PrintsRow environment row upTime) {before base : DevBaseRecord}
    (started : initUpdaterEnvironment environment before = some (base, 0)) :
    initDevAddr (some environment.devInfo.output) = base .devAddr := by
  rw [initUpdaterEnvironment_eq prints] at started
  split at started
  · rename_i line
    obtain ⟨other, scanned, same⟩ := Option.map_eq_some_iff.mp started
    cases same
    have shown : (getDevBaseInfo row upTime).takeWhile (· ≠ '\n') =
        deviceLine row upTime :=
      takeWhile_stop [] (deviceLine_oneLine row upTime)
    have executed : sshExecute 128 environment.devInfo.output =
        some (deviceLine row upTime) := by
      rw [prints.output, sshExecute, strcpy, dif_pos line, ← shown]
      rfl
    have number (rest : CString) : storeShort (scan devInfoFormat
        (scriptDevAddr row.devAddr ++ ',' :: rest)) 0 0 = row.storedAddr := by
      rw [devInfoFormat, scan, scanInteger_digits rest
          (scriptDevAddr_ne_nil row.devAddr) fun _ => scriptDevAddr_isDigit,
        scriptDevAddr, ofDigitChars_paddedDecimal]
      rfl
    unfold initDevAddr
    simp only [executed]
    unfold deviceLine devBaseArguments at *
    rw [@scanFields_stored _ _ _ devBaseConvert .devAddr _ _ _ _ _
      (convertNumber_scriptDevAddr _ _)] at scanned
    rw [number, scanFields_eq devBaseConvert scanned, storeAll_other]
    · rfl
    · intro member
      exact absurd ((scannedFields_leading devBaseConvert _ _).mem member)
        (by decide)
  · cases started

/-! ## A device -/

def exampleRow : DeviceRow :=
  { devAddr := 2002
    ipAddr :=
      { text := "10.1.2.3".toList
        noComma := by decide
        oneLine := by decide }
    port := some 8000
    cpuSoftVer := some 16
    cpuHardVer := some 17
    adSoftVer := some 32
    adHardVer := some 33
    controlSoftVer := some 48
    controlHardVer := some 49
    netSoftVer := some 64
    netHardVer := some 255 }

def exampleUpTime : LineField :=
  { text := "2024-05-06 07:08:09".toList
    noComma := by decide
    oneLine := by decide }

/-- A command that has run and whose output comes in one read. -/
def ranChannel (bytes : CString) (received : bytes ≠ [])
    (bounded : bytes.length ≤ 1024) (nulFree : '\x00' ∉ bytes) : SshChannel :=
  { created := true
    sessionOpened := true
    execRequested := true
    reads := [{ bytes, received, bounded, nulFree }] }

def exampleEnvironment : InitEnvironment :=
  { find := ranChannel "/home/cktt/script/updater.sh\n".toList (by decide)
      (by decide) (by decide)
    devInfo := ranChannel (getDevBaseInfo exampleRow exampleUpTime)
      (by decide) (by decide +kernel) (by decide +kernel)
    uploadFile := 0
    chmod := ranChannel "\n".toList (by decide) (by decide) (by decide) }

theorem exampleEnvironment_prints :
    PrintsRow exampleEnvironment exampleRow exampleUpTime where
  found := ⟨_, rfl, by decide⟩
  started := ⟨rfl, rfl, rfl⟩
  output := rfl

theorem exampleRow_reportable : exampleRow.Reportable exampleUpTime where
  line := by decide +kernel
  ipAddr := by decide
  devAddr := by decide
  versions := by
    simp only [exampleRow, DeviceRow.versions, List.forall_mem_cons,
      Option.some.injEq, exists_eq_right']
    decide
  upTime _ := by decide
  cleared stops :=
    absurd ⟨by decide, by decide⟩ stops

end RtA100
