import RtA100.JsonPrint
import RtA100.Library.Search
import RtA100.OtaReports

/-!
# Outgoing JSON and its buffers

Each of the three builders prints its tree with `cJSON_Print` and copies the
text into a buffer of the caller, without looking at its length.  The buffers
are cleared arrays of 1024, 10240 and 512000 bytes.

The length of a document is a constant and the lengths of its strings; for a
heartbeat the strings of all units count.
-/

namespace RtA100

open Library

/-! ## The documents -/

/-- An entry of `units` of a heartbeat. -/
structure UnitInfo where
  unitName : CArray 32
  hwVer : CArray 32
  swVer : CArray 32

structure OtaHeartBeat where
  devAddr : CArray 32
  cpuInfo : CArray 32
  usedMem : CArray 32
  totalMem : CArray 32
  usedDisk : CArray 32
  totalDisk : CArray 32
  upTime : CArray 32
  curTime : CArray 32
  units : List UnitInfo
  counted : units.length < 65536

def OtaHeartBeat.unitNum (heartBeat : OtaHeartBeat) : UInt16 :=
  .ofNat heartBeat.units.length

/-- What `create_ota_report_data` reads of a `FwUpdateInfo`, with the
`dev_addr` of `base_info`. -/
structure ReportContent where
  devAddr : UInt16
  info : FwUpdateInfo
  time : CArray 64
  report : CArray 10240

structure FileUploadfInfo where
  devAddr : CArray 10
  uploadPath : CArray 100
  base64Str : CArray 512000

def hardwareName : CString := "hardware".toList

def softwareName : CString := "software".toList

def versionName : CString := "version".toList

/-- `create_unit_info_object` -/
def createUnitInfoObject (type : UInt8) (unitInfo : UnitInfo) : CJson :=
  let (name, version) :=
    if type = 1 then (softwareName, unitInfo.swVer)
    else (hardwareName, unitInfo.hwVer)
  .object
    [(name, .string unitInfo.unitName.text),
      (versionName,
        .string (CArray.truncate 63 ('V' :: version.text)).text)]

/-- `create_unit_info_array` -/
def createUnitInfoArray (num : UInt8) (info : List UnitInfo)
    (type : UInt8) : CJson :=
  .array ((info.take num.toNat).map (createUnitInfoObject type))

/-- The tree that `create_ota_heartbeat_data` prints. -/
def createOtaHeartbeatData (heartBeat : OtaHeartBeat) : CJson :=
  let num := heartBeat.unitNum.toUInt8
  .object
    [(langName, .string "zh_CN".toList),
      (deviceAddressName, .string heartBeat.devAddr.text),
      ("usageCpu".toList, .string heartBeat.cpuInfo.text),
      ("usageMemory".toList, .string heartBeat.usedMem.text),
      ("totalMemory".toList, .string heartBeat.totalMem.text),
      ("usageDisk".toList, .string heartBeat.usedDisk.text),
      ("totalDisk".toList, .string heartBeat.totalDisk.text),
      ("upTime".toList, .string heartBeat.upTime.text),
      ("systemTime".toList, .string heartBeat.curTime.text),
      ("extendInfo".toList, .string []),
      ("hardwareList".toList, createUnitInfoArray num heartBeat.units 0),
      ("softwareList".toList, createUnitInfoArray num heartBeat.units 1)]

/-- The tree that `create_file_upload_data` prints. -/
def createFileUploadData (info : FileUploadfInfo) : CJson :=
  .object
    [(langName, .string "zh_CN".toList),
      (deviceAddressName, .string info.devAddr.text),
      ("filePath".toList, .string info.uploadPath.text),
      ("base64Str".toList, .string info.base64Str.text)]

inductive OutgoingDocument where
  | heartbeat (heartBeat : OtaHeartBeat)
  | report (content : ReportContent)
  | fileUpload (info : FileUploadfInfo)

def OutgoingDocument.root : OutgoingDocument → CJson
  | .heartbeat heartBeat => createOtaHeartbeatData heartBeat
  | .report content =>
      createOtaReportData content.devAddr content.info
        { time := content.time.text, report := content.report.text }
  | .fileUpload info => createFileUploadData info

/-- The buffer in `ota_heartbeat_task_cb`, `do_ota_report` or
`do_file_upload`. -/
def OutgoingDocument.bufferSize : OutgoingDocument → Nat
  | .heartbeat _ => 1024
  | .report _ => 1024 * 10
  | .fileUpload _ => 1024 * 500

/-- Copy the printed tree into a cleared buffer; without room for the
terminator the buffer holds no string. -/
def OutgoingDocument.data (document : OutgoingDocument) :
    Option (CArray document.bufferSize) :=
  strcpy document.bufferSize (cJsonPrint document.root)

/-- The document fits its buffer with its terminator. -/
def OutgoingDocument.Fits (document : OutgoingDocument) : Prop :=
  ∃ data, document.data = some data

/-! ## When a document fits -/

/-- The units that a heartbeat reports: their number is counted in eight
bits. -/
def OtaHeartBeat.reported (heartBeat : OtaHeartBeat) : List UnitInfo :=
  heartBeat.units.take (heartBeat.units.length % 256)

/-- The characters that a unit takes in the two lists of a heartbeat. -/
def UnitInfo.width (unitInfo : UnitInfo) : Nat :=
  2 * escapedLength unitInfo.unitName.text +
    escapedLength unitInfo.hwVer.text + escapedLength unitInfo.swVer.text

def OtaHeartBeat.width (heartBeat : OtaHeartBeat) : Nat :=
  escapedLength heartBeat.devAddr.text +
    escapedLength heartBeat.cpuInfo.text +
    escapedLength heartBeat.usedMem.text +
    escapedLength heartBeat.totalMem.text +
    escapedLength heartBeat.usedDisk.text +
    escapedLength heartBeat.totalDisk.text +
    escapedLength heartBeat.upTime.text +
    escapedLength heartBeat.curTime.text

/-- The strings of the document are short enough for its buffer. -/
def OutgoingDocument.Short : OutgoingDocument → Prop
  | .heartbeat heartBeat =>
      heartBeat.width +
        (if heartBeat.reported = [] then 4
          else 88 * heartBeat.reported.length +
            (heartBeat.reported.map UnitInfo.width).sum) ≤ 797
  | .report content =>
      escapedLength (decimal content.devAddr.toNat) +
        (decimal content.info.id.toNat).length +
        escapedLength content.time.text +
        escapedLength content.report.text ≤ 10138
  | .fileUpload info =>
      escapedLength info.devAddr.text + escapedLength info.uploadPath.text +
        escapedLength info.base64Str.text ≤ 511922

instance (document : OutgoingDocument) : Decidable document.Short :=
  match document with
  | .heartbeat _ => Nat.decLe _ _
  | .report _ => Nat.decLe _ _
  | .fileUpload _ => Nat.decLe _ _

/-! ## The lengths of the documents -/

theorem OtaHeartBeat.take_reported (heartBeat : OtaHeartBeat) :
    heartBeat.units.take heartBeat.unitNum.toUInt8.toNat =
      heartBeat.reported := by
  have small := heartBeat.counted
  have number : heartBeat.unitNum.toUInt8.toNat =
      heartBeat.units.length % 256 := by
    rw [UInt16.toNat_toUInt8, OtaHeartBeat.unitNum, UInt16.toNat_ofNat']
    omega
  rw [number, OtaHeartBeat.reported]

theorem version_text (version : CArray 32) :
    (CArray.truncate 63 ('V' :: version.text)).text = 'V' :: version.text := by
  have short := version.fits
  exact CArray.truncate_text (by rw [List.length_cons]; omega)

theorem escapedLength_version (text : CString) :
    escapedLength ('V' :: text) = escapedLength text + 1 := by
  rw [escapedLength, List.flatMap_cons, List.length_append, escapedLength]
  exact Nat.add_comm _ _

/-- The version that an object shows. -/
def UnitInfo.version (unitInfo : UnitInfo) (type : UInt8) : CArray 32 :=
  if type = 1 then unitInfo.swVer else unitInfo.hwVer

theorem createUnitInfoObject_length (depth : Nat) (type : UInt8)
    (unitInfo : UnitInfo) :
    ((createUnitInfoObject type unitInfo).print depth).length =
      3 * depth + escapedLength unitInfo.unitName.text +
        escapedLength (unitInfo.version type).text + 36 := by
  have hardware : escapedLength hardwareName = 8 := by decide
  have software : escapedLength softwareName = 8 := by decide
  have version : escapedLength versionName = 7 := by decide
  by_cases isSoftware : type = 1
  · simp only [createUnitInfoObject, UnitInfo.version, if_pos isSoftware,
      CJson.print_object_length, printMembers_cons_length,
      printMembers_last_length, CJson.print_string_length, version_text,
      escapedLength_version, software, version]
    omega
  · simp only [createUnitInfoObject, UnitInfo.version, if_neg isSoftware,
      CJson.print_object_length, printMembers_cons_length,
      printMembers_last_length, CJson.print_string_length, version_text,
      escapedLength_version, hardware, version]
    omega

/-- A list of units is as long as its units, with a constant for each. -/
theorem createUnitInfoArray_length (units : List UnitInfo) (type : UInt8) :
    ((CJson.array (units.map (createUnitInfoObject type))).print 1).length =
      if units = [] then 2
      else 44 * units.length +
        (units.map fun unitInfo => escapedLength unitInfo.unitName.text +
          escapedLength (unitInfo.version type).text).sum := by
  have objects (list : List UnitInfo) :
      ((list.map (createUnitInfoObject type)).map
        fun item => (item.print 2).length).sum =
        42 * list.length +
          (list.map fun unitInfo => escapedLength unitInfo.unitName.text +
            escapedLength (unitInfo.version type).text).sum := by
    induction list with
    | nil => rfl
    | cons unitInfo list induction =>
        simp only [List.map_cons, List.sum_cons, List.length_cons, induction,
          createUnitInfoObject_length]
        omega
  rw [CJson.print_array_length]
  cases units with
  | nil => rfl
  | cons unitInfo rest =>
      have total := objects (unitInfo :: rest)
      rw [List.map_cons] at total
      rw [if_neg (List.cons_ne_nil _ _), List.map_cons, printElements_length,
        total, List.length_map, List.length_cons]
      omega

theorem sum_width (units : List UnitInfo) :
    (units.map fun unitInfo => escapedLength unitInfo.unitName.text +
        escapedLength (unitInfo.version 0).text).sum +
      (units.map fun unitInfo => escapedLength unitInfo.unitName.text +
        escapedLength (unitInfo.version 1).text).sum =
      (units.map UnitInfo.width).sum := by
  induction units with
  | nil => rfl
  | cons unitInfo units induction =>
      simp only [List.map_cons, List.sum_cons, ← induction, UnitInfo.width,
        UnitInfo.version, if_pos, show ¬(0 : UInt8) = 1 by decide, if_false]
      omega

theorem createOtaHeartbeatData_length (heartBeat : OtaHeartBeat) :
    (cJsonPrint (createOtaHeartbeatData heartBeat)).length =
      226 + heartBeat.width +
        (if heartBeat.reported = [] then 4
          else 88 * heartBeat.reported.length +
            (heartBeat.reported.map UnitInfo.width).sum) := by
  have names : escapedLength langName = 4 ∧
      escapedLength deviceAddressName = 13 ∧
      escapedLength "usageCpu".toList = 8 ∧
      escapedLength "usageMemory".toList = 11 ∧
      escapedLength "totalMemory".toList = 11 ∧
      escapedLength "usageDisk".toList = 9 ∧
      escapedLength "totalDisk".toList = 9 ∧
      escapedLength "upTime".toList = 6 ∧
      escapedLength "systemTime".toList = 10 ∧
      escapedLength "extendInfo".toList = 10 ∧
      escapedLength "hardwareList".toList = 12 ∧
      escapedLength "softwareList".toList = 12 ∧
      escapedLength "zh_CN".toList = 5 ∧ escapedLength [] = 0 := by decide
  have total := sum_width heartBeat.reported
  rw [cJsonPrint, createOtaHeartbeatData]
  simp only [CJson.print_object_length, printMembers_cons_length,
    printMembers_last_length, CJson.print_string_length, names,
    createUnitInfoArray, OtaHeartBeat.take_reported, Nat.zero_add,
    createUnitInfoArray_length, OtaHeartBeat.width]
  split <;> omega

theorem createOtaReportData_length (content : ReportContent) :
    (cJsonPrint (OutgoingDocument.report content).root).length =
      101 + escapedLength (decimal content.devAddr.toNat) +
        (decimal content.info.id.toNat).length +
        escapedLength content.time.text +
        escapedLength content.report.text := by
  have names : escapedLength langName = 4 ∧
      escapedLength deviceAddressName = 13 ∧ escapedLength taskIdName = 6 ∧
      escapedLength executionTimeName = 13 ∧
      escapedLength executionReportName = 15 ∧
      escapedLength "zh_CN".toList = 5 := by decide
  have number (depth : Nat) : ((CJson.number content.info.id.toNat).print
      depth).length = (decimal content.info.id.toNat).length := by
    rw [CJson.print, printNumber, if_neg (by omega), Int.natAbs_natCast]
  rw [cJsonPrint, OutgoingDocument.root, createOtaReportData]
  simp only [CJson.print_object_length, printMembers_cons_length,
    printMembers_last_length, CJson.print_string_length, names,
    getOtaReportInfo, number]
  omega

theorem createFileUploadData_length (info : FileUploadfInfo) :
    (cJsonPrint (createFileUploadData info)).length =
      77 + escapedLength info.devAddr.text +
        escapedLength info.uploadPath.text +
        escapedLength info.base64Str.text := by
  have names : escapedLength langName = 4 ∧
      escapedLength deviceAddressName = 13 ∧
      escapedLength "filePath".toList = 8 ∧
      escapedLength "base64Str".toList = 9 ∧
      escapedLength "zh_CN".toList = 5 := by decide
  rw [cJsonPrint, createFileUploadData]
  simp only [CJson.print_object_length, printMembers_cons_length,
    printMembers_last_length, CJson.print_string_length, names]
  omega

theorem OutgoingDocument.fits_iff (document : OutgoingDocument) :
    document.Fits ↔
      (cJsonPrint document.root).length < document.bufferSize :=
  strcpy_defined_iff

theorem OutgoingDocument.heartbeat_fits_iff (heartBeat : OtaHeartBeat) :
    (OutgoingDocument.heartbeat heartBeat).Fits ↔
      (OutgoingDocument.heartbeat heartBeat).Short := by
  have length := createOtaHeartbeatData_length heartBeat
  rw [OutgoingDocument.fits_iff, OutgoingDocument.root,
    OutgoingDocument.bufferSize, OutgoingDocument.Short]
  omega

theorem OutgoingDocument.report_fits_iff (content : ReportContent) :
    (OutgoingDocument.report content).Fits ↔
      (OutgoingDocument.report content).Short := by
  have length := createOtaReportData_length content
  rw [OutgoingDocument.fits_iff, OutgoingDocument.bufferSize,
    OutgoingDocument.Short]
  omega

theorem OutgoingDocument.fileUpload_fits_iff (info : FileUploadfInfo) :
    (OutgoingDocument.fileUpload info).Fits ↔
      (OutgoingDocument.fileUpload info).Short := by
  have length := createFileUploadData_length info
  rw [OutgoingDocument.fits_iff, OutgoingDocument.root,
    OutgoingDocument.bufferSize, OutgoingDocument.Short]
  omega

/-- A document fits its buffer exactly when its strings are short enough. -/
theorem outgoingDocument_fits_iff (document : OutgoingDocument) :
    document.Fits ↔ document.Short := by
  cases document with
  | heartbeat heartBeat => exact OutgoingDocument.heartbeat_fits_iff heartBeat
  | report content => exact OutgoingDocument.report_fits_iff content
  | fileUpload info => exact OutgoingDocument.fileUpload_fits_iff info

theorem OutgoingDocument.report_long {content : ReportContent}
    (long : 10138 < content.report.text.length) :
    ¬(OutgoingDocument.report content).Short := by
  intro short
  have text := length_le_escapedLength content.report.text
  rw [OutgoingDocument.Short] at short
  omega

theorem OutgoingDocument.fileUpload_long {info : FileUploadfInfo}
    (long : 511922 < info.base64Str.text.length) :
    ¬(OutgoingDocument.fileUpload info).Short := by
  intro short
  have text := length_le_escapedLength info.base64Str.text
  rw [OutgoingDocument.Short] at short
  omega

def sameText (size count : Nat) (fits : count < size) : CArray size :=
  { text := List.replicate count 'A'
    fits := by rw [List.length_replicate]; exact fits }

theorem sameText_length {size count : Nat} (fits : count < size) :
    (sameText size count fits).text.length = count :=
  List.length_replicate

/-- Eight units with names of 31 characters. -/
def eightUnits : OtaHeartBeat :=
  { devAddr := .cleared 31, cpuInfo := .cleared 31, usedMem := .cleared 31
    totalMem := .cleared 31, usedDisk := .cleared 31, totalDisk := .cleared 31
    upTime := .cleared 31, curTime := .cleared 31
    units := List.replicate 8
      { unitName := sameText 32 31 (by decide), hwVer := .cleared 31
        swVer := .cleared 31 }
    counted := by decide }

theorem fullReport_fits : 10239 < 10240 := by decide

def fullReport : ReportContent :=
  { devAddr := 356
    info := { id := 7, md5 := .cleared 63, type := .cleared 19 }
    time := .cleared 63
    report := sameText 10240 10239 fullReport_fits }

def fullUpload : FileUploadfInfo :=
  { devAddr := .cleared 9, uploadPath := .cleared 99
    base64Str := sameText 512000 511999 (by decide) }

theorem full_documents_overflow :
    ¬(OutgoingDocument.heartbeat eightUnits).Fits ∧
      ¬(OutgoingDocument.report fullReport).Fits ∧
      ¬(OutgoingDocument.fileUpload fullUpload).Fits := by
  have report : fullReport.report.text.length = 10239 :=
    sameText_length (by decide)
  have upload : fullUpload.base64Str.text.length = 511999 :=
    sameText_length (by decide)
  rw [OutgoingDocument.heartbeat_fits_iff, OutgoingDocument.report_fits_iff,
    OutgoingDocument.fileUpload_fits_iff]
  exact ⟨by decide, OutgoingDocument.report_long (by rw [report]; decide),
    OutgoingDocument.fileUpload_long (by rw [upload]; decide)⟩

end RtA100
