import RtA100.Library.ScanFields
import RtA100.NavData
import RtA100.NavSentences

/-!
# Parsing a navigation sentence

`sg_data_parse` scans the 42 fields of a sentence into `sg_data` itself.  Where
a conversion does not match, the fields in front of it are new and the others
those of an earlier sentence.
-/

namespace RtA100

open Library

/-- The types of the fields, and with them the conversions of the format. -/
inductive SgKind where
  | text
  | u8
  | u16
  | u32
  | i16
  | i32
  | double
  | float

/-- A `double` and a `float` are their bits. -/
def SgKind.Value : SgKind → Type
  | .text => CArray 7
  | .u8 => UInt8
  | .u16 => UInt16
  | .u32 => UInt32
  | .i16 => Int16
  | .i32 => Int32
  | .double => UInt64
  | .float => UInt32

/-- The conversions `%lf` and `%f` of the C library. -/
structure FloatScans where
  double : CString → Option (UInt64 × CString)
  float : CString → Option (UInt32 × CString)

/-- A conversion to a number, stored as a type. -/
def convertNumber {α β : Type} (store : α → β)
    (found : Option (α × CString)) : Converted β :=
  match found with
  | none => .failed
  | some (value, rest) => .stored (store value) rest

/-- `%[^,]` into `message_id`. -/
def convertText (input : CString) : Converted (CArray 7) :=
  if input.takeWhile (· ≠ ',') = [] then .failed
  else
    match strcpy 7 (input.takeWhile (· ≠ ',')) with
    | none => .overflow
    | some text => .stored text (input.dropWhile (· ≠ ','))

/-- `%[^,]`, `%hhu`, `%hu`, `%u`, `%hd`, `%d`, `%lf` and `%f` -/
def SgKind.convert (floats : FloatScans) :
    (kind : SgKind) → CString → Converted kind.Value
  | .text, input => convertText input
  | .u8, input => convertNumber UInt8.ofNat (scanUnsigned input)
  | .u16, input => convertNumber UInt16.ofNat (scanUnsigned input)
  | .u32, input => convertNumber UInt32.ofNat (scanUnsigned input)
  | .i16, input => convertNumber Int16.ofInt (scanInteger input)
  | .i32, input => convertNumber Int32.ofInt (scanInteger input)
  | .double, input => convertNumber id (floats.double input)
  | .float, input => convertNumber id (floats.float input)

/-- The fields of `SGData`.  The last two are those of the array `reserved`. -/
inductive SgField where
  | messageId
  | subid
  | utcYear
  | utcMonth
  | utcDay
  | utcHour
  | utcMinutes
  | utcMillisecond
  | sensorTime
  | gpsWeekNumber
  | tow
  | navModeInfo
  | latitude
  | longitude
  | altitudeEllipsoid
  | altitudeMsl
  | vn
  | ve
  | vd
  | groundSpeed
  | traveledDistance
  | roll
  | pitch
  | heading
  | reserved1
  | reserved2
  | northUncertainty
  | eastUncertainty
  | downUncertainty
  | vnUncertainty
  | veUncertainty
  | vdUncertainty
  | rollUncertainty
  | pitchUncertainty
  | yawUncertainty
  | misalignAngleRoll
  | misalignAnglePitch
  | misalignAngleYaw
  | referenceStationId
  | timeSinceLastDiff
  | reservedFirst
  | reservedSecond
deriving DecidableEq

def SgField.kind : SgField → SgKind
  | .messageId => .text
  | .subid => .u8
  | .utcYear => .u16
  | .utcMonth | .utcDay | .utcHour | .utcMinutes => .u8
  | .utcMillisecond => .u16
  | .sensorTime => .u32
  | .gpsWeekNumber => .u16
  | .tow | .navModeInfo => .u32
  | .latitude | .longitude => .double
  | .altitudeEllipsoid | .altitudeMsl => .float
  | .vn | .ve | .vd => .i32
  | .groundSpeed | .traveledDistance => .u32
  | .roll | .pitch | .heading | .reserved1 | .reserved2 => .i32
  | .northUncertainty | .eastUncertainty | .downUncertainty => .u16
  | .vnUncertainty | .veUncertainty | .vdUncertainty => .u16
  | .rollUncertainty | .pitchUncertainty | .yawUncertainty => .u16
  | .misalignAngleRoll | .misalignAnglePitch | .misalignAngleYaw => .i16
  | .referenceStationId => .u16
  | .timeSinceLastDiff | .reservedFirst | .reservedSecond => .u8

/-- A content of `sg_data`. -/
abbrev SgRecord := (field : SgField) → field.kind.Value

/-- The arguments of `sscanf` behind `message_id`. -/
def sgNumbers : List SgField :=
  [.subid, .utcYear, .utcMonth, .utcDay, .utcHour, .utcMinutes,
   .utcMillisecond, .sensorTime, .gpsWeekNumber, .tow, .navModeInfo, .latitude,
   .longitude, .altitudeEllipsoid, .altitudeMsl, .vn, .ve, .vd, .groundSpeed,
   .traveledDistance, .roll, .pitch, .heading, .reserved1, .reserved2,
   .northUncertainty, .eastUncertainty, .downUncertainty, .vnUncertainty,
   .veUncertainty, .vdUncertainty, .rollUncertainty, .pitchUncertainty,
   .yawUncertainty, .misalignAngleRoll, .misalignAnglePitch,
   .misalignAngleYaw, .referenceStationId, .timeSinceLastDiff, .reservedFirst,
   .reservedSecond]

def sgArguments : List SgField := .messageId :: sgNumbers

def sgConvert (floats : FloatScans) (field : SgField) (input : CString) :
    Converted field.kind.Value :=
  field.kind.convert floats input

/-- `sg_data_parse` -/
def sgDataParse (floats : FloatScans) (payload : CString) (sg : SgRecord) :
    Option SgRecord :=
  scanFields (sgConvert floats) sgArguments payload sg

/-- The fields that `nav_data_msg_task_cb` copies. -/
def SgRecord.navData (sg : SgRecord) : SgData :=
  { utcYear := sg .utcYear
    utcMonth := sg .utcMonth
    utcDay := sg .utcDay
    utcHour := sg .utcHour
    utcMinutes := sg .utcMinutes
    utcMillisecond := sg .utcMillisecond
    latitude := sg .latitude
    longitude := sg .longitude
    altitudeMsl := sg .altitudeMsl
    vn := sg .vn
    ve := sg .ve
    vd := sg .vd
    groundSpeed := sg .groundSpeed
    traveledDistance := sg .traveledDistance
    roll := sg .roll
    pitch := sg .pitch
    heading := sg .heading
    northUncertainty := sg .northUncertainty
    eastUncertainty := sg .eastUncertainty
    downUncertainty := sg .downUncertainty
    vnUncertainty := sg .vnUncertainty
    veUncertainty := sg .veUncertainty
    vdUncertainty := sg .vdUncertainty
    rollUncertainty := sg .rollUncertainty
    pitchUncertainty := sg .pitchUncertainty
    yawUncertainty := sg .yawUncertainty
    misalignAngleRoll := sg .misalignAngleRoll
    misalignAnglePitch := sg .misalignAnglePitch
    misalignAngleYaw := sg .misalignAngleYaw
    referenceStationId := sg .referenceStationId
    timeSinceLastDiff := sg .timeSinceLastDiff }

/-! ## Whole or not at all -/

/-- The values that the conversions of a sentence return in front of the first
one that does not match. -/
def sgScanned (floats : FloatScans) (payload : CString) :
    List (Sigma fun field : SgField => field.kind.Value) :=
  scannedFields (sgConvert floats) sgArguments payload

/-- Every field comes from the sentence. -/
def FromSentence (floats : FloatScans) (payload : CString)
    (sg : SgRecord) : Prop :=
  ∀ field : SgField, ⟨field, sg field⟩ ∈ sgScanned floats payload

/-- The structure is the earlier one or comes from the sentence, and so does
the navigation frame. -/
structure Unmixed (floats : FloatScans) (payload : CString)
    (before after : SgRecord) : Prop where
  record : after = before ∨ FromSentence floats payload after
  frame : ∀ convert : FloatConversions,
    navDataMsgTask convert after.navData =
        navDataMsgTask convert before.navData ∨
      ∃ sg : SgRecord, FromSentence floats payload sg ∧
        navDataMsgTask convert after.navData =
          navDataMsgTask convert sg.navData

def TakenWhole (floats : FloatScans) (payload : CString)
    (before : SgRecord) : Prop :=
  ∃ after, sgDataParse floats payload before = some after ∧
    Unmixed floats payload before after

/-- The first field fits in `message_id`, and all fields convert or those that
convert have the values that are there already. -/
structure WholeOrSame (floats : FloatScans) (payload : CString)
    (before : SgRecord) : Prop where
  fits : (payload.takeWhile (· ≠ ',')).length < 7
  fields :
    (∀ field : SgField, ∃ value, ⟨field, value⟩ ∈ sgScanned floats payload) ∨
      ∀ stored ∈ sgScanned floats payload, before stored.1 = stored.2

theorem convertText_fits_iff (input : CString) :
    convertText input ≠ .overflow ↔
      (input.takeWhile (· ≠ ',')).length < 7 := by
  unfold convertText strcpy
  by_cases empty : input.takeWhile (· ≠ ',') = []
  · rw [if_pos empty, empty]
    exact ⟨fun _ => by decide, fun _ => nofun⟩
  · rw [if_neg empty]
    by_cases fits : (input.takeWhile (· ≠ ',')).length < 7
    · rw [dif_pos fits]
      exact ⟨fun _ => fits, fun _ => nofun⟩
    · rw [dif_neg fits]
      exact ⟨fun defined => absurd rfl defined, fun short => absurd short fits⟩

theorem convertNumber_ne_overflow {α β : Type} (store : α → β)
    (found : Option (α × CString)) :
    convertNumber store found ≠ .overflow := by
  unfold convertNumber
  split
  · exact nofun
  · exact nofun

theorem sgNumbers_roomy (floats : FloatScans) (field : SgField)
    (member : field ∈ sgNumbers) (input : CString) :
    sgConvert floats field input ≠ .overflow := by
  cases field with
  | messageId => exact absurd member (by decide)
  | _ => exact convertNumber_ne_overflow _ _

theorem sgArguments_distinct : sgArguments.Nodup := by decide

/-- Only `message_id` can be too short. -/
theorem sgDataParse_defined_iff (floats : FloatScans) (payload : CString)
    (before : SgRecord) :
    (∃ after, sgDataParse floats payload before = some after) ↔
      (payload.takeWhile (· ≠ ',')).length < 7 :=
  (scanFields_defined_iff _ (sgNumbers_roomy floats) payload before).trans
    (convertText_fits_iff payload)

/-- A parsed structure holds every value of the sentence. -/
theorem sgDataParse_stores {floats : FloatScans} {payload : CString}
    {before after : SgRecord}
    (result : sgDataParse floats payload before = some after) :
    after = storeAll before (sgScanned floats payload) :=
  scanFields_eq _ result

theorem sgScanned_distinct (floats : FloatScans) (payload : CString) :
    ((sgScanned floats payload).map Sigma.fst).Nodup :=
  scannedFields_distinct _ payload sgArguments_distinct

/-- The structure stays exactly when the values are there already. -/
theorem sgDataParse_same_iff {floats : FloatScans} {payload : CString}
    {before after : SgRecord}
    (result : sgDataParse floats payload before = some after) :
    after = before ↔
      ∀ stored ∈ sgScanned floats payload, before stored.1 = stored.2 := by
  rw [sgDataParse_stores result]
  exact storeAll_eq_self_iff (sgScanned_distinct floats payload)

theorem sgDataParse_fromSentence {floats : FloatScans} {payload : CString}
    {before after : SgRecord}
    (result : sgDataParse floats payload before = some after)
    (whole : ∀ field : SgField,
      ∃ value, ⟨field, value⟩ ∈ sgScanned floats payload) :
    FromSentence floats payload after := by
  intro field
  obtain ⟨value, member⟩ := whole field
  have held := @storeAll_mem _ _ _ before _ (sgScanned_distinct floats payload)
    _ member
  rw [← sgDataParse_stores result] at held
  rw [held]
  exact member

/-- The frame follows the structure. -/
theorem Unmixed.of_record {floats : FloatScans} {payload : CString}
    {before after : SgRecord}
    (record : after = before ∨ FromSentence floats payload after) :
    Unmixed floats payload before after where
  record := record
  frame convert := by
    cases record with
    | inl same => exact Or.inl (by rw [same])
    | inr whole => exact Or.inr ⟨after, whole, rfl⟩

theorem wholeOrSame_of_takenWhole {floats : FloatScans} {payload : CString}
    {before : SgRecord} (taken : TakenWhole floats payload before) :
    WholeOrSame floats payload before := by
  obtain ⟨after, result, unmixed⟩ := taken
  constructor
  case fits =>
      exact (sgDataParse_defined_iff floats payload before).mp ⟨after, result⟩
  case fields =>
      cases unmixed.record with
      | inl same => exact Or.inr ((sgDataParse_same_iff result).mp same)
      | inr whole => exact Or.inl fun field => ⟨after field, whole field⟩

/-- A fix is taken whole or not at all exactly when the first field fits and
all fields convert or nothing new does. -/
theorem takenWhole_iff (floats : FloatScans) (payload : CString)
    (before : SgRecord) :
    TakenWhole floats payload before ↔ WholeOrSame floats payload before := by
  constructor
  · exact wholeOrSame_of_takenWhole
  · intro condition
    obtain ⟨after, result⟩ :=
      (sgDataParse_defined_iff floats payload before).mpr condition.fits
    refine ⟨after, result, Unmixed.of_record ?_⟩
    cases condition.fields with
    | inl whole => exact Or.inr (sgDataParse_fromSentence result whole)
    | inr agrees => exact Or.inl ((sgDataParse_same_iff result).mpr agrees)

/-! ## A sentence with an empty field -/

def emptyMonth : CString := "PBSOL,1,2025,,5".toList

def SgKind.zero : (kind : SgKind) → kind.Value
  | .text => CArray.cleared 6
  | .u8 => (0 : UInt8)
  | .u16 => (0 : UInt16)
  | .u32 => (0 : UInt32)
  | .i16 => (0 : Int16)
  | .i32 => (0 : Int32)
  | .double => (0 : UInt64)
  | .float => (0 : UInt32)

/-- The content of `sg_data` before the first sentence. -/
def clearedSgData : SgRecord := fun field => field.kind.zero

theorem emptyMonth_scanned (floats : FloatScans) :
    sgScanned floats emptyMonth =
      [⟨.messageId, { text := "PBSOL".toList, fits := by decide }⟩,
       ⟨.subid, (1 : UInt8)⟩, ⟨.utcYear, (2025 : UInt16)⟩] :=
  rfl

theorem emptyMonth_mixed :
    ¬∀ (floats : FloatScans) (payload : CString) (before : SgRecord),
      messageParserEntry { offset := 1, text := payload } = true →
        TakenWhole floats payload before := by
  intro claimed
  have taken := claimed ⟨fun _ => none, fun _ => none⟩ emptyMonth clearedSgData
    (by decide)
  have fields := (wholeOrSame_of_takenWhole taken).fields
  rw [emptyMonth_scanned] at fields
  cases fields with
  | inl whole =>
      obtain ⟨value, member⟩ := whole .utcMonth
      have named : SgField.utcMonth ∈
          [SgField.messageId, .subid, .utcYear] :=
        @List.mem_map_of_mem _ _ _ _ Sigma.fst member
      exact absurd named (by decide)
  | inr agrees =>
      have same : (0 : UInt16) = 2025 :=
        agrees ⟨.utcYear, (2025 : UInt16)⟩ (by simp)
      exact absurd same (by decide)

end RtA100
