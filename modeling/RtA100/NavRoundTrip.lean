import RtA100.NavData
import RtA100.Library.Cursor
import RtA100.Library.FloatFormat

/-!
# What a receiver reads in a navigation frame

`decodeNavData` reads a `NAVDataSeg` the way its fields are meant: multi-byte
integers are big-endian.  Every integer field that `nav_data_msg_task_cb`
copies comes back, except the time since the last differential correction: its
one byte is swapped as if it had two.

A coordinate is converted to an integer before it is swapped, so a frame only
depends on its integer part.
-/

namespace RtA100

open Library

/-! ## The fields of a segment -/

structure NavTime where
  utcYear : UInt16
  utcMonth : UInt8
  utcDay : UInt8
  utcHour : UInt8
  utcMinutes : UInt8
  utcMillisecond : UInt16
deriving DecidableEq

/-- The coordinates, as the bits that the packed struct holds. -/
structure NavPosition where
  dLatitude : UInt64
  dLongitude : UInt64
  fAltitude : UInt32
deriving DecidableEq

structure NavMotion where
  vn : Int32
  ve : Int32
  vd : Int32
  groundSpeed : UInt32
  traveledDistance : UInt32
  roll : Int32
  pitch : Int32
  heading : Int32
deriving DecidableEq

structure NavUncertainty where
  north : UInt16
  east : UInt16
  down : UInt16
  vn : UInt16
  ve : UInt16
  vd : UInt16
  roll : UInt16
  pitch : UInt16
  yaw : UInt16
deriving DecidableEq

structure NavCorrection where
  misalignAngleRoll : Int16
  misalignAnglePitch : Int16
  misalignAngleYaw : Int16
  referenceStationId : UInt16
  timeSinceLastDiff : UInt8
deriving DecidableEq

/-- The integer fields of a navigation segment that the device fills in. -/
structure NavIntegers where
  time : NavTime
  motion : NavMotion
  uncertainty : NavUncertainty
  correction : NavCorrection
deriving DecidableEq

structure NavFields where
  integers : NavIntegers
  position : NavPosition
deriving DecidableEq

/-! ## The receiver -/

def decodeNavTime (bytes : List UInt8) :
    Option (NavTime × List UInt8) := do
  let (utcYear, bytes) ← take16 bytes
  let (utcMonth, bytes) ← take8 bytes
  let (utcDay, bytes) ← take8 bytes
  let (utcHour, bytes) ← take8 bytes
  let (utcMinutes, bytes) ← take8 bytes
  let (utcMillisecond, bytes) ← take16 bytes
  some ({ utcYear, utcMonth, utcDay, utcHour, utcMinutes, utcMillisecond },
    bytes)

def decodeNavPosition (bytes : List UInt8) :
    Option (NavPosition × List UInt8) := do
  let (dLatitude, bytes) ← takeLittle64 bytes
  let (dLongitude, bytes) ← takeLittle64 bytes
  let (fAltitude, bytes) ← takeLittle32 bytes
  some ({ dLatitude, dLongitude, fAltitude }, bytes)

def decodeNavMotion (bytes : List UInt8) :
    Option (NavMotion × List UInt8) := do
  let (vn, bytes) ← take32 bytes
  let (ve, bytes) ← take32 bytes
  let (vd, bytes) ← take32 bytes
  let (groundSpeed, bytes) ← take32 bytes
  let (traveledDistance, bytes) ← take32 bytes
  let (roll, bytes) ← take32 bytes
  let (pitch, bytes) ← take32 bytes
  let (heading, bytes) ← take32 bytes
  some ({ vn := vn.toInt32, ve := ve.toInt32, vd := vd.toInt32
          groundSpeed, traveledDistance, roll := roll.toInt32
          pitch := pitch.toInt32, heading := heading.toInt32 }, bytes)

def decodeNavUncertainty (bytes : List UInt8) :
    Option (NavUncertainty × List UInt8) := do
  let (north, bytes) ← take16 bytes
  let (east, bytes) ← take16 bytes
  let (down, bytes) ← take16 bytes
  let (vn, bytes) ← take16 bytes
  let (ve, bytes) ← take16 bytes
  let (vd, bytes) ← take16 bytes
  let (roll, bytes) ← take16 bytes
  let (pitch, bytes) ← take16 bytes
  let (yaw, bytes) ← take16 bytes
  some ({ north, east, down, vn, ve, vd, roll, pitch, yaw }, bytes)

def decodeNavCorrection (bytes : List UInt8) :
    Option (NavCorrection × List UInt8) := do
  let (misalignAngleRoll, bytes) ← take16 bytes
  let (misalignAnglePitch, bytes) ← take16 bytes
  let (misalignAngleYaw, bytes) ← take16 bytes
  let (referenceStationId, bytes) ← take16 bytes
  let (timeSinceLastDiff, bytes) ← take8 bytes
  some ({ misalignAngleRoll := misalignAngleRoll.toInt16
          misalignAnglePitch := misalignAnglePitch.toInt16
          misalignAngleYaw := misalignAngleYaw.toInt16
          referenceStationId, timeSinceLastDiff }, bytes)

/-- Read the segment of a frame, behind the header and the first three bytes of
the segment, which are `usDevAddr` and `ucRsvd1`. -/
def decodeNavData (frame : List UInt8) : Option NavFields := do
  let (time, bytes) ← decodeNavTime (frame.drop (5 + 3))
  let (position, bytes) ← decodeNavPosition bytes
  let (motion, bytes) ← decodeNavMotion bytes
  let (uncertainty, bytes) ← decodeNavUncertainty bytes
  let (correction, _) ← decodeNavCorrection bytes
  some { integers := { time, motion, uncertainty, correction }, position }

/-! ## The device -/

namespace SgData

variable (sg : SgData)

def time : NavTime :=
  { utcYear := sg.utcYear
    utcMonth := sg.utcMonth
    utcDay := sg.utcDay
    utcHour := sg.utcHour
    utcMinutes := sg.utcMinutes
    utcMillisecond := sg.utcMillisecond }

def motion : NavMotion :=
  { vn := sg.vn
    ve := sg.ve
    vd := sg.vd
    groundSpeed := sg.groundSpeed
    traveledDistance := sg.traveledDistance
    roll := sg.roll
    pitch := sg.pitch
    heading := sg.heading }

def uncertainty : NavUncertainty :=
  { north := sg.northUncertainty
    east := sg.eastUncertainty
    down := sg.downUncertainty
    vn := sg.vnUncertainty
    ve := sg.veUncertainty
    vd := sg.vdUncertainty
    roll := sg.rollUncertainty
    pitch := sg.pitchUncertainty
    yaw := sg.yawUncertainty }

def correction : NavCorrection :=
  { misalignAngleRoll := sg.misalignAngleRoll
    misalignAnglePitch := sg.misalignAnglePitch
    misalignAngleYaw := sg.misalignAngleYaw
    referenceStationId := sg.referenceStationId
    timeSinceLastDiff := sg.timeSinceLastDiff }

/-- The integer fields of `sg_data` that the device copies. -/
def integers : NavIntegers :=
  { time := sg.time
    motion := sg.motion
    uncertainty := sg.uncertainty
    correction := sg.correction }

/-- The integer fields as they reach the receiver. -/
def carried : NavIntegers :=
  { sg.integers with
    correction := { sg.correction with timeSinceLastDiff := 0 } }

/-- The coordinates as they reach the receiver. -/
def position (convert : FloatConversions) : NavPosition :=
  { dLatitude := convert.uint64ToDouble
      (bswap64 (convert.doubleToUInt64 sg.latitude))
    dLongitude := convert.uint64ToDouble
      (bswap64 (convert.doubleToUInt64 sg.longitude))
    fAltitude := convert.uint32ToFloat
      (bswap32 (convert.floatToUInt32 sg.altitudeMsl)) }

def fields (convert : FloatConversions) : NavFields :=
  { integers := sg.carried, position := sg.position convert }

end SgData

theorem take16_swapped (value : UInt16) (rest : List UInt8) :
    take16 (swapped16 value ++ rest) = some (value, rest) := by
  unfold swapped16
  rw [littleEndianBytes_bswap16, take16_bigEndian]

theorem take32_swapped (value : UInt32) (rest : List UInt8) :
    take32 (swapped32 value ++ rest) = some (value, rest) := by
  unfold swapped32
  rw [littleEndian32_bswap32, take32_bigEndian]

/-- The swap moves the only byte of the field out of it. -/
theorem timeDiff_lost (value : UInt8) :
    (bswap16 value.toUInt16).toUInt8 = 0 := by
  have small : value.toNat < 256 := value.toNat_lt
  apply UInt8.toNat_inj.mp
  rw [UInt16.toNat_toUInt8, bswap16_toNat, UInt8.toNat_toUInt16,
    Nat.mod_eq_of_lt small, Nat.div_eq_of_lt small, Nat.add_zero,
    Nat.mul_mod_right]
  rfl

section Decoding

variable (convert : FloatConversions) (sg : SgData) (rest : List UInt8)

theorem decodeNavTime_fields :
    decodeNavTime (swapped16 sg.utcYear ++
      (sg.utcMonth :: sg.utcDay :: sg.utcHour :: sg.utcMinutes ::
        (swapped16 sg.utcMillisecond ++ rest))) = some (sg.time, rest) := by
  simp only [decodeNavTime, take8, take16_swapped, Option.bind_eq_bind,
    Option.bind_some]
  rfl

theorem decodeNavPosition_fields :
    decodeNavPosition
      (littleEndian64 (convert.uint64ToDouble
        (bswap64 (convert.doubleToUInt64 sg.latitude))) ++
      (littleEndian64 (convert.uint64ToDouble
        (bswap64 (convert.doubleToUInt64 sg.longitude))) ++
      (littleEndian32 (convert.uint32ToFloat
        (bswap32 (convert.floatToUInt32 sg.altitudeMsl))) ++ rest))) =
      some (sg.position convert, rest) := by
  simp only [decodeNavPosition, takeLittle32_littleEndian,
    takeLittle64_littleEndian, Option.bind_eq_bind, Option.bind_some]
  rfl

theorem decodeNavMotion_fields :
    decodeNavMotion (swapped32 sg.vn.toUInt32 ++
      (swapped32 sg.ve.toUInt32 ++ (swapped32 sg.vd.toUInt32 ++
      (swapped32 sg.groundSpeed ++ (swapped32 sg.traveledDistance ++
      (swapped32 sg.roll.toUInt32 ++ (swapped32 sg.pitch.toUInt32 ++
      (swapped32 sg.heading.toUInt32 ++ rest)))))))) =
      some (sg.motion, rest) := by
  simp only [decodeNavMotion, take32_swapped, Int32.toInt32_toUInt32,
    Option.bind_eq_bind, Option.bind_some]
  rfl

theorem decodeNavUncertainty_fields :
    decodeNavUncertainty (swapped16 sg.northUncertainty ++
      (swapped16 sg.eastUncertainty ++ (swapped16 sg.downUncertainty ++
      (swapped16 sg.vnUncertainty ++ (swapped16 sg.veUncertainty ++
      (swapped16 sg.vdUncertainty ++ (swapped16 sg.rollUncertainty ++
      (swapped16 sg.pitchUncertainty ++
      (swapped16 sg.yawUncertainty ++ rest))))))))) =
      some (sg.uncertainty, rest) := by
  simp only [decodeNavUncertainty, take16_swapped, Option.bind_eq_bind,
    Option.bind_some]
  rfl

theorem decodeNavCorrection_fields :
    decodeNavCorrection (swapped16 sg.misalignAngleRoll.toUInt16 ++
      (swapped16 sg.misalignAnglePitch.toUInt16 ++
      (swapped16 sg.misalignAngleYaw.toUInt16 ++
      (swapped16 sg.referenceStationId ++
      ((bswap16 sg.timeSinceLastDiff.toUInt16).toUInt8 :: rest))))) =
      some ({ sg.correction with timeSinceLastDiff := 0 }, rest) := by
  simp only [decodeNavCorrection, take8, take16_swapped, timeDiff_lost,
    Int16.toInt16_toUInt16, Option.bind_eq_bind, Option.bind_some]
  rfl

end Decoding

theorem decodeNavData_fields (convert : FloatConversions) (sg : SgData)
    {header rest : List UInt8} (five : header.length = 5) :
    decodeNavData (header ++ (navDataFields convert sg ++ rest)) =
      some (sg.fields convert) := by
  have address : littleEndianBytes 0 = [0, 0] := rfl
  unfold decodeNavData
  rw [drop_length_add five]
  unfold navDataFields
  simp only [List.append_assoc]
  rw [address]
  simp only [List.cons_append, List.nil_append, List.drop_succ_cons,
    List.drop_zero, decodeNavTime_fields, decodeNavPosition_fields,
    decodeNavMotion_fields, decodeNavUncertainty_fields,
    decodeNavCorrection_fields, Option.bind_eq_bind, Option.bind_some]
  rfl

theorem navDataMsgTask_decoded (convert : FloatConversions) (sg : SgData) :
    ∃ frame, navDataMsgTask convert sg = some frame ∧
      decodeNavData frame = some (sg.fields convert) := by
  have size := (navDataSeg convert sg).size
  have small : navDataSegSize = 154 := rfl
  obtain ⟨frame, sealed, _⟩ :=
    sealFrame_wellFormed msgSignTransNavData (navDataSeg convert sg).bytes
      (by omega)
  obtain ⟨header, trailer, five, _, rfl⟩ := sealFrame_segment sealed
  refine ⟨_, sealed, ?_⟩
  have bytes : (navDataSeg convert sg).bytes =
      navDataFields convert sg ++ List.replicate 64 0 := rfl
  rw [bytes, List.append_assoc]
  exact decodeNavData_fields convert sg five

/-- The receiver finds every integer field as it is in `sg_data`. -/
def IntegersReturned (convert : FloatConversions) (sg : SgData) : Prop :=
  ∃ frame fields, navDataMsgTask convert sg = some frame ∧
    decodeNavData frame = some fields ∧ fields.integers = sg.integers

theorem SgData.carried_eq_integers_iff (sg : SgData) :
    sg.carried = sg.integers ↔ sg.timeSinceLastDiff = 0 := by
  constructor
  · intro same
    have lost := congrArg (·.correction.timeSinceLastDiff) same
    exact lost.symm
  · intro zero
    unfold SgData.carried SgData.integers SgData.correction
    rw [zero]

/-- The integer fields come back exactly when there is no time since the last
differential correction to tell. -/
theorem integersReturned_iff (convert : FloatConversions) (sg : SgData) :
    IntegersReturned convert sg ↔ sg.timeSinceLastDiff = 0 := by
  obtain ⟨frame, sent, decoded⟩ := navDataMsgTask_decoded convert sg
  rw [← sg.carried_eq_integers_iff]
  constructor
  · rintro ⟨other, fields, otherSent, otherDecoded, same⟩
    rw [sent, Option.some.injEq] at otherSent
    rw [← otherSent, decoded, Option.some.injEq] at otherDecoded
    rw [← same, ← otherDecoded]
    rfl
  · intro same
    exact ⟨frame, sg.fields convert, sent, decoded, same⟩

/-- A position fix 30.25 degrees north, corrected five seconds ago. -/
def exampleSgData : SgData :=
  { utcYear := 2024, utcMonth := 5, utcDay := 6, utcHour := 7
    utcMinutes := 8, utcMillisecond := 900
    latitude := 0x403E400000000000, longitude := 0x405E000000000000
    altitudeMsl := 0x42480000, vn := -3, ve := 4, vd := 0, groundSpeed := 5
    traveledDistance := 100, roll := -1, pitch := 2, heading := 9000
    northUncertainty := 1, eastUncertainty := 1, downUncertainty := 2
    vnUncertainty := 1, veUncertainty := 1, vdUncertainty := 1
    rollUncertainty := 3, pitchUncertainty := 3, yawUncertainty := 3
    misalignAngleRoll := -7, misalignAnglePitch := 7, misalignAngleYaw := 0
    referenceStationId := 12, timeSinceLastDiff := 5 }

theorem exampleSgData_not_returned :
    ¬∀ (convert : FloatConversions) (sg : SgData),
      IntegersReturned convert sg := by
  intro claimed
  let convert : FloatConversions := ⟨id, id, id, id⟩
  obtain ⟨frame, sent, decoded⟩ :=
    navDataMsgTask_decoded convert exampleSgData
  obtain ⟨other, fields, otherSent, otherDecoded, same⟩ :=
    claimed convert exampleSgData
  rw [sent, Option.some.injEq] at otherSent
  rw [← otherSent, decoded, Option.some.injEq] at otherDecoded
  rw [← otherDecoded] at same
  exact absurd (exampleSgData.carried_eq_integers_iff.mp same) (by decide)

/-! ## Positions -/

/-- The conversions of C: to an integer by truncation, and back in whichever
way. -/
def truncating (uint64ToDouble : UInt64 → UInt64)
    (uint32ToFloat : UInt32 → UInt32) : FloatConversions :=
  { doubleToUInt64 := fun bits =>
      .ofNat (FloatFormat.double.truncate bits.toNat)
    uint64ToDouble
    floatToUInt32 := fun bits =>
      .ofNat (FloatFormat.single.truncate bits.toNat)
    uint32ToFloat }

/-- Coordinates that the conversion to an integer is defined on. -/
structure PositionInRange (sg : SgData) : Prop where
  latitude : FloatFormat.double.InRange sg.latitude.toNat (2 ^ 63)
  longitude : FloatFormat.double.InRange sg.longitude.toNat (2 ^ 63)
  altitude : FloatFormat.single.InRange sg.altitudeMsl.toNat (2 ^ 31)

/-- Two contents of `sg_data` denote the same position. -/
structure SamePosition (sg other : SgData) : Prop where
  latitude : FloatFormat.double.magnitude sg.latitude.toNat =
    FloatFormat.double.magnitude other.latitude.toNat
  longitude : FloatFormat.double.magnitude sg.longitude.toNat =
    FloatFormat.double.magnitude other.longitude.toNat
  altitude : FloatFormat.single.magnitude sg.altitudeMsl.toNat =
    FloatFormat.single.magnitude other.altitudeMsl.toNat

/-- Contents of different positions are sent in different frames. -/
def PositionCarried (convert : FloatConversions) (sg other : SgData) :
    Prop :=
  ¬SamePosition sg other →
    navDataMsgTask convert sg ≠ navDataMsgTask convert other

/-- In range, the truncation is the integer part and does not wrap. -/
theorem truncating_exact {sg : SgData} (inRange : PositionInRange sg)
    (uint64ToDouble : UInt64 → UInt64) (uint32ToFloat : UInt32 → UInt32) :
    ((truncating uint64ToDouble uint32ToFloat).doubleToUInt64
        sg.latitude).toNat =
        FloatFormat.double.truncate sg.latitude.toNat ∧
      ((truncating uint64ToDouble uint32ToFloat).doubleToUInt64
        sg.longitude).toNat =
          FloatFormat.double.truncate sg.longitude.toNat ∧
      ((truncating uint64ToDouble uint32ToFloat).floatToUInt32
        sg.altitudeMsl).toNat =
          FloatFormat.single.truncate sg.altitudeMsl.toNat := by
  have latitude := FloatFormat.double.truncate_lt inRange.latitude
  have longitude := FloatFormat.double.truncate_lt inRange.longitude
  have altitude := FloatFormat.single.truncate_lt inRange.altitude
  simp only [truncating, UInt64.toNat_ofNat', UInt32.toNat_ofNat']
  omega

/-- A frame is determined by the fields it holds, and determines them. -/
theorem navDataMsgTask_eq_iff (convert : FloatConversions)
    (sg other : SgData) :
    navDataMsgTask convert sg = navDataMsgTask convert other ↔
      sg.fields convert = other.fields convert := by
  obtain ⟨frame, sent, decoded⟩ := navDataMsgTask_decoded convert sg
  obtain ⟨otherFrame, otherSent, otherDecoded⟩ :=
    navDataMsgTask_decoded convert other
  constructor
  · intro same
    rw [sent, otherSent, Option.some.injEq] at same
    rw [same, otherDecoded, Option.some.injEq] at decoded
    exact decoded.symm
  · intro same
    simp only [SgData.fields, SgData.position, SgData.carried,
      SgData.integers, SgData.time, SgData.motion, SgData.uncertainty,
      SgData.correction, NavFields.mk.injEq, NavIntegers.mk.injEq,
      NavTime.mk.injEq, NavMotion.mk.injEq, NavUncertainty.mk.injEq,
      NavCorrection.mk.injEq, NavPosition.mk.injEq, and_true] at same
    unfold navDataMsgTask navDataMsg navDataSeg navDataFields
    simp only [same, timeDiff_lost]

/-- The integer parts of a coordinate are still different numbers after they
have been swapped and converted back. -/
def IntegerPartsApart (uint64ToDouble : UInt64 → UInt64)
    (uint32ToFloat : UInt32 → UInt32) (sg other : SgData) : Prop :=
  let degrees (bits : UInt64) : UInt64 := uint64ToDouble
    (bswap64 (.ofNat (FloatFormat.double.truncate bits.toNat)))
  let meters (bits : UInt32) : UInt32 := uint32ToFloat
    (bswap32 (.ofNat (FloatFormat.single.truncate bits.toNat)))
  degrees sg.latitude ≠ degrees other.latitude ∨
    degrees sg.longitude ≠ degrees other.longitude ∨
      meters sg.altitudeMsl ≠ meters other.altitudeMsl

theorem position_eq_iff (uint64ToDouble : UInt64 → UInt64)
    (uint32ToFloat : UInt32 → UInt32) (sg other : SgData) :
    sg.position (truncating uint64ToDouble uint32ToFloat) =
        other.position (truncating uint64ToDouble uint32ToFloat) ↔
      ¬IntegerPartsApart uint64ToDouble uint32ToFloat sg other := by
  simp only [IntegerPartsApart, not_or, Decidable.not_not,
    SgData.position, truncating, NavPosition.mk.injEq]

/-- The position is carried exactly when there is none to tell apart, another
field differs, or the integer parts of a coordinate do. -/
theorem positionCarried_iff (uint64ToDouble : UInt64 → UInt64)
    (uint32ToFloat : UInt32 → UInt32) (sg other : SgData) :
    PositionCarried (truncating uint64ToDouble uint32ToFloat) sg other ↔
      SamePosition sg other ∨ sg.carried ≠ other.carried ∨
        IntegerPartsApart uint64ToDouble uint32ToFloat sg other := by
  unfold PositionCarried
  rw [Ne, navDataMsgTask_eq_iff]
  simp only [SgData.fields, NavFields.mk.injEq, position_eq_iff]
  by_cases same : SamePosition sg other
  · simp [same]
  · by_cases fields : sg.carried = other.carried
    · simp [same, fields]
    · simp [same, fields]

/-- A quarter of a degree further north. -/
def movedSgData : SgData :=
  { exampleSgData with latitude := 0x403E800000000000 }

theorem exampleSgData_inRange :
    PositionInRange exampleSgData ∧ PositionInRange movedSgData := by
  refine ⟨⟨⟨?_, ?_, ?_⟩, ⟨?_, ?_, ?_⟩, ⟨?_, ?_, ?_⟩⟩,
    ⟨⟨?_, ?_, ?_⟩, ⟨?_, ?_, ?_⟩, ⟨?_, ?_, ?_⟩⟩⟩ <;> decide +kernel

theorem movedSgData_same_frame :
    ¬∀ (uint64ToDouble : UInt64 → UInt64) (uint32ToFloat : UInt32 → UInt32)
      (sg other : SgData), PositionInRange sg → PositionInRange other →
      PositionCarried (truncating uint64ToDouble uint32ToFloat) sg other := by
  intro claimed
  obtain ⟨here, there⟩ := exampleSgData_inRange
  have carried := claimed id id exampleSgData movedSgData here there
  have moved : ¬SamePosition exampleSgData movedSgData := by
    intro same
    exact absurd same.latitude (by decide +kernel)
  have part : FloatFormat.double.truncate exampleSgData.latitude.toNat =
      FloatFormat.double.truncate movedSgData.latitude.toNat := by
    decide +kernel
  refine carried moved ((navDataMsgTask_eq_iff _ _ _).mpr ?_)
  simp only [SgData.fields, NavFields.mk.injEq, position_eq_iff]
  refine ⟨rfl, ?_⟩
  simp only [IntegerPartsApart, part]
  simp [movedSgData]

end RtA100
