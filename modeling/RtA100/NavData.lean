import RtA100.FrameBuilders

/-!
# Navigation data

`SgData` holds the fields of `sg_data` that `nav_data_msg_task_cb` copies.  A
`double` and a `float` are their bit patterns.  The swap functions take
integers, so the three coordinates are converted to an integer, swapped and
converted back; `FloatConversions` stands for these conversions of the C
implementation.
-/

namespace RtA100

open Library

/-- Conversions between floating-point values, given by their bits, and
unsigned integers of the same width. -/
structure FloatConversions where
  doubleToUInt64 : UInt64 → UInt64
  uint64ToDouble : UInt64 → UInt64
  floatToUInt32 : UInt32 → UInt32
  uint32ToFloat : UInt32 → UInt32

structure SgData where
  utcYear : UInt16
  utcMonth : UInt8
  utcDay : UInt8
  utcHour : UInt8
  utcMinutes : UInt8
  utcMillisecond : UInt16
  latitude : UInt64
  longitude : UInt64
  altitudeMsl : UInt32
  vn : Int32
  ve : Int32
  vd : Int32
  groundSpeed : UInt32
  traveledDistance : UInt32
  roll : Int32
  pitch : Int32
  heading : Int32
  northUncertainty : UInt16
  eastUncertainty : UInt16
  downUncertainty : UInt16
  vnUncertainty : UInt16
  veUncertainty : UInt16
  vdUncertainty : UInt16
  rollUncertainty : UInt16
  pitchUncertainty : UInt16
  yawUncertainty : UInt16
  misalignAngleRoll : Int16
  misalignAnglePitch : Int16
  misalignAngleYaw : Int16
  referenceStationId : UInt16
  timeSinceLastDiff : UInt8
deriving DecidableEq

/-- `bswap_16`, stored in a 16-bit field. -/
def swapped16 (value : UInt16) : List UInt8 :=
  littleEndianBytes (bswap16 value)

/-- `bswap_32`, stored in a 32-bit field. -/
def swapped32 (value : UInt32) : List UInt8 :=
  littleEndian32 (bswap32 value)

/-- The fields of `NAVDataSeg` in front of `ucRsvd`. -/
def navDataFields (convert : FloatConversions) (sg : SgData) : List UInt8 :=
  littleEndianBytes 0 ++ [0] ++ swapped16 sg.utcYear ++
    [sg.utcMonth, sg.utcDay, sg.utcHour, sg.utcMinutes] ++
    swapped16 sg.utcMillisecond ++
    littleEndian64 (convert.uint64ToDouble
      (bswap64 (convert.doubleToUInt64 sg.latitude))) ++
    littleEndian64 (convert.uint64ToDouble
      (bswap64 (convert.doubleToUInt64 sg.longitude))) ++
    littleEndian32 (convert.uint32ToFloat
      (bswap32 (convert.floatToUInt32 sg.altitudeMsl))) ++
    swapped32 sg.vn.toUInt32 ++ swapped32 sg.ve.toUInt32 ++
    swapped32 sg.vd.toUInt32 ++ swapped32 sg.groundSpeed ++
    swapped32 sg.traveledDistance ++ swapped32 sg.roll.toUInt32 ++
    swapped32 sg.pitch.toUInt32 ++ swapped32 sg.heading.toUInt32 ++
    swapped16 sg.northUncertainty ++ swapped16 sg.eastUncertainty ++
    swapped16 sg.downUncertainty ++ swapped16 sg.vnUncertainty ++
    swapped16 sg.veUncertainty ++ swapped16 sg.vdUncertainty ++
    swapped16 sg.rollUncertainty ++ swapped16 sg.pitchUncertainty ++
    swapped16 sg.yawUncertainty ++
    swapped16 sg.misalignAngleRoll.toUInt16 ++
    swapped16 sg.misalignAnglePitch.toUInt16 ++
    swapped16 sg.misalignAngleYaw.toUInt16 ++
    swapped16 sg.referenceStationId ++
    [(bswap16 sg.timeSinceLastDiff.toUInt16).toUInt8]

theorem swapped16_length (value : UInt16) : (swapped16 value).length = 2 :=
  rfl

theorem swapped32_length (value : UInt32) : (swapped32 value).length = 4 :=
  rfl

theorem navDataFields_length (convert : FloatConversions) (sg : SgData) :
    (navDataFields convert sg).length = 90 := by
  have double (value : UInt64) : (littleEndian64 value).length = 8 := rfl
  have float (value : UInt32) : (littleEndian32 value).length = 4 := rfl
  have address : (littleEndianBytes 0).length = 2 := rfl
  unfold navDataFields
  simp only [List.length_append, List.length_cons, List.length_nil, double,
    float, address, swapped16_length, swapped32_length]

/-- The `NAVDataSeg` filled by `nav_data_msg_task_cb`, in a cleared buffer. -/
def navDataSeg (convert : FloatConversions) (sg : SgData) :
    Buffer navDataSegSize :=
  { bytes := navDataFields convert sg ++ List.replicate 64 0
    size := by
      rw [List.length_append, navDataFields_length, List.length_replicate]
      rfl }

/-- The frame sent by `nav_data_msg_task_cb`. -/
def navDataMsgTask (convert : FloatConversions) (sg : SgData) :
    Option (List UInt8) :=
  navDataMsg (navDataSeg convert sg)

end RtA100
