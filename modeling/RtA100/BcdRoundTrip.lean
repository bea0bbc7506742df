import Mathlib.Algebra.Group.Nat.Defs
import RtA100.Heartbeat
import RtA100.Library.Cursor

/-!
# Addresses and times in binary-coded decimals

A heartbeat and the answer to a wave-file request both carry the device address
and the time, packed digit by digit.  `dbToBcd` and `byteToBcd` keep every
address of four digits and every number of two, so what a receiver decodes is
what the builder stored; the heartbeat stores the hour where the minute
belongs.
-/

namespace RtA100

open Library

/-! ## Digits -/

theorem bcdToByte_toNat (value : UInt8) :
    bcdToByte value = value.toNat / 16 % 16 * 10 + value.toNat % 16 := by
  have low (digits : Nat) : digits &&& 15 = digits % 16 :=
    Nat.and_two_pow_sub_one_eq_mod digits 4
  simp [bcdToByte, low, Nat.shiftRight_eq_div_pow]

theorem bcdToDb_toNat (value : UInt16) :
    bcdToDb value = value.toNat / 4096 % 16 * 1000 +
      value.toNat / 256 % 16 * 100 + value.toNat / 16 % 16 * 10 +
        value.toNat % 16 := by
  have low (digits : Nat) : digits &&& 15 = digits % 16 :=
    Nat.and_two_pow_sub_one_eq_mod digits 4
  simp [bcdToDb, low, Nat.shiftRight_eq_div_pow]

/-- A digit shifted in front of smaller ones. -/
theorem digits_or {high low shift width : Nat} (small : low < 2 ^ shift)
    (inside : high * 2 ^ shift < 2 ^ width) :
    high <<< shift % 2 ^ width ||| low = high * 2 ^ shift + low := by
  rw [Nat.shiftLeft_eq, Nat.mod_eq_of_lt inside, ← Nat.shiftLeft_eq,
    ← Nat.shiftLeft_add_eq_or_of_lt small, Nat.shiftLeft_eq]

theorem byteToBcd_toNat {value : UInt8} (twoDigits : value.toNat ≤ 99) :
    (byteToBcd value).toNat = value.toNat / 10 * 16 + value.toNat % 10 := by
  have ten : (10 : UInt8).toNat = 10 := rfl
  have four : (4 : UInt8).toNat % 8 = 4 := rfl
  simp only [byteToBcd, UInt8.toNat_or, UInt8.toNat_shiftLeft,
    UInt8.toNat_div, UInt8.toNat_mod, ten, four]
  exact digits_or (show value.toNat % 10 < 2 ^ 4 by omega)
    (show value.toNat / 10 * 2 ^ 4 < 2 ^ 8 by omega)

theorem dbToBcd_toNat {value : UInt16} (fourDigits : value.toNat ≤ 9999) :
    (dbToBcd value).toNat = value.toNat / 1000 * 4096 +
      value.toNat / 100 % 10 * 256 + value.toNat / 10 % 10 * 16 +
        value.toNat % 10 := by
  have hundred : (100 : UInt16).toNat = 100 := rfl
  have ten : (10 : UInt16).toNat = 10 := rfl
  have four : (4 : UInt16).toNat % 16 = 4 := rfl
  have eight : (8 : UInt16).toNat % 16 = 8 := rfl
  have highByte : value.toNat / 100 % 2 ^ 8 = value.toNat / 100 := by omega
  have lowByte : value.toNat % 100 % 2 ^ 8 = value.toNat % 100 := by omega
  simp only [dbToBcd, UInt16.toNat_or, UInt16.toNat_shiftLeft,
    UInt16.toNat_div, UInt16.toNat_mod, UInt8.toNat_toUInt16,
    UInt16.toNat_toUInt8, hundred, ten, four, eight, highByte, lowByte]
  have high := @digits_or (value.toNat / 100 / 10) (value.toNat / 100 % 10)
    4 16 (by omega) (by omega)
  have low := @digits_or (value.toNat % 100 / 10) (value.toNat % 100 % 10)
    4 16 (by omega) (by omega)
  rw [high, low, digits_or (by omega) (by omega)]
  omega

/-- Two digits come back. -/
theorem bcdToByte_byteToBcd {value : UInt8} (twoDigits : value.toNat ≤ 99) :
    bcdToByte (byteToBcd value) = value.toNat := by
  rw [bcdToByte_toNat, byteToBcd_toNat twoDigits]
  omega

theorem digits_split {thousands hundreds tens ones : Nat}
    (first : thousands < 10) (second : hundreds < 10) (third : tens < 10)
    (fourth : ones < 10) :
    let packed := thousands * 4096 + hundreds * 256 + tens * 16 + ones
    packed / 4096 % 16 = thousands ∧ packed / 256 % 16 = hundreds ∧
      packed / 16 % 16 = tens ∧ packed % 16 = ones := by
  refine ⟨?_, ?_, ?_, ?_⟩ <;> omega

/-- Four digits come back. -/
theorem bcdToDb_dbToBcd {value : UInt16} (fourDigits : value.toNat ≤ 9999) :
    bcdToDb (dbToBcd value) = value.toNat := by
  have digits : value.toNat / 1000 * 1000 + value.toNat / 100 % 10 * 100 +
      value.toNat / 10 % 10 * 10 + value.toNat % 10 = value.toNat := by
    omega
  obtain ⟨thousands, hundreds, tens, ones⟩ :=
    @digits_split (value.toNat / 1000) (value.toNat / 100 % 10)
      (value.toNat / 10 % 10) (value.toNat % 10) (by omega) (by omega)
      (by omega) (by omega)
  rw [bcdToDb_toNat, dbToBcd_toNat fourDigits, thousands, hundreds, tens,
    ones, digits]

/-! ## The receiver -/

/-- The address and the time that both segments begin with. -/
structure BcdData where
  devAddr : Nat
  year : Nat
  month : Nat
  day : Nat
  hour : Nat
  minute : Nat
deriving DecidableEq

/-- Read the beginning of the segment, behind the header of the frame. -/
def decodeBcdData (frame : List UInt8) :
    Option (BcdData × List UInt8) := do
  let (usDevAddr, bytes) ← takeLittle16 (frame.drop (5 + 0))
  let (ucYear, bytes) ← take8 bytes
  let (ucMonth, bytes) ← take8 bytes
  let (ucDay, bytes) ← take8 bytes
  let (ucHour, bytes) ← take8 bytes
  let (ucMinute, bytes) ← take8 bytes
  some
    ({ devAddr := bcdToDb usDevAddr, year := bcdToByte ucYear
       month := bcdToByte ucMonth, day := bcdToByte ucDay
       hour := bcdToByte ucHour, minute := bcdToByte ucMinute }, bytes)

/-- Read a `HeartBeatDataSeg` up to its reserved bytes. -/
def decodeHeartbeat (frame : List UInt8) : Option (BcdData × Nat) := do
  let (data, bytes) ← decodeBcdData frame
  let (ucSecond, _) ← take8 bytes
  some (data, bcdToByte ucSecond)

/-- Read a `WaveFileResp` up to its code. -/
def decodeWaveFileResp (frame : List UInt8) : Option BcdData := do
  let (data, _) ← decodeBcdData frame
  some data

/-! ## The device -/

/-- A calendar time of this century. -/
structure CalendarTime (time : CustomTime) : Prop where
  year : 2000 ≤ time.usYear.toNat ∧ time.usYear.toNat ≤ 2099
  month : 1 ≤ time.ucMonth.toNat ∧ time.ucMonth.toNat ≤ 12
  day : 1 ≤ time.ucDay.toNat ∧ time.ucDay.toNat ≤ 31
  hour : time.ucHour.toNat ≤ 23
  minute : time.ucMinute.toNat ≤ 59
  second : time.ucSecond.toNat ≤ 60

/-- The current address and time. -/
def currentData (info : DevBaseInfo) (time : CustomTime) : BcdData :=
  { devAddr := info.devAddr.toNat
    year := time.usYear.toNat - 2000
    month := time.ucMonth.toNat
    day := time.ucDay.toNat
    hour := time.ucHour.toNat
    minute := time.ucMinute.toNat }

/-- Both frames are decoded to the current address and time. -/
structure CurrentReturned (info : DevBaseInfo) (time : CustomTime) :
    Prop where
  heartbeat : ∃ frame, heartbeatReq info time = some frame ∧
    decodeHeartbeat frame =
      some (currentData info time, time.ucSecond.toNat)
  waveFile : ∃ frame, funcWaveFileResp info time = some frame ∧
    decodeWaveFileResp frame = some (currentData info time)

theorem CalendarTime.year_toNat {time : CustomTime}
    (calendar : CalendarTime time) :
    (time.usYear - 2000).toUInt8.toNat = time.usYear.toNat - 2000 := by
  have base : (2000 : UInt16).toNat = 2000 := rfl
  have bounds := calendar.year
  rw [UInt16.toNat_toUInt8, UInt16.toNat_sub_of_le _ _ (by
    rw [UInt16.le_iff_toNat_le, base]
    exact bounds.1), base]
  omega

/-- The beginning of a segment is decoded to the address and the time that were
packed into it, if they have four and two digits. -/
theorem decodeBcdData_packed {header rest : List UInt8} {devAddr : UInt16}
    {year month day hour minute : UInt8} (five : header.length = 5)
    (address : devAddr.toNat ≤ 9999) (yearDigits : year.toNat ≤ 99)
    (monthDigits : month.toNat ≤ 99) (dayDigits : day.toNat ≤ 99)
    (hourDigits : hour.toNat ≤ 99) (minuteDigits : minute.toNat ≤ 99) :
    decodeBcdData (header ++ (littleEndianBytes (dbToBcd devAddr) ++
      (byteToBcd year :: byteToBcd month :: byteToBcd day ::
        byteToBcd hour :: byteToBcd minute :: rest))) =
      some
        ({ devAddr := devAddr.toNat, year := year.toNat
           month := month.toNat, day := day.toNat, hour := hour.toNat
           minute := minute.toNat }, rest) := by
  unfold decodeBcdData
  rw [drop_length_add five, List.drop_zero]
  simp only [takeLittle16_littleEndian, take8, Option.bind_eq_bind,
    Option.bind_some]
  rw [bcdToDb_dbToBcd address, bcdToByte_byteToBcd yearDigits,
    bcdToByte_byteToBcd monthDigits, bcdToByte_byteToBcd dayDigits,
    bcdToByte_byteToBcd hourDigits, bcdToByte_byteToBcd minuteDigits]

/-- What a heartbeat is decoded to. -/
theorem heartbeatReq_decoded {info : DevBaseInfo} {time : CustomTime}
    (address : info.devAddr.toNat ≤ 9999) (calendar : CalendarTime time) :
    ∃ frame, heartbeatReq info time = some frame ∧
      decodeHeartbeat frame =
        some ({ currentData info time with minute := time.ucHour.toNat },
          time.ucSecond.toNat) := by
  have length := heartbeatDataSeg_length info time
  obtain ⟨frame, sealed, _⟩ := sealFrame_wellFormed mqttMsgSignHeartbeatReq
    (heartbeatDataSeg info time) (by omega)
  obtain ⟨header, trailer, five, _, rfl⟩ := sealFrame_segment sealed
  have year := calendar.year_toNat
  have yearBound := calendar.year
  have monthBound := calendar.month
  have dayBound := calendar.day
  have hourBound := calendar.hour
  have secondBound := calendar.second
  refine ⟨_, sealed, ?_⟩
  unfold decodeHeartbeat heartbeatDataSeg
  simp only [List.append_assoc, List.cons_append, List.nil_append]
  rw [decodeBcdData_packed five address (by omega) (by omega) (by omega)
    (by omega) (by omega), year]
  simp only [take8, Option.bind_eq_bind, Option.bind_some]
  rw [bcdToByte_byteToBcd (by omega)]
  rfl

/-- The answer to a wave-file request is decoded to the current data. -/
theorem funcWaveFileResp_decoded {info : DevBaseInfo} {time : CustomTime}
    (address : info.devAddr.toNat ≤ 9999) (calendar : CalendarTime time) :
    ∃ frame, funcWaveFileResp info time = some frame ∧
      decodeWaveFileResp frame = some (currentData info time) := by
  have length := waveFileRespSeg_length info time
  obtain ⟨frame, sealed, _⟩ := sealFrame_wellFormed msgSignWaveFileResp
    (waveFileRespSeg info time) (by omega)
  obtain ⟨header, trailer, five, _, rfl⟩ := sealFrame_segment sealed
  have year := calendar.year_toNat
  have yearBound := calendar.year
  have monthBound := calendar.month
  have dayBound := calendar.day
  have hourBound := calendar.hour
  have minuteBound := calendar.minute
  refine ⟨_, sealed, ?_⟩
  unfold decodeWaveFileResp waveFileRespSeg
  simp only [List.append_assoc, List.cons_append, List.nil_append]
  rw [decodeBcdData_packed five address (by omega) (by omega) (by omega)
    (by omega) (by omega), year]
  rfl

/-- Address and time come back exactly when the hour is also the minute. -/
theorem currentReturned_iff {info : DevBaseInfo} {time : CustomTime}
    (address : info.devAddr.toNat ≤ 9999) (calendar : CalendarTime time) :
    CurrentReturned info time ↔ time.ucMinute = time.ucHour := by
  obtain ⟨frame, sent, decoded⟩ := heartbeatReq_decoded address calendar
  constructor
  · intro returned
    obtain ⟨other, otherSent, otherDecoded⟩ := returned.heartbeat
    rw [sent, Option.some.injEq] at otherSent
    rw [← otherSent, decoded, Option.some.injEq] at otherDecoded
    have minute := congrArg (·.1.minute) otherDecoded
    exact UInt8.toNat_inj.mp minute.symm
  · intro same
    refine ⟨⟨frame, sent, ?_⟩, funcWaveFileResp_decoded address calendar⟩
    rw [decoded, ← same]
    rfl

def exampleTime : CustomTime :=
  { usYear := 2024, ucMonth := 5, ucDay := 6, ucHour := 7, ucMinute := 7
    ucSecond := 9 }

theorem exampleTime_calendar : CalendarTime exampleTime :=
  ⟨by decide, by decide, by decide, by decide, by decide, by decide⟩

theorem exampleTime_returned :
    CurrentReturned exampleServices.info exampleTime :=
  (currentReturned_iff (by decide) exampleTime_calendar).mpr rfl

theorem minute_not_returned :
    ¬∀ (info : DevBaseInfo) (time : CustomTime), info.devAddr.toNat ≤ 9999 →
      CalendarTime time → CurrentReturned info time := by
  intro claimed
  have address : exampleServices.info.devAddr.toNat ≤ 9999 := by decide
  have eighth : CalendarTime { exampleTime with ucMinute := 8 } :=
    { exampleTime_calendar with minute := by decide }
  obtain ⟨frame, sent, decoded⟩ := heartbeatReq_decoded address eighth
  obtain ⟨other, otherSent, otherDecoded⟩ :=
    (claimed _ _ address eighth).heartbeat
  rw [sent, Option.some.injEq] at otherSent
  rw [← otherSent, decoded, Option.some.injEq] at otherDecoded
  exact absurd (congrArg (·.1.minute) otherDecoded) (by decide)

end RtA100
