import RtA100.Library.Bytes

/-!
# Time and binary-coded decimals

The parts of `lib/publib.c` that the frame builders and the handlers use.
-/

namespace RtA100

structure CustomTime where
  usYear : UInt16
  ucMonth : UInt8
  ucDay : UInt8
  ucHour : UInt8
  ucMinute : UInt8
  ucSecond : UInt8
deriving DecidableEq

/-- There is no range check: from 10000 on the digits are not decimal ones. -/
def dbToBcd (value : UInt16) : UInt16 :=
  let highByte : UInt16 := (value / 100).toUInt8.toUInt16
  let lowByte : UInt16 := (value % 100).toUInt8.toUInt16
  (((highByte / 10) <<< 4 ||| highByte % 10) <<< 8) |||
    ((lowByte / 10) <<< 4 ||| lowByte % 10)

def bcdToByte (value : UInt8) : Nat :=
  ((value >>> 4) &&& 0x0F).toNat * 10 + (value &&& 0x0F).toNat

def byteToBcd (bcd : UInt8) : UInt8 :=
  ((bcd / 10) <<< 4) ||| (bcd % 10)

def bcdToDb (value : UInt16) : Nat :=
  ((value >>> 12) &&& 0x0F).toNat * 1000 +
    ((value >>> 8) &&& 0x0F).toNat * 100 +
    ((value >>> 4) &&& 0x0F).toNat * 10 + (value &&& 0x0F).toNat

example : bcdToDb (dbToBcd 356) = 356 := by decide
example : bcdToByte (byteToBcd 59) = 59 := by decide

end RtA100
