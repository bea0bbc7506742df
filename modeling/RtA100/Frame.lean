import RtA100.Library.Bytes

/-!
# Frames and their two receive tests

A frame is a packed `MsgFramHdr`, a data segment and a `MsgDataFramCrc`.  The
machine is little-endian, so the program swaps `usLen` and `usCRC` after
loading them.

`cloudFrameTest` and `fkz9FrameTest` are the tests made by the loops of
`cloud_event_task_entry` and `fkz9_event_task_entry` on their buffers, in the
order and with the C types of each loop.  Their `_eq` theorems restate them
over the numbers that the bytes denote.
-/

namespace RtA100

open Library

/-- `st_MsgFramHdr`, as loaded. -/
structure MsgFramHdr where
  usHdr : UInt16
  usLen : UInt16
  ucSign : UInt8
deriving DecidableEq

def msgDataFramHdr1 : UInt16 := 0xAAAA

def msgDataFramHdr2 : UInt16 := 0xBBBB

/-- The header fields seen through a `MsgFramHdr` pointer. -/
def MsgFramHdr.read (buf : List UInt8) : Option MsgFramHdr := do
  let usHdr ← load16 buf 0
  let usLen ← load16 buf 2
  let ucSign ← buf[4]?
  some { usHdr, usLen, ucSign }

/-- The loop of `checkSum_8` with `remaining` iterations to go. -/
def checkSum8Loop : List UInt8 → Nat → UInt16 → Option UInt16
  | _, 0, ret => some ret
  | [], _ + 1, _ => none
  | byte :: buf, remaining + 1, ret =>
      checkSum8Loop buf remaining (ret + UInt16.ofNat byte.toNat)

def checkSum8 (buf : List UInt8) (len : UInt16) : Option UInt16 :=
  checkSum8Loop buf len.toNat 0

/-- `pCrc->usCRC`, where `pCrc` points two bytes before the declared end. -/
def readCrc (buf : List UInt8) (usLen : UInt16) : Option UInt16 :=
  if 2 ≤ usLen.toNat then load16 buf (usLen.toNat - 2) else none

/-- The test of `cloud_event_task_entry`: `crc` is a `uint16_t`, and it is
computed before the header is looked at. -/
def cloudFrameTest (buf : List UInt8) : Option Bool := do
  let pHdr ← MsgFramHdr.read buf
  let usLen := bswap16 pHdr.usLen
  let crc ← checkSum8 buf (usLen - 2)
  let usCRC ← readCrc buf usLen
  if (pHdr.usHdr ≠ msgDataFramHdr1 ∧ pHdr.usHdr ≠ msgDataFramHdr2) ∨
      crc ≠ bswap16 usCRC then
    some false
  else some true

/-- The test of `fkz9_event_task_entry`: `crc` is an `int16_t`, and the
comparison promotes both sides to `int`. -/
def fkz9FrameTest (buf : List UInt8) : Option Bool := do
  let pHdr ← MsgFramHdr.read buf
  let usLen := bswap16 pHdr.usLen
  if pHdr.usHdr ≠ msgDataFramHdr1 ∧ pHdr.usHdr ≠ msgDataFramHdr2 then
    some false
  else
    let sum ← checkSum8 buf (usLen - 2)
    let crc : Int16 := sum.toInt16
    let usCRC ← readCrc buf usLen
    if crc.toInt ≠ ((bswap16 usCRC).toNat : Int) then some false
    else some true

def byteSum : List UInt8 → Nat
  | [] => 0
  | byte :: bytes => byte.toNat + byteSum bytes

/-- The two header values of the frame format. -/
def HasHeader (bytes : List UInt8) : Prop :=
  bigEndianAt bytes 0 = 0xAAAA ∨ bigEndianAt bytes 0 = 0xBBBB

def declaredLength (bytes : List UInt8) : Nat := bigEndianAt bytes 2

def signOf (bytes : List UInt8) : UInt8 := bytes.getD 4 0

/-- Sum modulo 2^16 of all bytes but the last two of a frame of `len` bytes. -/
def checksumOf (bytes : List UInt8) (len : Nat) : Nat :=
  byteSum (bytes.take (len - 2)) % 65536

/-- The last two of `len` bytes are the checksum of the bytes before. -/
def HasChecksum (bytes : List UInt8) (len : Nat) : Prop :=
  bigEndianAt bytes (len - 2) = checksumOf bytes len

instance (bytes : List UInt8) : Decidable (HasHeader bytes) :=
  inferInstanceAs (Decidable (_ ∨ _))

instance (bytes : List UInt8) (len : Nat) :
    Decidable (HasChecksum bytes len) :=
  inferInstanceAs (Decidable (_ = _))

/-- A complete frame. -/
structure WellFormed (frame : List UInt8) : Prop where
  header : HasHeader frame
  declared : declaredLength frame = frame.length
  minimum : 7 ≤ frame.length
  checksum : HasChecksum frame frame.length

theorem wellFormed_iff (frame : List UInt8) :
    WellFormed frame ↔ HasHeader frame ∧
      declaredLength frame = frame.length ∧ 7 ≤ frame.length ∧
        HasChecksum frame frame.length :=
  ⟨fun formed => ⟨formed.header, formed.declared, formed.minimum,
      formed.checksum⟩,
    fun ⟨header, declared, minimum, checksum⟩ =>
      ⟨header, declared, minimum, checksum⟩⟩

instance (frame : List UInt8) : Decidable (WellFormed frame) :=
  decidable_of_iff _ (wellFormed_iff frame).symm

theorem byteSum_cons (byte : UInt8) (bytes : List UInt8) :
    byteSum (byte :: bytes) = byte.toNat + byteSum bytes := rfl

theorem byteSum_append (left right : List UInt8) :
    byteSum (left ++ right) = byteSum left + byteSum right := by
  induction left with
  | nil => exact (Nat.zero_add _).symm
  | cons byte left induction =>
      rw [List.cons_append, byteSum_cons, byteSum_cons, induction]
      omega

theorem byteSum_zeros (count : Nat) :
    byteSum (List.replicate count 0) = 0 := by
  induction count with
  | zero => rfl
  | succ count induction =>
      rw [List.replicate_succ, byteSum_cons, induction]
      rfl

theorem byteSum_le (bytes : List UInt8) :
    byteSum bytes ≤ 255 * bytes.length := by
  induction bytes with
  | nil => exact Nat.le_refl 0
  | cons byte bytes induction =>
      have bound := byte.toNat_lt
      rw [byteSum_cons, List.length_cons]
      omega

theorem checkSum8Loop_eq (buf : List UInt8) (remaining : Nat)
    (ret : UInt16) :
    checkSum8Loop buf remaining ret =
      if remaining ≤ buf.length then
        some (ret + UInt16.ofNat (byteSum (buf.take remaining)))
      else none := by
  induction remaining generalizing buf ret with
  | zero => simp [checkSum8Loop, byteSum]
  | succ remaining induction =>
      cases buf with
      | nil => simp [checkSum8Loop]
      | cons byte buf =>
          simp only [checkSum8Loop, induction, List.length_cons,
            Nat.add_le_add_iff_right, List.take_succ_cons, byteSum_cons,
            UInt16.ofNat_add, UInt16.add_assoc]

theorem checkSum8_eq (buf : List UInt8) (len : UInt16) :
    checkSum8 buf len =
      if len.toNat ≤ buf.length then
        some (UInt16.ofNat (byteSum (buf.take len.toNat)))
      else none := by
  simp [checkSum8, checkSum8Loop_eq]

theorem bswap16_eq_iff (value : UInt16) (swapped : UInt16) :
    value = bswap16 swapped ↔ value.toNat = (bswap16 swapped).toNat :=
  UInt16.toNat_inj.symm

/-- What the header fields of an object of at least five bytes denote. -/
theorem MsgFramHdr.read_of_length {buf : List UInt8}
    (long : 5 ≤ buf.length) :
    ∃ pHdr, MsgFramHdr.read buf = some pHdr ∧
      (bswap16 pHdr.usHdr).toNat = bigEndianAt buf 0 ∧
      (bswap16 pHdr.usLen).toNat = declaredLength buf ∧
      pHdr.ucSign = signOf buf := by
  obtain ⟨usHdr, hdrRead, hdrValue⟩ :=
    load16_of_inside (show 0 + 1 < buf.length by omega)
  obtain ⟨usLen, lenRead, lenValue⟩ :=
    load16_of_inside (show 2 + 1 < buf.length by omega)
  have signInside : 4 < buf.length := by omega
  refine ⟨⟨usHdr, usLen, buf[4]⟩, ?_, hdrValue, lenValue, ?_⟩
  · simp [MsgFramHdr.read, hdrRead, lenRead,
      List.getElem?_eq_getElem signInside]
  · simp [signOf, List.getD_eq_getElem?_getD,
      List.getElem?_eq_getElem signInside]

theorem usHdr_test_iff {buf : List UInt8} {usHdr : UInt16}
    (value : (bswap16 usHdr).toNat = bigEndianAt buf 0) :
    (usHdr ≠ msgDataFramHdr1 ∧ usHdr ≠ msgDataFramHdr2) ↔
      ¬HasHeader buf := by
  have first : usHdr = msgDataFramHdr1 ↔ bigEndianAt buf 0 = 0xAAAA := by
    rw [← value, bswap16_toNat, ← UInt16.toNat_inj]
    have bound := usHdr.toNat_lt
    simp only [msgDataFramHdr1]
    constructor
    · intro equality
      rw [equality]
      rfl
    · intro equality
      have constant : (0xAAAA : UInt16).toNat = 0xAAAA := rfl
      rw [constant]
      omega
  have second : usHdr = msgDataFramHdr2 ↔ bigEndianAt buf 0 = 0xBBBB := by
    rw [← value, bswap16_toNat, ← UInt16.toNat_inj]
    have bound := usHdr.toNat_lt
    simp only [msgDataFramHdr2]
    constructor
    · intro equality
      rw [equality]
      rfl
    · intro equality
      have constant : (0xBBBB : UInt16).toNat = 0xBBBB := rfl
      rw [constant]
      omega
  simp [HasHeader, first, second]

/-- The checksum and the trailer of an object, when the declared length stays
inside it. -/
theorem sum_and_trailer {buf : List UInt8} {usLen : UInt16}
    (minimum : 2 ≤ usLen.toNat) (inside : usLen.toNat ≤ buf.length) :
    ∃ sum usCRC, checkSum8 buf (usLen - 2) = some sum ∧
      readCrc buf usLen = some usCRC ∧
      sum.toNat = checksumOf buf usLen.toNat ∧
      (bswap16 usCRC).toNat = bigEndianAt buf (usLen.toNat - 2) := by
  obtain ⟨usCRC, crcRead, crcValue⟩ :=
    load16_of_inside (show usLen.toNat - 2 + 1 < buf.length by omega)
  have shorter : (usLen - 2).toNat = usLen.toNat - 2 := by
    have two : (2 : UInt16).toNat = 2 := rfl
    rw [UInt16.toNat_sub_of_le _ _ (by
      rw [UInt16.le_iff_toNat_le, two]
      exact minimum), two]
  refine ⟨UInt16.ofNat (byteSum (buf.take (usLen.toNat - 2))), usCRC,
    ?_, ?_, ?_, crcValue⟩
  · rw [checkSum8_eq, shorter, if_pos (by omega)]
  · rw [readCrc, if_pos minimum, crcRead]
  · simp [checksumOf]

theorem readCrc_outside {buf : List UInt8} {usLen : UInt16}
    (outside : ¬(2 ≤ usLen.toNat ∧ usLen.toNat ≤ buf.length)) :
    readCrc buf usLen = none := by
  unfold readCrc
  split
  · rename_i minimum
    cases load : load16 buf (usLen.toNat - 2) with
    | none => rfl
    | some value =>
        have inside := (load16_eq_some_iff.mp load).1
        exact absurd ⟨minimum, by omega⟩ outside
  · rfl

theorem cloudFrameTest_eq {buf : List UInt8} (long : 5 ≤ buf.length) :
    cloudFrameTest buf =
      if 2 ≤ declaredLength buf ∧ declaredLength buf ≤ buf.length then
        some (decide (HasHeader buf ∧
          HasChecksum buf (declaredLength buf)))
      else none := by
  obtain ⟨pHdr, headerRead, hdrValue, lenValue, _⟩ :=
    MsgFramHdr.read_of_length long
  have headerTest := usHdr_test_iff hdrValue
  unfold cloudFrameTest
  rw [headerRead]
  simp only [Option.bind_eq_bind, Option.bind_some]
  rw [← lenValue]
  split
  · rename_i inside
    obtain ⟨sum, usCRC, sumRead, crcRead, sumValue, crcValue⟩ :=
      sum_and_trailer inside.1 inside.2
    have crcTest : sum ≠ bswap16 usCRC ↔
        ¬HasChecksum buf (bswap16 pHdr.usLen).toNat := by
      rw [Ne, bswap16_eq_iff, sumValue, crcValue, HasChecksum, eq_comm]
    simp only [sumRead, crcRead, Option.bind_some, headerTest, crcTest]
    by_cases header : HasHeader buf
    · by_cases matching : HasChecksum buf (bswap16 pHdr.usLen).toNat
      · simp [header, matching]
      · simp [header, matching]
    · simp [header]
  · rename_i outside
    rw [readCrc_outside outside]
    cases checkSum8 buf (bswap16 pHdr.usLen - 2) <;> rfl

/-- The `int16_t` value of a checksum equals a `uint16_t` one exactly when they
agree and the sign bit is clear. -/
theorem toInt16_eq_iff (sum : UInt16) (other : Nat) :
    sum.toInt16.toInt = (other : Int) ↔
      sum.toNat = other ∧ other < 32768 := by
  have bound := sum.toNat_lt
  have signed : sum.toInt16.toInt =
      if sum.toNat < 32768 then (sum.toNat : Int)
      else (sum.toNat : Int) - 65536 := by
    have cond := BitVec.toInt_eq_toNat_cond sum.toBitVec
    simp only [UInt16.toNat_toBitVec] at cond
    change sum.toBitVec.toInt = _
    rw [cond]
    split <;> split <;> omega
  rw [signed]
  split <;> omega

theorem fkz9FrameTest_eq {buf : List UInt8} (long : 5 ≤ buf.length) :
    fkz9FrameTest buf =
      if ¬HasHeader buf then some false
      else if 2 ≤ declaredLength buf ∧ declaredLength buf ≤ buf.length then
        some (decide (HasChecksum buf (declaredLength buf) ∧
          checksumOf buf (declaredLength buf) < 32768))
      else none := by
  obtain ⟨pHdr, headerRead, hdrValue, lenValue, _⟩ :=
    MsgFramHdr.read_of_length long
  have headerTest := usHdr_test_iff hdrValue
  unfold fkz9FrameTest
  rw [headerRead]
  simp only [Option.bind_eq_bind, Option.bind_some, headerTest]
  rw [← lenValue]
  by_cases header : HasHeader buf
  · simp only [header, not_true_eq_false, if_false]
    split
    · rename_i inside
      obtain ⟨sum, usCRC, sumRead, crcRead, sumValue, crcValue⟩ :=
        sum_and_trailer inside.1 inside.2
      have crcTest : sum.toInt16.toInt ≠ ((bswap16 usCRC).toNat : Int) ↔
          ¬(HasChecksum buf (bswap16 pHdr.usLen).toNat ∧
            checksumOf buf (bswap16 pHdr.usLen).toNat < 32768) := by
        rw [Ne, toInt16_eq_iff, sumValue, crcValue, HasChecksum, eq_comm]
        constructor
        · rintro differs ⟨equal, small⟩
          exact differs ⟨equal, by rw [equal]; exact small⟩
        · rintro differs ⟨equal, small⟩
          exact differs ⟨equal, by rw [← equal]; exact small⟩
      simp only [sumRead, crcRead, Option.bind_some, crcTest]
      by_cases accepted : HasChecksum buf (bswap16 pHdr.usLen).toNat ∧
          checksumOf buf (bswap16 pHdr.usLen).toNat < 32768
      · simp [accepted]
      · simp [accepted]
    · rename_i outside
      rw [readCrc_outside outside]
      cases checkSum8 buf (bswap16 pHdr.usLen - 2) <;> rfl
  · simp [header]

/-! ## Frames at the start of a longer object -/

theorem hasHeader_append {left right : List UInt8}
    (long : 2 ≤ left.length) :
    HasHeader (left ++ right) ↔ HasHeader left := by
  have inside : 0 + 1 < left.length := by omega
  simp only [HasHeader, bigEndianAt_append_left inside]

theorem declaredLength_append {left right : List UInt8}
    (long : 4 ≤ left.length) :
    declaredLength (left ++ right) = declaredLength left :=
  bigEndianAt_append_left (by omega)

theorem signOf_append {left right : List UInt8} (long : 5 ≤ left.length) :
    signOf (left ++ right) = signOf left := by
  have inside : 4 < left.length := by omega
  simp [signOf, List.getElem?_append_left, inside]

theorem checksumOf_append {left right : List UInt8} {len : Nat}
    (inside : len - 2 ≤ left.length) :
    checksumOf (left ++ right) len = checksumOf left len := by
  simp [checksumOf, List.take_append_of_le_length inside]

theorem hasChecksum_append {left right : List UInt8} {len : Nat}
    (minimum : 2 ≤ len) (inside : len ≤ left.length) :
    HasChecksum (left ++ right) len ↔ HasChecksum left len := by
  unfold HasChecksum
  rw [checksumOf_append (by omega), bigEndianAt_append_left (by omega)]

end RtA100
