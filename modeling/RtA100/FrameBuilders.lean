import RtA100.Frame
import RtA100.Publib

/-!
# Frames built by the device

Every builder fills a header and a packed data segment, computes `checkSum_8`
over both and stores it, swapped, behind them.  `sealFrame` is that common
work; each builder is `sealFrame` applied to its own sign and segment.
-/

namespace RtA100

open Library

/-- Fill in the header, the segment and the trailing checksum. -/
def sealFrame (ucSign : UInt8) (segment : List UInt8) :
    Option (List UInt8) := do
  let len := UInt16.ofNat (5 + segment.length + 2)
  let buf := littleEndianBytes msgDataFramHdr1 ++
    littleEndianBytes (bswap16 len) ++ [ucSign] ++ segment
  let crc ← checkSum8 buf (len - 2)
  some (buf ++ littleEndianBytes (bswap16 crc))

/-- The fields of `DevBaseInfo` that the services read. -/
structure DevBaseInfo where
  devAddr : UInt16
  cpuSw : UInt8
  cpuHw : UInt8
  adSw : UInt8
  adHw : UInt8
  ctrlSw : UInt8
  ctrlHw : UInt8
  netSw : UInt8
  netHw : UInt8
deriving DecidableEq

def tcpMsgSignDevInfoResp : UInt8 := 0x86

def msgSignWaveFileResp : UInt8 := 0xAF

def msgSignTransNavData : UInt8 := 0xF0

/-- `strncpy` of at most `count` bytes, padded with zeros. -/
def strncpyBytes (count : Nat) (source : List UInt8) : List UInt8 :=
  source.take count ++ List.replicate (count - source.length) 0

/-- The `DevInfoDataSeg` filled by `func_dev_info_resp`: a buffer of 0xFF in
which the known versions, the address and the SIM id are stored. -/
def devInfoDataSeg (info : DevBaseInfo) (simId : List UInt8) : List UInt8 :=
  littleEndianBytes (dbToBcd info.devAddr) ++ [info.cpuSw, info.cpuHw] ++
    List.replicate 4 0xFF ++ strncpyBytes 20 simId ++
    [info.ctrlSw, info.ctrlHw] ++ List.replicate 10 0xFF ++
    [info.netSw, info.netHw, info.adSw, info.adHw] ++
    [0xFF, 0xFF, 0xFF, 0xFF, 0, 0]

/-- The frame sent by `func_dev_info_resp`. -/
def funcDevInfoResp (info : DevBaseInfo) (simId : List UInt8) :
    Option (List UInt8) :=
  sealFrame tcpMsgSignDevInfoResp (devInfoDataSeg info simId)

/-- The `WaveFileResp` segment. -/
def waveFileRespSeg (info : DevBaseInfo) (time : CustomTime) : List UInt8 :=
  littleEndianBytes (dbToBcd info.devAddr) ++
    [byteToBcd (time.usYear - 2000).toUInt8, byteToBcd time.ucMonth,
      byteToBcd time.ucDay, byteToBcd time.ucHour, byteToBcd time.ucMinute, 0]

/-- The frame sent by `func_wave_file_resp`. -/
def funcWaveFileResp (info : DevBaseInfo) (time : CustomTime) :
    Option (List UInt8) :=
  sealFrame msgSignWaveFileResp (waveFileRespSeg info time)

/-- `sizeof(NAVDataSeg)` -/
def navDataSegSize : Nat := 154

/-- The frame sent by `nav_data_msg_task_cb` for a filled `NAVDataSeg`. -/
def navDataMsg (segment : Buffer navDataSegSize) : Option (List UInt8) :=
  sealFrame msgSignTransNavData segment.bytes

theorem littleEndianBytes_bswap16 (value : UInt16) :
    littleEndianBytes (bswap16 value) = bigEndianBytes value := by
  have bound := value.toNat_lt
  have swapped := bswap16_toNat value
  have low : (bswap16 value).toNat % 256 = value.toNat / 256 := by omega
  have high : (bswap16 value).toNat / 256 = value.toNat % 256 := by omega
  simp [littleEndianBytes, bigEndianBytes, low, high]

theorem bigEndian16_bytes (value : UInt16) :
    bigEndian16 (UInt8.ofNat (value.toNat / 256))
      (UInt8.ofNat (value.toNat % 256)) = value.toNat := by
  have bound := value.toNat_lt
  simp only [bigEndian16, UInt8.toNat_ofNat']
  omega

/-- A sealed segment is a complete frame of seven more bytes that carries the
sign it was sealed with. -/
theorem sealFrame_wellFormed (ucSign : UInt8) (segment : List UInt8)
    (short : segment.length + 7 < 65536) :
    ∃ frame, sealFrame ucSign segment = some frame ∧ WellFormed frame ∧
      frame.length = segment.length + 7 ∧ signOf frame = ucSign := by
  let len := UInt16.ofNat (5 + segment.length + 2)
  have lenValue : len.toNat = segment.length + 7 := by
    simp only [len, UInt16.toNat_ofNat']
    omega
  let buf := littleEndianBytes msgDataFramHdr1 ++
    littleEndianBytes (bswap16 len) ++ [ucSign] ++ segment
  have bufLength : buf.length = segment.length + 5 := by
    simp [buf, littleEndianBytes]
  have shorter : (len - 2).toNat = buf.length := by
    have two : (2 : UInt16).toNat = 2 := rfl
    rw [UInt16.toNat_sub_of_le _ _ (by
      rw [UInt16.le_iff_toNat_le, two]
      omega), two]
    omega
  let crc := UInt16.ofNat (byteSum buf)
  have crcRead : checkSum8 buf (len - 2) = some crc := by
    rw [checkSum8_eq, shorter, if_pos (Nat.le_refl _), List.take_length]
  let frame := buf ++ bigEndianBytes crc
  have frameLength : frame.length = segment.length + 7 := by
    simp [frame, bufLength, bigEndianBytes]
  have built : sealFrame ucSign segment = some frame := by
    change (checkSum8 buf (len - 2)).bind
      (fun crc => some (buf ++ littleEndianBytes (bswap16 crc))) = some frame
    rw [crcRead, Option.bind_some, littleEndianBytes_bswap16]
  refine ⟨frame, built, ⟨?_, ?_, by omega, ?_⟩, frameLength, ?_⟩
  · left
    have firstBytes : bigEndianAt buf 0 = 0xAAAA := by
      simp [buf, bigEndianAt, littleEndianBytes, msgDataFramHdr1]
      decide
    rw [bigEndianAt_append_left (by omega), firstBytes]
  · rw [frameLength, ← lenValue, declaredLength,
      bigEndianAt_append_left (by omega), ← bigEndian16_bytes len]
    simp only [buf, littleEndianBytes_bswap16]
    simp [bigEndianAt, bigEndianBytes, littleEndianBytes]
  · have bodyLength : frame.length - 2 = buf.length := by omega
    have body : frame.take (frame.length - 2) = buf := by
      rw [bodyLength]
      exact List.take_left
    rw [HasChecksum, checksumOf, body]
    have trailer : bigEndianAt frame buf.length = crc.toNat := by
      rw [← bigEndian16_bytes crc]
      simp [frame, bigEndianAt, bigEndianBytes]
    rw [bodyLength, trailer]
    simp [crc]
  · rw [signOf_append (by omega)]
    simp [buf, signOf, littleEndianBytes]

/-- The segment lies behind a header of five bytes and before a trailer of two,
none of whose lengths depends on it. -/
theorem sealFrame_segment {ucSign : UInt8} {segment frame : List UInt8}
    (sealed : sealFrame ucSign segment = some frame) :
    ∃ header trailer, header.length = 5 ∧ trailer.length = 2 ∧
      frame = header ++ (segment ++ trailer) := by
  simp only [sealFrame, Option.bind_eq_bind, Option.bind_eq_some_iff,
    Option.some.injEq] at sealed
  obtain ⟨crc, _, rfl⟩ := sealed
  refine ⟨littleEndianBytes msgDataFramHdr1 ++
    littleEndianBytes (bswap16 (UInt16.ofNat (5 + segment.length + 2))) ++
      [ucSign], littleEndianBytes (bswap16 crc), rfl, rfl, ?_⟩
  simp only [List.append_assoc]

theorem devInfoDataSeg_length (info : DevBaseInfo) (simId : List UInt8) :
    (devInfoDataSeg info simId).length = 50 := by
  simp [devInfoDataSeg, strncpyBytes, littleEndianBytes]
  omega

theorem waveFileRespSeg_length (info : DevBaseInfo) (time : CustomTime) :
    (waveFileRespSeg info time).length = 8 := by
  simp [waveFileRespSeg, littleEndianBytes]

end RtA100
