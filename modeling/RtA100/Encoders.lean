import RtA100.Heartbeat
import RtA100.NavData
import RtA100.Validators

/-!
# Encoders and validators

Whatever the device builds passes both of its own receive validators.  The
cloud validator only needs a complete frame that fits its buffer; the FKZ9
validator also needs a byte sum below 2^15.  Three of the segments are short
enough for any content, and the reserved bytes of the navigation segment are
zero.
-/

namespace RtA100

open Library

/-- A frame built in a buffer of `capacity` bytes declares the length that is
handed on, and both validators accept it. -/
structure FrameAccepted (capacity : Nat) (frame : List UInt8) : Prop where
  declared : declaredLength frame = frame.length
  fits : frame.length ≤ capacity
  cloud : ∀ buf, cloudAccepts buf frame = some true
  fkz9 : ∀ buf, fkz9Accepts buf frame = some true

/-- A sealed frame sums its header, of five bytes, and its segment. -/
theorem sealFrame_checksum {ucSign : UInt8} {segment frame : List UInt8}
    (sealed : sealFrame ucSign segment = some frame) :
    checksumOf frame frame.length ≤ 255 * 5 + byteSum segment := by
  simp only [sealFrame, Option.bind_eq_bind, Option.bind_eq_some_iff,
    Option.some.injEq] at sealed
  obtain ⟨crc, _, rfl⟩ := sealed
  let header := littleEndianBytes msgDataFramHdr1 ++
    littleEndianBytes (bswap16 (UInt16.ofNat (5 + segment.length + 2))) ++
      [ucSign]
  have headerLength : header.length = 5 := rfl
  have headerSum := byteSum_le header
  have trailer : (littleEndianBytes (bswap16 crc)).length = 2 := rfl
  have length : (header ++ segment).length =
      (header ++ segment ++ littleEndianBytes (bswap16 crc)).length - 2 := by
    rw [@List.length_append _ (header ++ segment), trailer]
    omega
  have body : (header ++ segment ++ littleEndianBytes (bswap16 crc)).take
      ((header ++ segment ++ littleEndianBytes (bswap16 crc)).length - 2) =
      header ++ segment :=
    List.take_left' length
  have sum := byteSum_append header segment
  rw [headerLength] at headerSum
  unfold checksumOf
  rw [body, sum]
  exact Nat.le_trans (Nat.mod_le _ _) (by omega)

/-- A sealed segment with a small byte sum is accepted by both validators. -/
theorem sealFrame_accepted {ucSign : UInt8} {segment : List UInt8}
    {capacity : Nat} (short : segment.length + 7 ≤ 256)
    (fits : segment.length + 7 ≤ capacity) (quiet : byteSum segment < 31493) :
    ∃ frame, sealFrame ucSign segment = some frame ∧
      FrameAccepted capacity frame := by
  obtain ⟨frame, sealed, formed, length, _⟩ :=
    sealFrame_wellFormed ucSign segment (by omega)
  have sum := sealFrame_checksum sealed
  have format : HasFormat frame := ⟨formed.header, formed.checksum⟩
  have small : checksumOf frame frame.length < 32768 := by omega
  refine ⟨frame, sealed, formed.declared, by omega, fun buf => ?_,
    fun buf => ?_⟩
  · rw [cloudAccepts_declared formed.declared formed.minimum (by omega),
      decide_eq_true format]
  · rw [fkz9Accepts_declared formed.declared formed.minimum (by omega),
      decide_eq_true ⟨format, small⟩]

theorem byteSum_navDataSeg (convert : FloatConversions) (sg : SgData) :
    byteSum (navDataSeg convert sg).bytes ≤ 255 * 90 := by
  have fields := byteSum_le (navDataFields convert sg)
  rw [navDataFields_length] at fields
  simp only [navDataSeg, byteSum_append, byteSum_zeros]
  omega

/-- Every frame the device builds, for any data, is accepted. -/
theorem built_frames_accepted (info : DevBaseInfo) (simId : List UInt8)
    (time : CustomTime) (convert : FloatConversions) (sg : SgData) :
    (∃ frame, heartbeatReq info time = some frame ∧
      FrameAccepted 100 frame) ∧
    (∃ frame, funcDevInfoResp info simId = some frame ∧
      FrameAccepted 128 frame) ∧
    (∃ frame, navDataMsgTask convert sg = some frame ∧
      FrameAccepted 512 frame) ∧
    (∃ frame, funcWaveFileResp info time = some frame ∧
      FrameAccepted 64 frame) := by
  refine ⟨?_, ?_, ?_, ?_⟩
  · have length := heartbeatDataSeg_length info time
    have sum := byteSum_le (heartbeatDataSeg info time)
    exact sealFrame_accepted (by omega) (by omega) (by omega)
  · have length := devInfoDataSeg_length info simId
    have sum := byteSum_le (devInfoDataSeg info simId)
    exact sealFrame_accepted (by omega) (by omega) (by omega)
  · have length := (navDataSeg convert sg).size
    have size : navDataSegSize = 154 := rfl
    have sum := byteSum_navDataSeg convert sg
    exact sealFrame_accepted (by omega) (by omega) (by omega)
  · have length := waveFileRespSeg_length info time
    have sum := byteSum_le (waveFileRespSeg info time)
    exact sealFrame_accepted (by omega) (by omega) (by omega)

end RtA100
