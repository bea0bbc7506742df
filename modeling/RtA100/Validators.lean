import RtA100.Frame

/-!
# The two receive validators

`cloudAccepts` and `fkz9Accepts` copy a dequeued message into the buffer of
their loop, whatever that buffer still holds, and test it there.  The sums of
the two loops have different C types, so they agree on a frame of the format
exactly when its checksum leaves the sign bit of an `int16_t` clear.
-/

namespace RtA100

open Library

def cloudAccepts (buf : Buffer 256) (message : List UInt8) : Option Bool := do
  let buf ← buf.memcpy message message.length
  cloudFrameTest buf.bytes

def fkz9Accepts (buf : Buffer 1500) (message : List UInt8) : Option Bool := do
  let buf ← buf.memcpy message message.length
  fkz9FrameTest buf.bytes

/-- The frame format, for a byte string that declares its own length. -/
def HasFormat (frame : List UInt8) : Prop :=
  HasHeader frame ∧ HasChecksum frame frame.length

instance (frame : List UInt8) : Decidable (HasFormat frame) :=
  inferInstanceAs (Decidable (_ ∧ _))

/-- Both validators decide the frame format, and so decide it alike, on a frame
that fits their buffers. -/
structure ValidatorsAgree (frame : List UInt8) : Prop where
  cloud : frame.length ≤ 256 → ∀ buf,
    cloudAccepts buf frame = some (decide (HasFormat frame))
  fkz9 : ∀ buf, fkz9Accepts buf frame = some (decide (HasFormat frame))
  same : frame.length ≤ 256 → ∀ cloudBuf fkz9Buf,
    cloudAccepts cloudBuf frame = fkz9Accepts fkz9Buf frame

/-- The cloud loop reads the header of the message, and sums as many bytes of
its buffer as the message declares. -/
theorem cloudAccepts_eq {buf : Buffer 256} {message : List UInt8}
    (minimum : 4 ≤ message.length) (fits : message.length ≤ 256) :
    cloudAccepts buf message =
      if 2 ≤ declaredLength message ∧ declaredLength message ≤ 256 then
        some (decide (HasHeader message ∧
          HasChecksum (buf.overwrite message fits).bytes
            (declaredLength message)))
      else none := by
  have size := (buf.overwrite message fits).size
  have sameLength : declaredLength (buf.overwrite message fits).bytes =
      declaredLength message :=
    declaredLength_append minimum
  have sameHeader : HasHeader (buf.overwrite message fits).bytes ↔
      HasHeader message :=
    hasHeader_append (by omega)
  unfold cloudAccepts
  rw [Buffer.memcpy_whole fits, Option.bind_eq_bind, Option.bind_some,
    cloudFrameTest_eq (by omega), size, sameLength,
    decide_eq_decide.mpr (and_congr sameHeader Iff.rfl)]

theorem cloudAccepts_overwrite {buf : Buffer 256} {message : List UInt8}
    (fits : message.length ≤ 256) :
    cloudAccepts buf message =
      cloudFrameTest (buf.overwrite message fits).bytes := by
  rw [cloudAccepts, Buffer.memcpy_whole fits]
  rfl

/-- A message accepted by the test has the header and the checksum it declares
within the buffer. -/
theorem cloudAccepts_true_iff {buf : Buffer 256} {message : List UInt8}
    (minimum : 4 ≤ message.length) (fits : message.length ≤ 256) :
    cloudAccepts buf message = some true ↔
      (2 ≤ declaredLength message ∧ declaredLength message ≤ 256) ∧
        HasHeader message ∧
          HasChecksum (buf.overwrite message fits).bytes
            (declaredLength message) := by
  rw [cloudAccepts_eq minimum fits]
  split
  · rename_i declared
    rw [Option.some.injEq, decide_eq_true_iff]
    exact ⟨fun accepted => ⟨declared, accepted⟩,
      fun accepted => accepted.2⟩
  · rename_i outside
    simp [outside]

theorem cloudAccepts_declared {buf : Buffer 256} {frame : List UInt8}
    (declared : declaredLength frame = frame.length)
    (minimum : 7 ≤ frame.length) (fits : frame.length ≤ 256) :
    cloudAccepts buf frame = some (decide (HasFormat frame)) := by
  have sameChecksum :
      HasChecksum (buf.overwrite frame fits).bytes frame.length ↔
        HasChecksum frame frame.length :=
    hasChecksum_append (by omega) (Nat.le_refl _)
  rw [cloudAccepts_eq (by omega) fits, declared, if_pos ⟨by omega, fits⟩,
    Option.some.injEq, decide_eq_decide, sameChecksum]
  rfl

/-- The FKZ9 loop on a frame that declares its own length, whatever its buffer
holds behind it. -/
theorem fkz9FrameTest_overwrite {buf : Buffer 1500} {frame : List UInt8}
    (declared : declaredLength frame = frame.length)
    (minimum : 5 ≤ frame.length) (fits : frame.length ≤ 1500) :
    fkz9FrameTest (buf.overwrite frame fits).bytes =
      some (decide (HasFormat frame ∧
        checksumOf frame frame.length < 32768)) := by
  have size := (buf.overwrite frame fits).size
  rw [fkz9FrameTest_eq (by omega), size]
  simp only [Buffer.overwrite_bytes, HasFormat, declared,
    declaredLength_append (show 4 ≤ frame.length by omega),
    hasHeader_append (show 2 ≤ frame.length by omega),
    hasChecksum_append (show 2 ≤ frame.length by omega) (Nat.le_refl _),
    checksumOf_append (show frame.length - 2 ≤ frame.length by omega)]
  by_cases header : HasHeader frame
  · have inside : 2 ≤ frame.length ∧ frame.length ≤ 1500 := by omega
    simp [header, inside]
  · simp [header]

theorem fkz9Accepts_declared {buf : Buffer 1500} {frame : List UInt8}
    (declared : declaredLength frame = frame.length)
    (minimum : 7 ≤ frame.length) (fits : frame.length ≤ 1500) :
    fkz9Accepts buf frame =
      some (decide (HasFormat frame ∧
        checksumOf frame frame.length < 32768)) := by
  unfold fkz9Accepts
  rw [Buffer.memcpy_whole fits, Option.bind_eq_bind, Option.bind_some,
    fkz9FrameTest_overwrite declared (by omega) fits]

/-- The validators agree with the format and with each other exactly on the
frames whose checksum, if they have the format, is below 2^15. -/
theorem validatorsAgree_iff {frame : List UInt8}
    (declared : declaredLength frame = frame.length)
    (minimum : 7 ≤ frame.length) (maximum : frame.length ≤ 1400) :
    ValidatorsAgree frame ↔
      (HasFormat frame → checksumOf frame frame.length < 32768) := by
  have cloud (buf : Buffer 256) (fits : frame.length ≤ 256) :=
    @cloudAccepts_declared buf frame declared minimum fits
  have fkz9 (buf : Buffer 1500) :=
    @fkz9Accepts_declared buf frame declared minimum (by omega)
  constructor
  · intro agree format
    have accepted := agree.fkz9 (Buffer.filled 1500 0)
    rw [fkz9, Option.some.injEq, decide_eq_decide] at accepted
    exact (accepted.mpr format).2
  · intro small
    have decided (buf : Buffer 1500) :
        fkz9Accepts buf frame = some (decide (HasFormat frame)) := by
      rw [fkz9, Option.some.injEq, decide_eq_decide]
      exact ⟨fun accepted => accepted.1,
        fun format => ⟨format, small format⟩⟩
    exact
      { cloud := fun fits buf => cloud buf fits
        fkz9 := decided
        same := fun fits cloudBuf fkz9Buf => by
          rw [cloud cloudBuf fits, decided fkz9Buf] }

theorem validatorsAgree_empty_frame :
    ValidatorsAgree [0xAA, 0xAA, 0, 7, 0x91, 1, 0xEC] :=
  (validatorsAgree_iff (by decide) (by decide) (by decide)).mpr
    (fun _ => by decide)

def loudFrame : List UInt8 :=
  [0xAA, 0xAA, 0, 0x8C, 1] ++ List.replicate 133 0xFF ++ [0x86, 0x5C]

theorem loudFrame_validators_differ :
    ¬∀ frame : List UInt8, declaredLength frame = frame.length →
      7 ≤ frame.length → frame.length ≤ 1400 → ValidatorsAgree frame := by
  intro claimed
  have declared : declaredLength loudFrame = loudFrame.length := by
    decide +kernel
  have length : loudFrame.length = 140 := by
    decide +kernel
  have agree := claimed loudFrame declared (by omega) (by omega)
  have accepted := agree.fkz9 (Buffer.filled 1500 0)
  rw [fkz9Accepts_declared declared (by omega) (by omega),
    Option.some.injEq, decide_eq_decide] at accepted
  have format : HasFormat loudFrame := by
    decide +kernel
  have loud : ¬checksumOf loudFrame loudFrame.length < 32768 := by
    decide +kernel
  exact loud (accepted.mpr format).2

end RtA100
