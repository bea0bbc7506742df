import RtA100.Validators

/-!
# One damaged byte

A frame is guarded by the sum of its bytes modulo 2^16.  One byte carries less
than 2^16, so a frame with a single byte replaced either sums to another
number or carries another checksum, and neither receive loop takes it.
-/

namespace RtA100

open Library

/-- A frame of the format after one byte outside `usLen` has been replaced. -/
structure Damaged (frame : List UInt8) (position : Nat) (byte : UInt8) :
    Prop where
  inside : position < frame.length
  outsideLength : position ≠ 2 ∧ position ≠ 3
  changed : byte ≠ frame.getD position 0

theorem getD_set_same {bytes : List UInt8} {position : Nat} {byte : UInt8}
    (inside : position < bytes.length) :
    (bytes.set position byte).getD position 0 = byte := by
  simp [List.getD_eq_getElem?_getD, inside]

theorem getD_set_other {bytes : List UInt8} {position other : Nat}
    {byte : UInt8} (different : other ≠ position) :
    (bytes.set position byte).getD other 0 = bytes.getD other 0 := by
  simp [List.getD_eq_getElem?_getD, List.getElem?_set_ne (Ne.symm different)]

theorem bigEndianAt_set_other {bytes : List UInt8} {position offset : Nat}
    {byte : UInt8} (first : offset ≠ position)
    (second : offset + 1 ≠ position) :
    bigEndianAt (bytes.set position byte) offset =
      bigEndianAt bytes offset := by
  simp only [bigEndianAt, getD_set_other first, getD_set_other second]

/-- A replaced byte of a big-endian number changes the number. -/
theorem bigEndianAt_set_changed {bytes : List UInt8} {position offset : Nat}
    {byte : UInt8} (inside : position < bytes.length)
    (covered : position = offset ∨ position = offset + 1)
    (changed : byte ≠ bytes.getD position 0) :
    bigEndianAt (bytes.set position byte) offset ≠
      bigEndianAt bytes offset := by
  have different : byte.toNat ≠ (bytes.getD position 0).toNat :=
    fun same => changed (UInt8.toNat_inj.mp same)
  cases covered with
  | inl first =>
      subst first
      have other : position + 1 ≠ position := by omega
      simp only [bigEndianAt, bigEndian16, getD_set_same inside,
        getD_set_other other]
      omega
  | inr second =>
      subst second
      have other : offset ≠ offset + 1 := by omega
      simp only [bigEndianAt, bigEndian16, getD_set_same inside,
        getD_set_other other]
      omega

theorem byteSum_set {bytes : List UInt8} {position : Nat} (byte : UInt8)
    (inside : position < bytes.length) :
    byteSum (bytes.set position byte) + (bytes.getD position 0).toNat =
      byteSum bytes + byte.toNat := by
  induction bytes generalizing position with
  | nil => exact absurd inside (Nat.not_lt_zero position)
  | cons head bytes induction =>
      cases position with
      | zero =>
          simp only [List.set_cons_zero, byteSum_cons, List.getD_cons_zero]
          omega
      | succ position =>
          have rest := induction (Nat.lt_of_succ_lt_succ inside)
          simp only [List.set_cons_succ, byteSum_cons, List.getD_cons_succ]
          omega

/-- A replaced summand changes the sum modulo 2^16. -/
theorem checksumOf_set_changed {frame : List UInt8} {position : Nat}
    {byte : UInt8} (summed : position < frame.length - 2)
    (changed : byte ≠ frame.getD position 0) :
    checksumOf (frame.set position byte) frame.length ≠
      checksumOf frame frame.length := by
  have different : byte.toNat ≠ (frame.getD position 0).toNat :=
    fun same => changed (UInt8.toNat_inj.mp same)
  have inside : position < (frame.take (frame.length - 2)).length := by
    rw [List.length_take]
    omega
  have kept : (frame.take (frame.length - 2)).getD position 0 =
      frame.getD position 0 := by
    simp [List.getD_eq_getElem?_getD, List.getElem?_take_of_lt summed]
  have sum := byteSum_set byte inside
  rw [kept] at sum
  have newByte := byte.toNat_lt
  have oldByte := (frame.getD position 0).toNat_lt
  simp only [checksumOf, List.take_set]
  omega

theorem checksumOf_set_trailer {frame : List UInt8} {position : Nat}
    {byte : UInt8} (trailer : frame.length - 2 ≤ position) :
    checksumOf (frame.set position byte) frame.length =
      checksumOf frame frame.length := by
  rw [checksumOf, checksumOf, List.take_set, List.set_eq_of_length_le]
  rw [List.length_take]
  omega

/-- No damaged frame carries its checksum. -/
theorem Damaged.not_hasChecksum {frame : List UInt8} {position : Nat}
    {byte : UInt8} (damaged : Damaged frame position byte)
    (minimum : 7 ≤ frame.length)
    (checksum : HasChecksum frame frame.length) :
    ¬HasChecksum (frame.set position byte) frame.length := by
  intro again
  have inside := damaged.inside
  unfold HasChecksum at checksum again
  by_cases summed : position < frame.length - 2
  · have sameTrailer : bigEndianAt (frame.set position byte)
        (frame.length - 2) = bigEndianAt frame (frame.length - 2) :=
      bigEndianAt_set_other (by omega) (by omega)
    rw [sameTrailer, checksum] at again
    exact checksumOf_set_changed summed damaged.changed again.symm
  · have sameSum : checksumOf (frame.set position byte) frame.length =
        checksumOf frame frame.length :=
      checksumOf_set_trailer (Nat.le_of_not_gt summed)
    rw [sameSum, ← checksum] at again
    exact bigEndianAt_set_changed inside (by omega) damaged.changed again

/-- The damage leaves the declared length alone. -/
theorem Damaged.declared {frame : List UInt8} {position : Nat}
    {byte : UInt8} (damaged : Damaged frame position byte)
    (declared : declaredLength frame = frame.length) :
    declaredLength (frame.set position byte) =
      (frame.set position byte).length := by
  have outside := damaged.outsideLength
  rw [List.length_set, ← declared]
  exact bigEndianAt_set_other (Ne.symm outside.1) (Ne.symm outside.2)

theorem Damaged.not_hasFormat {frame : List UInt8} {position : Nat}
    {byte : UInt8} (damaged : Damaged frame position byte)
    (minimum : 7 ≤ frame.length)
    (checksum : HasChecksum frame frame.length) :
    ¬HasFormat (frame.set position byte) := by
  intro format
  have carried := format.2
  rw [List.length_set] at carried
  exact damaged.not_hasChecksum minimum checksum carried

/-- A frame that the cloud loop accepts is rejected by both loops once one byte
outside its length field has been replaced, whatever the loops' buffers hold. -/
theorem damaged_frame_rejected {frame : List UInt8}
    (declared : declaredLength frame = frame.length)
    (minimum : 7 ≤ frame.length) (maximum : frame.length ≤ 256)
    {buf : Buffer 256} (accepted : cloudAccepts buf frame = some true)
    {position : Nat} {byte : UInt8} (damaged : Damaged frame position byte) :
    (∀ cloudBuf, cloudAccepts cloudBuf (frame.set position byte) =
        some false) ∧
      ∀ fkz9Buf, fkz9Accepts fkz9Buf (frame.set position byte) =
        some false := by
  rw [cloudAccepts_declared declared minimum maximum, Option.some.injEq,
    decide_eq_true_iff] at accepted
  have rejected := damaged.not_hasFormat minimum accepted.2
  have sameLength : (frame.set position byte).length = frame.length :=
    List.length_set
  have stillDeclared := damaged.declared declared
  constructor
  · intro cloudBuf
    rw [cloudAccepts_declared stillDeclared (by omega) (by omega),
      decide_eq_false rejected]
  · intro fkz9Buf
    rw [fkz9Accepts_declared stillDeclared (by omega) (by omega),
      decide_eq_false (fun both => rejected both.1)]

theorem damaged_frame_rejected_empty_frame :
    (∀ cloudBuf, cloudAccepts cloudBuf [0xAA, 0xAA, 0, 7, 0x90, 1, 0xEC] =
        some false) ∧
      ∀ fkz9Buf, fkz9Accepts fkz9Buf [0xAA, 0xAA, 0, 7, 0x90, 1, 0xEC] =
        some false :=
  @damaged_frame_rejected [0xAA, 0xAA, 0, 7, 0x91, 1, 0xEC]
    (by decide) (by decide) (by decide) (Buffer.filled 256 0)
    (by decide +kernel) 4 0x90
    { inside := by decide
      outsideLength := by decide
      changed := by decide }

end RtA100
