import RtA100.Library.Bytes

/-!
# Reading fixed-width values off a byte string

Each reader takes one value off the front and returns the rest, so a decoder is
a chain of them.  A reader applied to a value that was just written gives the
value back, whatever follows it.
-/

namespace Library

/-- The four bytes of a value, most significant first. -/
def bigEndian32 (value : UInt32) : List UInt8 :=
  [(value >>> 24).toUInt8, (value >>> 16).toUInt8, (value >>> 8).toUInt8,
    value.toUInt8]

def take8 : List UInt8 → Option (UInt8 × List UInt8)
  | byte :: rest => some (byte, rest)
  | [] => none

/-- A big-endian 16-bit value. -/
def take16 : List UInt8 → Option (UInt16 × List UInt8)
  | first :: second :: rest =>
      some (.ofNat (256 * first.toNat + second.toNat), rest)
  | _ => none

/-- A big-endian 32-bit value. -/
def take32 : List UInt8 → Option (UInt32 × List UInt8)
  | first :: second :: third :: fourth :: rest =>
      some (.ofNat (16777216 * first.toNat + 65536 * second.toNat +
        256 * third.toNat + fourth.toNat), rest)
  | _ => none

/-- A little-endian 16-bit value. -/
def takeLittle16 : List UInt8 → Option (UInt16 × List UInt8)
  | first :: second :: rest =>
      some (.ofNat (first.toNat + 256 * second.toNat), rest)
  | _ => none

/-- A little-endian 32-bit value. -/
def takeLittle32 : List UInt8 → Option (UInt32 × List UInt8)
  | first :: second :: third :: fourth :: rest =>
      some (.ofNat (first.toNat + 256 * second.toNat +
        65536 * third.toNat + 16777216 * fourth.toNat), rest)
  | _ => none

/-- A little-endian 64-bit value. -/
def takeLittle64 (bytes : List UInt8) : Option (UInt64 × List UInt8) := do
  let (low, bytes) ← takeLittle32 bytes
  let (high, bytes) ← takeLittle32 bytes
  some (.ofNat (low.toNat + 4294967296 * high.toNat), bytes)

theorem take16_bigEndian (value : UInt16) (rest : List UInt8) :
    take16 (bigEndianBytes value ++ rest) = some (value, rest) := by
  have bound : value.toNat < 65536 := value.toNat_lt
  simp only [bigEndianBytes, List.cons_append, List.nil_append, take16,
    UInt8.toNat_ofNat', Option.some.injEq, Prod.mk.injEq, and_true]
  apply UInt16.toNat_inj.mp
  simp only [UInt16.toNat_ofNat']
  omega

theorem takeLittle16_littleEndian (value : UInt16) (rest : List UInt8) :
    takeLittle16 (littleEndianBytes value ++ rest) = some (value, rest) := by
  have bound : value.toNat < 65536 := value.toNat_lt
  simp only [littleEndianBytes, List.cons_append, List.nil_append,
    takeLittle16, UInt8.toNat_ofNat', Option.some.injEq, Prod.mk.injEq,
    and_true]
  apply UInt16.toNat_inj.mp
  simp only [UInt16.toNat_ofNat']
  omega

theorem byte32_toNat (value : UInt32) :
    value.toUInt8.toNat = value.toNat % 256 ∧
      (value >>> 8).toUInt8.toNat = value.toNat / 256 % 256 ∧
        (value >>> 16).toUInt8.toNat = value.toNat / 65536 % 256 ∧
          (value >>> 24).toUInt8.toNat = value.toNat / 16777216 % 256 := by
  simp [Nat.shiftRight_eq_div_pow]

theorem take32_bigEndian (value : UInt32) (rest : List UInt8) :
    take32 (bigEndian32 value ++ rest) = some (value, rest) := by
  have bound : value.toNat < 4294967296 := value.toNat_lt
  obtain ⟨first, second, third, fourth⟩ := byte32_toNat value
  simp only [bigEndian32, List.cons_append, List.nil_append, take32,
    first, second, third, fourth, Option.some.injEq, Prod.mk.injEq, and_true]
  apply UInt32.toNat_inj.mp
  simp only [UInt32.toNat_ofNat']
  omega

theorem takeLittle32_littleEndian (value : UInt32) (rest : List UInt8) :
    takeLittle32 (littleEndian32 value ++ rest) = some (value, rest) := by
  have bound : value.toNat < 4294967296 := value.toNat_lt
  obtain ⟨first, second, third, fourth⟩ := byte32_toNat value
  simp only [littleEndian32, List.cons_append, List.nil_append, takeLittle32,
    first, second, third, fourth, Option.some.injEq, Prod.mk.injEq, and_true]
  apply UInt32.toNat_inj.mp
  simp only [UInt32.toNat_ofNat']
  omega

theorem takeLittle64_littleEndian (value : UInt64) (rest : List UInt8) :
    takeLittle64 (littleEndian64 value ++ rest) = some (value, rest) := by
  have bound : value.toNat < 18446744073709551616 := value.toNat_lt
  simp only [takeLittle64, littleEndian64, List.append_assoc,
    takeLittle32_littleEndian, Option.bind_eq_bind, Option.bind_some,
    Option.some.injEq, Prod.mk.injEq, and_true]
  apply UInt64.toNat_inj.mp
  simp [Nat.shiftRight_eq_div_pow]
  omega

/-- The two byte masks of `bswap32`. -/
theorem byteMask_getLsbD : ∀ index < 8,
    (0xFF00#32).getLsbD index = false ∧
      (0xFF00#32).getLsbD (index + 8) = true ∧
      (0xFF00#32).getLsbD (index + 16) = false ∧
      (0xFF00#32).getLsbD (index + 24) = false ∧
      (0xFF0000#32).getLsbD (index + 8) = false ∧
      (0xFF0000#32).getLsbD (index + 16) = true ∧
      (0xFF0000#32).getLsbD (index + 24) = false := by
  decide

theorem byte_eq_of_bits {left right : UInt8}
    (same : ∀ index < 8,
      left.toBitVec.getLsbD index = right.toBitVec.getLsbD index) :
    left = right :=
  UInt8.toBitVec_inj.mp (BitVec.eq_of_getLsbD_eq same)

theorem littleEndian32_bswap32 (value : UInt32) :
    littleEndian32 (bswap32 value) = bigEndian32 value := by
  unfold littleEndian32 bswap32 bigEndian32
  simp only [List.cons.injEq, and_true]
  refine ⟨?_, ?_, ?_, ?_⟩
  · refine byte_eq_of_bits fun index inside => ?_
    simp
  · refine byte_eq_of_bits fun index inside => ?_
    have masks := byteMask_getLsbD index inside
    simp
    grind
  · refine byte_eq_of_bits fun index inside => ?_
    have masks := byteMask_getLsbD index inside
    simp
    grind
  · refine byte_eq_of_bits fun index inside => ?_
    have masks := byteMask_getLsbD index inside
    simp
    grind

theorem drop_length_add {header body : List UInt8} {length : Nat}
    (same : header.length = length) (count : Nat) :
    (header ++ body).drop (length + count) = body.drop count := by
  rw [← same, List.drop_append]
  simp

end Library
