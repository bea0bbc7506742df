/-!
# Bounded byte objects

A C object is a fixed number of bytes, and a pointer into it is the list of
bytes from the pointed-at position to the end of the object.  Reads and copies
return `none` when they leave the object, so a computation that ends in `some`
has stayed inside every object it touched.
-/

namespace Library

/-- An object of exactly `capacity` bytes. -/
structure Buffer (capacity : Nat) where
  bytes : List UInt8
  size : bytes.length = capacity
deriving DecidableEq

namespace Buffer

variable {capacity : Nat}

@[ext] theorem ext {left right : Buffer capacity}
    (same : left.bytes = right.bytes) : left = right := by
  cases left
  cases right
  simp only [mk.injEq]
  exact same

/-- The object filled with one value. -/
def filled (capacity : Nat) (value : UInt8) : Buffer capacity :=
  { bytes := List.replicate capacity value
    size := List.length_replicate }

/-- The object after its first bytes have been replaced by `source`. -/
def overwrite (destination : Buffer capacity) (source : List UInt8)
    (fits : source.length ≤ capacity) : Buffer capacity :=
  { bytes := source ++ destination.bytes.drop source.length
    size := by
      have size := destination.size
      simp only [List.length_append, List.length_drop]
      omega }

/-- Copy `len` bytes from `source` to the start of the object. -/
def memcpy (destination : Buffer capacity) (source : List UInt8)
    (len : Nat) : Option (Buffer capacity) :=
  if fits : len ≤ capacity ∧ len ≤ source.length then
    some (destination.overwrite (source.take len) (by
      simp only [List.length_take]
      omega))
  else none

@[simp] theorem overwrite_bytes (destination : Buffer capacity)
    (source : List UInt8) (fits : source.length ≤ capacity) :
    (destination.overwrite source fits).bytes =
      source ++ destination.bytes.drop source.length := rfl

theorem memcpy_eq_some_iff {destination : Buffer capacity}
    {source : List UInt8} {len : Nat} {copied : Buffer capacity} :
    destination.memcpy source len = some copied ↔
      ∃ (fits : (source.take len).length ≤ capacity),
        len ≤ source.length ∧
          copied = destination.overwrite (source.take len) fits := by
  unfold memcpy
  constructor
  · intro result
    split at result
    · rename_i inside
      refine ⟨by simp only [List.length_take]; omega, inside.2, ?_⟩
      exact (Option.some.inj result).symm
    · cases result
  · rintro ⟨fits, inside, rfl⟩
    simp only [List.length_take] at fits
    rw [dif_pos ⟨by omega, inside⟩]

/-- A copy inside both objects is defined. -/
theorem memcpy_defined (destination : Buffer capacity)
    {source : List UInt8} {len : Nat} (fits : len ≤ capacity)
    (available : len ≤ source.length) :
    ∃ copied, destination.memcpy source len = some copied := by
  unfold memcpy
  rw [dif_pos ⟨fits, available⟩]
  exact ⟨_, rfl⟩

/-- Copying a whole list is defined exactly when the list fits. -/
theorem memcpy_length (destination : Buffer capacity) (source : List UInt8) :
    destination.memcpy source source.length =
      if fits : source.length ≤ capacity then
        some (destination.overwrite source fits)
      else none := by
  unfold memcpy
  by_cases fits : source.length ≤ capacity
  · rw [dif_pos ⟨fits, Nat.le_refl _⟩, dif_pos fits]
    simp only [List.take_length]
  · rw [dif_neg (fun inside => fits inside.1), dif_neg fits]

theorem memcpy_whole {destination : Buffer capacity}
    {source : List UInt8} (fits : source.length ≤ capacity) :
    destination.memcpy source source.length =
      some (destination.overwrite source fits) := by
  rw [memcpy_length, dif_pos fits]

end Buffer

/-- The 16-bit value at `offset` on a little-endian machine. -/
def load16 (bytes : List UInt8) (offset : Nat) : Option UInt16 := do
  let low ← bytes[offset]?
  let high ← bytes[offset + 1]?
  some (UInt16.ofNat (low.toNat + 256 * high.toNat))

/-- The number whose big-endian representation is the given pair of bytes. -/
def bigEndian16 (high low : UInt8) : Nat := 256 * high.toNat + low.toNat

/-- The big-endian 16-bit value at `offset`, zero where bytes are missing. -/
def bigEndianAt (bytes : List UInt8) (offset : Nat) : Nat :=
  bigEndian16 (bytes.getD offset 0) (bytes.getD (offset + 1) 0)

/-- Exchange the two bytes of a 16-bit value. -/
def bswap16 (value : UInt16) : UInt16 := (value >>> 8) ||| (value <<< 8)

/-- The two bytes of a value, most significant first. -/
def bigEndianBytes (value : UInt16) : List UInt8 :=
  [UInt8.ofNat (value.toNat / 256), UInt8.ofNat (value.toNat % 256)]

/-- The two bytes of a value, least significant first. -/
def littleEndianBytes (value : UInt16) : List UInt8 :=
  [UInt8.ofNat (value.toNat % 256), UInt8.ofNat (value.toNat / 256)]

/-- The four bytes of a value, least significant first. -/
def littleEndian32 (value : UInt32) : List UInt8 :=
  [value.toUInt8, (value >>> 8).toUInt8, (value >>> 16).toUInt8,
    (value >>> 24).toUInt8]

/-- The eight bytes of a value, least significant first. -/
def littleEndian64 (value : UInt64) : List UInt8 :=
  littleEndian32 value.toUInt32 ++ littleEndian32 (value >>> 32).toUInt32

/-- Reverse the four bytes of a value. -/
def bswap32 (value : UInt32) : UInt32 :=
  let second : UInt32 := (value >>> 8) &&& (0xFF00 : UInt32)
  let third : UInt32 := (value <<< 8) &&& (0xFF0000 : UInt32)
  (value >>> 24) ||| second ||| third ||| (value <<< 24)

/-- Reverse the eight bytes of a value. -/
def bswap64 (value : UInt64) : UInt64 :=
  ((bswap32 value.toUInt32).toUInt64 <<< 32) |||
    (bswap32 (value >>> 32).toUInt32).toUInt64

example : littleEndian64 (bswap64 0x0102030405060708) =
    [1, 2, 3, 4, 5, 6, 7, 8] := by decide +kernel

theorem bswap16_toNat (value : UInt16) :
    (bswap16 value).toNat = 256 * (value.toNat % 256) + value.toNat / 256 := by
  have bound : value.toNat < 65536 := value.toNat_lt
  have high : value.toNat >>> ((8 : UInt16).toNat % 16) =
      value.toNat / 256 := by
    simp [Nat.shiftRight_eq_div_pow]
  have low : value.toNat <<< ((8 : UInt16).toNat % 16) % 2 ^ 16 =
      (value.toNat % 256) <<< 8 := by
    simp only [Nat.shiftLeft_eq]
    have shift : 2 ^ ((8 : UInt16).toNat % 16) = 256 := rfl
    rw [shift]
    omega
  simp only [bswap16, UInt16.toNat_or, UInt16.toNat_shiftRight,
    UInt16.toNat_shiftLeft]
  rw [high, low, Nat.or_comm, ← Nat.shiftLeft_add_eq_or_of_lt (by omega)]
  simp only [Nat.shiftLeft_eq]
  omega

theorem load16_eq_some_iff {bytes : List UInt8} {offset : Nat}
    {value : UInt16} :
    load16 bytes offset = some value ↔
      offset + 1 < bytes.length ∧
        (bswap16 value).toNat = bigEndianAt bytes offset := by
  unfold load16
  by_cases inside : offset + 1 < bytes.length
  · have before : offset < bytes.length := by omega
    have lowBound := bytes[offset].toNat_lt
    have highBound := bytes[offset + 1].toNat_lt
    simp only [List.getElem?_eq_getElem before,
      List.getElem?_eq_getElem inside, Option.bind_eq_bind,
      Option.bind_some, Option.some.injEq, inside, true_and, bigEndianAt,
      bigEndian16, List.getD_eq_getElem?_getD, Option.getD_some]
    rw [bswap16_toNat]
    constructor
    · rintro rfl
      simp only [UInt16.toNat_ofNat']
      omega
    · intro swapped
      apply UInt16.toNat_inj.mp
      simp only [UInt16.toNat_ofNat']
      have bound : value.toNat < 65536 := value.toNat_lt
      have sameLow : value.toNat % 256 = bytes[offset].toNat := by
        omega
      omega
  · have outside : bytes[offset + 1]? = none := by
      simp only [List.getElem?_eq_none_iff]
      omega
    rw [outside]
    constructor
    · intro result
      cases first : bytes[offset]? <;> simp [first] at result
    · intro result
      exact absurd result.1 inside

/-- A 16-bit load inside the object is defined. -/
theorem load16_of_inside {bytes : List UInt8} {offset : Nat}
    (inside : offset + 1 < bytes.length) :
    ∃ value, load16 bytes offset = some value ∧
      (bswap16 value).toNat = bigEndianAt bytes offset := by
  have before : offset < bytes.length := by omega
  have loaded : ∃ value, load16 bytes offset = some value := by
    simp [load16, List.getElem?_eq_getElem before,
      List.getElem?_eq_getElem inside]
  obtain ⟨value, result⟩ := loaded
  exact ⟨value, result, (load16_eq_some_iff.mp result).2⟩

theorem bigEndianAt_append_left {left right : List UInt8} {offset : Nat}
    (inside : offset + 1 < left.length) :
    bigEndianAt (left ++ right) offset = bigEndianAt left offset := by
  have before : offset < left.length := by omega
  simp [bigEndianAt, List.getElem?_append_left, before, inside]

end Library
