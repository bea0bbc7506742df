import Mathlib.Logic.Function.Basic
import RtA100.Library.Scan

/-!
# Scanning the fields of a structure in place

`sscanf` stores every value as soon as it is converted, and stops at the first
conversion that does not match.  A structure is a function of its fields, and
what a scan stores is a list of fields with their values.
-/

namespace Library

/-- The result of a conversion: a value that its field has no room for, no
match, or a value and the text behind it. -/
inductive Converted (α : Type) where
  | overflow
  | failed
  | stored (value : α) (rest : CString)

section

variable {Field : Type} {Value : Field → Type}

/-! ## The values of a scan -/

section

variable (convert : (field : Field) → CString → Converted (Value field))

/-- The values that a scan stores. -/
def scannedFields : List Field → CString → List (Sigma Value)
  | [], _ => []
  | field :: fields, input =>
      match convert field input with
      | .overflow => []
      | .failed => []
      | .stored value rest =>
          ⟨field, value⟩ ::
            match afterComma rest with
            | none => []
            | some rest => scannedFields fields rest

theorem scannedFields_leading (fields : List Field) (input : CString) :
    (scannedFields convert fields input).map Sigma.fst <+: fields := by
  induction fields generalizing input with
  | nil => exact List.prefix_rfl
  | cons field fields induction =>
      unfold scannedFields
      split
      · exact List.nil_prefix
      · exact List.nil_prefix
      · refine List.cons_prefix_cons.mpr ⟨rfl, ?_⟩
        split
        · exact List.nil_prefix
        · exact induction _

theorem scannedFields_distinct {fields : List Field} (input : CString)
    (distinct : fields.Nodup) :
    ((scannedFields convert fields input).map Sigma.fst).Nodup :=
  distinct.sublist (scannedFields_leading convert fields input).sublist

end

/-! ## Stores -/

variable [DecidableEq Field]

/-- The stores of some values, one after the other. -/
def storeAll (record : (field : Field) → Value field) :
    List (Sigma Value) → (field : Field) → Value field
  | [] => record
  | stored :: others =>
      storeAll (Function.update record stored.1 stored.2) others

theorem storeAll_other {record : (field : Field) → Value field}
    {stores : List (Sigma Value)} {field : Field}
    (absent : field ∉ stores.map Sigma.fst) :
    storeAll record stores field = record field := by
  induction stores generalizing record with
  | nil => rfl
  | cons stored others induction =>
      rw [List.map_cons, List.mem_cons, not_or] at absent
      rw [storeAll, induction absent.2, Function.update_of_ne absent.1]

theorem storeAll_mem {record : (field : Field) → Value field}
    {stores : List (Sigma Value)} (distinct : (stores.map Sigma.fst).Nodup)
    {stored : Sigma Value} (member : stored ∈ stores) :
    storeAll record stores stored.1 = stored.2 := by
  induction stores generalizing record with
  | nil => cases member
  | cons first others induction =>
      rw [List.map_cons, List.nodup_cons] at distinct
      rw [storeAll]
      cases List.mem_cons.mp member with
      | inl here =>
          rw [here, storeAll_other distinct.1, Function.update_self]
      | inr later => exact induction distinct.2 later

/-- The stores change nothing exactly when each value is already there. -/
theorem storeAll_eq_self_iff {record : (field : Field) → Value field}
    {stores : List (Sigma Value)} (distinct : (stores.map Sigma.fst).Nodup) :
    storeAll record stores = record ↔
      ∀ stored ∈ stores, record stored.1 = stored.2 := by
  constructor
  · intro same stored member
    rw [← storeAll_mem distinct member, same]
  · intro agrees
    funext field
    by_cases present : field ∈ stores.map Sigma.fst
    · obtain ⟨stored, member, rfl⟩ := List.mem_map.mp present
      rw [storeAll_mem distinct member, agrees stored member]
    · exact storeAll_other present

/-! ## Scans -/

variable (convert : (field : Field) → CString → Converted (Value field))

/-- A scan whose conversions are separated by commas. -/
def scanFields : List Field → CString → ((field : Field) → Value field) →
    Option ((field : Field) → Value field)
  | [], _, record => some record
  | field :: fields, input, record =>
      match convert field input with
      | .overflow => none
      | .failed => some record
      | .stored value rest =>
          match afterComma rest with
          | none => some (Function.update record field value)
          | some rest =>
              scanFields fields rest (Function.update record field value)

theorem scanFields_eq {fields : List Field} {input : CString}
    {record after : (field : Field) → Value field}
    (result : scanFields convert fields input record = some after) :
    after = storeAll record (scannedFields convert fields input) := by
  induction fields generalizing input record with
  | nil =>
      cases result
      rfl
  | cons field fields induction =>
      unfold scanFields at result
      unfold scannedFields
      split at result
      · cases result
      · cases result
        rfl
      · split at result
        · cases result
          rfl
        · exact induction result

/-- A value behind which a comma stands is stored, and the scan goes on. -/
theorem scanFields_stored {field : Field} {fields : List Field}
    {input rest : CString} {record : (field : Field) → Value field}
    {value : Value field}
    (stored : convert field input = .stored value (',' :: rest)) :
    scanFields convert (field :: fields) input record =
      scanFields convert fields rest (Function.update record field value) := by
  rw [scanFields, stored]
  rfl

/-- The scan ends at a conversion that does not match. -/
theorem scanFields_failed {field : Field} {fields : List Field}
    {input : CString} {record : (field : Field) → Value field}
    (failed : convert field input = .failed) :
    scanFields convert (field :: fields) input record = some record := by
  rw [scanFields, failed]

theorem scanFields_overflow {field : Field} {fields : List Field}
    {input : CString} {record : (field : Field) → Value field}
    (overflows : convert field input = .overflow) :
    scanFields convert (field :: fields) input record = none := by
  rw [scanFields, overflows]

/-- Every field that is printed with a comma behind it is read back, and so is
the last one, which ends the line. -/
theorem scanFields_line {fields : List Field} {last : Field}
    {print : Field → CString} {value : (field : Field) → Value field}
    {ending : CString}
    (reads : ∀ field ∈ fields, ∀ rest,
      convert field (print field ++ ',' :: rest) =
        .stored (value field) (',' :: rest))
    (readsLast : convert last (print last ++ ending) =
      .stored (value last) ending)
    (ends : afterComma ending = none)
    (record : (field : Field) → Value field) :
    scanFields convert (fields ++ [last])
        (fields.flatMap (fun field => print field ++ [',']) ++
          (print last ++ ending)) record =
      some (storeAll record
        ((fields ++ [last]).map fun field => ⟨field, value field⟩)) := by
  induction fields generalizing record with
  | nil =>
      rw [List.flatMap_nil, List.nil_append, List.nil_append, scanFields,
        readsLast]
      simp only [ends]
      rfl
  | cons field fields induction =>
      rw [List.forall_mem_cons] at reads
      rw [List.flatMap_cons, List.append_assoc, List.append_assoc,
        List.singleton_append, List.cons_append,
        scanFields_stored convert (reads.1 _), induction reads.2]
      rfl

theorem scanFields_defined {fields : List Field}
    (roomy : ∀ field ∈ fields, ∀ input, convert field input ≠ .overflow)
    (input : CString) (record : (field : Field) → Value field) :
    ∃ after, scanFields convert fields input record = some after := by
  induction fields generalizing input record with
  | nil => exact ⟨record, rfl⟩
  | cons field fields induction =>
      unfold scanFields
      split
      · rename_i overflows
        exact absurd overflows (roomy field List.mem_cons_self input)
      · exact ⟨_, rfl⟩
      · split
        · exact ⟨_, rfl⟩
        · exact induction
            (fun other member => roomy other (List.mem_cons_of_mem _ member))
            _ _

/-- Where only the first conversion can overflow, it decides. -/
theorem scanFields_defined_iff {field : Field} {fields : List Field}
    (roomy : ∀ field ∈ fields, ∀ input, convert field input ≠ .overflow)
    (input : CString) (record : (field : Field) → Value field) :
    (∃ after, scanFields convert (field :: fields) input record = some after) ↔
      convert field input ≠ .overflow := by
  unfold scanFields
  split
  · rename_i overflows
    exact ⟨fun ⟨_, result⟩ => absurd result nofun,
      fun fits => absurd overflows fits⟩
  · rename_i failed
    exact ⟨fun _ => by rw [failed]; exact nofun, fun _ => ⟨_, rfl⟩⟩
  · rename_i stored
    refine ⟨fun _ => by rw [stored]; exact nofun, fun _ => ?_⟩
    split
    · exact ⟨_, rfl⟩
    · exact scanFields_defined convert roomy _ _

end

/-! ## Unsigned conversions -/

/-- The result of `strtoul`, for a sign and digits. -/
def strtoul (sign : Int) (digits : CString) : Nat :=
  if Nat.ofDigitChars 10 digits 0 > 0xFFFFFFFFFFFFFFFF then 0xFFFFFFFFFFFFFFFF
  else (sign * Nat.ofDigitChars 10 digits 0 % 0x10000000000000000).toNat

/-- An unsigned integer conversion, with the text behind it. -/
def scanUnsigned (input : CString) : Option (Nat × CString) :=
  let (sign, rest) := scanSign (input.dropWhile isSpace)
  match rest.takeWhile Char.isDigit with
  | [] => none
  | digits => some (strtoul sign digits, rest.dropWhile Char.isDigit)

/-- Reading back a printed number that is not followed by a digit. -/
theorem scanUnsigned_decimal {value : Nat} {rest : CString}
    (inRange : value < 0x10000000000000000)
    (ends : ∀ character ∈ rest.head?, character.isDigit = false) :
    scanUnsigned (decimal value ++ rest) = some (value, rest) := by
  have numeral : ∀ character ∈ decimal value, character.isDigit = true :=
    fun _ => decimal_isDigit
  have nonempty : decimal value ≠ [] := Nat.toDigits_ne_nil
  obtain ⟨first, more, split⟩ := List.exists_cons_of_ne_nil nonempty
  have digit : first.isDigit = true :=
    numeral first (by rw [split]; exact List.mem_cons_self)
  have unspaced : (decimal value ++ rest).dropWhile isSpace =
      decimal value ++ rest := by
    rw [split, List.cons_append, List.dropWhile_cons, isSpace_digit digit]
    rfl
  have unsigned : scanSign (decimal value ++ rest) =
      (1, decimal value ++ rest) := by
    rw [split, List.cons_append, scanSign_digit digit]
  have none : rest.takeWhile Char.isDigit = [] ∧
      rest.dropWhile Char.isDigit = rest := by
    cases rest with
    | nil => exact ⟨rfl, rfl⟩
    | cons character rest =>
        have stop := ends character rfl
        rw [List.takeWhile_cons, List.dropWhile_cons, stop]
        exact ⟨rfl, rfl⟩
  have number : strtoul 1 (decimal value) = value := by
    rw [strtoul, ofDigitChars_decimal, if_neg (by omega)]
    omega
  unfold scanUnsigned
  rw [unspaced, unsigned]
  simp only [List.takeWhile_append_of_pos numeral, none,
    List.dropWhile_append_of_pos numeral, List.append_nil]
  rw [split] at number ⊢
  rw [number]

theorem comma_ends_digits (rest : CString) :
    ∀ character ∈ (',' :: rest).head?, character.isDigit = false := by
  rintro _ ⟨⟩
  decide

/-! ## Signed numbers -/

/-- `%d` -/
def signedDecimal (value : Int) : CString :=
  if value < 0 then '-' :: decimal value.natAbs else decimal value.natAbs

/-- Reading back a printed number that is followed by a comma. -/
theorem scanInteger_signedDecimal {value : Int} (rest : CString)
    (inRange : value.natAbs < 0x8000000000000000) :
    scanInteger (signedDecimal value ++ ',' :: rest) =
      some (value, ',' :: rest) := by
  unfold signedDecimal
  split
  · rename_i negative
    have numeral : ∀ character ∈ decimal value.natAbs,
        character.isDigit = true := fun _ => decimal_isDigit
    have number : saturate (-1 * (value.natAbs : Int)) = value := by
      unfold saturate
      rw [if_neg (by omega), if_neg (by omega)]
      omega
    have signed : ('-' :: decimal value.natAbs ++ ',' :: rest).dropWhile
        isSpace = '-' :: (decimal value.natAbs ++ ',' :: rest) := rfl
    unfold scanInteger
    rw [signed]
    simp only [scanSign, takeWhile_digits rest numeral,
      dropWhile_digits rest numeral]
    obtain ⟨first, more, split⟩ := List.exists_cons_of_ne_nil
      (Nat.toDigits_ne_nil (b := 10) (n := value.natAbs))
    have digits : decimal value.natAbs = first :: more := split
    rw [digits]
    simp only
    rw [← digits, ofDigitChars_decimal, number]
  · rw [scanInteger_decimal rest inRange]
    congr 2
    omega

end Library
