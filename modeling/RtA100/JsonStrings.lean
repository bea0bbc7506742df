import Mathlib.Data.Nat.Bitwise
import RtA100.JsonParse

/-!
# Strings of cJSON

`parse_string` measures a string up to its closing quote, allocates that many
bytes less one for each escape sequence, and then writes the string without
looking at the size again.  The two loops do not always agree on where an
escape sequence starts, since `\u` takes four characters whatever they are.

The characters that RFC 8259 lets a string spell are read as their UTF-8
sequences.
-/

namespace RtA100

open Library

/-! ## The allocation -/

/-- The `skipped_bytes` of a text between quotes. -/
def skippedBytes : CString → Nat
  | [] => 0
  | '\\' :: _ :: rest => skippedBytes rest + 1
  | _ :: rest => skippedBytes rest

/-- `allocation_length`, which counts the opening quote. -/
def allocationLength (body : CString) : Nat :=
  body.length + 1 - skippedBytes body

/-- What the loop of `parse_string` writes until it ends or fails, with the
characters that the pointer has still to pass over. -/
def writtenBytes : Nat → CString → CString
  | _, [] => []
  | skipped + 1, _ :: rest => writtenBytes skipped rest
  | 0, first :: rest =>
      if first ≠ '\\' then first :: writtenBytes 0 rest
      else
        match escapeSequence (first :: rest) with
        | none => []
        | some (written, sequenceLength) =>
            written ++ writtenBytes (sequenceLength - 1) rest

/-- A loop that does not fail has written the string. -/
theorem writtenBytes_of_unescape {skipped : Nat} {body output : CString}
    (unescaped : unescape skipped body = some output) :
    writtenBytes skipped body = output := by
  fun_induction unescape skipped body generalizing output with
  | case1 => exact Option.some.inj unescaped
  | case2 skipped first rest induction =>
      rw [writtenBytes]
      exact induction unescaped
  | case3 first rest plain induction =>
      obtain ⟨tail, found, rfl⟩ := Option.map_eq_some_iff.mp unescaped
      rw [writtenBytes, if_pos plain, induction found]
  | case4 first rest escaped failed => cases unescaped
  | case5 first rest escaped written sequenceLength found induction =>
      obtain ⟨tail, following, rfl⟩ := Option.map_eq_some_iff.mp unescaped
      rw [writtenBytes, if_neg escaped, found]
      exact congrArg (written ++ ·) (induction following)

theorem skippedBytes_escape (second : Char) (rest : CString) :
    skippedBytes ('\\' :: second :: rest) = skippedBytes rest + 1 := by
  rw [skippedBytes]

theorem skippedBytes_plain {first : Char} (plain : first ≠ '\\')
    (rest : CString) : skippedBytes (first :: rest) = skippedBytes rest := by
  rw [skippedBytes]
  intro second tail isEscape
  exact absurd isEscape plain

theorem skippedBytes_last (first : Char) : skippedBytes [first] = 0 := by
  rw [skippedBytes]
  · rfl
  · intro second tail _ nothing
    cases nothing

/-- A scan that starts one character later sees as many escape sequences, or
one less. -/
theorem skippedBytes_shift (rest : CString) :
    ∀ first, skippedBytes rest ≤ skippedBytes (first :: rest) ∧
      skippedBytes (first :: rest) ≤ skippedBytes rest + 1 := by
  induction rest with
  | nil =>
      intro first
      rw [skippedBytes_last]
      exact ⟨Nat.zero_le _, Nat.zero_le _⟩
  | cons second rest induction =>
      intro first
      obtain ⟨low, high⟩ := induction second
      by_cases escaped : first = '\\'
      · rw [escaped, skippedBytes_escape]
        exact ⟨high, Nat.succ_le_succ low⟩
      · rw [skippedBytes_plain escaped]
        exact ⟨le_rfl, Nat.le_succ _⟩

/-- Two characters hold at most one start of an escape sequence. -/
theorem skippedBytes_pair (first second : Char) (rest : CString) :
    skippedBytes (first :: second :: rest) ≤ skippedBytes rest + 1 := by
  by_cases escaped : first = '\\'
  · rw [escaped, skippedBytes_escape]
  · rw [skippedBytes_plain escaped]
    exact (skippedBytes_shift rest second).2

theorem skippedBytes_drop {count : Nat} {text : CString}
    (long : 2 * count ≤ text.length) :
    skippedBytes text ≤ skippedBytes (text.drop (2 * count)) + count := by
  induction count generalizing text with
  | zero => exact le_rfl
  | succ count induction =>
      obtain ⟨first, second, rest, rfl⟩ :
          ∃ first second rest, text = first :: second :: rest := by
        match text, long with
        | [], long => simp at long
        | [_], long =>
            rw [List.length_singleton] at long
            omega
        | first :: second :: rest, _ => exact ⟨first, second, rest, rfl⟩
      have pair := skippedBytes_pair first second rest
      have shorter : 2 * count ≤ rest.length := by
        simp only [List.length_cons] at long
        omega
      have more := induction shorter
      rw [show 2 * (count + 1) = 2 * count + 1 + 1 by omega,
        List.drop_succ_cons, List.drop_succ_cons]
      omega

theorem encodeUtf8_length {codepoint : Nat} {output : CString}
    (encoded : encodeUtf8 codepoint = some output) :
    output.length ≤ 4 ∧ (codepoint < 0x10000 → output.length ≤ 3) := by
  unfold encodeUtf8 at encoded
  simp only at encoded
  split_ifs at encoded with one two three four
  · cases encoded
    exact ⟨by simp, by simp⟩
  · cases encoded
    exact ⟨by simp, by simp⟩
  · cases encoded
    exact ⟨by simp, by simp⟩
  · cases encoded
    exact ⟨by simp, fun small => absurd small three⟩

theorem hexDigit_lt {character : Char} {digit : Nat}
    (value : hexDigit character = some digit) : digit < 16 := by
  unfold hexDigit at value
  have bounds : ∀ low high : Char, low ≤ character ∧ character ≤ high →
      low.toNat ≤ character.toNat ∧ character.toNat ≤ high.toNat := by
    intro low high range
    exact ⟨Char.le_def.mp range.1, Char.le_def.mp range.2⟩
  split_ifs at value with decimal upper lower
  · have range := bounds _ _ decimal
    cases value
    simp only [show '0'.toNat = 48 from rfl, show '9'.toNat = 57 from rfl]
      at range ⊢
    omega
  · have range := bounds _ _ upper
    cases value
    simp only [show 'A'.toNat = 65 from rfl, show 'F'.toNat = 70 from rfl]
      at range ⊢
    omega
  · have range := bounds _ _ lower
    cases value
    simp only [show 'a'.toNat = 97 from rfl, show 'f'.toNat = 102 from rfl]
      at range ⊢
    omega

theorem hexDigits_lt {text : CString} {digits : List Nat}
    (found : text.mapM hexDigit = some digits) (number : Nat) :
    digits.foldl (fun number digit => 16 * number + digit) number <
      (number + 1) * 16 ^ text.length := by
  induction text generalizing digits number with
  | nil =>
      cases found
      simp
  | cons character text induction =>
      rw [List.mapM_cons] at found
      simp only [Option.bind_eq_bind, Option.bind_eq_some_iff,
        Option.pure_def, Option.some.injEq] at found
      obtain ⟨digit, value, more, following, rfl⟩ := found
      have small := hexDigit_lt value
      have tail := induction following (16 * number + digit)
      rw [List.foldl_cons, List.length_cons, Nat.pow_succ]
      calc more.foldl (fun number digit => 16 * number + digit)
            (16 * number + digit)
          < (16 * number + digit + 1) * 16 ^ text.length := tail
        _ ≤ ((number + 1) * 16) * 16 ^ text.length :=
            Nat.mul_le_mul_right _ (by omega)
        _ = (number + 1) * (16 ^ text.length * 16) := by
            rw [Nat.mul_assoc, Nat.mul_comm 16]

theorem parseHex4_lt (input : CString) : parseHex4 input < 0x10000 := by
  unfold parseHex4
  split
  · rename_i digits found
    have few : (input.take 4).length ≤ 4 := List.length_take_le _ _
    calc digits.foldl (fun number digit => 16 * number + digit) 0
        < (0 + 1) * 16 ^ (input.take 4).length := hexDigits_lt found 0
      _ ≤ (0 + 1) * 16 ^ 4 :=
          Nat.mul_le_mul_left _ (Nat.pow_le_pow_right (by decide) few)
  · decide

/-- A `\\u` sequence takes as many characters as its units have. -/
theorem utf16LiteralToUtf8_room {input written : CString}
    {sequenceLength : Nat}
    (found : utf16LiteralToUtf8 input = some (written, sequenceLength)) :
    sequenceLength ≤ input.length ∧
      (sequenceLength = 6 ∧ written.length ≤ 3 ∨
        sequenceLength = 12 ∧ written.length ≤ 4) := by
  unfold utf16LiteralToUtf8 at found
  simp only at found
  split_ifs at found with short low high shortSecond other second
  · obtain ⟨output, encoded, result⟩ := Option.map_eq_some_iff.mp found
    cases result
    rw [List.length_drop] at shortSecond
    exact ⟨by omega, .inr ⟨rfl, (encodeUtf8_length encoded).1⟩⟩
  · obtain ⟨output, encoded, result⟩ := Option.map_eq_some_iff.mp found
    cases result
    exact ⟨by omega,
      .inl ⟨rfl, (encodeUtf8_length encoded).2 (parseHex4_lt _)⟩⟩

theorem escapeSequence_room {input written : CString} {sequenceLength : Nat}
    (found : escapeSequence input = some (written, sequenceLength)) :
    written.length = 1 ∧ sequenceLength = 2 ∨
      sequenceLength ≤ input.length ∧
        (sequenceLength = 6 ∧ written.length ≤ 3 ∨
          sequenceLength = 12 ∧ written.length ≤ 4) := by
  unfold escapeSequence at found
  split at found
  case h_9 => exact .inr (utf16LiteralToUtf8_room found)
  case h_10 => cases found
  all_goals
    cases found
    exact .inl ⟨rfl, rfl⟩

/-- What an escape sequence writes fits what the first loop leaves for the
characters that it takes. -/
theorem escapeSequence_fits {rest written : CString} {sequenceLength : Nat}
    (found : escapeSequence ('\\' :: rest) =
      some (written, sequenceLength)) :
    written.length + skippedBytes ('\\' :: rest) +
        (rest.drop (sequenceLength - 1)).length ≤
      skippedBytes (rest.drop (sequenceLength - 1)) + rest.length + 1 := by
  have even : ∀ count, 2 * count ≤ rest.length + 1 → 0 < count →
      skippedBytes ('\\' :: rest) ≤
        skippedBytes (rest.drop (2 * count - 1)) + count := by
    intro count long positive
    have dropped := @skippedBytes_drop count ('\\' :: rest) long
    rwa [show 2 * count = 2 * count - 1 + 1 by omega,
      List.drop_succ_cons] at dropped
  rcases escapeSequence_room found with
    ⟨one, rfl⟩ | ⟨long, ⟨rfl, three⟩ | ⟨rfl, four⟩⟩
  · cases rest with
    | nil =>
        rw [skippedBytes_last, one]
        exact Nat.le_refl _
    | cons second rest =>
        rw [skippedBytes_escape, one]
        simp only [Nat.reduceSub, List.drop_succ_cons, List.drop_zero,
          List.length_cons]
        omega
  · have few := even 3 long (by decide)
    rw [List.length_cons] at long
    rw [List.length_drop]
    simp only [Nat.reduceMul, Nat.reduceSub] at few ⊢
    omega
  · have few := even 6 long (by decide)
    rw [List.length_cons] at long
    rw [List.length_drop]
    simp only [Nat.reduceMul, Nat.reduceSub] at few ⊢
    omega

theorem skippedBytes_le_length (body : CString) :
    skippedBytes body ≤ body.length := by
  fun_induction skippedBytes body with
  | case1 => exact Nat.zero_le _
  | case2 second rest induction =>
      rw [List.length_cons, List.length_cons]
      omega
  | case3 first rest plain induction =>
      rw [List.length_cons]
      omega

theorem writtenBytes_room (skipped : Nat) (body : CString) :
    (writtenBytes skipped body).length + skippedBytes (body.drop skipped) ≤
      (body.drop skipped).length := by
  fun_induction writtenBytes skipped body with
  | case1 => simp [skippedBytes]
  | case2 skipped first rest induction => exact induction
  | case3 first rest plain induction =>
      rw [List.drop_zero] at induction ⊢
      rw [skippedBytes_plain plain, List.length_cons, List.length_cons]
      omega
  | case4 first rest escaped failed =>
      rw [List.length_nil, Nat.zero_add]
      exact skippedBytes_le_length _
  | case5 first rest escaped written sequenceLength found induction =>
      rw [not_not] at escaped
      subst escaped
      have fits := escapeSequence_fits found
      rw [List.drop_zero, List.length_append, List.length_cons]
      omega

/-- `parse_string` stays inside its allocation, terminator included, for every
text between quotes, whether its loop fails or writes the string. -/
theorem parseString_fits_allocation (body : CString) :
    (writtenBytes 0 body).length + 1 ≤ allocationLength body + 1 ∧
      ∀ output, unescape 0 body = some output →
        writtenBytes 0 body = output := by
  have room := writtenBytes_room 0 body
  rw [List.drop_zero] at room
  rw [allocationLength]
  exact ⟨by omega, fun output => writtenBytes_of_unescape⟩

/-! ## Parts of a string -/

/-- The loop for the closing quote goes past the text, and then looks at a
character as such. -/
def Passes (text : CString) : Prop :=
  ∀ more, closingQuote (text ++ more) =
    (closingQuote more).map fun (body, behind) => (text ++ body, behind)

namespace Passes

theorem nil : Passes [] := fun _ => Option.map_id_apply.symm

theorem append {text after : CString} (passes : Passes text)
    (passesAfter : Passes after) : Passes (text ++ after) := by
  intro more
  rw [List.append_assoc, passes, passesAfter, Option.map_map]
  simp only [Function.comp_def, List.append_assoc]

theorem plains {text : CString} (notQuote : '"' ∉ text)
    (notEscape : '\\' ∉ text) : Passes text := by
  intro more
  induction text with
  | nil => exact Option.map_id_apply.symm
  | cons first rest induction =>
      rw [List.mem_cons, not_or] at notQuote notEscape
      rw [List.cons_append, closingQuote]
      · rw [if_neg (Ne.symm notQuote.1), induction notQuote.2 notEscape.2,
          Option.map_map]
        rfl
      · intro second tail isEscape
        exact absurd isEscape.symm notEscape.1

theorem escape (second : Char) : Passes ['\\', second] := by
  intro more
  rw [List.cons_append, List.singleton_append, closingQuote]
  rfl

end Passes

/-- A text between quotes that ends where both loops look at a character as
such, and what it stands for. -/
structure StringPart (text output : CString) : Prop where
  passes : Passes text
  writes : ∀ more, unescape 0 (text ++ more) =
    (unescape 0 more).map fun tail => output ++ tail

/-- Characters that the pointer has passed over. -/
theorem unescape_skipped (skipped more : CString) :
    unescape skipped.length (skipped ++ more) = unescape 0 more := by
  induction skipped with
  | nil => rfl
  | cons first rest induction =>
      rw [List.length_cons, List.cons_append, unescape]
      exact induction

namespace StringPart

theorem nil : StringPart [] [] where
  passes := .nil
  writes _ := Option.map_id_apply.symm

theorem append {text output textAfter outputAfter : CString}
    (part : StringPart text output)
    (after : StringPart textAfter outputAfter) :
    StringPart (text ++ textAfter) (output ++ outputAfter) where
  passes := part.passes.append after.passes
  writes more := by
    rw [List.append_assoc, part.writes, after.writes, Option.map_map]
    simp only [Function.comp_def, List.append_assoc]

theorem plains {text : CString} (notQuote : '"' ∉ text)
    (notEscape : '\\' ∉ text) : StringPart text text where
  passes := .plains notQuote notEscape
  writes more := by
    clear notQuote
    induction text with
    | nil => exact Option.map_id_apply.symm
    | cons first rest induction =>
        rw [List.mem_cons, not_or] at notEscape
        rw [List.cons_append, unescape, if_pos (Ne.symm notEscape.1),
          induction notEscape.2, Option.map_map]
        rfl

/-- An escape sequence. -/
theorem escape {second : Char} {rest output : CString}
    (passes : Passes ('\\' :: second :: rest))
    (sequence : ∀ more, escapeSequence ('\\' :: second :: rest ++ more) =
      some (output, rest.length + 2)) :
    StringPart ('\\' :: second :: rest) output where
  passes := passes
  writes more := by
    have found := sequence more
    rw [List.cons_append, List.cons_append] at found ⊢
    rw [unescape, if_neg (by simp), found]
    exact congrArg (Option.map fun tail => output ++ tail)
      (unescape_skipped (second :: rest) more)

theorem flatMap {α : Type} {text output : α → CString} {items : List α}
    (parts : ∀ item ∈ items, StringPart (text item) (output item)) :
    StringPart (items.flatMap text) (items.flatMap output) := by
  induction items with
  | nil => exact nil
  | cons item items induction =>
      rw [List.flatMap_cons, List.flatMap_cons]
      exact (parts item List.mem_cons_self).append
        (induction fun later member =>
          parts later (List.mem_cons_of_mem _ member))

theorem closes {text output : CString} (part : StringPart text output)
    (rest : CString) :
    closingQuote (text ++ '"' :: rest) = some (text, rest) := by
  rw [part.passes]
  simp [closingQuote]

theorem unescaped {text output : CString} (part : StringPart text output) :
    unescape 0 text = some output := by
  have written := part.writes []
  rw [List.append_nil, unescape] at written
  simpa using written

/-- A string of parts is read up to its closing quote. -/
theorem parsed {text output : CString} (part : StringPart text output)
    (rest : CString) :
    parseString (text ++ '"' :: rest) = some (untilNul output, rest) := by
  simp [parseString, part.closes rest, part.unescaped]

end StringPart

/-! ## Unicode -/

/-- The bytes of a character. -/
def utf8Bytes (character : Char) : CString :=
  (String.utf8EncodeChar character).map fun byte => Char.ofNat byte.toNat

/-- Four hexadecimal digits and their number. -/
def HexUnit (digits : CString) (number : Nat) : Prop :=
  digits.length = 4 ∧ ∃ values, digits.mapM hexDigit = some values ∧
    number = values.foldl (fun number digit => 16 * number + digit) 0

/-- The letter behind a backslash for some characters. -/
def escapeLetters : List (Char × Char) :=
  [('"', '"'), ('\\', '\\'), ('/', '/'), ('b', '\x08'), ('f', '\x0C'),
    ('n', '\n'), ('r', '\r'), ('t', '\t')]

/-- The ways to write a character between quotes: its bytes, a backslash and a
letter, the number of its UTF-16 unit, or the numbers of its two units. -/
inductive Spelling : Char → CString → Prop where
  | bytes {character : Char} :
      32 ≤ character.toNat → character ≠ '"' → character ≠ '\\' →
      Spelling character (utf8Bytes character)
  | letter {letter character : Char} :
      (letter, character) ∈ escapeLetters →
      Spelling character ['\\', letter]
  | unit {character : Char} {digits : CString} :
      HexUnit digits character.toNat →
      Spelling character ('\\' :: 'u' :: digits)
  | pair {character : Char} {high low : CString} {highBits lowBits : Nat} :
      highBits < 0x400 → lowBits < 0x400 →
      HexUnit high (0xD800 + highBits) → HexUnit low (0xDC00 + lowBits) →
      character.toNat = 0x10000 + (0x400 * highBits + lowBits) →
      Spelling character ('\\' :: 'u' :: high ++ '\\' :: 'u' :: low)

/-- A character with one way to write it. -/
structure SpelledCharacter where
  character : Char
  text : CString
  spelling : Spelling character text

theorem continuation_bits (value : Nat) :
    (value ||| 0x80) &&& 0xBF = value % 64 + 128 := by
  have bytes : ∀ byte : Fin 256,
      (byte.val ||| 0x80) &&& 0xBF = byte.val % 64 + 128 := by
    decide +kernel
  have whole : (value ||| 0x80) &&& 0xBF =
      ((value ||| 0x80) &&& 0xBF) % 2 ^ 8 :=
    (Nat.mod_eq_of_lt (Nat.and_lt_two_pow _ (by decide))).symm
  have byte := bytes ⟨value % 2 ^ 8, Nat.mod_lt _ (by decide)⟩
  rw [whole, Nat.and_mod_two_pow, Nat.or_mod_two_pow]
  simp only [Nat.reduceMod, Nat.reducePow] at byte ⊢
  rw [byte]
  omega

theorem leading_bits :
    (∀ value < 32, value ||| 0xC0 = value % 32 + 192) ∧
      (∀ value < 16, value ||| 0xE0 = value % 16 + 224) ∧
      ∀ value < 8, value ||| 0xF0 = value % 8 + 240 := by
  decide

/-- `utf16_literal_to_utf8` writes UTF-8. -/
theorem encodeUtf8_toNat (character : Char) :
    encodeUtf8 character.toNat = some (utf8Bytes character) := by
  have limit : character.toNat < 0x110000 := by
    rcases character.valid with low | high
    · exact low.trans (by decide)
    · exact high.2
  obtain ⟨two, three, four⟩ := leading_bits
  have same : character.val.toNat = character.toNat := rfl
  simp only [utf8Bytes, String.utf8EncodeChar, encodeUtf8, byteCharacter,
    same, continuation_bits, Nat.shiftRight_eq_div_pow, Nat.reducePow,
    Nat.pow_zero, Nat.div_one]
  generalize character.toNat = codepoint at limit ⊢
  by_cases one : codepoint < 0x80
  · rw [if_pos one, if_pos (by omega : codepoint ≤ 0x7F)]
    simp only [List.map_cons, List.map_nil, UInt8.toNat_ofNat']
    rw [show (0x7F : Nat) = 2 ^ 7 - 1 by rfl, Nat.and_two_pow_sub_one_eq_mod,
      Nat.mod_eq_of_lt (by omega : codepoint < 2 ^ 7)]
  · rw [if_neg one, if_neg (by omega : ¬codepoint ≤ 0x7F)]
    by_cases short : codepoint < 0x800
    · rw [if_pos short, if_pos (by omega : codepoint ≤ 0x7FF),
        two _ (by omega)]
      rfl
    · rw [if_neg short, if_neg (by omega : ¬codepoint ≤ 0x7FF)]
      by_cases basic : codepoint < 0x10000
      · rw [if_pos basic, if_pos (by omega : codepoint ≤ 0xFFFF),
          three _ (by omega)]
        rfl
      · rw [if_neg basic, if_neg (by omega : ¬codepoint ≤ 0xFFFF),
          if_pos (by omega), four _ (by omega)]
        rfl

/-- The bytes of a character beyond ASCII are no ASCII characters. -/
theorem mem_utf8Bytes {character byte : Char}
    (member : byte ∈ utf8Bytes character) :
    byte = character ∨ 128 ≤ byte.toNat := by
  have high : ∀ number : Nat, 128 ≤ number → number < 256 →
      128 ≤ (Char.ofNat number).toNat := by
    intro number low high
    have valid : number.isValidChar := .inl (by omega)
    rw [Char.ofNat, dif_pos valid]
    exact low
  have same : character.val.toNat = character.toNat := rfl
  obtain ⟨encoded, inside, rfl⟩ := List.mem_map.mp member
  rw [String.utf8EncodeChar] at inside
  simp only [same] at inside
  split_ifs at inside with one two three
  · rw [List.mem_singleton.mp inside, UInt8.toNat_ofNat',
      Nat.mod_eq_of_lt (by omega), Char.ofNat_toNat]
    exact .inl rfl
  all_goals
    right
    simp only [List.mem_cons, List.not_mem_nil, or_false] at inside
    rcases inside with rfl | rfl | rfl | rfl <;>
      exact high _ (by rw [UInt8.toNat_ofNat']; omega)
        (by rw [UInt8.toNat_ofNat']; omega)

/-- `parse_hex4` reads the digits of a unit, which hold no quote and no
backslash. -/
theorem HexUnit.read {digits : CString} {number : Nat}
    (unit : HexUnit digits number) :
    (∀ more, parseHex4 (digits ++ more) = number) ∧ '"' ∉ digits ∧
      '\\' ∉ digits := by
  obtain ⟨long, values, found, same⟩ := unit
  have digit : ∀ character ∈ digits, ∃ value,
      hexDigit character = some value := by
    clear long same
    induction digits generalizing values with
    | nil => simp
    | cons first rest induction =>
        rw [List.mapM_cons] at found
        simp only [Option.bind_eq_bind, Option.bind_eq_some_iff] at found
        obtain ⟨value, here, more, following, _⟩ := found
        intro character member
        rcases List.mem_cons.mp member with rfl | later
        · exact ⟨value, here⟩
        · exact induction more following character later
  refine ⟨fun more => ?_, fun member => ?_, fun member => ?_⟩
  · rw [parseHex4, List.take_left' long, found]
    exact same.symm
  · obtain ⟨value, isDigit⟩ := digit _ member
    cases isDigit
  · obtain ⟨value, isDigit⟩ := digit _ member
    cases isDigit

theorem escapeLetters_sequence {letter character : Char}
    (listed : (letter, character) ∈ escapeLetters) (more : CString) :
    escapeSequence ('\\' :: letter :: more) = some ([character], 2) ∧
      utf8Bytes character = [character] := by
  simp only [escapeLetters, List.mem_cons, Prod.mk.injEq, List.not_mem_nil,
    or_false] at listed
  rcases listed with ⟨rfl, rfl⟩ | ⟨rfl, rfl⟩ | ⟨rfl, rfl⟩ | ⟨rfl, rfl⟩ |
    ⟨rfl, rfl⟩ | ⟨rfl, rfl⟩ | ⟨rfl, rfl⟩ | ⟨rfl, rfl⟩ <;>
    exact ⟨rfl, by decide⟩

theorem surrogate_free (character : Char) :
    ¬(0xD800 ≤ character.toNat ∧ character.toNat ≤ 0xDFFF) := by
  have valid := character.valid
  have same : character.val.toNat = character.toNat := rfl
  rcases valid with low | high
  · have below : character.toNat < 0xD800 := low
    omega
  · have above : 0xDFFF < character.toNat := high.1
    omega

theorem utf16LiteralToUtf8_unit {character : Char} {digits more : CString}
    (long : digits.length = 4)
    (number : parseHex4 (digits ++ more) = character.toNat) :
    utf16LiteralToUtf8 ('\\' :: 'u' :: digits ++ more) =
      some (utf8Bytes character, 6) := by
  have free := surrogate_free character
  unfold utf16LiteralToUtf8
  simp only [List.cons_append, List.drop_succ_cons, List.drop_zero, number,
    List.length_cons, List.length_append]
  rw [if_neg (by omega), if_neg (by omega), if_neg (by omega),
    encodeUtf8_toNat]
  rfl

theorem pairBits {highBits lowBits : Nat} (highSmall : highBits < 0x400)
    (lowSmall : lowBits < 0x400) :
    (((0xD800 + highBits) &&& 0x3FF) <<< 10) |||
        ((0xDC00 + lowBits) &&& 0x3FF) = 0x400 * highBits + lowBits := by
  rw [show (0x3FF : Nat) = 2 ^ 10 - 1 by rfl, Nat.and_two_pow_sub_one_eq_mod,
    Nat.and_two_pow_sub_one_eq_mod,
    ← Nat.shiftLeft_add_eq_or_of_lt (Nat.mod_lt _ (by decide)),
    Nat.shiftLeft_eq]
  omega

theorem utf16LiteralToUtf8_pair {character : Char} {high low : CString}
    {highBits lowBits : Nat} (highSmall : highBits < 0x400)
    (lowSmall : lowBits < 0x400) (highUnit : HexUnit high (0xD800 + highBits))
    (lowUnit : HexUnit low (0xDC00 + lowBits))
    (codepoint : character.toNat = 0x10000 + (0x400 * highBits + lowBits))
    (more : CString) :
    utf16LiteralToUtf8
        ('\\' :: 'u' :: high ++ '\\' :: 'u' :: low ++ more) =
      some (utf8Bytes character, 12) := by
  have highLong := highUnit.1
  have lowLong := lowUnit.1
  have first := highUnit.read.1 ('\\' :: 'u' :: (low ++ more))
  have second := lowUnit.read.1 more
  have behind : (high ++ '\\' :: 'u' :: (low ++ more)).drop 4 =
      '\\' :: 'u' :: (low ++ more) := List.drop_left' highLong
  unfold utf16LiteralToUtf8
  simp only [List.cons_append, List.append_assoc, List.drop_succ_cons,
    List.drop_zero, first, behind, second, List.length_cons,
    List.length_append, List.take_succ_cons, List.take_zero]
  rw [if_neg (by omega), if_neg (by omega), if_pos (by omega),
    if_neg (by omega), if_neg (by simp), if_neg (by omega),
    pairBits highSmall lowSmall, ← codepoint, encodeUtf8_toNat]
  rfl

theorem HexUnit.passes {digits : CString} {number : Nat}
    (unit : HexUnit digits number) : Passes ('\\' :: 'u' :: digits) :=
  (Passes.escape 'u').append (.plains unit.read.2.1 unit.read.2.2)

theorem Spelling.part {character : Char} {text : CString}
    (spelling : Spelling character text) :
    StringPart text (utf8Bytes character) := by
  cases spelling with
  | bytes inked notQuote notEscape =>
      have ascii : ∀ other : Char, other ≠ character → other.toNat < 128 →
          other ∉ utf8Bytes character := by
        intro other differs small member
        rcases mem_utf8Bytes member with same | high
        · exact differs same
        · omega
      exact .plains (ascii _ notQuote.symm (by decide))
        (ascii _ notEscape.symm (by decide))
  | @letter letter _ listed =>
      rw [(escapeLetters_sequence listed []).2]
      exact .escape (.escape letter) fun more =>
        (escapeLetters_sequence listed more).1
  | unit unit =>
      refine .escape unit.passes fun more => ?_
      rw [unit.1]
      exact utf16LiteralToUtf8_unit unit.1 (unit.read.1 more)
  | @pair _ high low highBits lowBits highSmall lowSmall highUnit lowUnit
      codepoint =>
      have passes := highUnit.passes.append lowUnit.passes
      have long : (high ++ '\\' :: 'u' :: low).length = 10 := by
        rw [List.length_append, List.length_cons, List.length_cons,
          highUnit.1, lowUnit.1]
      refine @StringPart.escape 'u' (high ++ '\\' :: 'u' :: low) _ passes
        fun more => ?_
      rw [long]
      exact utf16LiteralToUtf8_pair highSmall lowSmall highUnit lowUnit
        codepoint more

/-- A string literal, each character written in one of its ways, is read as the
UTF-8 of its characters up to the first NUL. -/
theorem parseString_spelled (literal : List SpelledCharacter)
    (rest : CString) :
    parseString (literal.flatMap SpelledCharacter.text ++ '"' :: rest) =
      some (untilNul (literal.flatMap fun spelled =>
        utf8Bytes spelled.character), rest) := by
  have part : StringPart (literal.flatMap SpelledCharacter.text) _ :=
    StringPart.flatMap fun spelled _ => spelled.spelling.part
  exact part.parsed rest

end RtA100
