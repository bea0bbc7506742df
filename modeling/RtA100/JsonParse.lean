import RtA100.Library.Reader
import RtA100.Library.Search
import RtA100.Library.Strtod
import RtA100.OtaResponse

/-!
# Parsing JSON

`cJSON_Parse` reads one value off the front of a text.  A position in the
buffer is the text from there to the terminator; `buffer_skip_whitespace` never
leaves the text, since it steps back onto the terminator.  Allocation is taken
to succeed.

A number keeps only its `valueint`: trees are compared without `valuedouble`.
-/

namespace RtA100

open Library

/-! ## Strings -/

/-- The value of a hexadecimal digit. -/
def hexDigit (digit : Char) : Option Nat :=
  if '0' ≤ digit ∧ digit ≤ '9' then some (digit.toNat - '0'.toNat)
  else if 'A' ≤ digit ∧ digit ≤ 'F' then some (10 + digit.toNat - 'A'.toNat)
  else if 'a' ≤ digit ∧ digit ≤ 'f' then some (10 + digit.toNat - 'a'.toNat)
  else none

/-- `parse_hex4`; a character that is no digit makes the number 0. -/
def parseHex4 (input : CString) : Nat :=
  match (input.take 4).mapM hexDigit with
  | some digits => digits.foldl (fun number digit => 16 * number + digit) 0
  | none => 0

/-- One byte of a string. -/
def byteCharacter (byte : Nat) : Char := Char.ofNat (byte % 256)

/-- The UTF-8 sequence that `utf16_literal_to_utf8` writes for a code point,
or nothing for a number beyond them. -/
def encodeUtf8 (codepoint : Nat) : Option CString :=
  let continuation (shift : Nat) :=
    byteCharacter (((codepoint >>> shift) ||| 0x80) &&& 0xBF)
  if codepoint < 0x80 then some [byteCharacter (codepoint &&& 0x7F)]
  else if codepoint < 0x800 then
    some [byteCharacter ((codepoint >>> 6) ||| 0xC0), continuation 0]
  else if codepoint < 0x10000 then
    some
      [byteCharacter ((codepoint >>> 12) ||| 0xE0), continuation 6,
        continuation 0]
  else if codepoint ≤ 0x10FFFF then
    some
      [byteCharacter ((codepoint >>> 18) ||| 0xF0), continuation 12,
        continuation 6, continuation 0]
  else none

/-- `utf16_literal_to_utf8`, on the text from the backslash to the end of the
string: the bytes written and the length of the sequence. -/
def utf16LiteralToUtf8 (input : CString) : Option (CString × Nat) :=
  if input.length < 6 then none
  else
    let firstCode := parseHex4 (input.drop 2)
    if 0xDC00 ≤ firstCode ∧ firstCode ≤ 0xDFFF then none
    else if 0xD800 ≤ firstCode ∧ firstCode ≤ 0xDBFF then
      let secondSequence := input.drop 6
      if secondSequence.length < 6 then none
      else if secondSequence.take 2 ≠ ['\\', 'u'] then none
      else
        let secondCode := parseHex4 (secondSequence.drop 2)
        if secondCode < 0xDC00 ∨ 0xDFFF < secondCode then none
        else
          (encodeUtf8 (0x10000 +
            (((firstCode &&& 0x3FF) <<< 10) ||| (secondCode &&& 0x3FF)))).map
            fun output => (output, 12)
    else (encodeUtf8 firstCode).map fun output => (output, 6)

/-- What an escape sequence stands for, on the text from its backslash to the
end of the string, with its length.  Behind a last backslash stands the closing
quote. -/
def escapeSequence (input : CString) : Option (CString × Nat) :=
  match (input.drop 1).headD '"' with
  | 'b' => some (['\x08'], 2)
  | 'f' => some (['\x0C'], 2)
  | 'n' => some (['\n'], 2)
  | 'r' => some (['\r'], 2)
  | 't' => some (['\t'], 2)
  | '"' => some (['"'], 2)
  | '\\' => some (['\\'], 2)
  | '/' => some (['/'], 2)
  | 'u' => utf16LiteralToUtf8 input
  | _ => none

/-- The loop of `parse_string` over the text between the quotes, with the
characters that the pointer has still to pass over. -/
def unescape : Nat → CString → Option CString
  | _, [] => some []
  | skipped + 1, _ :: rest => unescape skipped rest
  | 0, first :: rest =>
      if first ≠ '\\' then (unescape 0 rest).map fun output => first :: output
      else
        match escapeSequence (first :: rest) with
        | none => none
        | some (written, sequenceLength) =>
            (unescape (sequenceLength - 1) rest).map fun output =>
              written ++ output

/-- The text up to the closing quote and the text behind it; a character behind
a backslash does not close. -/
def closingQuote : CString → Option (CString × CString)
  | [] => none
  | '\\' :: escaped :: rest =>
      (closingQuote rest).map fun (body, behind) =>
        ('\\' :: escaped :: body, behind)
  | first :: rest =>
      if first = '"' then some ([], rest)
      else
        (closingQuote rest).map fun (body, behind) => (first :: body, behind)

/-- `parse_string`, on the text behind the opening quote: the string up to its
first NUL. -/
def parseString (text : CString) : Option (CString × CString) := do
  let (body, rest) ← closingQuote text
  let output ← unescape 0 body
  some (untilNul output, rest)

/-! ## Numbers -/

/-- The characters that `parse_number` copies. -/
def isNumeric (character : Char) : Bool :=
  character.isDigit || isSign character || isExponentLetter character ||
    character = '.'

/-- `valueint` of a number: truncated, with saturation. -/
def valueint (number : ℚ) : Int :=
  if 2147483647 ≤ number then 2147483647
  else if number ≤ -2147483648 then -2147483648
  else if 0 ≤ number then ⌊number⌋
  else ⌈number⌉

/-- The content of `number_c_string`. -/
def numberCString (text : CString) : CString :=
  (text.takeWhile isNumeric).take 63

/-- `parse_number` -/
def parseNumber (text : CString) : Option (Int × CString) :=
  (strtod (numberCString text)).map fun (numeral, behind) =>
    (valueint numeral.double,
      text.drop ((numberCString text).length - behind.length))

/-! ## Values -/

/-- What `buffer_skip_whitespace` skips. -/
def isBlank (character : Char) : Bool := character.toNat ≤ 32

def arrayPunctuation : Punctuation Char :=
  { blank := isBlank, separator := ',', close := ']'
    separatorInked := by decide, closeInked := by decide
    distinct := by decide }

def objectPunctuation : Punctuation Char :=
  { blank := isBlank, separator := ',', close := '\x7d'
    separatorInked := by decide, closeInked := by decide
    distinct := by decide }

/-- `buffer_skip_whitespace` -/
def skipWhitespace (text : CString) : CString := text.dropWhile isBlank

/-- The body of the loop of `parse_object`. -/
def readMember (value : Reader Char CJson) (text : CString) :
    Option ((CString × CJson) × CString) :=
  match text with
  | '"' :: behind => do
      let (name, rest) ← parseString behind
      match skipWhitespace rest with
      | ':' :: more => do
          let (item, final) ← value.read (skipWhitespace more)
          some ((name, item), final)
      | _ => none
  | _ => none

theorem closingQuote_length {text body rest : CString}
    (closed : closingQuote text = some (body, rest)) :
    rest.length < text.length := by
  fun_induction closingQuote text generalizing body with
  | case1 => cases closed
  | case2 escaped rest' induction =>
      obtain ⟨⟨inner, behind⟩, found, result⟩ :=
        Option.map_eq_some_iff.mp closed
      cases result
      have shorter := induction found
      simp only [List.length_cons]
      omega
  | case3 rest' plain =>
      cases closed
      exact Nat.lt_succ_self _
  | case4 first rest' plain other induction =>
      obtain ⟨⟨inner, behind⟩, found, result⟩ :=
        Option.map_eq_some_iff.mp closed
      cases result
      have shorter := induction found
      simp only [List.length_cons]
      omega

theorem parseString_length {text string rest : CString}
    (parsed : parseString text = some (string, rest)) :
    rest.length < text.length := by
  simp only [parseString, Option.bind_eq_bind, Option.bind_eq_some_iff,
    Prod.exists, Option.some.injEq, Prod.mk.injEq] at parsed
  obtain ⟨body, behind, closed, output, _, _, rfl⟩ := parsed
  exact closingQuote_length closed

theorem skipWhitespace_length_le (text : CString) :
    (skipWhitespace text).length ≤ text.length :=
  (List.dropWhile_suffix _).length_le

/-- What a member of an object leaves of a text. -/
theorem readMember_cases {value : Reader Char CJson} {text rest : CString}
    {member : CString × CJson}
    (taken : readMember value text = some (member, rest)) :
    ∃ behind between more, text = '"' :: behind ∧
      parseString behind = some (member.1, between) ∧
      skipWhitespace between = ':' :: more ∧
      value.read (skipWhitespace more) = some (member.2, rest) := by
  unfold readMember at taken
  split at taken
  · rename_i behind
    simp only [Option.bind_eq_bind, Option.bind_eq_some_iff,
      Prod.exists] at taken
    obtain ⟨name, between, parsed, taken⟩ := taken
    split at taken
    · rename_i more ahead
      simp only [Option.bind_eq_some_iff, Prod.exists,
        Option.some.injEq, Prod.mk.injEq] at taken
      obtain ⟨item, final, found, rfl, rfl⟩ := taken
      exact ⟨behind, between, more, rfl, parsed, ahead, found⟩
    · cases taken
  · cases taken

/-- A member of an object, as a reader. -/
def memberReader (value : Reader Char CJson) :
    Reader Char (CString × CJson) where
  read := readMember value
  shortens := by
    intro text rest member taken
    obtain ⟨behind, between, more, rfl, parsed, ahead, found⟩ :=
      readMember_cases taken
    have name := parseString_length parsed
    have skipped := skipWhitespace_length_le between
    have skippedMore := skipWhitespace_length_le more
    have item := value.shortens found
    rw [ahead, List.length_cons] at skipped
    rw [List.length_cons]
    omega

/-- `parse_value`, for a reader of the values inside arrays and objects; there
is none at the nesting limit. -/
def readValue (nested : Option (Reader Char CJson)) (text : CString) :
    Option (CJson × CString) :=
  if text.take 4 = "null".toList then some (.null, text.drop 4)
  else if text.take 5 = "false".toList then
    some (.bool false, text.drop 5)
  else if text.take 4 = "true".toList then some (.bool true, text.drop 4)
  else
    match text with
    | [] => none
    | first :: rest =>
        if first = '"' then
          (parseString rest).map fun (string, behind) =>
            (.string string, behind)
        else if first = '-' ∨ first.isDigit = true then
          (parseNumber (first :: rest)).map fun (number, behind) =>
            (.number number, behind)
        else
          match nested with
          | none => none
          | some value =>
              if first = '[' then
                (readBracketed arrayPunctuation value rest).map
                  fun (elements, behind) => (.array elements, behind)
              else if first = '\x7b' then
                (readBracketed objectPunctuation (memberReader value)
                  rest).map fun (members, behind) =>
                    (.object members, behind)
              else none

theorem copied_isPrefix (text : CString) :
    numberCString text <+: text :=
  (List.take_prefix _ _).trans (List.takeWhile_prefix _)

/-- The text that `parse_number` takes: the longest numeral at the front of
what it has copied. -/
theorem parseNumber_front {text rest : CString} {number : Int}
    (parsed : parseNumber text = some (number, rest)) :
    ∃ front numeral, text = front ++ rest ∧
      front <+: numberCString text ∧ NumeralText front numeral ∧
      number = valueint numeral.double ∧
      ∀ other value, other <+: numberCString text → NumeralText other value →
        other.length ≤ front.length := by
  obtain ⟨⟨numeral, behind⟩, scanned, result⟩ :=
    Option.map_eq_some_iff.mp parsed
  cases result
  obtain ⟨front, split, numeralText⟩ := strtod_sound scanned
  have consumed : (numberCString text).length - behind.length =
      front.length := by
    rw [split, List.length_append]
    omega
  have prefixed : front <+: numberCString text := ⟨behind, split.symm⟩
  obtain ⟨more, textSplit⟩ := prefixed.trans (copied_isPrefix text)
  refine ⟨front, numeral, ?_, prefixed, numeralText, rfl, ?_⟩
  · rw [consumed, ← textSplit, List.drop_left]
  · rintro other value ⟨more, shape⟩ otherText
    obtain ⟨longest, final, taken, short⟩ := otherText.taken more
    rw [shape, scanned] at taken
    cases taken
    have lengths := congrArg List.length (shape.trans split)
    rw [List.length_append, List.length_append] at lengths
    omega

theorem parseNumber_length {text rest : CString} {number : Int}
    (parsed : parseNumber text = some (number, rest)) :
    rest.length < text.length := by
  obtain ⟨front, numeral, rfl, _, numeralText, _⟩ :=
    parseNumber_front parsed
  have positive := List.length_pos_iff.mpr numeralText.ne_nil
  rw [List.length_append]
  omega

theorem drop_length_lt {text word : CString} {count : Nat}
    (positive : 0 < count) (long : word.length = count)
    (same : text.take count = word) :
    (text.drop count).length < text.length := by
  rw [← same, List.length_take] at long
  rw [List.length_drop]
  omega

theorem readValue_shortens (nested : Option (Reader Char CJson))
    {text rest : CString} {value : CJson}
    (taken : readValue nested text = some (value, rest)) :
    rest.length < text.length := by
  unfold readValue at taken
  split_ifs at taken with isNull isFalse isTrue
  · cases taken
    exact drop_length_lt (by decide) (by decide) isNull
  · cases taken
    exact drop_length_lt (by decide) (by decide) isFalse
  · cases taken
    exact drop_length_lt (by decide) (by decide) isTrue
  · split at taken
    · cases taken
    · rename_i first behind
      split at taken
      · obtain ⟨⟨string, final⟩, parsed, result⟩ :=
          Option.map_eq_some_iff.mp taken
        cases result
        exact Nat.lt_succ_of_lt (parseString_length parsed)
      · split at taken
        · obtain ⟨⟨number, final⟩, parsed, result⟩ :=
            Option.map_eq_some_iff.mp taken
          cases result
          exact parseNumber_length parsed
        · split at taken
          · cases taken
          · split_ifs at taken
            · obtain ⟨⟨elements, final⟩, found, result⟩ :=
                Option.map_eq_some_iff.mp taken
              cases result
              exact Nat.lt_succ_of_lt
                (readBracketed_shortens _ _ found)
            · obtain ⟨⟨members, final⟩, found, result⟩ :=
                Option.map_eq_some_iff.mp taken
              cases result
              exact Nat.lt_succ_of_lt
                (readBracketed_shortens _ _ found)

/-- `parse_value` where `limit` more arrays and objects may be opened. -/
def parseValue : Nat → Reader Char CJson
  | 0 =>
      { read := readValue none
        shortens := readValue_shortens none }
  | limit + 1 =>
      { read := readValue (some (parseValue limit))
        shortens := readValue_shortens (some (parseValue limit)) }

theorem parseValue_zero_read (text : CString) :
    (parseValue 0).read text = readValue none text := by
  rw [parseValue]

theorem parseValue_succ_read (limit : Nat) (text : CString) :
    (parseValue (limit + 1)).read text =
      readValue (some (parseValue limit)) text := by
  rw [parseValue]

/-- `CJSON_NESTING_LIMIT` -/
def nestingLimit : Nat := 1000

/-- `skip_utf8_bom` -/
def skipUtf8Bom (text : CString) : CString :=
  if 4 ≤ text.length ∧ text.take 3 = ['\xEF', '\xBB', '\xBF'] then text.drop 3
  else text

/-- `cJSON_Parse` -/
def cJsonParse (value : CString) : Option CJson :=
  ((parseValue nestingLimit).read
    (skipWhitespace (skipUtf8Bom value))).map Prod.fst

end RtA100
