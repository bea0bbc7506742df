import RtA100.JsonStrings

/-!
# The texts that cJSON accepts

`Denotes limit` says which value a text stands for, with at most `limit` arrays
and objects inside one another.  Arrays and objects are bracketed lists with
blanks between their parts, a number is a numeral that starts with a digit or a
minus sign, and a string is a text between quotes.

The strings are those of RFC 8259, and a few more: control characters stand for
themselves, any four characters may stand behind `\u`, and the two loops of
`parse_string` may disagree about a backslash in front of the closing quote.

`cJSON_Parse` accepts exactly the texts that start with such a text, behind
blanks, and whatever follows it is not looked at.
-/

namespace RtA100

open Library

/-! ## The grammar -/

/-- A text between quotes: every quote in it stands behind a backslash. -/
inductive Quotable : CString → Prop where
  | nil : Quotable []
  | plain {first : Char} {rest : CString} :
      first ≠ '"' → first ≠ '\\' → Quotable rest → Quotable (first :: rest)
  | escaped {second : Char} {rest : CString} :
      Quotable rest → Quotable ('\\' :: second :: rest)

/-- Four characters behind `\u`: the digits of a number, or anything else,
which counts as zero. -/
def UnitText (text : CString) (number : Nat) : Prop :=
  HexUnit text number ∨
    text.length = 4 ∧ (∀ value, ¬HexUnit text value) ∧ number = 0

/-- A text between quotes and the string that it stands for. -/
inductive StringBody : CString → CString → Prop where
  | nil : StringBody [] []
  /-- A backslash in front of the closing quote, behind a `\u` that has taken
  the backslash before. -/
  | last : StringBody ['\\'] ['"']
  | plain {first : Char} {rest output : CString} :
      first ≠ '\\' → StringBody rest output →
      StringBody (first :: rest) (first :: output)
  | letter {letter character : Char} {rest output : CString} :
      (letter, character) ∈ escapeLetters → StringBody rest output →
      StringBody ('\\' :: letter :: rest) (character :: output)
  | unit {character : Char} {digits rest output : CString} :
      UnitText digits character.toNat → StringBody rest output →
      StringBody ('\\' :: 'u' :: (digits ++ rest))
        (utf8Bytes character ++ output)
  | pair {character : Char} {high low rest output : CString}
      {highBits lowBits : Nat} :
      highBits < 0x400 → lowBits < 0x400 →
      HexUnit high (0xD800 + highBits) → HexUnit low (0xDC00 + lowBits) →
      character.toNat = 0x10000 + (0x400 * highBits + lowBits) →
      StringBody rest output →
      StringBody ('\\' :: 'u' :: (high ++ '\\' :: 'u' :: (low ++ rest)))
        (utf8Bytes character ++ output)

/-- A string in its quotes; it ends at its first NUL. -/
inductive StringText : CString → CString → Prop where
  | quoted {body output : CString} :
      Quotable body → StringBody body output →
      StringText ('"' :: (body ++ ['"'])) (untilNul output)

/-- A numeral of at most 63 characters, and its `valueint`. -/
structure NumberText (text : CString) (number : Int) : Prop where
  short : text.length ≤ 63
  starts : ∃ first rest, text = first :: rest ∧
    (first = '-' ∨ first.isDigit = true)
  value : ∃ numeral, NumeralText text numeral ∧
    number = valueint numeral.double

inductive Scalar : CString → CJson → Prop where
  | null : Scalar "null".toList .null
  | false : Scalar "false".toList (.bool false)
  | true : Scalar "true".toList (.bool true)
  | string {text string : CString} :
      StringText text string → Scalar text (.string string)
  | number {text : CString} {number : Int} :
      NumberText text number → Scalar text (.number number)

def Blank (text : CString) : Prop :=
  ∀ character ∈ text, isBlank character = true

/-- A member of an object. -/
inductive MemberText (denotes : CString → CJson → Prop) :
    CString → CString × CJson → Prop where
  | pair {nameText name between after text : CString} {value : CJson} :
      StringText nameText name → Blank between → Blank after →
      denotes text value →
      MemberText denotes (nameText ++ (between ++ ':' :: (after ++ text)))
        (name, value)

/-- A value whose elements and members are as given. -/
inductive Composite (denotes : CString → CJson → Prop) :
    CString → CJson → Prop where
  | scalar {text : CString} {value : CJson} :
      Scalar text value → Composite denotes text value
  | array {text : CString} {elements : List CJson} :
      Bracketed arrayPunctuation denotes text elements →
      Composite denotes ('[' :: text) (.array elements)
  | object {text : CString} {members : List (CString × CJson)} :
      Bracketed objectPunctuation (MemberText denotes) text members →
      Composite denotes ('\x7b' :: text) (.object members)

/-- The text denotes the value, with at most `limit` arrays and objects inside
one another. -/
def Denotes : Nat → CString → CJson → Prop
  | 0 => Scalar
  | limit + 1 => Composite (Denotes limit)

/-- What follows a number does not continue it, in the 63 characters that are
looked at; other texts show their end themselves. -/
def EndsAt (text rest : CString) (value : CJson) : Prop :=
  ∀ number, value = .number number → ∀ more, more <+: rest → more ≠ [] →
    (text ++ more).length ≤ 63 → ∀ numeral, ¬NumeralText (text ++ more) numeral

theorem Denotes.scalar {limit : Nat} {text : CString} {value : CJson}
    (scalar : Scalar text value) : Denotes limit text value := by
  cases limit with
  | zero => exact scalar
  | succ limit => exact Composite.scalar scalar

/-! ## Strings -/

theorem Quotable.passes {body : CString} (quotable : Quotable body) :
    Passes body := by
  induction quotable with
  | nil => exact .nil
  | @plain first rest notQuote notEscape _ induction =>
      have here : Passes [first] :=
        .plains (by simpa using notQuote.symm) (by simpa using notEscape.symm)
      exact here.append induction
  | escaped _ induction => exact (Passes.escape _).append induction

/-- The first loop of `parse_string` finds the first quote that is not
escaped. -/
theorem closingQuote_iff {text body rest : CString} :
    closingQuote text = some (body, rest) ↔
      Quotable body ∧ text = body ++ '"' :: rest := by
  constructor
  · intro closed
    fun_induction closingQuote text generalizing body with
    | case1 => cases closed
    | case2 second behind induction =>
        obtain ⟨⟨inner, final⟩, found, result⟩ :=
          Option.map_eq_some_iff.mp closed
        cases result
        obtain ⟨quotable, split⟩ := induction found
        exact ⟨.escaped quotable, by rw [split]; rfl⟩
    | case3 behind plain =>
        cases closed
        exact ⟨.nil, rfl⟩
    | case4 first behind plain other induction =>
        obtain ⟨⟨inner, final⟩, found, result⟩ :=
          Option.map_eq_some_iff.mp closed
        cases result
        obtain ⟨quotable, split⟩ := induction found
        -- A backslash would have taken the next character with it.
        have notEscape : first ≠ '\\' := by
          intro escape
          obtain ⟨next, more, shape⟩ :
              ∃ next more, behind = next :: more := by
            rw [split]
            cases inner with
            | nil => exact ⟨_, _, rfl⟩
            | cons next inner => exact ⟨_, _, rfl⟩
          exact plain next more escape shape
        exact ⟨.plain other notEscape quotable, by rw [split]; rfl⟩
  · rintro ⟨quotable, rfl⟩
    rw [quotable.passes]
    simp [closingQuote]

theorem unitText_iff {text more : CString} {number : Nat}
    (long : text.length = 4) :
    UnitText text number ↔ parseHex4 (text ++ more) = number := by
  rw [parseHex4, List.take_left' long, UnitText]
  cases found : text.mapM hexDigit with
  | none =>
      have invalid : ∀ value, ¬HexUnit text value := by
        rintro value ⟨_, values, valid, _⟩
        rw [found] at valid
        cases valid
      simp only [invalid, long, not_false_eq_true, implies_true, true_and,
        false_or]
      exact eq_comm
  | some values =>
      have valid : HexUnit text
          (values.foldl (fun number digit => 16 * number + digit) 0) :=
        ⟨long, values, found, rfl⟩
      constructor
      · rintro (⟨_, others, again, rfl⟩ | ⟨_, invalid, _⟩)
        · rw [found] at again
          cases again
          rfl
        · exact absurd valid (invalid _)
      · rintro rfl
        exact .inl valid

theorem UnitText.length {text : CString} {number : Nat}
    (unit : UnitText text number) : text.length = 4 := by
  rcases unit with digits | ⟨long, _⟩
  · exact digits.1
  · exact long

theorem exists_character {code : Nat} (valid : code.isValidChar) :
    ∃ character : Char, character.toNat = code := by
  refine ⟨Char.ofNat code, ?_⟩
  rw [Char.ofNat, dif_pos valid]
  rfl

/-- A nonzero number is that of four digits. -/
theorem UnitText.digits {text : CString} {number : Nat}
    (unit : UnitText text number) (positive : 0 < number) :
    HexUnit text number := by
  rcases unit with digits | ⟨_, _, zero⟩
  · exact digits
  · omega

theorem parseHex4_unit {text : CString} (long : 4 ≤ text.length) :
    ∃ unit more, text = unit ++ more ∧ UnitText unit (parseHex4 text) := by
  refine ⟨text.take 4, text.drop 4, (List.take_append_drop 4 text).symm, ?_⟩
  have four : (text.take 4).length = 4 := List.length_take_of_le long
  rw [unitText_iff four, List.take_append_drop]

/-- What stands behind a backslash is a `u` and one or two units. -/
theorem utf16LiteralToUtf8_sound {rest written : CString}
    {sequenceLength : Nat}
    (found : utf16LiteralToUtf8 ('\\' :: 'u' :: rest) =
      some (written, sequenceLength)) {output : CString}
    (body : StringBody (('u' :: rest).drop (sequenceLength - 1)) output) :
    StringBody ('\\' :: 'u' :: rest) (written ++ output) := by
  unfold utf16LiteralToUtf8 at found
  simp only [List.length_cons, List.drop_succ_cons, List.drop_zero] at found
  split at found
  · cases found
  · rename_i enough
    obtain ⟨unit, more, rfl, code⟩ := @parseHex4_unit rest (by omega)
    have small := parseHex4_lt (unit ++ more)
    revert code small found
    generalize parseHex4 (unit ++ more) = firstCode
    intro found code small
    have behind : (unit ++ more).drop 4 = more := List.drop_left' code.length
    rw [behind] at found
    split_ifs at found with low high shortSecond other second
    · rw [not_not] at other
      obtain ⟨tail, rfl⟩ : ∃ tail, more = '\\' :: 'u' :: tail :=
        ⟨more.drop 2, by
          conv => lhs; rw [← List.take_append_drop 2 more, other]
          rfl⟩
      simp only [List.length_cons, List.drop_succ_cons, List.drop_zero]
        at found shortSecond second
      obtain ⟨lowUnit, last, rfl, lowCode⟩ :=
        @parseHex4_unit tail (by omega)
      revert lowCode found second
      generalize parseHex4 (lowUnit ++ last) = secondCode
      intro found second lowCode
      obtain ⟨encoded, here, result⟩ := Option.map_eq_some_iff.mp found
      cases result
      have bits := @pairBits (firstCode - 0xD800) (secondCode - 0xDC00)
        (by omega) (by omega)
      rw [show 0xD800 + (firstCode - 0xD800) = firstCode by omega,
        show 0xDC00 + (secondCode - 0xDC00) = secondCode by omega] at bits
      rw [bits] at here
      obtain ⟨character, codepoint⟩ := @exists_character
        (0x10000 + (0x400 * (firstCode - 0xD800) + (secondCode - 0xDC00)))
        (.inr (by omega))
      rw [← codepoint, encodeUtf8_toNat] at here
      cases here
      refine .pair (by omega) (by omega) ?_ ?_ codepoint ?_
      · rw [show 0xD800 + (firstCode - 0xD800) = firstCode by omega]
        exact code.digits (by omega)
      · rw [show 0xDC00 + (secondCode - 0xDC00) = secondCode by omega]
        exact lowCode.digits (by omega)
      · have skipped : ('u' :: (unit ++ '\\' :: 'u' :: (lowUnit ++ last))).drop
            11 = last := by
          have front : ('u' :: (unit ++ '\\' :: 'u' :: lowUnit)).length =
              11 := by
            simp only [List.length_cons, List.length_append, code.length,
              lowCode.length]
          have shape : 'u' :: (unit ++ '\\' :: 'u' :: (lowUnit ++ last)) =
              'u' :: (unit ++ '\\' :: 'u' :: lowUnit) ++ last := by
            simp
          rw [shape, List.drop_left' front]
        rw [skipped] at body
        exact body
    · obtain ⟨encoded, here, result⟩ := Option.map_eq_some_iff.mp found
      cases result
      obtain ⟨character, rfl⟩ := @exists_character firstCode (by
        unfold Nat.isValidChar
        omega)
      rw [encodeUtf8_toNat] at here
      cases here
      refine .unit code ?_
      rwa [List.drop_succ_cons, behind] at body

/-- What stands behind a backslash is a letter, one or two units, or
nothing. -/
theorem escapeSequence_sound {rest written : CString} {sequenceLength : Nat}
    (found : escapeSequence ('\\' :: rest) =
      some (written, sequenceLength)) {output : CString}
    (body : StringBody (rest.drop (sequenceLength - 1)) output) :
    StringBody ('\\' :: rest) (written ++ output) := by
  cases rest with
  | nil =>
      cases found
      cases body
      exact .last
  | cons letter rest =>
      unfold escapeSequence at found
      rw [List.drop_succ_cons, List.drop_zero, List.headD_cons] at found
      split at found
      case h_9 => exact utf16LiteralToUtf8_sound found body
      case h_10 => cases found
      all_goals
        cases found
        exact .letter (by decide) body

/-- The second loop of `parse_string` accepts the texts of strings. -/
theorem unescape_iff {body output : CString} :
    unescape 0 body = some output ↔ StringBody body output := by
  constructor
  · have sound : ∀ {skipped : Nat} {body output : CString},
        unescape skipped body = some output →
          StringBody (body.drop skipped) output := by
      intro skipped body output unescaped
      fun_induction unescape skipped body generalizing output with
      | case1 skipped =>
          cases unescaped
          rw [List.drop_nil]
          exact .nil
      | case2 skipped first rest induction => exact induction unescaped
      | case3 first rest plain induction =>
          obtain ⟨tail, found, rfl⟩ := Option.map_eq_some_iff.mp unescaped
          exact .plain plain (induction found)
      | case4 first rest escaped failed => cases unescaped
      | case5 first rest escaped written sequenceLength found induction =>
          obtain ⟨tail, following, rfl⟩ :=
            Option.map_eq_some_iff.mp unescaped
          rw [not_not] at escaped
          subst escaped
          exact escapeSequence_sound found (induction following)
    exact fun unescaped => sound unescaped
  · intro isBody
    induction isBody with
    | nil => rfl
    | last => rfl
    | plain notEscape _ induction =>
        rw [unescape, if_pos notEscape, induction]
        rfl
    | @letter letter _ rest _ listed _ induction =>
        have sequence := (escapeLetters_sequence listed rest).1
        rw [unescape, if_neg (by simp), sequence]
        simp only [Nat.reduceSub]
        rw [unescape, induction]
        rfl
    | @unit character digits rest output unit _ induction =>
        have number := (@unitText_iff _ rest _ unit.length).mp unit
        have sequence : escapeSequence ('\\' :: 'u' :: (digits ++ rest)) =
            some (utf8Bytes character, 6) :=
          utf16LiteralToUtf8_unit unit.length number
        have skipped := unescape_skipped ('u' :: digits) rest
        rw [List.length_cons, unit.length, List.cons_append] at skipped
        rw [unescape, if_neg (by simp), sequence]
        simp only [Nat.reduceSub]
        rw [skipped, induction]
        rfl
    | @pair character high low rest output _ _ highSmall lowSmall highUnit
        lowUnit codepoint _ induction =>
        have sequence := utf16LiteralToUtf8_pair highSmall lowSmall highUnit
          lowUnit codepoint rest
        have skipped :=
          unescape_skipped ('u' :: high ++ '\\' :: 'u' :: low) rest
        simp only [List.cons_append, List.append_assoc, List.length_cons,
          List.length_append, highUnit.1, lowUnit.1] at sequence skipped
        have found : escapeSequence
            ('\\' :: 'u' :: (high ++ '\\' :: 'u' :: (low ++ rest))) =
              some (utf8Bytes character, 12) := sequence
        rw [unescape, if_neg (by simp), found]
        simp only [Nat.reduceSub]
        rw [skipped, induction]
        rfl

theorem parseString_sound {text string rest : CString}
    (parsed : parseString text = some (string, rest)) :
    ∃ front, '"' :: text = front ++ rest ∧ StringText front string := by
  simp only [parseString, Option.bind_eq_bind, Option.bind_eq_some_iff,
    Prod.exists, Option.some.injEq, Prod.mk.injEq] at parsed
  obtain ⟨body, behind, closed, output, unescaped, rfl, rfl⟩ := parsed
  obtain ⟨quotable, rfl⟩ := closingQuote_iff.mp closed
  exact ⟨'"' :: (body ++ ['"']), by simp,
    .quoted quotable (unescape_iff.mp unescaped)⟩

theorem parseString_complete {text string : CString}
    (quoted : StringText text string) (rest : CString) :
    ∃ behind, text ++ rest = '"' :: behind ∧
      parseString behind = some (string, rest) := by
  cases quoted with
  | @quoted body output quotable isBody =>
      have closed := closingQuote_iff.mpr
        ⟨quotable, rfl (a := body ++ '"' :: rest)⟩
      refine ⟨body ++ '"' :: rest, by simp, ?_⟩
      simp [parseString, closed, unescape_iff.mpr isBody]

/-- A string of parts, in its quotes. -/
theorem StringPart.text {body output : CString}
    (part : StringPart body output) :
    StringText ('"' :: (body ++ ['"'])) (untilNul output) :=
  .quoted (closingQuote_iff.mp (part.closes [])).1
    (unescape_iff.mp part.unescaped)

/-! ## Numbers -/

theorem numeralText_numeric {text : CString} {numeral : Numeral}
    (numeralText : NumeralText text numeral) :
    ∀ character ∈ text, isNumeric character = true := by
  intro character member
  rcases numeralText.characters character member with
    digit | sign | rfl | letter
  · simp [isNumeric, digit]
  · simp [isNumeric, sign]
  · decide
  · simp [isNumeric, letter]

theorem NumberText.numeric {text : CString} {number : Int}
    (numberText : NumberText text number) :
    ∀ character ∈ text, isNumeric character = true := by
  obtain ⟨_, numeralText, _⟩ := numberText.value
  exact numeralText_numeric numeralText

/-- The characters of a numeral are copied. -/
theorem prefix_numberCString {text : CString} {numeral : Numeral}
    (numeralText : NumeralText text numeral) (short : text.length ≤ 63)
    (rest : CString) : text <+: numberCString (text ++ rest) := by
  rw [numberCString,
    List.takeWhile_append_of_pos (numeralText_numeric numeralText),
    List.take_append, List.take_of_length_le short]
  exact List.prefix_append _ _

theorem parseNumber_complete {text rest : CString} {number : Int}
    (numberText : NumberText text number)
    (ends : EndsAt text rest (.number number)) :
    parseNumber (text ++ rest) = some (number, rest) := by
  obtain ⟨numeral, numeralText, rfl⟩ := numberText.value
  have copied := prefix_numberCString numeralText numberText.short rest
  obtain ⟨taken, behind, parsed⟩ :
      ∃ taken behind, parseNumber (text ++ rest) = some (taken, behind) := by
    obtain ⟨more, split⟩ := copied
    obtain ⟨longest, behind, scanned, _⟩ := numeralText.taken more
    rw [parseNumber, ← split, scanned]
    exact ⟨_, _, rfl⟩
  obtain ⟨front, longest, frontSplit, frontCopied, frontText, rfl, most⟩ :=
    parseNumber_front parsed
  have within := most text numeral copied numeralText
  obtain ⟨more, rfl⟩ := List.prefix_of_prefix_length_le
    (List.prefix_append text rest) ⟨behind, frontSplit.symm⟩ within
  rw [List.append_assoc, List.append_cancel_left_eq] at frontSplit
  have short : (text ++ more).length ≤ 63 :=
    frontCopied.length_le.trans (List.length_take_le _ _)
  by_cases longer : more = []
  · subst longer
    rw [List.append_nil] at frontText
    have same := frontText.scanned
    rw [numeralText.scanned] at same
    cases same
    rw [parsed, frontSplit]
    rfl
  · exact absurd frontText
      (ends _ rfl more ⟨behind, frontSplit.symm⟩ longer short longest)

theorem parseNumber_sound {first : Char} {behind rest : CString}
    {number : Int} (starts : first = '-' ∨ first.isDigit = true)
    (parsed : parseNumber (first :: behind) = some (number, rest)) :
    ∃ front, first :: behind = front ++ rest ∧ NumberText front number ∧
      EndsAt front rest (.number number) := by
  obtain ⟨front, numeral, split, copied, numeralText, value, most⟩ :=
    parseNumber_front parsed
  have short : front.length ≤ 63 :=
    copied.length_le.trans (List.length_take_le _ _)
  refine ⟨front, split, ⟨short, ?_, numeral, numeralText, value⟩, ?_⟩
  · obtain ⟨head, tail, rfl⟩ :=
      List.exists_cons_of_ne_nil numeralText.ne_nil
    rw [List.cons_append, List.cons.injEq] at split
    exact ⟨head, tail, rfl, split.1 ▸ starts⟩
  · rintro _ _ more ⟨final, rfl⟩ something fits longer longerText
    have longerCopied := prefix_numberCString longerText fits final
    rw [List.append_assoc, ← split] at longerCopied
    have bound := most _ longer longerCopied longerText
    rw [List.length_append] at bound
    exact something (List.length_eq_zero_iff.mp (by omega))

theorem endsAt_of_stops {text rest : CString} {value : CJson}
    (stops : Stops isNumeric rest) : EndsAt text rest value := by
  rintro _ _ more ⟨final, rfl⟩ something _ numeral numeralText
  obtain ⟨first, tail, rfl⟩ := List.exists_cons_of_ne_nil something
  have numeric := numeralText_numeric numeralText first
    (List.mem_append_right _ List.mem_cons_self)
  rw [stops first rfl] at numeric
  cases numeric

/-! ## The parser and the grammar -/

theorem isNumeric_of_blank {character : Char}
    (blank : isBlank character = true) : isNumeric character = false := by
  by_contra numeric
  rw [Bool.not_eq_false] at numeric
  simp only [isNumeric, isSign, isExponentLetter, Bool.or_eq_true,
    decide_eq_true_eq, or_assoc] at numeric
  have inked : 32 < character.toNat := by
    rcases numeric with digit | rfl | rfl | rfl | rfl | rfl
    · simp only [Char.isDigit, Bool.and_eq_true, decide_eq_true_eq,
        UInt32.le_iff_toNat_le] at digit
      have least : 48 ≤ character.toNat := digit.1
      omega
    all_goals decide
  have low : character.toNat ≤ 32 := by simpa [isBlank] using blank
  omega

/-- The first character of a text that denotes a value. -/
theorem Denotes.first {limit : Nat} {text : CString} {value : CJson}
    (denoted : Denotes limit text value) :
    ∃ first rest, text = first :: rest ∧ isBlank first = false ∧
      first ≠ ']' ∧ first ≠ '\x7d' ∧ first ≠ '\xEF' := by
  have scalarFirst : ∀ {text : CString} {value : CJson}, Scalar text value →
      ∃ first rest, text = first :: rest ∧ isBlank first = false ∧
        first ≠ ']' ∧ first ≠ '\x7d' ∧ first ≠ '\xEF' := by
    intro text value scalar
    cases scalar with
    | null => exact ⟨'n', _, rfl, by decide⟩
    | false => exact ⟨'f', _, rfl, by decide⟩
    | true => exact ⟨'t', _, rfl, by decide⟩
    | string quoted =>
        cases quoted
        exact ⟨'"', _, rfl, by decide⟩
    | number numeral =>
        obtain ⟨first, rest, rfl, starts⟩ := numeral.starts
        have numeric := numeral.numeric first List.mem_cons_self
        have other : ∀ letter, isNumeric letter = false → first ≠ letter := by
          rintro letter textual rfl
          rw [numeric] at textual
          cases textual
        refine ⟨first, rest, rfl, ?_, other _ (by decide), other _ (by decide),
          other _ (by decide)⟩
        by_contra blank
        rw [isNumeric_of_blank (by simpa using blank)] at numeric
        cases numeric
  cases limit with
  | zero => exact scalarFirst denoted
  | succ limit =>
      cases denoted with
      | scalar scalar => exact scalarFirst scalar
      | array _ => exact ⟨'[', _, rfl, by decide⟩
      | object _ => exact ⟨'\x7b', _, rfl, by decide⟩

theorem readValue_other {first : Char} (nested : Option (Reader Char CJson))
    (rest : CString) (notNull : first ≠ 'n') (notFalse : first ≠ 'f')
    (notTrue : first ≠ 't') :
    readValue nested (first :: rest) =
      if first = '"' then
        (parseString rest).map fun (string, behind) =>
          (.string string, behind)
      else if first = '-' ∨ first.isDigit = true then
        (parseNumber (first :: rest)).map fun (number, behind) =>
          (.number number, behind)
      else
        match nested with
        | none => none
        | some value =>
            if first = '[' then
              (readBracketed arrayPunctuation value rest).map
                fun (elements, behind) => (.array elements, behind)
            else if first = '\x7b' then
              (readBracketed objectPunctuation (memberReader value)
                rest).map fun (members, behind) =>
                  (.object members, behind)
            else none := by
  have differs : ∀ (count : Nat) (word : CString), word.head? ≠ some first →
      (first :: rest).take (count + 1) ≠ word := by
    rintro count word other rfl
    exact other rfl
  have isNull : (first :: rest).take 4 ≠ "null".toList :=
    differs 3 _ (by simpa using notNull.symm)
  have isFalse : (first :: rest).take 5 ≠ "false".toList :=
    differs 4 _ (by simpa using notFalse.symm)
  have isTrue : (first :: rest).take 4 ≠ "true".toList :=
    differs 3 _ (by simpa using notTrue.symm)
  exact (if_neg isNull).trans ((if_neg isFalse).trans (if_neg isTrue))

theorem readValue_scalar {text : CString} {value : CJson}
    (scalar : Scalar text value) (nested : Option (Reader Char CJson))
    {rest : CString} (ends : EndsAt text rest value) :
    readValue nested (text ++ rest) = some (value, rest) := by
  cases scalar with
  | null => rfl
  | false => rfl
  | true => rfl
  | string quoted =>
      obtain ⟨behind, shape, parsed⟩ := parseString_complete quoted rest
      rw [shape, readValue_other nested behind (by decide) (by decide)
        (by decide), if_pos rfl, parsed]
      rfl
  | number numeral =>
      obtain ⟨first, tail, shape, starts⟩ := numeral.starts
      have numeric := numeral.numeric first
        (by rw [shape]; exact List.mem_cons_self)
      have parsed := parseNumber_complete numeral ends
      have other : ∀ letter, isNumeric letter = false → first ≠ letter := by
        rintro letter textual rfl
        rw [numeric] at textual
        cases textual
      rw [shape, List.cons_append] at parsed ⊢
      rw [readValue_other nested _ (other 'n' (by decide))
        (other 'f' (by decide)) (other 't' (by decide)),
        if_neg (other '"' (by decide)), if_pos starts, parsed]
      rfl

/-- What `parse_value` takes is a scalar, an array or an object. -/
theorem readValue_cases {nested : Option (Reader Char CJson)}
    {text rest : CString} {value : CJson}
    (taken : readValue nested text = some (value, rest)) :
    (∃ front, text = front ++ rest ∧ Scalar front value ∧
        EndsAt front rest value) ∨
      ∃ inner behind, nested = some inner ∧
        ((∃ elements, text = '[' :: behind ∧ value = .array elements ∧
            readBracketed arrayPunctuation inner behind =
              some (elements, rest)) ∨
          ∃ members, text = '\x7b' :: behind ∧ value = .object members ∧
            readBracketed objectPunctuation (memberReader inner) behind =
              some (members, rest)) := by
  unfold readValue at taken
  split_ifs at taken with isNull isFalse isTrue
  · cases taken
    refine .inl ⟨"null".toList, ?_, .null, fun number same => by cases same⟩
    rw [← isNull, List.take_append_drop]
  · cases taken
    refine .inl ⟨"false".toList, ?_, .false, fun number same => by cases same⟩
    rw [← isFalse, List.take_append_drop]
  · cases taken
    refine .inl ⟨"true".toList, ?_, .true, fun number same => by cases same⟩
    rw [← isTrue, List.take_append_drop]
  · split at taken
    · cases taken
    · rename_i first behind
      split at taken
      · rename_i quote
        obtain ⟨⟨string, final⟩, parsed, result⟩ :=
          Option.map_eq_some_iff.mp taken
        cases result
        obtain ⟨front, split, quoted⟩ := parseString_sound parsed
        exact .inl ⟨front, by rw [quote]; exact split, .string quoted,
          fun number same => by cases same⟩
      · split at taken
        · rename_i starts
          obtain ⟨⟨number, final⟩, parsed, result⟩ :=
            Option.map_eq_some_iff.mp taken
          cases result
          obtain ⟨front, split, numeral, ends⟩ :=
            parseNumber_sound starts parsed
          exact .inl ⟨front, split, .number numeral, ends⟩
        · split at taken
          · cases taken
          · rename_i inner
            split_ifs at taken with isArray isObject
            · obtain ⟨⟨elements, final⟩, found, result⟩ :=
                Option.map_eq_some_iff.mp taken
              cases result
              exact .inr ⟨inner, behind, rfl,
                .inl ⟨elements, by rw [isArray], rfl, found⟩⟩
            · obtain ⟨⟨members, final⟩, found, result⟩ :=
                Option.map_eq_some_iff.mp taken
              cases result
              exact .inr ⟨inner, behind, rfl,
                .inr ⟨members, by rw [isObject], rfl, found⟩⟩

theorem skipWhitespace_split (text : CString) :
    ∃ before, text = before ++ skipWhitespace text ∧ Blank before :=
  arrayPunctuation.skip_split text

theorem Blank.array {text : CString} (blank : Blank text) :
    arrayPunctuation.Blank text := blank

theorem Blank.object {text : CString} (blank : Blank text) :
    objectPunctuation.Blank text := blank

theorem Blank.skip {before : CString} (blank : Blank before) {first : Char}
    (inked : isBlank first = false) (rest : CString) :
    skipWhitespace (before ++ first :: rest) = first :: rest :=
  blank.array.skip inked rest

theorem stops_between {first : Char} (rest : CString)
    (between : isBlank first = true ∨ first = ',' ∨ first = ']' ∨
      first = '\x7d') : Stops isNumeric (first :: rest) := by
  apply Stops.cons
  rcases between with blank | rfl | rfl | rfl
  · exact isNumeric_of_blank blank
  all_goals decide

theorem arrayPunctuation_suits (limit : Nat) :
    arrayPunctuation.Suits (Denotes limit) (Stops isNumeric) where
  starts := by
    intro front value denoted
    obtain ⟨first, rest, rfl, inked, other, _⟩ := Denotes.first denoted
    exact ⟨first, rest, rfl, inked, other⟩
  between := by
    rintro first rest (blank | separator | close)
    · exact stops_between rest (.inl blank)
    · exact stops_between rest (.inr (.inl separator))
    · exact stops_between rest (.inr (.inr (.inl close)))

theorem objectPunctuation_suits (denotes : CString → CJson → Prop) :
    objectPunctuation.Suits (MemberText denotes) (Stops isNumeric) where
  starts := by
    intro front member denoted
    cases denoted with
    | pair quoted =>
        cases quoted
        exact ⟨'"', _, rfl, by decide⟩
  between := by
    rintro first rest (blank | separator | close)
    · exact stops_between rest (.inl blank)
    · exact stops_between rest (.inr (.inl separator))
    · exact stops_between rest (.inr (.inr (.inr close)))

theorem memberReader_recognises {limit : Nat} {value : Reader Char CJson}
    (recognises : value.Recognises (Denotes limit) (Stops isNumeric)) :
    (memberReader value).Recognises (MemberText (Denotes limit))
      (Stops isNumeric) where
  sound := by
    rintro text rest ⟨name, item⟩ taken
    obtain ⟨behind, between, more, rfl, parsed, ahead, found⟩ :=
      readMember_cases taken
    obtain ⟨nameText, nameSplit, quoted⟩ := parseString_sound parsed
    obtain ⟨before, betweenSplit, blank⟩ := skipWhitespace_split between
    obtain ⟨after, moreSplit, blankAfter⟩ := skipWhitespace_split more
    obtain ⟨front, itemSplit, denoted⟩ := recognises.sound found
    refine ⟨_, ?_, .pair quoted blank blankAfter denoted⟩
    rw [nameSplit, betweenSplit, ahead, moreSplit, itemSplit]
    simp only [List.append_assoc, List.cons_append]
  complete := by
    intro front rest member denoted stops
    cases denoted with
    | @pair nameText name between after text value quoted blank blankAfter
        denoted =>
        obtain ⟨behind, shape, parsed⟩ := parseString_complete quoted
          (between ++ ':' :: (after ++ (text ++ rest)))
        obtain ⟨first, tail, rfl, inked, _⟩ := Denotes.first denoted
        have colon : isBlank ':' = false := by decide
        have found := recognises.complete denoted stops
        rw [List.cons_append] at shape parsed found
        simp only [List.append_assoc, List.cons_append, shape, memberReader,
          readMember, parsed, Option.bind_eq_bind, Option.bind_some]
        simp only [blank.skip colon,
          blankAfter.skip inked, found, Option.bind_some]

theorem readValue_array (value : Reader Char CJson) (rest : CString) :
    readValue (some value) ('[' :: rest) =
      (readBracketed arrayPunctuation value rest).map
        fun (elements, behind) => (.array elements, behind) :=
  readValue_other (some value) rest (by decide) (by decide) (by decide)

theorem readValue_object (value : Reader Char CJson) (rest : CString) :
    readValue (some value) ('\x7b' :: rest) =
      (readBracketed objectPunctuation (memberReader value) rest).map
        fun (members, behind) => (.object members, behind) :=
  readValue_other (some value) rest (by decide) (by decide) (by decide)

/-- A text that denotes a value is taken, whatever follows its end. -/
theorem readValue_composite {limit : Nat} {inner : Reader Char CJson}
    (recognises : inner.Recognises (Denotes limit) (Stops isNumeric))
    {text rest : CString} {value : CJson}
    (denoted : Composite (Denotes limit) text value)
    (ends : EndsAt text rest value) :
    readValue (some inner) (text ++ rest) = some (value, rest) := by
  cases denoted with
  | scalar scalar => exact readValue_scalar scalar _ ends
  | array bracketed =>
      have found := readBracketed_complete recognises
        (arrayPunctuation_suits limit) bracketed rest
      rw [List.cons_append, readValue_array, found]
      rfl
  | object bracketed =>
      have found := readBracketed_complete
        (memberReader_recognises recognises)
        (objectPunctuation_suits (Denotes limit)) bracketed rest
      rw [List.cons_append, readValue_object, found]
      rfl

/-- What `parse_value` takes denotes a value, and ends there. -/
theorem readValue_denotes {limit : Nat} {inner : Reader Char CJson}
    (recognises : inner.Recognises (Denotes limit) (Stops isNumeric))
    {text rest : CString} {value : CJson}
    (taken : readValue (some inner) text = some (value, rest)) :
    ∃ front, text = front ++ rest ∧ Denotes (limit + 1) front value ∧
      EndsAt front rest value := by
  rcases readValue_cases taken with ⟨front, split, scalar, ends⟩ |
    ⟨reader, behind, nested, ⟨elements, rfl, rfl, found⟩ |
      ⟨fields, rfl, rfl, found⟩⟩
  · exact ⟨front, split, Composite.scalar scalar, ends⟩
  · cases nested
    obtain ⟨front, rfl, bracketed⟩ := readBracketed_sound recognises found
    exact ⟨'[' :: front, rfl, Composite.array bracketed,
      fun number same => by cases same⟩
  · cases nested
    obtain ⟨front, rfl, bracketed⟩ := readBracketed_sound
      (memberReader_recognises recognises) found
    exact ⟨'\x7b' :: front, rfl, Composite.object bracketed,
      fun number same => by cases same⟩

/-- `parse_value` takes exactly the texts that denote a value. -/
theorem parseValue_recognises (limit : Nat) :
    (parseValue limit).Recognises (Denotes limit) (Stops isNumeric) := by
  induction limit with
  | zero =>
      constructor
      · intro text rest value taken
        rw [parseValue_zero_read] at taken
        rcases readValue_cases taken with ⟨front, split, scalar, _⟩ |
          ⟨inner, behind, limited, _⟩
        · exact ⟨front, split, scalar⟩
        · cases limited
      · intro front rest value denoted stops
        rw [parseValue_zero_read]
        exact readValue_scalar denoted none (endsAt_of_stops stops)
  | succ limit induction =>
      constructor
      · intro text rest value taken
        rw [parseValue_succ_read] at taken
        obtain ⟨front, split, denoted, _⟩ := readValue_denotes induction taken
        exact ⟨front, split, denoted⟩
      · intro front rest value denoted stops
        rw [parseValue_succ_read]
        exact readValue_composite induction denoted (endsAt_of_stops stops)

/-- A text that is parsed starts, behind blanks, with what denotes the tree. -/
theorem cJsonParse_sound {value : CString} {root : CJson}
    (parsed : cJsonParse value = some root) :
    ∃ before front rest, skipUtf8Bom value = before ++ (front ++ rest) ∧
      Blank before ∧ Denotes nestingLimit front root ∧
      EndsAt front rest root := by
  have limit : nestingLimit = 999 + 1 := rfl
  unfold cJsonParse at parsed
  rw [Option.map_eq_some_iff, limit] at parsed
  obtain ⟨⟨root, rest⟩, taken, rfl⟩ := parsed
  rw [parseValue_succ_read] at taken
  obtain ⟨before, split, blank⟩ := skipWhitespace_split (skipUtf8Bom value)
  obtain ⟨front, frontSplit, denoted, ends⟩ :=
    readValue_denotes (parseValue_recognises 999) taken
  exact ⟨before, front, rest, by rw [← frontSplit]; exact split, blank,
    denoted, ends⟩

theorem cJsonParse_complete {value before front rest : CString} {root : CJson}
    (split : skipUtf8Bom value = before ++ (front ++ rest))
    (blank : Blank before) (denoted : Denotes nestingLimit front root)
    (ends : EndsAt front rest root) : cJsonParse value = some root := by
  have limit : nestingLimit = 999 + 1 := rfl
  unfold cJsonParse
  rw [Option.map_eq_some_iff, limit]
  refine ⟨(root, rest), ?_, rfl⟩
  obtain ⟨first, tail, shape, inked, _⟩ := Denotes.first denoted
  have taken := readValue_composite (parseValue_recognises 999) denoted ends
  rw [split, parseValue_succ_read]
  rw [shape, List.cons_append] at taken ⊢
  rw [blank.skip inked, taken]

/-- `cJSON_Parse` accepts exactly the texts that denote a value with at most
1000 arrays and objects inside one another, behind blanks and a byte order
mark, and in front of anything. -/
theorem cJsonParse_iff (value : CString) (root : CJson) :
    cJsonParse value = some root ↔
      ∃ before front rest, skipUtf8Bom value = before ++ (front ++ rest) ∧
        Blank before ∧ Denotes nestingLimit front root ∧
        EndsAt front rest root := by
  constructor
  · exact cJsonParse_sound
  · rintro ⟨_, _, _, split, blank, denoted, ends⟩
    exact cJsonParse_complete split blank denoted ends

end RtA100
