import Mathlib.Data.Int.Log
import Mathlib.Data.Rat.Floor
import Mathlib.Tactic.Linarith
import RtA100.Library.FloatFormat
import RtA100.Library.Scan

/-!
# Decimal numerals

`strtod` takes a sign, digits with at most one decimal point and an exponent
off the front of a text.  The number it returns is the exact value of the
numeral, rounded to the nearest number of the format.  White space, hexadecimal
numerals, infinities and NaN are left out.
-/

namespace Library

/-! ## Rounding -/

/-- The nearest integer, the even one of two. -/
def roundHalfEven (value : ℚ) : Int :=
  let part := value - ⌊value⌋
  if part < 1 / 2 then ⌊value⌋
  else if 1 / 2 < part then ⌊value⌋ + 1
  else if ⌊value⌋ % 2 = 0 then ⌊value⌋
  else ⌊value⌋ + 1

theorem roundHalfEven_intCast (value : Int) :
    roundHalfEven (value : ℚ) = value := by
  simp [roundHalfEven]

namespace FloatFormat

variable (format : FloatFormat)

/-- The exponent of the least positive number. -/
def leastExponent : Int :=
  -((2 ^ (format.exponent - 1) - 2 + format.fraction : Nat) : Int)

/-- The exponent of the last place of the numbers near `value`. -/
def lastPlace (value : ℚ) : Int :=
  max (Int.log 2 |value| - format.fraction) format.leastExponent

/-- The nearest number of the format, with its exponent unbounded above. -/
def nearest (value : ℚ) : ℚ :=
  roundHalfEven (value / 2 ^ format.lastPlace value) *
    2 ^ format.lastPlace value

variable {format}

/-- A number whose last place is not behind the point is an integer. -/
theorem nearest_of_lastPlace {value : Int}
    (whole : format.lastPlace (value : ℚ) ≤ 0) :
    format.nearest (value : ℚ) = value := by
  obtain ⟨places, same⟩ := Int.eq_ofNat_of_zero_le (Int.neg_nonneg.mpr whole)
  have place : format.lastPlace (value : ℚ) = -(places : Int) := by omega
  have scaled : (value : ℚ) / 2 ^ format.lastPlace (value : ℚ) =
      ((value * 2 ^ places : Int) : ℚ) := by
    rw [place, zpow_neg, div_inv_eq_mul, zpow_natCast]
    push_cast
    rfl
  have positive : (2 : ℚ) ^ format.lastPlace (value : ℚ) ≠ 0 :=
    zpow_ne_zero _ (by norm_num)
  rw [nearest, scaled, roundHalfEven_intCast, ← scaled,
    div_mul_cancel₀ _ positive]

/-- An integer whose digits fit the fraction is a number of the format. -/
theorem nearest_intCast {value : Int}
    (small : value.natAbs < 2 ^ (format.fraction + 1)) :
    format.nearest (value : ℚ) = value := by
  have magnitude : |(value : ℚ)| = (value.natAbs : ℚ) := by
    rw [Nat.cast_natAbs, Int.cast_abs]
  have places : Nat.log 2 value.natAbs ≤ format.fraction :=
    Nat.le_of_lt_succ (Nat.log_lt_of_lt_pow' (Nat.succ_ne_zero _) small)
  apply nearest_of_lastPlace
  rw [lastPlace, magnitude, Int.log_natCast, leastExponent]
  omega

end FloatFormat

/-! ## Numerals -/

structure Numeral where
  sign : Int
  digits : CString
  /-- The power of ten behind the digits. -/
  scale : Int

/-- A decimal point and the digits behind it. -/
def scanFraction : CString → CString × CString
  | '.' :: rest => (rest.takeWhile Char.isDigit, rest.dropWhile Char.isDigit)
  | text => ([], text)

/-- An exponent; its letter counts only with digits behind it. -/
def scanExponent : CString → Int × CString
  | [] => (0, [])
  | letter :: rest =>
      if letter = 'e' ∨ letter = 'E' then
        let (sign, behind) := scanSign rest
        match behind.takeWhile Char.isDigit with
        | [] => (0, letter :: rest)
        | digits =>
            (sign * Nat.ofDigitChars 10 digits 0,
              behind.dropWhile Char.isDigit)
      else (0, letter :: rest)

/-- The numeral at the front of a text, with the text behind it. -/
def strtod (text : CString) : Option (Numeral × CString) :=
  let (sign, unsigned) := scanSign text
  let whole := unsigned.takeWhile Char.isDigit
  let (fraction, behind) := scanFraction (unsigned.dropWhile Char.isDigit)
  if whole = [] ∧ fraction = [] then none
  else
    let (exponent, rest) := scanExponent behind
    some
      ({ sign, digits := whole ++ fraction
         scale := exponent - fraction.length }, rest)

namespace Numeral

/-- The value of a numeral. -/
def exact (numeral : Numeral) : ℚ :=
  numeral.sign * (Nat.ofDigitChars 10 numeral.digits 0 : Nat) *
    10 ^ numeral.scale

/-- The `double` for a numeral. -/
def double (numeral : Numeral) : ℚ := FloatFormat.double.nearest numeral.exact

end Numeral

/-! ## The text of a numeral -/

/-- What follows a part of a numeral does not start with one of its symbols. -/
def Stops (part : Char → Bool) (text : CString) : Prop :=
  ∀ first ∈ text.head?, part first = false

theorem Stops.nil (part : Char → Bool) : Stops part [] := by
  intro first member
  cases member

theorem Stops.cons {part : Char → Bool} {first : Char}
    (other : part first = false) (rest : CString) :
    Stops part (first :: rest) := by
  intro head member
  cases member
  exact other

theorem takeWhile_stops {part : Char → Bool} {front rest : CString}
    (inside : ∀ character ∈ front, part character = true)
    (stops : Stops part rest) :
    (front ++ rest).takeWhile part = front ∧
      (front ++ rest).dropWhile part = rest := by
  rw [List.takeWhile_append_of_pos inside,
    List.dropWhile_append_of_pos inside]
  cases rest with
  | nil => exact ⟨List.append_nil _, rfl⟩
  | cons first rest =>
      have other : ¬part first = true := by
        rw [stops first rfl]
        exact Bool.false_ne_true
      rw [List.takeWhile_cons_of_neg other, List.dropWhile_cons_of_neg other]
      exact ⟨List.append_nil _, rfl⟩

def isSign (character : Char) : Bool := character = '-' || character = '+'

def isExponentLetter (character : Char) : Bool :=
  character = 'e' || character = 'E'

theorem isSign_of_digit {character : Char}
    (digit : character.isDigit = true) : isSign character = false := by
  by_contra signed
  have cases : character = '-' ∨ character = '+' := by
    simpa [isSign, Decidable.or_iff_not_imp_left] using signed
  rcases cases with rfl | rfl <;> cases digit

theorem isDigit_of_exponentLetter {character : Char}
    (letter : isExponentLetter character = true) :
    character.isDigit = false ∧ character ≠ '.' ∧
      isSign character = false := by
  have cases : character = 'e' ∨ character = 'E' := by
    simpa [isExponentLetter] using letter
  rcases cases with rfl | rfl <;> decide

theorem scanSign_unsigned {text : CString} (stops : Stops isSign text) :
    scanSign text = (1, text) := by
  unfold scanSign
  split
  · exact absurd (stops '-' rfl) (by decide)
  · exact absurd (stops '+' rfl) (by decide)
  · rfl

/-! ## The grammar -/

/-- Digits only. -/
def Digits (text : CString) : Prop :=
  ∀ character ∈ text, character.isDigit = true

inductive SignText : CString → Int → Prop where
  | none : SignText [] 1
  | minus : SignText ['-'] (-1)
  | plus : SignText ['+'] 1

/-- A decimal point with digits behind it, or nothing. -/
inductive FractionText : CString → CString → Prop where
  | none : FractionText [] []
  | point {digits : CString} :
      Digits digits → FractionText ('.' :: digits) digits

/-- A letter, a sign and at least one digit, or nothing. -/
inductive ExponentText : CString → Int → Prop where
  | none : ExponentText [] 0
  | letter {letter : Char} {signText digits : CString} {sign : Int} :
      letter = 'e' ∨ letter = 'E' → SignText signText sign →
      Digits digits → digits ≠ [] →
      ExponentText (letter :: (signText ++ digits))
        (sign * Nat.ofDigitChars 10 digits 0)

/-- The text of a numeral: a sign, digits, a fraction and an exponent, with a
digit before or behind the point. -/
inductive NumeralText : CString → Numeral → Prop where
  | parts {signText whole fractionText fraction exponentText : CString}
      {sign exponent : Int} :
      SignText signText sign → Digits whole →
      FractionText fractionText fraction →
      ExponentText exponentText exponent →
      ¬(whole = [] ∧ fraction = []) →
      NumeralText (signText ++ (whole ++ (fractionText ++ exponentText)))
        { sign, digits := whole ++ fraction
          scale := exponent - fraction.length }

theorem digits_takeWhile (text : CString) :
    Digits (text.takeWhile Char.isDigit) :=
  List.all_eq_true.mp List.all_takeWhile

theorem FractionText.first {text fraction : CString}
    (fractionText : FractionText text fraction) :
    (∀ first ∈ text.head?, first = '.') ∧ (text = [] → fraction = []) := by
  cases fractionText with
  | none => exact ⟨nofun, fun _ => rfl⟩
  | point digits =>
      refine ⟨?_, nofun⟩
      rintro first ⟨⟩
      rfl

theorem ExponentText.first {text : CString} {exponent : Int}
    (exponentText : ExponentText text exponent) :
    ∀ first ∈ text.head?, isExponentLetter first = true := by
  cases exponentText with
  | none => exact nofun
  | letter isLetter =>
      rintro first ⟨⟩
      simpa [isExponentLetter] using isLetter

theorem ExponentText.stops {text : CString} {exponent : Int}
    (exponentText : ExponentText text exponent) :
    Stops Char.isDigit text ∧ Stops (· = '.') text :=
  ⟨fun first member =>
      (isDigit_of_exponentLetter (exponentText.first first member)).1,
    fun first member => decide_eq_false
      (isDigit_of_exponentLetter (exponentText.first first member)).2.1⟩

/-- What stands behind the digits in front of the point does not continue
them. -/
theorem fraction_stops {fractionText fraction exponentText : CString}
    {exponent : Int} (isFraction : FractionText fractionText fraction)
    (isExponent : ExponentText exponentText exponent) :
    Stops Char.isDigit (fractionText ++ exponentText) := by
  cases isFraction with
  | none => exact isExponent.stops.1
  | point => exact .cons (by decide) _

/-- What stands behind the sign does not start with a sign. -/
theorem unsigned_stops {whole fractionText fraction : CString}
    (digits : Digits whole) (isFraction : FractionText fractionText fraction)
    (something : ¬(whole = [] ∧ fraction = [])) (more : CString) :
    Stops isSign (whole ++ (fractionText ++ more)) := by
  cases whole with
  | nil =>
      cases isFraction with
      | none => exact absurd ⟨rfl, rfl⟩ something
      | point => exact .cons (by decide) _
  | cons digit rest =>
      exact .cons (isSign_of_digit (digits digit List.mem_cons_self)) _

/-! ## What the scanner takes -/

theorem scanSign_sound (text : CString) :
    ∃ front, text = front ++ (scanSign text).2 ∧
      SignText front (scanSign text).1 := by
  unfold scanSign
  split
  · exact ⟨['-'], rfl, .minus⟩
  · exact ⟨['+'], rfl, .plus⟩
  · exact ⟨[], rfl, .none⟩

theorem scanFraction_sound (text : CString) :
    ∃ front, text = front ++ (scanFraction text).2 ∧
      FractionText front (scanFraction text).1 := by
  unfold scanFraction
  split
  · rename_i rest
    refine ⟨'.' :: rest.takeWhile Char.isDigit, ?_,
      .point (digits_takeWhile rest)⟩
    rw [List.cons_append, List.takeWhile_append_dropWhile]
  · exact ⟨[], rfl, .none⟩

theorem scanExponent_sound (text : CString) :
    ∃ front, text = front ++ (scanExponent text).2 ∧
      ExponentText front (scanExponent text).1 := by
  cases text with
  | nil => exact ⟨[], rfl, .none⟩
  | cons letter rest =>
      by_cases isLetter : letter = 'e' ∨ letter = 'E'
      · obtain ⟨signText, signSplit, signed⟩ := scanSign_sound rest
        -- Without digits the letter belongs to the rest.
        cases found : (scanSign rest).2.takeWhile Char.isDigit with
        | nil =>
            simp only [scanExponent, if_pos isLetter, found]
            exact ⟨[], rfl, .none⟩
        | cons digit more =>
            have digits := digits_takeWhile (scanSign rest).2
            rw [found] at digits
            simp only [scanExponent, if_pos isLetter, found]
            refine ⟨letter :: (signText ++ digit :: more), ?_,
              .letter isLetter signed digits (List.cons_ne_nil _ _)⟩
            rw [List.cons_append, List.append_assoc, ← found,
              List.takeWhile_append_dropWhile, ← signSplit]
      · simp only [scanExponent, if_neg isLetter]
        exact ⟨[], rfl, .none⟩

/-- `strtod` takes the text of a numeral off the front. -/
theorem strtod_sound {text rest : CString} {numeral : Numeral}
    (taken : strtod text = some (numeral, rest)) :
    ∃ front, text = front ++ rest ∧ NumeralText front numeral := by
  obtain ⟨sign, signSplit, signed⟩ := scanSign_sound text
  obtain ⟨point, pointSplit, pointed⟩ :=
    scanFraction_sound ((scanSign text).2.dropWhile Char.isDigit)
  obtain ⟨letter, letterSplit, lettered⟩ := scanExponent_sound
    (scanFraction ((scanSign text).2.dropWhile Char.isDigit)).2
  have whole := List.takeWhile_append_dropWhile
    (p := Char.isDigit) (l := (scanSign text).2)
  unfold strtod at taken
  simp only at taken
  split at taken
  · cases taken
  · rename_i something
    cases taken
    refine ⟨_, ?_,
      .parts signed (digits_takeWhile _) pointed lettered something⟩
    rw [List.append_assoc, List.append_assoc, List.append_assoc,
      ← letterSplit, ← pointSplit, whole, ← signSplit]

theorem SignText.scanned {text more : CString} {sign : Int}
    (signText : SignText text sign) (stops : Stops isSign more) :
    scanSign (text ++ more) = (sign, more) := by
  cases signText with
  | none => exact scanSign_unsigned stops
  | minus => rfl
  | plus => rfl

theorem scanFraction_none {text : CString} (stops : Stops (· = '.') text) :
    scanFraction text = ([], text) := by
  unfold scanFraction
  split
  · exact absurd (stops '.' rfl) (by simp)
  · rfl

theorem FractionText.scanned {text fraction more : CString}
    (fractionText : FractionText text fraction)
    (digits : Stops Char.isDigit more) (points : Stops (· = '.') more) :
    scanFraction (text ++ more) = (fraction, more) := by
  cases fractionText with
  | none => exact scanFraction_none points
  | point inside =>
      obtain ⟨taken, left⟩ := takeWhile_stops inside digits
      rw [List.cons_append, scanFraction, taken, left]

/-- An exponent is taken with the digits that follow it. -/
theorem ExponentText.scanned {text : CString} {exponent : Int}
    (exponentText : ExponentText text exponent) (something : text ≠ [])
    (more : CString) :
    (more = [] → scanExponent (text ++ more) = (exponent, [])) ∧
      (scanExponent (text ++ more)).2 = more.dropWhile Char.isDigit := by
  cases exponentText with
  | none => exact absurd rfl something
  | @letter letter signText digits sign isLetter signed inside nonempty =>
      obtain ⟨first, rest, rfl⟩ := List.exists_cons_of_ne_nil nonempty
      have unsigned : Stops isSign (first :: rest ++ more) :=
        .cons (isSign_of_digit (inside first List.mem_cons_self)) _
      have taken := @List.takeWhile_append_of_pos _ _ _ more inside
      have left := @List.dropWhile_append_of_pos _ _ _ more inside
      rw [List.cons_append, List.append_assoc]
      simp only [scanExponent, if_pos isLetter, signed.scanned unsigned,
        taken, left]
      refine ⟨?_, rfl⟩
      rintro rfl
      rw [List.takeWhile_nil, List.dropWhile_nil, List.append_nil]

/-- `strtod` takes the text of a numeral as a whole. -/
theorem NumeralText.scanned {text : CString} {numeral : Numeral}
    (numeralText : NumeralText text numeral) :
    strtod text = some (numeral, []) := by
  cases numeralText with
  | @parts signText whole fractionText fraction exponentText sign exponent
      signed digits isFraction isExponent something =>
      obtain ⟨taken, left⟩ :=
        takeWhile_stops digits (fraction_stops isFraction isExponent)
      have exponentScanned : scanExponent exponentText = (exponent, []) := by
        by_cases nothing : exponentText = []
        · subst nothing
          cases isExponent
          rfl
        · have found := (isExponent.scanned nothing []).1 rfl
          rwa [List.append_nil] at found
      unfold strtod
      simp only [signed.scanned
          (unsigned_stops digits isFraction something exponentText),
        taken, left, isFraction.scanned isExponent.stops.1 isExponent.stops.2,
        exponentScanned, if_neg something]

theorem dropWhile_length_le (part : Char → Bool) (text : CString) :
    (text.dropWhile part).length ≤ text.length :=
  (List.dropWhile_suffix part).length_le

theorem scanFraction_length_le (text : CString) :
    (scanFraction text).2.length ≤ text.length := by
  obtain ⟨front, split, _⟩ := scanFraction_sound text
  have lengths := congrArg List.length split
  rw [List.length_append] at lengths
  omega

theorem scanExponent_length_le (text : CString) :
    (scanExponent text).2.length ≤ text.length := by
  obtain ⟨front, split, _⟩ := scanExponent_sound text
  have lengths := congrArg List.length split
  rw [List.length_append] at lengths
  omega

/-- A fraction and an exponent are taken, and perhaps more. -/
theorem fraction_exponent_taken {fractionText fraction exponentText : CString}
    {exponent : Int} (isFraction : FractionText fractionText fraction)
    (isExponent : ExponentText exponentText exponent) (more : CString) :
    fraction <+: (scanFraction (fractionText ++ (exponentText ++ more))).1 ∧
      (scanExponent (scanFraction
        (fractionText ++ (exponentText ++ more))).2).2.length ≤
          more.length := by
  by_cases nothing : exponentText = []
  · subst nothing
    rw [List.nil_append]
    cases isFraction with
    | none =>
        exact ⟨List.nil_prefix,
          (scanExponent_length_le _).trans (scanFraction_length_le _)⟩
    | point inside =>
        rw [List.cons_append, scanFraction,
          List.takeWhile_append_of_pos inside,
          List.dropWhile_append_of_pos inside]
        exact ⟨List.prefix_append _ _,
          (scanExponent_length_le _).trans (dropWhile_length_le _ _)⟩
  · obtain ⟨letter, rest, rfl⟩ := List.exists_cons_of_ne_nil nothing
    obtain ⟨digits, points⟩ := isExponent.stops
    have digitsMore : Stops Char.isDigit (letter :: rest ++ more) :=
      .cons (digits letter rfl) _
    have pointsMore : Stops (· = '.') (letter :: rest ++ more) :=
      .cons (points letter rfl) _
    rw [isFraction.scanned digitsMore pointsMore,
      (isExponent.scanned nothing more).2]
    exact ⟨List.prefix_rfl, dropWhile_length_le _ _⟩

/-- `strtod` takes at least any numeral that stands at the front. -/
theorem NumeralText.taken {text : CString} {numeral : Numeral}
    (numeralText : NumeralText text numeral) (more : CString) :
    ∃ longest rest, strtod (text ++ more) = some (longest, rest) ∧
      rest.length ≤ more.length := by
  cases numeralText with
  | @parts signText whole fractionText fraction exponentText sign exponent
      signed digits isFraction isExponent something =>
      have unsigned := unsigned_stops digits isFraction something
        (exponentText ++ more)
      have split : signText ++ (whole ++ (fractionText ++ exponentText)) ++
          more = signText ++
            (whole ++ (fractionText ++ (exponentText ++ more))) := by
        simp only [List.append_assoc]
      unfold strtod
      rw [split, signed.scanned unsigned]
      simp only
      rw [List.takeWhile_append_of_pos digits,
        List.dropWhile_append_of_pos digits]
      by_cases bare : fractionText = [] ∧ exponentText = []
      · -- The digits may go on.
        obtain ⟨rfl, rfl⟩ := bare
        have isWhole : whole ≠ [] := by
          rintro rfl
          exact something ⟨rfl, isFraction.first.2 rfl⟩
        rw [List.nil_append, List.nil_append, if_neg]
        · exact ⟨_, _, rfl, (scanExponent_length_le _).trans
            ((scanFraction_length_le _).trans (dropWhile_length_le _ _))⟩
        · rintro ⟨nothing, _⟩
          exact isWhole (List.append_eq_nil_iff.mp nothing).1
      · have stops : Stops Char.isDigit
            (fractionText ++ (exponentText ++ more)) := by
          intro first member
          rw [← List.append_assoc, List.head?_append_of_ne_nil] at member
          · exact fraction_stops isFraction isExponent first member
          · simpa using bare
        obtain ⟨digitsTaken, digitsLeft⟩ :=
          @takeWhile_stops Char.isDigit [] _ nofun stops
        obtain ⟨fractionTaken, short⟩ :=
          fraction_exponent_taken isFraction isExponent more
        rw [List.nil_append] at digitsTaken digitsLeft
        rw [digitsTaken, digitsLeft, if_neg]
        · exact ⟨_, _, rfl, short⟩
        · rintro ⟨noDigits, noFraction⟩
          rw [noFraction, List.prefix_nil] at fractionTaken
          exact something
            ⟨(List.append_eq_nil_iff.mp noDigits).1, fractionTaken⟩

theorem NumeralText.ne_nil {text : CString} {numeral : Numeral}
    (numeralText : NumeralText text numeral) : text ≠ [] := by
  rintro rfl
  have taken := numeralText.scanned
  cases taken

/-- The characters of a numeral. -/
theorem NumeralText.characters {text : CString} {numeral : Numeral}
    (numeralText : NumeralText text numeral) :
    ∀ character ∈ text, character.isDigit = true ∨
      isSign character = true ∨ character = '.' ∨
        isExponentLetter character = true := by
  have signs : ∀ {text : CString} {sign : Int}, SignText text sign →
      ∀ character ∈ text, isSign character = true := by
    rintro text sign (_ | _ | _) character member
    · cases member
    all_goals
      rw [List.mem_singleton.mp member]
      rfl
  cases numeralText with
  | parts signed digits isFraction isExponent =>
      intro character member
      simp only [List.mem_append] at member
      rcases member with sign | whole | point | letter
      · exact .inr (.inl (signs signed _ sign))
      · exact .inl (digits _ whole)
      · cases isFraction with
        | none => cases point
        | point inside =>
            rcases List.mem_cons.mp point with rfl | digit
            · exact .inr (.inr (.inl rfl))
            · exact .inl (inside _ digit)
      · cases isExponent with
        | none => cases letter
        | letter isLetter exponentSign inside =>
            rcases List.mem_cons.mp letter with rfl | behind
            · exact .inr (.inr (.inr (by
                simpa [isExponentLetter] using isLetter)))
            · rcases List.mem_append.mp behind with sign | digit
              · exact .inr (.inl (signs exponentSign _ sign))
              · exact .inl (inside _ digit)

/-! ## Printed integers -/

theorem decimal_digits (value : Nat) : Digits (decimal value) :=
  fun _ => decimal_isDigit

/-- Digits with a sign in front are a numeral. -/
theorem SignText.decimal {text : CString} {sign : Int}
    (signText : SignText text sign) (value : Nat) :
    NumeralText (text ++ Library.decimal value)
      { sign, digits := Library.decimal value, scale := 0 } := by
  have something : Library.decimal value ≠ [] := Nat.toDigits_ne_nil
  have numeralText := NumeralText.parts signText (decimal_digits value) .none
    .none fun nothing => something nothing.1
  simpa using numeralText

/-- A numeral of digits alone has an exact `double` up to its 53 bits. -/
theorem Numeral.double_digits {sign : Int} {value : Nat}
    (small : (sign * value).natAbs < 2 ^ 53) :
    ({ sign, digits := decimal value, scale := 0 } : Numeral).double =
      ((sign * value : Int) : ℚ) := by
  rw [Numeral.double, Numeral.exact, ofDigitChars_decimal, zpow_zero, mul_one]
  have same : (sign : ℚ) * (value : ℚ) = ((sign * value : Int) : ℚ) := by
    push_cast
    rfl
  rw [same]
  exact FloatFormat.nearest_intCast small

end Library
