import RtA100.Library.Text

/-!
# Reading C text

`char` arrays, the lines of a text file, the pieces that `fgets` returns and the
conversions of `sscanf`.  Copies into an array return `none` when they would
overflow it.
-/

namespace Library

/-- A `char` array that holds a terminated string. -/
structure CArray (size : Nat) where
  text : CString
  fits : text.length < size
deriving DecidableEq

def CArray.cleared (size : Nat) : CArray (size + 1) :=
  { text := []
    fits := Nat.succ_pos size }

def strcpy (size : Nat) (source : CString) : Option (CArray size) :=
  if fits : source.length < size then some { text := source, fits }
  else none

theorem strcpy_text {size : Nat} {source : CString} {copied : CArray size}
    (result : strcpy size source = some copied) : copied.text = source := by
  unfold strcpy at result
  split at result
  · cases result
    rfl
  · cases result

theorem strcpy_self {size : Nat} (array : CArray size) :
    strcpy size array.text = some array :=
  dif_pos array.fits

/-- `strstr(haystack, needle) != NULL` -/
def strstr : CString → CString → Bool
  | [], needle => needle.isPrefixOf []
  | first :: rest, needle =>
      needle.isPrefixOf (first :: rest) || strstr rest needle

theorem ne_of_not_mem {stop : Char} {text : CString} (free : stop ∉ text) :
    ∀ character ∈ text, decide (character ≠ stop) = true := by
  intro character member
  exact decide_eq_true fun same => free (same ▸ member)

theorem not_mem_takeWhile (stop : Char) (text : CString) :
    stop ∉ text.takeWhile (· ≠ stop) := by
  intro member
  have kept := List.all_eq_true.mp List.all_takeWhile _ member
  simp at kept

/-- What stands before a separator, in front of any rest. -/
theorem takeWhile_stop {stop : Char} {text : CString} (rest : CString)
    (free : stop ∉ text) :
    (text ++ stop :: rest).takeWhile (· ≠ stop) = text := by
  rw [List.takeWhile_append_of_pos (ne_of_not_mem free)]
  simp

theorem dropWhile_stop {stop : Char} {text : CString} (rest : CString)
    (free : stop ∉ text) :
    (text ++ stop :: rest).dropWhile (· ≠ stop) = stop :: rest := by
  rw [List.dropWhile_append_of_pos (ne_of_not_mem free)]
  simp

theorem pieces_inj {stop : Char} {front front' rest rest' : CString}
    (free : stop ∉ front) (free' : stop ∉ front') :
    front ++ stop :: rest = front' ++ stop :: rest' ↔
      front = front' ∧ rest = rest' := by
  constructor
  · intro same
    have cut := congrArg (List.takeWhile (· ≠ stop)) same
    rw [takeWhile_stop rest free, takeWhile_stop rest' free'] at cut
    subst cut
    exact ⟨rfl, (List.cons.inj (List.append_cancel_left same)).2⟩
  · rintro ⟨rfl, rfl⟩
    rfl

/-! ## Lines -/

/-- The lines of a file, each with its newline. -/
def fileLines : CString → List CString
  | [] => []
  | first :: rest =>
      if first = '\n' then [first] :: fileLines rest
      else
        match fileLines rest with
        | [] => [[first]]
        | line :: lines => (first :: line) :: lines

/-- A file of complete lines. -/
def linesText (bodies : List CString) : CString :=
  bodies.flatMap (· ++ ['\n'])

theorem fileLines_line {body rest : CString} (oneLine : '\n' ∉ body) :
    fileLines (body ++ '\n' :: rest) = (body ++ ['\n']) :: fileLines rest := by
  induction body with
  | nil => rfl
  | cons first body induction =>
      have different : first ≠ '\n' := fun same =>
        oneLine (same ▸ List.mem_cons_self)
      have bodyLine : '\n' ∉ body := fun member =>
        oneLine (List.mem_cons_of_mem _ member)
      rw [List.cons_append, fileLines, if_neg different, induction bodyLine]
      rfl

theorem fileLines_linesText {bodies : List CString}
    (oneLine : ∀ body ∈ bodies, '\n' ∉ body) :
    fileLines (linesText bodies) = bodies.map (· ++ ['\n']) := by
  induction bodies with
  | nil => rfl
  | cons body bodies induction =>
      have rest : linesText (body :: bodies) =
          body ++ '\n' :: linesText bodies := by
        simp [linesText]
      rw [rest, fileLines_line (oneLine body List.mem_cons_self),
        induction fun body member =>
          oneLine body (List.mem_cons_of_mem _ member)]
      rfl

theorem fileLines_flatten (text : CString) :
    (fileLines text).flatten = text := by
  induction text with
  | nil => rfl
  | cons first rest induction =>
      rw [fileLines]
      split
      · rw [List.flatten_cons, induction]
        rfl
      · split
        · rename_i nothing
          rw [nothing] at induction
          rw [← induction]
          rfl
        · rename_i line lines more
          rw [more] at induction
          rw [← induction]
          rfl

/-- The lines of a text that ends with a newline are complete. -/
theorem fileLines_complete {text line : CString}
    (member : line ∈ fileLines (text ++ ['\n'])) :
    ∃ body, '\n' ∉ body ∧ line = body ++ ['\n'] := by
  induction text generalizing line with
  | nil =>
      rw [List.mem_singleton.mp member]
      exact ⟨[], List.not_mem_nil, rfl⟩
  | cons first rest induction =>
      rw [List.cons_append, fileLines] at member
      split at member
      · rename_i newline
        rcases List.mem_cons.mp member with here | later
        · exact ⟨[], List.not_mem_nil, by rw [here, newline]; rfl⟩
        · exact induction later
      · rename_i other
        split at member
        · rename_i nothing
          have whole := fileLines_flatten (rest ++ ['\n'])
          rw [nothing] at whole
          exact absurd whole.symm (by simp)
        · rename_i head lines more
          rw [more] at induction
          rcases List.mem_cons.mp member with here | later
          · obtain ⟨body, oneLine, same⟩ := induction List.mem_cons_self
            refine ⟨first :: body, ?_, by rw [here, same]; rfl⟩
            simp [oneLine, Ne.symm other]
          · exact induction (List.mem_cons_of_mem _ later)

/-- The first line of a text that is continued by a newline. -/
def firstLine (text : CString) : CString :=
  text.takeWhile (· ≠ '\n') ++ ['\n']

theorem fileLines_first (text rest : CString) :
    ∃ more, fileLines (text ++ '\n' :: rest) = firstLine text :: more := by
  induction text with
  | nil => exact ⟨fileLines rest, rfl⟩
  | cons first text induction =>
      obtain ⟨more, lines⟩ := induction
      rw [List.cons_append, fileLines]
      split
      · rename_i newline
        exact ⟨fileLines (text ++ '\n' :: rest), by simp [firstLine, newline]⟩
      · rename_i other
        rw [lines]
        exact ⟨more, by simp [firstLine, other]⟩

theorem firstLine_append {text : CString} (rest : CString)
    (oneLine : '\n' ∉ text) : firstLine (text ++ rest) =
      text ++ firstLine rest := by
  rw [firstLine, List.takeWhile_append_of_pos (ne_of_not_mem oneLine),
    List.append_assoc]
  rfl

theorem firstLine_comma {text : CString} (rest : CString)
    (oneLine : '\n' ∉ text) : firstLine (text ++ ',' :: rest) =
      text ++ ',' :: firstLine rest := by
  rw [firstLine_append _ oneLine]
  rfl

theorem firstLine_newline {text : CString} (rest : CString)
    (oneLine : '\n' ∉ text) : firstLine (text ++ '\n' :: rest) =
      text ++ ['\n'] := by
  rw [firstLine_append _ oneLine]
  rfl

/-- A text whose lines are all complete has as many lines as newlines. -/
theorem count_newline {text : CString}
    (complete : ∀ line ∈ fileLines text,
      ∃ body, '\n' ∉ body ∧ line = body ++ ['\n']) :
    text.count '\n' = (fileLines text).length := by
  have each : ∀ lines : List CString,
      (∀ line ∈ lines, ∃ body, '\n' ∉ body ∧ line = body ++ ['\n']) →
        lines.flatten.count '\n' = lines.length := by
    intro lines
    induction lines with
    | nil => exact fun _ => rfl
    | cons line lines induction =>
        intro complete
        obtain ⟨body, free, rfl⟩ := complete line List.mem_cons_self
        have rest := induction fun other member =>
          complete other (List.mem_cons_of_mem _ member)
        rw [List.flatten_cons, List.count_append, rest, List.count_append,
          List.count_eq_zero.mpr free, List.length_cons]
        simp [Nat.add_comm]
  rw [← each _ complete, fileLines_flatten]

theorem count_linesText {bodies : List CString}
    (oneLine : ∀ body ∈ bodies, '\n' ∉ body) :
    (linesText bodies).count '\n' = bodies.length := by
  have lines := fileLines_linesText oneLine
  rw [count_newline ?_, lines, List.length_map]
  intro line member
  rw [lines] at member
  obtain ⟨body, here, rfl⟩ := List.mem_map.mp member
  exact ⟨body, oneLine body here, rfl⟩

/-- What repeated calls of `fgets` leave in a buffer with room for that many
characters: each call overwrites the piece read before. -/
def lastChunk (room : Nat) : CString → CString → CString
  | chunk, [] => chunk
  | chunk, next :: rest =>
      if chunk.length = room ∨ chunk.getLast? = some '\n' then
        lastChunk room [next] rest
      else lastChunk room (chunk ++ [next]) rest

/-! ## `sscanf` -/

/-- The white space of the C locale. -/
def isSpace (character : Char) : Bool :=
  character = ' ' || (9 ≤ character.toNat && character.toNat ≤ 13)

/-- Saturate as `strtol` does. -/
def saturate (value : Int) : Int :=
  if value < -0x8000000000000000 then -0x8000000000000000
  else if value > 0x7FFFFFFFFFFFFFFF then 0x7FFFFFFFFFFFFFFF
  else value

def scanSign : CString → Int × CString
  | '-' :: rest => (-1, rest)
  | '+' :: rest => (1, rest)
  | rest => (1, rest)

/-- An integer conversion, with the text behind it. -/
def scanInteger (input : CString) : Option (Int × CString) :=
  let (sign, rest) := scanSign (input.dropWhile isSpace)
  match rest.takeWhile Char.isDigit with
  | [] => none
  | digits =>
      some (saturate (sign * Nat.ofDigitChars 10 digits 0),
        rest.dropWhile Char.isDigit)

/-- `%d`, `%hd` or `%hhu`, and `%[^,]`. -/
inductive Conversion where
  | integer
  | field

inductive Scanned where
  | integer (value : Int)
  | field (text : CString)
deriving DecidableEq

def afterComma : CString → Option CString
  | ',' :: rest => some rest
  | _ => none

/-- `sscanf` with a format of conversions separated by commas: the values
stored before the first one that does not match. -/
def scan : List Conversion → CString → List Scanned
  | [], _ => []
  | .integer :: format, input =>
      match scanInteger input with
      | none => []
      | some (value, rest) =>
          .integer value ::
            match afterComma rest with
            | none => []
            | some rest => scan format rest
  | .field :: format, input =>
      match input.takeWhile (· ≠ ',') with
      | [] => []
      | text =>
          .field text ::
            match afterComma (input.dropWhile (· ≠ ',')) with
            | none => []
            | some rest => scan format rest

theorem scan_field {format : List Conversion} {text : CString}
    (rest : CString) (nonempty : text ≠ []) (free : ',' ∉ text) :
    scan (.field :: format) (text ++ ',' :: rest) =
      .field text :: scan format rest := by
  obtain ⟨first, more, rfl⟩ := List.exists_cons_of_ne_nil nonempty
  rw [scan, takeWhile_stop rest free, dropWhile_stop rest free]
  rfl

/-- What a field conversion stores is the text before the next comma. -/
theorem scan_field_head {format : List Conversion} {input text : CString}
    (stored : (scan (.field :: format) input)[0]? = some (.field text)) :
    input.takeWhile (· ≠ ',') = text ∧ text ≠ [] := by
  rw [scan] at stored
  split at stored
  · cases stored
  · rename_i nonempty
    cases stored
    exact ⟨rfl, nonempty⟩

/-- A field at the end of the input is the last thing that is stored. -/
theorem scan_field_last {format : List Conversion} {text : CString}
    (nonempty : text ≠ []) (free : ',' ∉ text) :
    scan (.field :: format) text = [.field text] := by
  have field := ne_of_not_mem free
  have taken : (text ++ []).takeWhile (· ≠ ',') = text ++ [] :=
    List.takeWhile_append_of_pos field
  have dropped : (text ++ []).dropWhile (· ≠ ',') = [] :=
    List.dropWhile_append_of_pos field
  rw [List.append_nil] at taken dropped
  obtain ⟨first, more, rfl⟩ := List.exists_cons_of_ne_nil nonempty
  rw [scan, taken, dropped]
  rfl

/-- A field that is read back from the first line of a text has no comma, and
either no newline or one at its end, where the line ends too. -/
theorem scan_field_back {format : List Conversion} {text rest : CString}
    (stored : (scan (.field :: format)
      (firstLine (text ++ ',' :: rest)))[0]? = some (.field text)) :
    (text ≠ [] ∧ ',' ∉ text) ∧
      ('\n' ∉ text ∧
          scan (.field :: format) (firstLine (text ++ ',' :: rest)) =
            .field text :: scan format (firstLine rest) ∨
        (∃ body, '\n' ∉ body ∧ text = body ++ ['\n']) ∧
          scan (.field :: format) (firstLine (text ++ ',' :: rest)) =
            [.field text]) := by
  obtain ⟨taken, nonempty⟩ := scan_field_head stored
  have free : ',' ∉ text := by
    intro member
    rw [← taken] at member
    exact not_mem_takeWhile ',' _ member
  refine ⟨⟨nonempty, free⟩, ?_⟩
  by_cases newline : '\n' ∈ text
  · obtain ⟨body, after, rfl, oneLine⟩ := List.eq_append_cons_of_mem newline
    have line : firstLine ((body ++ '\n' :: after) ++ ',' :: rest) =
        body ++ ['\n'] := by
      rw [List.append_assoc]
      exact firstLine_newline _ oneLine
    have ended : after = [] := by
      have short : ((body ++ ['\n']).takeWhile (· ≠ ',')).length ≤
          (body ++ ['\n']).length := (List.takeWhile_prefix _).length_le
      rw [line] at taken
      rw [taken] at short
      simpa using short
    subst ended
    refine .inr ⟨⟨body, oneLine, rfl⟩, ?_⟩
    rw [line]
    exact scan_field_last nonempty free
  · refine .inl ⟨newline, ?_⟩
    rw [firstLine_comma rest newline]
    exact scan_field _ nonempty free

theorem ofDigitChars_decimal (value : Nat) :
    Nat.ofDigitChars 10 (decimal value) 0 = value :=
  Nat.ofDigitChars_ten_toDigits

theorem ofDigitChars_zeros (count : Nat) (digits : CString) :
    Nat.ofDigitChars 10 (List.replicate count '0' ++ digits) 0 =
      Nat.ofDigitChars 10 digits 0 := by
  induction count with
  | zero => rfl
  | succ count induction => exact induction

theorem ofDigitChars_paddedDecimal (width value : Nat) :
    Nat.ofDigitChars 10 (paddedDecimal width value) 0 = value := by
  rw [paddedDecimal, padZeros, ofDigitChars_zeros, ofDigitChars_decimal]

theorem takeWhile_digits {digits : CString} (rest : CString)
    (numeral : ∀ character ∈ digits, character.isDigit = true) :
    (digits ++ ',' :: rest).takeWhile Char.isDigit = digits := by
  rw [List.takeWhile_append_of_pos numeral]
  simp [show ','.isDigit = false by decide]

theorem dropWhile_digits {digits : CString} (rest : CString)
    (numeral : ∀ character ∈ digits, character.isDigit = true) :
    (digits ++ ',' :: rest).dropWhile Char.isDigit = ',' :: rest := by
  rw [List.dropWhile_append_of_pos numeral]
  simp [show ','.isDigit = false by decide]

theorem scanSign_digit {first : Char} {rest : CString}
    (digit : first.isDigit = true) :
    scanSign (first :: rest) = (1, first :: rest) := by
  unfold scanSign
  split
  · rename_i same
    cases same
    cases digit
  · rename_i same
    cases same
    cases digit
  · rfl

theorem isSpace_digit {first : Char} (digit : first.isDigit = true) :
    isSpace first = false := by
  simp only [Char.isDigit, Bool.and_eq_true, decide_eq_true_eq,
    UInt32.le_iff_toNat_le] at digit
  have notBlank : first ≠ ' ' := by
    rintro rfl
    exact absurd digit.1 (by decide)
  have above : ¬first.toNat ≤ 13 := by
    have least : 48 ≤ first.toNat := digit.1
    omega
  simp [isSpace, notBlank, above]

/-- Text that begins with a digit is not skipped as white space. -/
theorem dropWhile_isSpace_digits {digits : CString} (rest : CString)
    (nonempty : digits ≠ [])
    (numeral : ∀ character ∈ digits, character.isDigit = true) :
    (digits ++ rest).dropWhile isSpace = digits ++ rest := by
  obtain ⟨first, more, rfl⟩ := List.exists_cons_of_ne_nil nonempty
  have digit := numeral first List.mem_cons_self
  rw [List.cons_append, List.dropWhile_cons, isSpace_digit digit]
  rfl

theorem scanInteger_digits {digits : CString} (rest : CString)
    (nonempty : digits ≠ [])
    (numeral : ∀ character ∈ digits, character.isDigit = true) :
    scanInteger (digits ++ ',' :: rest) =
      some (saturate (Nat.ofDigitChars 10 digits 0), ',' :: rest) := by
  obtain ⟨first, more, split⟩ := List.exists_cons_of_ne_nil nonempty
  have digit : first.isDigit = true :=
    numeral first (by rw [split]; exact List.mem_cons_self)
  have unsigned : scanSign (digits ++ ',' :: rest) =
      (1, digits ++ ',' :: rest) := by
    rw [split, List.cons_append, scanSign_digit digit]
  unfold scanInteger
  rw [dropWhile_isSpace_digits _ nonempty numeral, unsigned]
  simp only [takeWhile_digits rest numeral, dropWhile_digits rest numeral]
  rw [split, Int.one_mul]

theorem saturate_small {value : Nat} (inRange : value < 0x8000000000000000) :
    saturate value = value := by
  unfold saturate
  rw [if_neg (by omega), if_neg (by omega)]

/-- Reading back a printed number that is followed by a comma. -/
theorem scanInteger_decimal {value : Nat} (rest : CString)
    (inRange : value < 0x8000000000000000) :
    scanInteger (decimal value ++ ',' :: rest) =
      some ((value : Int), ',' :: rest) := by
  have nonempty : decimal value ≠ [] := Nat.toDigits_ne_nil
  rw [scanInteger_digits rest nonempty fun _ => decimal_isDigit,
    ofDigitChars_decimal, saturate_small inRange]

theorem paddedDecimal_ne_nil (width value : Nat) :
    paddedDecimal width value ≠ [] := fun empty =>
  Nat.toDigits_ne_nil (List.append_eq_nil_iff.mp empty).2

theorem scanInteger_paddedDecimal {width value : Nat} (rest : CString)
    (inRange : value < 0x8000000000000000) :
    scanInteger (paddedDecimal width value ++ ',' :: rest) =
      some ((value : Int), ',' :: rest) := by
  rw [scanInteger_digits rest (paddedDecimal_ne_nil width value)
      fun _ => paddedDecimal_isDigit,
    ofDigitChars_paddedDecimal, saturate_small inRange]

/-- A stored field is not empty and has no comma. -/
theorem scan_field_free {format : List Conversion} {input text : CString}
    (stored : .field text ∈ scan format input) :
    text ≠ [] ∧ ',' ∉ text := by
  induction format generalizing input with
  | nil => cases stored
  | cons conversion format induction =>
      cases conversion with
      | integer =>
          rw [scan] at stored
          split at stored
          · cases stored
          · rcases List.mem_cons.mp stored with same | later
            · cases same
            · split at later
              · cases later
              · exact induction later
      | field =>
          rw [scan] at stored
          split at stored
          · cases stored
          · rename_i piece nonempty
            rcases List.mem_cons.mp stored with same | later
            · cases same
              exact ⟨nonempty, not_mem_takeWhile ',' _⟩
            · split at later
              · cases later
              · exact induction later

theorem scanInteger_mem {input rest : CString} {value : Int}
    (result : scanInteger input = some (value, rest)) :
    ∀ character ∈ rest, character ∈ input := by
  have signed (text : CString) : (scanSign text).2 <:+ text := by
    unfold scanSign
    split
    · exact List.suffix_cons _ _
    · exact List.suffix_cons _ _
    · exact List.suffix_refl _
  unfold scanInteger at result
  simp only at result
  split at result
  · cases result
  · obtain ⟨_, rfl⟩ := Prod.mk.inj (Option.some.inj result)
    intro character member
    exact (((List.dropWhile_suffix _).trans (signed _)).trans
      (List.dropWhile_suffix _)).mem member

theorem afterComma_mem {input rest : CString}
    (result : afterComma input = some rest) :
    ∀ character ∈ rest, character ∈ input := by
  unfold afterComma at result
  split at result
  · cases result
    exact fun _ member => List.mem_cons_of_mem _ member
  · cases result

/-- The characters of a scanned field come from the input. -/
theorem scan_field_mem {format : List Conversion} {input text : CString}
    (stored : .field text ∈ scan format input) :
    ∀ character ∈ text, character ∈ input := by
  induction format generalizing input with
  | nil => cases stored
  | cons conversion format induction =>
      cases conversion with
      | integer =>
          rw [scan] at stored
          split at stored
          · cases stored
          · rename_i value rest number
            rcases List.mem_cons.mp stored with same | later
            · cases same
            · split at later
              · cases later
              · rename_i behind comma
                intro character member
                exact scanInteger_mem number character
                  (afterComma_mem comma character
                    (induction later character member))
      | field =>
          rw [scan] at stored
          split at stored
          · cases stored
          · rename_i piece _
            rcases List.mem_cons.mp stored with same | later
            · cases same
              intro character member
              exact (List.takeWhile_prefix _).mem member
            · split at later
              · cases later
              · rename_i behind comma
                intro character member
                exact (List.dropWhile_suffix _).mem
                  (afterComma_mem comma character
                    (induction later character member))

end Library
