import Mathlib.Data.List.DropRight

/-!
# Readers of texts

A reader takes a value off the front of a list of symbols.  A bracketed list is
read item by item: blanks around an item are skipped, a separator asks for
another item, and the closing symbol ends the list.

`Recognises` compares a reader with a description of the texts it is for, and
is carried from the items to the bracketed list.
-/

namespace Library

universe u v

variable {Symbol : Type u} {α : Type v}

/-- Takes a value off the front of a text, and uses some of the text for it. -/
structure Reader (Symbol : Type u) (α : Type v) where
  read : List Symbol → Option (α × List Symbol)
  shortens : ∀ {text rest : List Symbol} {value : α},
    read text = some (value, rest) → rest.length < text.length

/-- The symbols that hold a list together. -/
structure Punctuation (Symbol : Type u) where
  blank : Symbol → Bool
  separator : Symbol
  close : Symbol
  separatorInked : blank separator = false
  closeInked : blank close = false
  distinct : separator ≠ close

namespace Punctuation

variable (punctuation : Punctuation Symbol)

/-- Go on to the first symbol that is not blank. -/
def skip (text : List Symbol) : List Symbol :=
  text.dropWhile punctuation.blank

/-- All symbols are blank. -/
def Blank (text : List Symbol) : Prop :=
  ∀ symbol ∈ text, punctuation.blank symbol = true

theorem skip_length_le (text : List Symbol) :
    (punctuation.skip text).length ≤ text.length :=
  (List.dropWhile_suffix _).length_le

/-- What is skipped is blank. -/
theorem skip_split (text : List Symbol) :
    ∃ before, text = before ++ punctuation.skip text ∧
      punctuation.Blank before :=
  ⟨text.takeWhile punctuation.blank, List.takeWhile_append_dropWhile.symm,
    fun symbol member =>
      List.all_eq_true.mp List.all_takeWhile symbol member⟩

@[simp] theorem skip_skip (text : List Symbol) :
    punctuation.skip (punctuation.skip text) = punctuation.skip text :=
  List.dropWhile_idempotent _ _

variable {punctuation}

theorem Blank.append {before after : List Symbol}
    (blankBefore : punctuation.Blank before)
    (blankAfter : punctuation.Blank after) :
    punctuation.Blank (before ++ after) :=
  List.forall_mem_append.mpr ⟨blankBefore, blankAfter⟩

theorem Blank.skip {before : List Symbol} (blank : punctuation.Blank before)
    {first : Symbol} (inked : punctuation.blank first = false)
    (rest : List Symbol) :
    punctuation.skip (before ++ first :: rest) = first :: rest := by
  rw [Punctuation.skip, List.dropWhile_append_of_pos blank,
    List.dropWhile_cons_of_neg (by rw [inked]; exact Bool.false_ne_true)]

end Punctuation

/-! ## Bracketed lists -/

section Reading

variable [DecidableEq Symbol] (punctuation : Punctuation Symbol)
  (item : Reader Symbol α)

/-- Items with separators between them, up to the first symbol behind an item
that is neither blank nor a separator. -/
def readSeparated (text : List Symbol) : Option (List α × List Symbol) :=
  match _taken : item.read (punctuation.skip text) with
  | none => none
  | some (value, rest) =>
      match _behind : punctuation.skip rest with
      | [] => some ([value], [])
      | next :: more =>
          if next = punctuation.separator then
            (readSeparated more).map fun (values, final) =>
              (value :: values, final)
          else some ([value], next :: more)
termination_by text.length
decreasing_by
  have shorter := item.shortens _taken
  have skipped := punctuation.skip_length_le text
  have skippedRest := punctuation.skip_length_le rest
  rw [_behind, List.length_cons] at skippedRest
  omega

variable {punctuation item}

theorem readSeparated_skip (text : List Symbol) :
    readSeparated punctuation item (punctuation.skip text) =
      readSeparated punctuation item text := by
  rw [readSeparated, readSeparated.eq_def punctuation item text]
  rw [punctuation.skip_skip]

theorem readSeparated_next {text rest more : List Symbol} {value : α}
    (taken : item.read (punctuation.skip text) = some (value, rest))
    (ahead : punctuation.skip rest = punctuation.separator :: more) :
    readSeparated punctuation item text =
      (readSeparated punctuation item more).map fun (values, final) =>
        (value :: values, final) := by
  rw [readSeparated]
  split
  · rename_i nothing
    rw [taken] at nothing
    cases nothing
  · rename_i found
    rw [taken] at found
    cases found
    split
    · rename_i nothing
      rw [ahead] at nothing
      cases nothing
    · rename_i behind
      rw [ahead] at behind
      cases behind
      rw [if_pos rfl]

theorem readSeparated_last {text rest more : List Symbol} {value : α}
    {next : Symbol}
    (taken : item.read (punctuation.skip text) = some (value, rest))
    (ahead : punctuation.skip rest = next :: more)
    (other : next ≠ punctuation.separator) :
    readSeparated punctuation item text = some ([value], next :: more) := by
  rw [readSeparated]
  split
  · rename_i nothing
    rw [taken] at nothing
    cases nothing
  · rename_i found
    rw [taken] at found
    cases found
    split
    · rename_i nothing
      rw [ahead] at nothing
      cases nothing
    · rename_i behind
      rw [ahead] at behind
      cases behind
      rw [if_neg other]

variable (punctuation item)

/-- The items behind an opening symbol, and the closing symbol. -/
def readBracketed (text : List Symbol) : Option (List α × List Symbol) :=
  match punctuation.skip text with
  | [] => none
  | first :: rest =>
      if first = punctuation.close then some ([], rest)
      else
        match readSeparated punctuation item (first :: rest) with
        | some (values, last :: final) =>
            if last = punctuation.close then some (values, final) else none
        | _ => none

theorem readSeparated_length_le {text rest : List Symbol} {values : List α}
    (taken : readSeparated punctuation item text = some (values, rest)) :
    rest.length ≤ text.length := by
  fun_induction readSeparated punctuation item text generalizing values with
  | case1 text nothing => cases taken
  | case2 text value behind found nothing =>
      cases taken
      exact Nat.zero_le _
  | case3 text value behind found more separates induction =>
      obtain ⟨⟨later, final⟩, following, result⟩ :=
        Option.map_eq_some_iff.mp taken
      cases result
      have shorter := item.shortens found
      have skipped := punctuation.skip_length_le text
      have skippedRest := punctuation.skip_length_le behind
      have left := induction following
      rw [separates, List.length_cons] at skippedRest
      omega
  | case4 text value behind found next more ahead other =>
      cases taken
      have shorter := item.shortens found
      have skipped := punctuation.skip_length_le text
      have skippedRest := punctuation.skip_length_le behind
      rw [ahead] at skippedRest
      omega

/-- A bracketed list uses some of the text. -/
theorem readBracketed_shortens {text rest : List Symbol} {values : List α}
    (taken : readBracketed punctuation item text = some (values, rest)) :
    rest.length < text.length := by
  have skipped := punctuation.skip_length_le text
  unfold readBracketed at taken
  split at taken
  · cases taken
  · rename_i first more ahead
    rw [ahead, List.length_cons] at skipped
    split at taken
    · cases taken
      exact skipped
    · split at taken
      · rename_i items last final found
        have left := readSeparated_length_le punctuation item found
        rw [List.length_cons, List.length_cons] at left
        split at taken <;> cases taken
        omega
      · cases taken

end Reading

/-! ## What the texts denote -/

section Denoting

variable (punctuation : Punctuation Symbol)
  (denotes : List Symbol → α → Prop)

/-- Items with separators between them and blanks around them. -/
inductive Separated : List Symbol → List α → Prop where
  | last {before front after : List Symbol} {value : α} :
      punctuation.Blank before → denotes front value →
      punctuation.Blank after →
      Separated (before ++ (front ++ after)) [value]
  | next {before front after more : List Symbol} {value : α}
      {values : List α} :
      punctuation.Blank before → denotes front value →
      punctuation.Blank after → Separated more values →
      Separated
        (before ++ (front ++ (after ++ punctuation.separator :: more)))
        (value :: values)

/-- The items behind an opening symbol, and the closing symbol. -/
inductive Bracketed : List Symbol → List α → Prop where
  | nothing {between : List Symbol} :
      punctuation.Blank between →
      Bracketed (between ++ [punctuation.close]) []
  | items {text : List Symbol} {values : List α} :
      Separated punctuation denotes text values →
      Bracketed (text ++ [punctuation.close]) values

variable {punctuation denotes}

theorem Separated.forall {holds : α → Prop} {text : List Symbol}
    {values : List α} (separated : Separated punctuation denotes text values)
    (each : ∀ text value, denotes text value → holds value) :
    ∀ value ∈ values, holds value := by
  induction separated with
  | last _ denoted _ =>
      intro value member
      rw [List.mem_singleton.mp member]
      exact each _ _ denoted
  | next _ denoted _ _ induction =>
      intro value member
      rcases List.mem_cons.mp member with rfl | later
      · exact each _ _ denoted
      · exact induction value later

theorem Bracketed.forall {holds : α → Prop} {text : List Symbol}
    {values : List α} (bracketed : Bracketed punctuation denotes text values)
    (each : ∀ text value, denotes text value → holds value) :
    ∀ value ∈ values, holds value := by
  cases bracketed with
  | nothing _ => simp
  | items separated => exact separated.forall each

theorem Separated.leading {before text : List Symbol} {values : List α}
    (blank : punctuation.Blank before)
    (separated : Separated punctuation denotes text values) :
    Separated punctuation denotes (before ++ text) values := by
  cases separated with
  | last blankBefore denoted blankAfter =>
      rw [← List.append_assoc]
      exact .last (blank.append blankBefore) denoted blankAfter
  | next blankBefore denoted blankAfter more =>
      rw [← List.append_assoc]
      exact .next (blank.append blankBefore) denoted blankAfter more

theorem Separated.trailing {text after : List Symbol} {values : List α}
    (separated : Separated punctuation denotes text values)
    (blank : punctuation.Blank after) :
    Separated punctuation denotes (text ++ after) values := by
  induction separated with
  | last blankBefore denoted blankAfter =>
      rw [List.append_assoc, List.append_assoc]
      exact .last blankBefore denoted (blankAfter.append blank)
  | next blankBefore denoted blankAfter _ induction =>
      simp only [List.append_assoc, List.cons_append]
      exact .next blankBefore denoted blankAfter induction

end Denoting

/-- The reader takes exactly the texts that denote a value, as long as what
follows them lets the reader see their end. -/
structure Reader.Recognises (reader : Reader Symbol α)
    (denotes : List Symbol → α → Prop) (ends : List Symbol → Prop) :
    Prop where
  sound : ∀ {text rest : List Symbol} {value : α},
    reader.read text = some (value, rest) →
    ∃ front, text = front ++ rest ∧ denotes front value
  complete : ∀ {front rest : List Symbol} {value : α},
    denotes front value → ends rest →
    reader.read (front ++ rest) = some (value, rest)

/-- An item does not start with a blank or with the closing symbol, and the
symbols between items end it. -/
structure Punctuation.Suits (punctuation : Punctuation Symbol)
    (denotes : List Symbol → α → Prop) (ends : List Symbol → Prop) :
    Prop where
  starts : ∀ {front : List Symbol} {value : α}, denotes front value →
    ∃ first tail, front = first :: tail ∧
      punctuation.blank first = false ∧ first ≠ punctuation.close
  between : ∀ {first : Symbol} (rest : List Symbol),
    punctuation.blank first = true ∨ first = punctuation.separator ∨
      first = punctuation.close → ends (first :: rest)

section Agreement

variable {punctuation : Punctuation Symbol}
  {item : Reader Symbol α} {denotes : List Symbol → α → Prop}
  {ends : List Symbol → Prop}

/-- What an item leaves of a text, with the blanks around it. -/
theorem Reader.Recognises.split (recognises : item.Recognises denotes ends)
    {text rest : List Symbol} {value : α}
    (taken : item.read (punctuation.skip text) = some (value, rest)) :
    ∃ before front after,
      text = before ++ (front ++ (after ++ punctuation.skip rest)) ∧
        punctuation.Blank before ∧ denotes front value ∧
        punctuation.Blank after := by
  obtain ⟨before, textSplit, blankBefore⟩ := punctuation.skip_split text
  obtain ⟨front, frontSplit, denoted⟩ := recognises.sound taken
  obtain ⟨after, restSplit, blankAfter⟩ := punctuation.skip_split rest
  refine ⟨before, front, after, ?_, blankBefore, denoted, blankAfter⟩
  rw [← restSplit, ← frontSplit, ← textSplit]

/-- An item and the blanks around it are taken together. -/
theorem Reader.Recognises.take (recognises : item.Recognises denotes ends)
    (suits : punctuation.Suits denotes ends)
    {before front after : List Symbol} {value : α}
    (blankBefore : punctuation.Blank before) (denoted : denotes front value)
    (blankAfter : punctuation.Blank after) {next : Symbol}
    (inked : punctuation.blank next = false)
    (stops : next = punctuation.separator ∨ next = punctuation.close)
    (rest : List Symbol) :
    ∃ behind, item.read (punctuation.skip
        (before ++ (front ++ (after ++ next :: rest)))) =
          some (value, behind) ∧ punctuation.skip behind = next :: rest := by
  obtain ⟨first, tail, shape, firstInked, _⟩ := suits.starts denoted
  refine ⟨after ++ next :: rest, ?_, blankAfter.skip inked rest⟩
  have ended : ends (after ++ next :: rest) := by
    cases after with
    | nil => exact suits.between _ (.inr stops)
    | cons space after =>
        exact suits.between _ (.inl (blankAfter _ List.mem_cons_self))
  have taken := recognises.complete denoted ended
  rw [shape, List.cons_append] at taken ⊢
  rw [blankBefore.skip firstInked, taken]

/-- Separated items start with an item. -/
theorem Separated.starts (suits : punctuation.Suits denotes ends)
    {text : List Symbol} {values : List α}
    (separated : Separated punctuation denotes text values)
    (rest : List Symbol) :
    ∃ first more, punctuation.skip (text ++ rest) = first :: more ∧
      first ≠ punctuation.close := by
  cases separated with
  | last blankBefore denoted _ =>
      obtain ⟨first, tail, rfl, inked, other⟩ := suits.starts denoted
      simp only [List.append_assoc, List.cons_append]
      exact ⟨first, _, blankBefore.skip inked _, other⟩
  | next blankBefore denoted _ _ =>
      obtain ⟨first, tail, rfl, inked, other⟩ := suits.starts denoted
      simp only [List.append_assoc, List.cons_append]
      exact ⟨first, _, blankBefore.skip inked _, other⟩

variable [DecidableEq Symbol]

theorem readSeparated_sound (recognises : item.Recognises denotes ends)
    {text rest : List Symbol} {values : List α}
    (taken : readSeparated punctuation item text = some (values, rest)) :
    ∃ front, text = front ++ rest ∧
      Separated punctuation denotes front values := by
  fun_induction readSeparated punctuation item text generalizing values with
  | case1 text nothing => cases taken
  | case2 text value behind found nothing =>
      cases taken
      obtain ⟨before, front, after, split, blankBefore, denoted, blankAfter⟩ :=
        recognises.split found
      rw [nothing, List.append_nil] at split
      exact ⟨_, by rw [List.append_nil]; exact split,
        .last blankBefore denoted blankAfter⟩
  | case3 text value behind found more separates induction =>
      obtain ⟨⟨later, final⟩, following, result⟩ :=
        Option.map_eq_some_iff.mp taken
      cases result
      obtain ⟨before, front, after, split, blankBefore, denoted, blankAfter⟩ :=
        recognises.split found
      obtain ⟨back, backSplit, separated⟩ := induction following
      refine ⟨_, ?_, .next blankBefore denoted blankAfter separated⟩
      rw [split, separates, backSplit]
      simp only [List.append_assoc, List.cons_append]
  | case4 text value behind found next more ahead other =>
      cases taken
      obtain ⟨before, front, after, split, blankBefore, denoted, blankAfter⟩ :=
        recognises.split found
      refine ⟨_, ?_, .last blankBefore denoted blankAfter⟩
      rw [split, ahead]
      simp only [List.append_assoc]

theorem readSeparated_complete (recognises : item.Recognises denotes ends)
    (suits : punctuation.Suits denotes ends) {text : List Symbol}
    {values : List α} (separated : Separated punctuation denotes text values)
    (rest : List Symbol) :
    readSeparated punctuation item (text ++ punctuation.close :: rest) =
      some (values, punctuation.close :: rest) := by
  induction separated with
  | last blankBefore denoted blankAfter =>
      obtain ⟨behind, taken, ahead⟩ := recognises.take suits blankBefore
        denoted blankAfter punctuation.closeInked (.inr rfl) rest
      simp only [List.append_assoc]
      exact readSeparated_last taken ahead punctuation.distinct.symm
  | @next before front after more value values blankBefore denoted blankAfter
      separated induction =>
      obtain ⟨behind, taken, ahead⟩ := recognises.take suits blankBefore
        denoted blankAfter punctuation.separatorInked (.inl rfl)
        (more ++ punctuation.close :: rest)
      simp only [List.append_assoc, List.cons_append]
      rw [readSeparated_next taken ahead, induction]
      rfl

theorem readBracketed_sound (recognises : item.Recognises denotes ends)
    {text rest : List Symbol} {values : List α}
    (taken : readBracketed punctuation item text = some (values, rest)) :
    ∃ front, text = front ++ rest ∧
      Bracketed punctuation denotes front values := by
  obtain ⟨between, split, blank⟩ := punctuation.skip_split text
  unfold readBracketed at taken
  split at taken
  · cases taken
  · rename_i first more ahead
    split at taken
    · rename_i closes
      cases taken
      refine ⟨between ++ [punctuation.close], ?_, .nothing blank⟩
      rw [List.append_assoc, List.singleton_append, ← closes, ← ahead]
      exact split
    · split at taken
      · rename_i items last final found
        split at taken
        · rename_i closes
          cases taken
          rw [← ahead, readSeparated_skip] at found
          obtain ⟨front, textSplit, separated⟩ :=
            readSeparated_sound recognises found
          refine ⟨front ++ [punctuation.close], ?_, .items separated⟩
          rw [List.append_assoc, List.singleton_append, ← closes]
          exact textSplit
        · cases taken
      · cases taken

theorem readBracketed_complete (recognises : item.Recognises denotes ends)
    (suits : punctuation.Suits denotes ends) {text : List Symbol}
    {values : List α} (bracketed : Bracketed punctuation denotes text values)
    (rest : List Symbol) :
    readBracketed punctuation item (text ++ rest) = some (values, rest) := by
  unfold readBracketed
  cases bracketed with
  | nothing blank =>
      rw [List.append_assoc, List.singleton_append,
        blank.skip punctuation.closeInked]
      exact if_pos rfl
  | items separated =>
      rw [List.append_assoc, List.singleton_append]
      obtain ⟨first, more, ahead, other⟩ :=
        separated.starts suits (punctuation.close :: rest)
      have found :=
        readSeparated_complete recognises suits separated rest
      rw [← readSeparated_skip, ahead] at found
      simp only [ahead, if_neg other, found, if_true]

end Agreement

end Library
