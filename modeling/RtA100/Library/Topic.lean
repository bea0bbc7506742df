import RtA100.Library.Text

/-!
# Topics and topic filters

Publish and subscribe protocols of the MQTT family route by topic names.  The
levels of a name are the pieces between its slashes; in a filter a level `+`
stands for any one level and a last level `#` for any number of them, none
included.  A wildcard in first place does not match a name that begins with
`$`.
-/

namespace Library.Topic

/-- The levels of a topic after some characters of its first level. -/
def levelsFrom : CString → CString → List CString
  | level, [] => [level]
  | level, character :: rest =>
      if character = '/' then level :: levelsFrom [] rest
      else levelsFrom (level ++ [character]) rest

def levels (topic : CString) : List CString := levelsFrom [] topic

def singleLevel : CString := "+".toList

def multiLevel : CString := "#".toList

/-- Match the levels of a filter against those of a name. -/
def levelsMatch : List CString → List CString → Bool
  | [], topic => topic.isEmpty
  | filter :: filters, [] => filter == multiLevel && filters.isEmpty
  | filter :: filters, level :: topic =>
      (filter == multiLevel && filters.isEmpty) ||
        ((filter == singleLevel || filter == level) &&
          levelsMatch filters topic)

/-- The matching rule between a filter and the name of a publication. -/
def covers (filter topic : CString) : Bool :=
  if topic.head? = some '$' ∧
      (filter.head? = some '+' ∨ filter.head? = some '#') then
    false
  else levelsMatch (levels filter) (levels topic)

example : covers "sport/#".toList "sport".toList = true := by decide
example : covers "sport/+/#".toList "sport".toList = false := by decide
example : covers "+/log".toList "$SYS/log".toList = false := by decide

theorem levelsFrom_append {piece : CString} (plain : '/' ∉ piece)
    (level rest : CString) :
    levelsFrom level (piece ++ rest) = levelsFrom (level ++ piece) rest := by
  induction piece generalizing level with
  | nil => simp
  | cons character piece induction =>
      rw [List.mem_cons, not_or] at plain
      obtain ⟨different, plainRest⟩ := plain
      rw [List.cons_append, levelsFrom, if_neg (Ne.symm different),
        induction plainRest]
      simp

/-- A piece without a slash in front of a slash is a level. -/
theorem levels_cons {piece : CString} (plain : '/' ∉ piece)
    (rest : CString) :
    levels (piece ++ '/' :: rest) = piece :: levels rest := by
  rw [levels, levelsFrom_append plain]
  rfl

theorem levels_last {piece : CString} (plain : '/' ∉ piece) :
    levels piece = [piece] := by
  have appended := levelsFrom_append plain [] []
  rw [List.append_nil] at appended
  exact appended

/-- A level that is no wildcard is matched by itself alone. -/
theorem levelsMatch_plain {filter level : CString}
    {filters topic : List CString} (notSingle : filter ≠ singleLevel)
    (notMulti : filter ≠ multiLevel) :
    levelsMatch (filter :: filters) (level :: topic) =
      (filter == level && levelsMatch filters topic) := by
  rw [levelsMatch, beq_eq_false_iff_ne.mpr notMulti,
    beq_eq_false_iff_ne.mpr notSingle]
  simp

theorem levelsMatch_single (level : CString)
    (filters topic : List CString) :
    levelsMatch (singleLevel :: filters) (level :: topic) =
      levelsMatch filters topic := by
  have different : (singleLevel == multiLevel) = false := by decide
  rw [levelsMatch, different]
  simp

end Library.Topic
