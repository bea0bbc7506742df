import RtA100.Library.Scan

/-!
# Searching and cutting C text

`strstr` finds a needle exactly when it is a contiguous part of the text, a
string ends at its first zero, `strtok` returns the non-empty pieces between
separators, and `snprintf` keeps what fits.
-/

namespace Library

theorem strstr_iff {text needle : CString} :
    strstr text needle = true ↔ needle <:+: text := by
  induction text with
  | nil =>
      rw [strstr, List.isPrefixOf_iff_prefix, List.prefix_nil,
        List.infix_nil]
  | cons first rest induction =>
      rw [strstr, Bool.or_eq_true, List.isPrefixOf_iff_prefix, induction,
        List.infix_cons_iff]

theorem strstr_iff_position {text needle : CString} :
    strstr text needle = true ↔ ∃ position, needle <+: text.drop position := by
  rw [strstr_iff, List.infix_iff_prefix_suffix]
  constructor
  · rintro ⟨part, isPrefix, front, rfl⟩
    refine ⟨front.length, ?_⟩
    rw [List.drop_left]
    exact isPrefix
  · rintro ⟨position, isPrefix⟩
    exact ⟨text.drop position, isPrefix, List.drop_suffix position text⟩

/-- The offset of what `strstr` returns. -/
def strstrOffset : CString → CString → Option Nat
  | [], needle => if needle.isPrefixOf [] then some 0 else none
  | first :: rest, needle =>
      if needle.isPrefixOf (first :: rest) then some 0
      else (strstrOffset rest needle).map (· + 1)

theorem strstrOffset_some {text needle : CString} {offset : Nat}
    (found : strstrOffset text needle = some offset) :
    needle <+: text.drop offset ∧
      ∀ earlier < offset, ¬needle <+: text.drop earlier := by
  induction text generalizing offset with
  | nil =>
      unfold strstrOffset at found
      split at found
      · rename_i here
        cases found
        exact ⟨List.isPrefixOf_iff_prefix.mp here,
          fun earlier before => absurd before (Nat.not_lt_zero earlier)⟩
      · cases found
  | cons first rest induction =>
      unfold strstrOffset at found
      split at found
      · rename_i here
        cases found
        exact ⟨List.isPrefixOf_iff_prefix.mp here,
          fun earlier before => absurd before (Nat.not_lt_zero earlier)⟩
      · rename_i notHere
        obtain ⟨following, later, rfl⟩ := Option.map_eq_some_iff.mp found
        refine ⟨(induction later).1, fun earlier before => ?_⟩
        cases earlier with
        | zero =>
            intro here
            exact notHere (List.isPrefixOf_iff_prefix.mpr here)
        | succ earlier =>
            exact (induction later).2 earlier (Nat.lt_of_succ_lt_succ before)

theorem strstrOffset_none {text needle : CString}
    (missing : strstrOffset text needle = none) (position : Nat) :
    ¬needle <+: text.drop position := by
  induction text generalizing position with
  | nil =>
      unfold strstrOffset at missing
      split at missing
      · cases missing
      · rename_i notHere
        rw [List.drop_nil]
        exact fun here => notHere (List.isPrefixOf_iff_prefix.mpr here)
  | cons first rest induction =>
      unfold strstrOffset at missing
      split at missing
      · cases missing
      · rename_i notHere
        cases position with
        | zero =>
            exact fun here => notHere (List.isPrefixOf_iff_prefix.mpr here)
        | succ position =>
            exact induction (Option.map_eq_none_iff.mp missing) position

/-- An occurrence has a first one in front of it or at its place. -/
theorem strstrOffset_of_occurrence {text needle : CString} {position : Nat}
    (here : needle <+: text.drop position) :
    ∃ offset, strstrOffset text needle = some offset ∧ offset ≤ position := by
  cases found : strstrOffset text needle with
  | none => exact absurd here (strstrOffset_none found position)
  | some offset =>
      refine ⟨offset, rfl, Nat.le_of_not_lt fun before => ?_⟩
      exact (strstrOffset_some found).2 position before here

/-! ## Strings in memory -/

/-- The string that starts a sequence of characters. -/
def untilNul (text : CString) : CString := text.takeWhile (· ≠ '\x00')

theorem isPrefix_untilNul (text : CString) : untilNul text <+: text :=
  List.takeWhile_prefix _

theorem untilNul_eq {text : CString} (free : '\x00' ∉ text) :
    untilNul text = text := by
  unfold untilNul
  simpa using @List.takeWhile_append_of_pos _ _ _ [] (ne_of_not_mem free)

theorem untilNul_append (text back : CString) :
    untilNul text <+: untilNul (text ++ back) := by
  unfold untilNul
  rw [List.takeWhile_append]
  split
  case isTrue whole =>
      rw [(List.takeWhile_prefix _).eq_of_length whole]
      exact List.prefix_append _ _
  case isFalse => exact List.prefix_rfl

/-- A separator that follows ends the text in front of the first one. -/
theorem takeWhile_append_stop (stop : Char) (text rest : CString) :
    (text ++ stop :: rest).takeWhile (· ≠ stop) =
      text.takeWhile (· ≠ stop) := by
  induction text with
  | nil => simp
  | cons first text induction =>
      rw [List.cons_append, List.takeWhile_cons, List.takeWhile_cons,
        induction]

/-! ## `strtok` -/

/-- The tokens that successive calls of `strtok` return. -/
def strtok (stop : Char) (text : CString) : List CString :=
  (text.splitOn stop).filter (· ≠ [])

theorem strtok_nothing (stop : Char) : strtok stop [] = [] := rfl

/-- A token in front of a separator. -/
theorem strtok_piece {stop : Char} {piece : CString} (something : piece ≠ [])
    (free : stop ∉ piece) (rest : CString) :
    strtok stop (piece ++ stop :: rest) = piece :: strtok stop rest := by
  rw [strtok, List.splitOn_append_cons_self_of_not_mem free,
    List.filter_cons_of_pos (by simpa using something)]
  rfl

/-! ## `snprintf` -/

/-- What `snprintf` and `strncpy` leave of a text in an array. -/
def CArray.truncate (size : Nat) (text : CString) : CArray (size + 1) :=
  { text := text.take size
    fits := Nat.lt_succ_of_le (List.length_take_le size text) }

theorem CArray.truncate_text {size : Nat} {text : CString}
    (inside : text.length ≤ size) :
    (CArray.truncate size text).text = text :=
  List.take_of_length_le inside

end Library
