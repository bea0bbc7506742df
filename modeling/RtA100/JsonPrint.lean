import Mathlib.Algebra.GroupWithZero.Nat
import RtA100.OtaResponse

/-!
# Printing a cJSON tree

`cJSON_Print` writes a member or an element of an object on its own line, with
a tab for each level, and the elements of an array in one line.  A string is
escaped.  The length of the text is the sum over the tree that the definitions
in the second half compute.
-/

namespace RtA100

open Library

/-! ## `print_value` -/

/-- What `print_string_ptr` writes for a character. -/
def escapeCharacter (character : Char) : CString :=
  match character.toNat with
  | 34 | 92 => ['\\', character]
  | 8 => ['\\', 'b']
  | 12 => ['\\', 'f']
  | 10 => ['\\', 'n']
  | 13 => ['\\', 'r']
  | 9 => ['\\', 't']
  | code =>
      if code < 32 then '\\' :: 'u' :: paddedHex 4 code else [character]

/-- `print_string_ptr` -/
def printString (text : CString) : CString :=
  '"' :: (text.flatMap escapeCharacter ++ ['"'])

/-- `print_number` for a number whose `valuedouble` is its `valueint`; a NaN, an
infinity and any other number are printed in branches that are left out. -/
def printNumber (value : Int) : CString :=
  if value < 0 then '-' :: decimal value.natAbs else decimal value.natAbs

def tabs (depth : Nat) : CString := List.replicate depth '\t'

mutual

/-- `print_value` with formatting, inside `depth` objects and arrays. -/
def CJson.print (depth : Nat) : CJson → CString
  | .null => "null".toList
  | .bool value => if value = true then "true".toList else "false".toList
  | .number valueint => printNumber valueint
  | .string valuestring => printString valuestring
  | .array elements => '[' :: (printElements (depth + 1) elements ++ [']'])
  | .object members =>
      '\x7b' :: '\n' :: (printMembers (depth + 1) members ++ tabs depth ++
        ['\x7d'])

/-- The loop of `print_array`. -/
def printElements (depth : Nat) : List CJson → CString
  | [] => []
  | element :: rest =>
      element.print depth ++
        (if rest.isEmpty = true then [] else [',', ' ']) ++
        printElements depth rest

/-- The loop of `print_object`. -/
def printMembers (depth : Nat) : List (CString × CJson) → CString
  | [] => []
  | (name, value) :: rest =>
      tabs depth ++ printString name ++ [':', '\t'] ++ value.print depth ++
        (if rest.isEmpty = true then [] else [',']) ++ ['\n'] ++
        printMembers depth rest

end

/-- `cJSON_Print` -/
def cJsonPrint (root : CJson) : CString := root.print 0

/-! ## Lengths -/

/-- The length of a text between the quotes. -/
def escapedLength (text : CString) : Nat :=
  (text.flatMap escapeCharacter).length

theorem printString_length (text : CString) :
    (printString text).length = escapedLength text + 2 := by
  rw [printString, List.length_cons, List.length_append, escapedLength]
  rfl

theorem escapeCharacter_ne_nil (character : Char) :
    1 ≤ (escapeCharacter character).length := by
  unfold escapeCharacter
  split <;> try exact Nat.succ_pos _
  split <;> exact Nat.succ_pos _

/-- Escaping makes a text no shorter. -/
theorem length_le_escapedLength (text : CString) :
    text.length ≤ escapedLength text := by
  induction text with
  | nil => exact Nat.zero_le _
  | cons first rest induction =>
      have here := escapeCharacter_ne_nil first
      rw [escapedLength] at induction ⊢
      rw [List.flatMap_cons, List.length_append, List.length_cons]
      omega

@[simp] theorem tabs_length (depth : Nat) : (tabs depth).length = depth :=
  List.length_replicate

theorem CJson.print_string_length (depth : Nat) (text : CString) :
    ((CJson.string text).print depth).length = escapedLength text + 2 :=
  printString_length text

theorem CJson.print_object_length (depth : Nat)
    (members : List (CString × CJson)) :
    ((CJson.object members).print depth).length =
      (printMembers (depth + 1) members).length + depth + 3 := by
  simp only [CJson.print, List.length_cons, List.length_append, tabs_length,
    List.length_nil]

theorem CJson.print_array_length (depth : Nat) (elements : List CJson) :
    ((CJson.array elements).print depth).length =
      (printElements (depth + 1) elements).length + 2 := by
  simp only [CJson.print, List.length_cons, List.length_append,
    List.length_nil]

/-- A member that is followed by others takes a line that ends with a comma. -/
theorem printMembers_cons_length (depth : Nat) (name : CString)
    (value : CJson) (next : CString × CJson) (rest : List (CString × CJson)) :
    (printMembers depth ((name, value) :: next :: rest)).length =
      depth + escapedLength name + (value.print depth).length + 6 +
        (printMembers depth (next :: rest)).length := by
  rw [printMembers]
  simp only [List.length_append, tabs_length, printString_length,
    List.isEmpty_cons, List.length_cons, List.length_nil]
  simp only [Bool.false_eq_true, if_false, List.length_cons, List.length_nil]
  omega

theorem printMembers_last_length (depth : Nat) (name : CString)
    (value : CJson) :
    (printMembers depth [(name, value)]).length =
      depth + escapedLength name + (value.print depth).length + 5 := by
  rw [printMembers, printMembers]
  simp only [List.length_append, tabs_length, printString_length,
    List.isEmpty_nil, if_true, List.length_cons, List.length_nil]
  omega

/-- Elements are separated by a comma and a blank. -/
theorem printElements_length (depth : Nat) (element : CJson)
    (rest : List CJson) :
    (printElements depth (element :: rest)).length =
      ((element :: rest).map fun item => (item.print depth).length).sum +
        2 * rest.length := by
  induction rest generalizing element with
  | nil =>
      simp only [printElements, List.isEmpty_nil, if_true, List.append_nil,
        List.map_cons, List.map_nil, List.sum_cons, List.sum_nil,
        List.length_nil]
      omega
  | cons next rest induction =>
      have tail := induction next
      rw [printElements, List.map_cons, List.sum_cons, List.length_cons]
      simp only [List.length_append, List.isEmpty_cons, tail,
        Bool.false_eq_true, if_false, List.length_cons, List.length_nil]
      omega

end RtA100
