/-!
# C text

A C string is the list of its characters before the terminator.  The printing
functions follow the conversions `%d`, `%0*d` and `%0*x` of `printf` on
non-negative arguments.
-/

namespace Library

/-- The characters of a NUL-terminated string, one for each byte. -/
abbrev CString := List Char

def decimal (value : Nat) : CString := Nat.toDigits 10 value

/-- Pad with zeros on the left up to a width. -/
def padZeros (width : Nat) (digits : CString) : CString :=
  List.replicate (width - digits.length) '0' ++ digits

/-- `%0<width>d` -/
def paddedDecimal (width value : Nat) : CString :=
  padZeros width (decimal value)

/-- `%0<width>x` -/
def paddedHex (width value : Nat) : CString :=
  padZeros width (Nat.toDigits 16 value)

example : paddedDecimal 4 356 = "0356".toList := by decide
example : paddedHex 2 145 = "91".toList := by decide

theorem decimal_isDigit {value : Nat} {character : Char}
    (member : character ∈ decimal value) : character.isDigit = true :=
  Nat.isDigit_of_mem_toDigits (by decide) (by decide) member

theorem paddedDecimal_isDigit {width value : Nat} {character : Char}
    (member : character ∈ paddedDecimal width value) :
    character.isDigit = true := by
  rcases List.mem_append.mp member with padding | digits
  · rw [(List.mem_replicate.mp padding).2]
    decide
  · exact decimal_isDigit digits

end Library
