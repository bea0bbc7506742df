import Mathlib.Algebra.Group.Nat.Defs

/-!
# Binary floating-point formats

A format is given by the widths of its fraction and of its exponent.  The
finite numbers of a format are whole multiples of its least positive number, so
their exact values are compared and truncated over natural numbers.
-/

namespace Library

structure FloatFormat where
  fraction : Nat
  exponent : Nat

namespace FloatFormat

def double : FloatFormat := { fraction := 52, exponent := 11 }

def single : FloatFormat := { fraction := 23, exponent := 8 }

variable (format : FloatFormat)

/-- The biased exponent of a bit pattern. -/
def biased (bits : Nat) : Nat :=
  bits / 2 ^ format.fraction % 2 ^ format.exponent

/-- The absolute value of a finite number, as a multiple of the least positive
number of the format. -/
def magnitude (bits : Nat) : Nat :=
  let digits := bits % 2 ^ format.fraction
  if format.biased bits = 0 then digits
  else (2 ^ format.fraction + digits) * 2 ^ (format.biased bits - 1)

/-- The number one, as a multiple of the least positive number. -/
def one : Nat := 2 ^ (2 ^ (format.exponent - 1) - 2 + format.fraction)

def negative (bits : Nat) : Bool :=
  bits / 2 ^ (format.fraction + format.exponent) % 2 = 1

/-- A finite number that is not negative and less than `bound`. -/
structure InRange (bits bound : Nat) : Prop where
  finite : format.biased bits ≠ 2 ^ format.exponent - 1
  nonnegative : format.negative bits = true → format.magnitude bits = 0
  bounded : format.magnitude bits < bound * format.one

/-- The integer part of a number that is not negative. -/
def truncate (bits : Nat) : Nat := format.magnitude bits / format.one

theorem truncate_lt {bits bound : Nat}
    (inRange : format.InRange bits bound) : format.truncate bits < bound :=
  (Nat.div_lt_iff_lt_mul (Nat.pow_pos (by decide))).mpr inRange.bounded

example : double.truncate 0x403E800000000000 = 30 := by decide +kernel
example : single.truncate 0x42F6E979 = 123 := by decide +kernel

end FloatFormat

end Library
