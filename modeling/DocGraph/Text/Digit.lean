/-!
# Decimal digits of all scripts

Every script with decimal digits has its ten digits in one run of consecutive code
points, so the table needs only the zeros. It follows version 14 of the Unicode
character database.

Whole numbers are read from their digits only if there are not too many of these. Zeros in
front count like any other digits.

## Main definitions

* `decimalValue?`: the value of a digit.
* `DigitExcess`: there are too many digits.
* `limitDigits`: a number, unless its digits are too many.
-/

namespace DocGraph

/-- The code points of the digit zero in each script that has decimal digits. -/
def digitZeros : List Nat := [
  0x30, 0x660, 0x6f0, 0x7c0, 0x966, 0x9e6, 0xa66, 0xae6, 0xb66, 0xbe6,
  0xc66, 0xce6, 0xd66, 0xde6, 0xe50, 0xed0, 0xf20, 0x1040, 0x1090, 0x17e0,
  0x1810, 0x1946, 0x19d0, 0x1a80, 0x1a90, 0x1b50, 0x1bb0, 0x1c40, 0x1c50, 0xa620,
  0xa8d0, 0xa900, 0xa9d0, 0xa9f0, 0xaa50, 0xabf0, 0xff10, 0x104a0, 0x10d30, 0x11066,
  0x110f0, 0x11136, 0x111d0, 0x112f0, 0x11450, 0x114d0, 0x11650, 0x116c0, 0x11730, 0x118e0,
  0x11950, 0x11c50, 0x11d50, 0x11da0, 0x16a60, 0x16ac0, 0x16b50, 0x1d7ce, 0x1d7d8, 0x1d7e2,
  0x1d7ec, 0x1d7f6, 0x1e140, 0x1e2f0, 0x1e950, 0x1fbf0]

/-- The value of a decimal digit of any script. -/
def decimalValue? (c : Char) : Option Nat :=
  (digitZeros.find? fun first => first ≤ c.toNat && c.toNat < first + 10).map (c.toNat - ·)

/-- Whether a character is a decimal digit of any script. -/
def isDecimalDigit (c : Char) : Bool := (decimalValue? c).isSome

/-- Whether a character is one of the ten digits of the basic alphabet. -/
def isPlainDigit (c : Char) : Bool := '0' ≤ c && c ≤ '9'

def plainValue (c : Char) : Nat := c.toNat - '0'.toNat

/-- How many digits a whole number is read from at most. -/
def maxDigits : Nat := 4300

/-- More digits than a whole number is read from. -/
@[ext]
structure DigitExcess where
  count : Nat
  beyond : maxDigits < count
  deriving DecidableEq, Repr

def DigitExcess.message (excess : DigitExcess) : String :=
  s!"Exceeds the limit ({maxDigits} digits) for integer string conversion: value has "
    ++ s!"{excess.count} digits; use sys.set_int_max_str_digits() to increase the limit"

/-- A number that is written with a count of digits, unless these are too many. -/
def limitDigits (count number : Nat) : Except DigitExcess Nat :=
  if beyond : maxDigits < count then .error ⟨count, beyond⟩ else .ok number

theorem limitDigits_eq_ok_iff {count number n : Nat} :
    limitDigits count number = .ok n ↔ count ≤ maxDigits ∧ number = n := by
  unfold limitDigits
  split
  next beyond => simp [Nat.not_le.mpr beyond]
  next within => simp [Nat.le_of_not_lt within]

theorem limitDigits_eq_error_iff {count number : Nat} {excess : DigitExcess} :
    limitDigits count number = .error excess ↔ count = excess.count := by
  unfold limitDigits
  split
  next beyond => simp [DigitExcess.ext_iff]
  next within =>
    have fewer : count ≠ excess.count := fun same => within (same ▸ excess.beyond)
    simp [fewer]

end DocGraph
