import DocGraph.Number.Binary64
import DocGraph.Number.Power

/-!
# The shortest decimal of a binary number

A number is printed with the fewest decimal digits that read back as the same
number; among decimals with that many digits the one closest to the number is
taken. The search goes over digit counts from one upward and tests, on each decimal
grid, the two neighbours of the value, in exact arithmetic.

## Main definitions

* `Decimal`: an integer coefficient and a power of ten.
* `Binary64.shortest`: the digits of a positive finite number.
* `Binary64.text`: the printed form of any number.
-/

namespace DocGraph

/-- The non-negative decimal `coefficient * 10 ^ exponent`. -/
structure Decimal where
  coefficient : Nat
  exponent : Int
  deriving DecidableEq, Repr

namespace Decimal

/-- The decimal digits of a natural number, most significant first. -/
def digitsOf (n : Nat) : List Char := Nat.toDigits 10 n

/-- Drops zero digits from the right end of a coefficient, raising the exponent. -/
def strip (d : Decimal) : Decimal :=
  let digits := digitsOf d.coefficient
  let kept := (digits.reverse.dropWhile (· == '0')).reverse
  let dropped := digits.length - kept.length
  if d.coefficient = 0 then ⟨0, 0⟩
  else ⟨d.coefficient / tenTo dropped, d.exponent + dropped⟩

end Decimal

namespace Binary64

/-- Compares `a * 10 ^ e` with `b`, where both are taken over one denominator. -/
def scaledPair (a : Nat) (e : Int) (b : Nat) : Nat × Nat :=
  if e ≥ 0 then (a * tenTo e.toNat, b) else (a, b * tenTo (-e).toNat)

/-- Whether a decimal reads back as the number of the given rank. The ends of the
interval belong to it exactly when the rank is even. -/
def readsBack (rank : Nat) (d : Decimal) : Bool :=
  let middle := unitsOfRank rank
  let low := unitsOfRank (rank - 1) + middle
  let high := middle + unitsOfRank (rank + 1)
  let (x, low') := scaledPair (d.coefficient * 2 * unitDenominator) d.exponent low
  let (y, high') := scaledPair (d.coefficient * 2 * unitDenominator) d.exponent high
  if rank % 2 = 0 then low' ≤ x && y ≤ high' else low' < x && y < high'

/-- The exponent of ten of the first digit of a positive number given in units. -/
def leadingExponent (units : Nat) : Int :=
  (Decimal.digitsOf (units * tenTo 400 / unitDenominator)).length - 1 - 400

/-- The two decimals with last place `10 ^ e` around the number of the given rank. -/
def neighbours (rank : Nat) (e : Int) : Decimal × Decimal :=
  let units := unitsOfRank rank
  let low := if e ≥ 0 then units / (unitDenominator * tenTo e.toNat)
    else units * tenTo (-e).toNat / unitDenominator
  (⟨low, e⟩, ⟨low + 1, e⟩)

/-- Whether the lower neighbour on a grid is at most as far from the number as the
upper one; a tie is decided for the even coefficient. -/
def lowerIsNearer (rank : Nat) (low : Decimal) : Bool :=
  let units := unitsOfRank rank
  let middle := (2 * low.coefficient + 1) * unitDenominator
  let (twice, mid) := scaledPair middle low.exponent (2 * units)
  mid < twice || (mid == twice && low.coefficient % 2 == 0)

/-- The better of the two neighbours on the grid `10 ^ e` that read back, if any. -/
def onGrid (rank : Nat) (e : Int) : Option Decimal :=
  let (low, high) := neighbours rank e
  match readsBack rank low, readsBack rank high with
  | true, true => some (if lowerIsNearer rank low then low else high)
  | true, false => some low
  | false, true => some high
  | false, false => none

/-- The first grid, from coarse to fine, that holds a decimal reading back. Seventeen
digits always suffice. -/
def firstGrid (rank : Nat) (leading : Int) : List Nat → Option Decimal
  | [] => none
  | places :: finer => onGrid rank (leading - places) <|> firstGrid rank leading finer

/-- The shortest decimal of the positive number of the given rank. -/
def shortest (rank : Nat) : Decimal :=
  ((firstGrid rank (leadingExponent (unitsOfRank rank)) (List.range 17)).getD ⟨0, 0⟩).strip

/-- Positional or exponential writing of a decimal. A number is written with an
exponent when its first digit stands below `10 ^ -4` or at `10 ^ 16` and above. -/
def writeDecimal (d : Decimal) : List Char :=
  let digits := Decimal.digitsOf d.coefficient
  let leading : Int := d.exponent + digits.length - 1
  if leading < -4 || leading ≥ 16 then
    let fraction := match digits.drop 1 with
      | [] => []
      | rest => '.' :: rest
    let size := leading.natAbs
    let power := if size < 10 then '0' :: Decimal.digitsOf size else Decimal.digitsOf size
    digits.take 1 ++ fraction ++ 'e' :: (if leading < 0 then '-' else '+') :: power
  else if leading < 0 then
    '0' :: '.' :: List.replicate (leading.natAbs - 1) '0' ++ digits
  else
    let whole := leading.toNat + 1
    if digits.length ≤ whole then
      digits ++ List.replicate (whole - digits.length) '0' ++ ['.', '0']
    else digits.take whole ++ '.' :: digits.drop whole

/-- The printed form of a number: shortest digits, always with a point or an
exponent, and a minus sign also on negative zero. -/
def text : Binary64 → String
  | .nan => "nan"
  | .infinite n => if n then "-inf" else "inf"
  | .finite n rank =>
    let body := if rank.val = 0 then ['0', '.', '0'] else writeDecimal (shortest rank.val)
    String.ofList (if n then '-' :: body else body)

end Binary64

end DocGraph
