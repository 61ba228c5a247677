/-!
# Binary floating-point numbers of 64 bits

A finite number is stored by its sign and by its *rank*: the position of its
absolute value among all non-negative finite numbers, in increasing order. The
rank of a number is exactly its bit pattern without the sign, so the type has no
two names for one number, and neighbours in value are neighbours in rank.

Every finite number is a whole multiple of the smallest positive one, `2 ^ -1074`.
All arithmetic is done on these multiples, in natural numbers, and is exact up to
one final rounding.

## Main definitions

* `Binary64`: not-a-number, the two infinities, and the finite numbers.
* `Binary64.units`: the absolute value counted in multiples of `2 ^ -1074`.
* `Binary64.nearest`: the closest number to a quotient, ties to the even rank.
* `Binary64.trunc`: the whole part of a finite number.
-/

namespace DocGraph

/-- How many numbers share an exponent: those with a fraction of 52 bits. -/
def fractionCount : Nat := 0x10000000000000

/-- How many non-negative finite numbers there are: those of 2047 exponents. -/
def rankLimit : Nat := 2047 * fractionCount

/-- A binary floating-point number of 64 bits. -/
inductive Binary64 where
  /-- The result of an undefined operation. All of its bit patterns are one value. -/
  | nan
  /-- Positive infinity, or negative infinity. -/
  | infinite (negative : Bool)
  /-- A finite number by sign and rank. The two zeros have rank zero. -/
  | finite (negative : Bool) (rank : Fin rankLimit)
  deriving DecidableEq, Repr, Inhabited

namespace Binary64

/-- One over the smallest positive number. -/
def unitDenominator : Nat := 1 <<< 1074

/-- The number of units in the non-negative number of a given rank. Defined beyond
the last rank too, where it gives the value at which rounding would overflow. -/
def unitsOfRank (rank : Nat) : Nat :=
  let exponent := rank / fractionCount
  let fraction := rank % fractionCount
  if exponent = 0 then fraction else (fractionCount + fraction) <<< (exponent - 1)

/-- The absolute value of a finite number in units; zero for the others. -/
def units : Binary64 → Nat
  | .finite _ rank => unitsOfRank rank.val
  | _ => 0

def negative : Binary64 → Bool
  | .nan => false
  | .infinite n => n
  | .finite n _ => n

/-- Whether the number is neither infinite nor undefined. -/
def isFinite : Binary64 → Bool
  | .finite _ _ => true
  | _ => false

/-- The quotient rounded to the nearest whole number, ties to even. -/
def roundHalfEven (numerator denominator : Nat) : Nat :=
  let q := numerator / denominator
  let r := numerator % denominator
  if 2 * r < denominator then q
  else if 2 * r > denominator then q + 1
  else if q % 2 = 0 then q else q + 1

/-- The rank of the number nearest to `numerator / denominator`, possibly beyond the
last finite rank. The scale is the least one at which the rounded significand has at
most 53 bits; a significand that rounds up to 54 bits carries into the exponent
because ranks are consecutive. -/
def nearestRank (numerator denominator : Nat) : Nat :=
  let scaled := numerator * unitDenominator
  let whole := scaled / denominator
  let scale := if whole = 0 then 0 else whole.log2 + 1 - 53
  scale * fractionCount + roundHalfEven scaled (denominator <<< scale)

/-- The number of a given sign and rank; a rank beyond the last is an infinity. -/
def ofRank (negative : Bool) (rank : Nat) : Binary64 :=
  if h : rank < rankLimit then .finite negative ⟨rank, h⟩ else .infinite negative

/-- The number nearest to `± numerator / denominator`, ties to even; too large a
quotient gives an infinity. -/
def nearest (negative : Bool) (numerator denominator : Nat) : Binary64 :=
  ofRank negative (nearestRank numerator denominator)

def zero : Binary64 := nearest false 0 1

/-- The number nearest to a whole number; an infinity when it is out of range. -/
def ofInt (n : Int) : Binary64 := nearest (decide (n < 0)) n.natAbs 1

/-- The number nearest to a whole number, and nothing when it is out of range. -/
def ofInt? (n : Int) : Option Binary64 :=
  let x := ofInt n
  if x.isFinite then some x else none

/-- The number one or the number zero. -/
def ofBool (b : Bool) : Binary64 := ofInt (if b then 1 else 0)

/-- The signed number of units of a finite number. -/
def signedUnits (x : Binary64) : Int :=
  if x.negative then -(x.units : Int) else x.units

/-- The whole part of a finite number, rounding toward zero; nothing for the others. -/
def trunc : Binary64 → Option Int
  | .finite n rank =>
    let whole := unitsOfRank rank.val / unitDenominator
    some (if n then -(whole : Int) else whole)
  | _ => none

/-- Whether the number is zero, of either sign. -/
def isZero : Binary64 → Bool
  | .finite _ rank => rank.val == 0
  | _ => false

/-- Equality in value with a whole number. -/
def equalsInt (x : Binary64) (n : Int) : Bool :=
  x.isFinite && x.signedUnits == n * unitDenominator

/-- Equality in value: the two zeros are equal, and a not-a-number equals nothing. -/
def equals : Binary64 → Binary64 → Bool
  | .nan, _ | _, .nan => false
  | .infinite a, .infinite b => a == b
  | .finite a i, .finite b j => i == j && (a == b || i.val == 0)
  | _, _ => false

def neg : Binary64 → Binary64
  | .nan => .nan
  | .infinite n => .infinite (!n)
  | .finite n rank => .finite (!n) rank

/-- The rounded sum. A zero sum of numbers of different sign is positive. -/
def add : Binary64 → Binary64 → Binary64
  | .nan, _ | _, .nan => .nan
  | .infinite a, .infinite b => if a == b then .infinite a else .nan
  | .infinite a, _ | _, .infinite a => .infinite a
  | x@(.finite a _), y@(.finite b _) =>
    let total := x.signedUnits + y.signedUnits
    let sign := if total = 0 then a && b else decide (total < 0)
    nearest sign total.natAbs unitDenominator

def mul : Binary64 → Binary64 → Binary64
  | .nan, _ | _, .nan => .nan
  | x@(.infinite a), y | x@(.finite a _), y@(.infinite _) =>
    if x.isZero || y.isZero then .nan else .infinite (a != y.negative)
  | x@(.finite a _), y@(.finite b _) =>
    nearest (a != b) (x.units * y.units) (unitDenominator * unitDenominator)

end Binary64

end DocGraph
