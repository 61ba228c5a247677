import DocGraph.Number.Binary64
import DocGraph.Number.Power

/-!
# Reading decimal numbers

The value of a decimal text is rounded once, exactly, to the nearest binary number.
Coefficients and exponents may have any length; an exponent so large or so small that
the outcome is certain is decided by counting digits, without computing the power.
-/

namespace DocGraph

/-- The value of a run of decimal digits after an initial value. -/
def digitsValueFrom (start : Nat) (digits : List Nat) : Nat :=
  digits.foldl (fun value d => value * 10 + d) start

/-- The value of a run of decimal digits, most significant first. -/
def digitsValue (digits : List Nat) : Nat := digitsValueFrom 0 digits

namespace Binary64

/-- The number nearest to `± digits * 10 ^ exponent`. -/
def ofDecimal (negative : Bool) (digits : List Nat) (exponent : Int) : Binary64 :=
  let significant := digits.dropWhile (· == 0)
  let magnitude : Int := significant.length + exponent
  if significant.isEmpty then nearest negative 0 1
  else if magnitude > 400 then .infinite negative
  else if magnitude < -400 then nearest negative 0 1
  else
    let coefficient := digitsValue significant
    if exponent ≥ 0 then nearest negative (coefficient * tenTo exponent.toNat) 1
    else nearest negative coefficient (tenTo (-exponent).toNat)

end Binary64

end DocGraph
