/-!
# Powers of ten

## Main definitions

* `tenTo`: the powers of ten, the unit of the places of decimal notation.
-/

namespace DocGraph

/-- Ten to a power. -/
def tenTo (exponent : Nat) : Nat := Nat.pow 10 exponent

end DocGraph
