import DocGraph.Proofs.Number.Nearest
import DocGraph.Proofs.Number.Whole
import DocGraph.Transform.Coercion

/-!
# Whole numbers through texts

A whole number has a text, and the text is read as a whole number by way of a binary number. So the
number that comes back is the one that is rounded to: it is the whole number with 53 significant
bits that is closest, and the number itself if it has no more of them. A number that is too large
for a binary number does not come back.

## Main results

* `numberOfText_toString`: what the text of a whole number is read as.
* `toInteger_toString_iff`: which whole numbers come back from their texts, and what the others
  become.
-/

namespace DocGraph

open Binary64
open Decimal (digitsOf)

/-! ## Reading the text of a whole number -/

theorem toLower_of_isDigit {c : Char} (h : c.isDigit = true) : c.toLower = c := by
  obtain ⟨low, high⟩ := isDigit_bounds h
  have upper : ¬ (c.val ≥ 'A'.val ∧ c.val ≤ 'Z'.val) := by
    rintro ⟨letter, -⟩
    have : 0x41 ≤ c.toNat := letter
    omega
  exact dif_neg upper

/-- The text of a whole number is no word for a number. -/
theorem toLower_digitsOf_ne {n : Nat} {word : String} {letter : Char}
    (begins : word.toList.head? = some letter) (other : letter.isDigit = false) :
    String.ofList ((digitsOf n).map Char.toLower) ≠ word := by
  rintro rfl
  obtain ⟨d, digits, starts⟩ := List.exists_cons_of_ne_nil (digitsOf_ne_nil n)
  have digit : d.isDigit = true := isDigit_of_mem_digitsOf (n := n) d (by simp [starts])
  obtain rfl : d.toLower = letter := by simpa [starts] using begins
  rw [toLower_of_isDigit digit, digit] at other
  cases other

/-- The values of the digits of a number, the first of which is not zero. -/
theorem dropWhile_digitsOf {n : Nat} (positive : 0 < n) :
    ((digitsOf n).map fun c => c.toNat - 0x30).dropWhile (· == 0) =
      (digitsOf n).map fun c => c.toNat - 0x30 := by
  obtain ⟨d, digits, starts⟩ := List.exists_cons_of_ne_nil (digitsOf_ne_nil n)
  have digit : d.isDigit = true := isDigit_of_mem_digitsOf (n := n) d (by simp [starts])
  obtain ⟨low, high⟩ := isDigit_bounds digit
  have first : d ≠ '0' := by simpa [starts] using head_digitsOf_ne_zero positive
  have value : d.toNat - 0x30 ≠ 0 := by
    intro zero
    exact first (Char.toNat_inj.mp (show d.toNat = 0x30 by omega))
  rw [starts, List.map_cons, List.dropWhile_cons_of_neg (by simpa using value)]

theorem tenTo_le_tenTo {few many : Nat} (h : few ≤ many) : tenTo few ≤ tenTo many :=
  Nat.pow_le_pow_right (by decide) h

/-- Numbers of more than four hundred digits are too large for a binary number. -/
theorem nearest_eq_infinite {n : Nat} (long : 400 < (digitsOf n).length) (negative : Bool) :
    nearest negative n 1 = .infinite negative := by
  have positive : 0 < n := by
    rcases Nat.eq_zero_or_pos n with rfl | positive
    · simp [digitsOf] at long
    · exact positive
  have large : overflowThreshold ≤ n :=
    calc overflowThreshold
        ≤ unitDenominator := (Nat.sub_le _ _).trans (pow_le_unitDenominator (by decide))
      _ ≤ tenTo 400 := unitDenominator_le_tenTo
      _ ≤ tenTo ((digitsOf n).length - 1) := tenTo_le_tenTo (by omega)
      _ ≤ n := tenTo_length_digitsOf_le positive
  have beyond := mt (nearestRank_lt_rankLimit_iff n).mp (Nat.not_lt.mpr large)
  rw [nearest, ofRank, dif_neg beyond]

/-- Decimal digits without a fraction are rounded as the whole number that they make. -/
theorem ofDecimal_digitsOf (negative : Bool) (n : Nat) :
    ofDecimal negative ((digitsOf n).map fun c => c.toNat - 0x30) 0 = nearest negative n 1 := by
  rcases Nat.eq_zero_or_pos n with rfl | positive
  · rfl
  · have value : digitsValue ((digitsOf n).map fun c => c.toNat - 0x30) = n :=
      (foldl_digits _ 0).trans (ofDigitChars_digitsOf n)
    have some := length_digitsOf_pos n
    have digits : ((digitsOf n).map fun c => c.toNat - 0x30).isEmpty = false := by
      simp [digitsOf_ne_nil]
    unfold ofDecimal
    simp only [dropWhile_digitsOf positive, digits, Bool.false_eq_true, if_false, value,
      List.length_map, add_zero]
    split
    next long => exact (nearest_eq_infinite (by omega) negative).symm
    next =>
      rw [if_neg (by omega)]
      simp [tenTo]

/-- The text of a whole number is read as the binary number that the whole number is rounded to. -/
theorem numberOfText_toString (n : Int) : numberOfText (toString n) = .ok (.ofInt n) := by
  have inf := @toLower_digitsOf_ne n.natAbs "inf" 'i' rfl rfl
  have infinity := @toLower_digitsOf_ne n.natAbs "infinity" 'i' rfl rfl
  have nan := @toLower_digitsOf_ne n.natAbs "nan" 'n' rfl rfl
  have read : readNumber? (toString n) = some (.ofInt n) := by
    rw [readNumber?, toList_toString_int, stripBy_eq_self fun _ => isNumberBlank_of_mem_toString,
      takeSign_signOf]
    have digits := groupedDigitsFrom_of_isDigit (isDigit_of_mem_digitsOf (n := n.natAbs)) false
    simp only [inf, infinity, nan, decide_false, Bool.or_self, Bool.false_eq_true, if_false,
      readDecimal?, groupedDigits, digits]
    have some : ((digitsOf n.natAbs).map fun c => c.toNat - 0x30).isEmpty = false := by
      simp [digitsOf_ne_nil]
    simp only [takeExponent, some, Bool.false_and, List.isEmpty_nil, Bool.not_true, Bool.or_self,
      Bool.false_eq_true, if_false, List.append_nil, List.length_nil, Int.natCast_zero,
      Int.sub_zero, ofDecimal_digitsOf]
    rfl
  rw [numberOfText, read]

/-! ## What comes back -/

/-- No binary number is closer to a whole number. -/
def IsNearestWhole (n m : ℤ) : Prop :=
  IsBinaryWhole m ∧ ∀ other, IsBinaryWhole other → |m - n| ≤ |other - n|

theorem natAbs_signed (negative : Bool) (n : ℕ) : (signed negative n).natAbs = n := by
  cases negative <;> simp [signed]

theorem abs_signed_sub (n : ℤ) (magnitude : ℕ) :
    |signed (decide (n < 0)) magnitude - n| = |(magnitude : ℤ) - n.natAbs| := by
  by_cases negative : n < 0
  · rw [decide_eq_true negative, signed, if_pos rfl, abs_sub_comm]
    congr 1
    omega
  · rw [decide_eq_false negative, signed, if_neg Bool.false_ne_true]
    congr 1
    omega

/-- A whole number within the range of binary numbers is rounded to a whole number. -/
theorem exists_wholeOf_ofInt {n : ℤ} (small : n.natAbs < overflowThreshold) :
    ∃ whole, unitsOfRank (nearestRank n.natAbs 1) = whole * unitDenominator ∧
      wholeOf (ofInt n) = .ok (signed (decide (n < 0)) whole) := by
  obtain ⟨whole, units⟩ := exists_whole_nearestRank n.natAbs
  refine ⟨whole, units, ?_⟩
  have within := (nearestRank_lt_rankLimit_iff n.natAbs).mpr small
  have cut : unitsOfRank (nearestRank n.natAbs 1) / unitDenominator = whole := by
    rw [units, Nat.mul_div_cancel _ unitDenominator_pos]
  rw [ofInt, nearest, ofRank, dif_pos within, wholeOf, trunc]
  · simp only [cut]
    rfl
  · intro undefined
    cases undefined

theorem wholeOf_ofInt_infinite {n : ℤ} (large : overflowThreshold ≤ n.natAbs) :
    wholeOf (ofInt n) = .error .infinite := by
  have beyond := mt (nearestRank_lt_rankLimit_iff n.natAbs).mp (Nat.not_lt.mpr large)
  rw [ofInt, nearest, ofRank, dif_neg beyond]
  rfl

/-- What a whole number is rounded to is the nearest of the binary numbers. -/
theorem isNearestWhole_of_wholeOf {n m : ℤ} (h : wholeOf (ofInt n) = .ok m) :
    IsNearestWhole n m := by
  have small : n.natAbs < overflowThreshold := by
    by_contra large
    rw [wholeOf_ofInt_infinite (Nat.le_of_not_lt large)] at h
    cases h
  obtain ⟨whole, units, given⟩ := exists_wholeOf_ofInt small
  obtain rfl : signed (decide (n < 0)) whole = m := Except.ok.inj (given.symm.trans h)
  constructor
  · rw [isBinaryWhole_iff, natAbs_signed]
    exact ⟨_, (nearestRank_lt_rankLimit_iff n.natAbs).mpr small, units⟩
  · intro other binary
    obtain ⟨rank, -, units'⟩ := isBinaryWhole_iff.mp binary
    have closest := (readsAs_nearestRank n.natAbs one_pos).dist_le rank
    have positive : (0 : ℚ) < unitDenominator := Nat.cast_pos.mpr unitDenominator_pos
    rw [units, units'] at closest
    have magnitudes : |(whole : ℤ) - n.natAbs| ≤ |(other.natAbs : ℤ) - n.natAbs| := by
      push_cast [div_one, ← sub_mul, abs_mul, abs_of_pos positive] at closest
      exact_mod_cast le_of_mul_le_mul_right closest positive
    rw [abs_signed_sub]
    refine magnitudes.trans ?_
    rw [Int.natCast_natAbs, Int.natCast_natAbs]
    exact abs_abs_sub_abs_le other n

theorem wholeOf_ofInt_of_isBinaryWhole {n : ℤ} (binary : IsBinaryWhole n) :
    wholeOf (ofInt n) = .ok n := by
  obtain ⟨rank, within, units⟩ := isBinaryWhole_iff.mp binary
  have small : n.natAbs < overflowThreshold := by
    rwa [← nearestRank_lt_rankLimit_iff, nearestRank_of_units units]
  obtain ⟨whole, units', given⟩ := exists_wholeOf_ofInt small
  have itself : whole = n.natAbs := by
    rw [nearestRank_of_units units, units] at units'
    exact (Nat.eq_of_mul_eq_mul_right unitDenominator_pos units').symm
  rw [given, itself, signed_natAbs]

/-- The text of a whole number is read as the whole number with 53 significant bits that is closest.
So the number comes back exactly if it has no more bits than that; and nothing comes back if it is
too large for a binary number. -/
theorem toInteger_toString_iff (n : ℤ) :
    ∃ text, toText (.integer n) = .ok text ∧
      (toInteger (.string text) = .ok n ↔ IsBinaryWhole n) ∧
      (∀ m, toInteger (.string text) = .ok m → IsNearestWhole n m) ∧
      ∀ fault, toInteger (.string text) = .error fault ↔
        overflowThreshold ≤ n.natAbs ∧ fault = .infinite := by
  refine ⟨toString n, rfl, ?_⟩
  have read : toInteger (.string (toString n)) = wholeOf (ofInt n) := by
    simp only [toInteger, numberOfText_toString, bind, Except.bind]
  rw [read]
  refine ⟨⟨fun given => (isNearestWhole_of_wholeOf given).1, wholeOf_ofInt_of_isBinaryWhole⟩,
    fun m => isNearestWhole_of_wholeOf, fun fault => ?_⟩
  rcases Nat.lt_or_ge n.natAbs overflowThreshold with small | large
  · obtain ⟨whole, -, given⟩ := exists_wholeOf_ofInt small
    rw [given]
    constructor
    · intro failed
      cases failed
    · rintro ⟨large, -⟩
      exact absurd large (Nat.not_le.mpr small)
  · rw [wholeOf_ofInt_infinite large, Except.error.injEq]
    exact ⟨fun same => ⟨large, same.symm⟩, fun failed => failed.2.symm⟩

/-- The text of the first whole number that does not come back. -/
theorem toInteger_neighbour :
    toInteger (.string "9007199254740993") = .ok 9007199254740992 := by decide +kernel

/-- The first whole number that does not come back becomes the one before it. -/
theorem toInteger_toString_iff_neighbour :
    toInteger (.string "9007199254740993") = .ok 9007199254740992 ∧
      IsNearestWhole 9007199254740993 9007199254740992 := by
  obtain ⟨text, written, -, nearest, -⟩ := toInteger_toString_iff 9007199254740993
  obtain rfl : "9007199254740993" = text := by
    have same : toText (.integer 9007199254740993) = .ok "9007199254740993" := rfl
    exact Except.ok.inj (same.symm.trans written)
  exact ⟨toInteger_neighbour, nearest _ toInteger_neighbour⟩

/-- The first whole number that does not come back. -/
theorem not_forall_comes_back :
    ¬ ∀ (n : ℤ) (text : String), toText (.integer n) = .ok text →
      toInteger (.string text) = .ok n := by
  intro always
  have back := always 9007199254740993 "9007199254740993" rfl
  rw [toInteger_neighbour] at back
  exact absurd (Except.ok.inj back) (by decide)

end DocGraph
