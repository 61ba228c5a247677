import DocGraph.Number.Shortest
import Mathlib.Algebra.Order.Field.Power
import Mathlib.Algebra.Order.Ring.Rat
import Mathlib.Tactic.FieldSimp
import Mathlib.Tactic.Linarith
import Mathlib.Tactic.Positivity
import Mathlib.Tactic.Ring

/-!
# Shortest decimals read back

The search for a shortest decimal always finds one, and what it finds lies in the interval of
the number that it was made from. Intervals of different numbers have nothing in common, so that
a shortest decimal tells its number.

Values are counted in multiples of `2 ^ -1074`, of which every finite number is a whole one.

## Main definitions

* `Decimal.inUnits`: the value of a decimal.
* `Binary64.ReadsAs`: the values that are rounded to a number.

## Main results

* `Binary64.readsAs_unique`: a value is rounded to one number only.
* `Binary64.readsAs_shortest`: the shortest decimal of a number is rounded to it.
-/

namespace DocGraph

theorem cast_tenTo (exponent : Nat) : (tenTo exponent : ℚ) = 10 ^ exponent := by
  simp [tenTo]

theorem tenTo_pos (exponent : Nat) : 0 < tenTo exponent := Nat.pow_pos (by decide)

/-- The value of a decimal, counted in the units of binary numbers. -/
def Decimal.inUnits (d : Decimal) : ℚ :=
  d.coefficient * 10 ^ d.exponent * Binary64.unitDenominator

namespace Binary64

theorem unitDenominator_pos : 0 < unitDenominator := by decide +kernel

theorem unitDenominator_le_tenTo : unitDenominator ≤ tenTo 400 := by decide +kernel

/-! ## Ranks and their values -/

/-- How many units there are from the number of a rank to the next number. -/
def unitStep (rank : Nat) : Nat := 2 ^ (rank / fractionCount - 1)

theorem unitStep_pos (rank : Nat) : 0 < unitStep rank := Nat.two_pow_pos _

theorem unitsOfRank_succ (rank : Nat) :
    unitsOfRank (rank + 1) = unitsOfRank rank + unitStep rank := by
  have positive : 0 < fractionCount := by decide
  have split := Nat.div_add_mod rank fractionCount
  have bound := Nat.mod_lt rank positive
  simp only [unitsOfRank, unitStep, Nat.shiftLeft_eq]
  generalize rank / fractionCount = exponent at split
  generalize rank % fractionCount = fraction at split bound
  subst split
  rcases Nat.lt_or_ge (fraction + 1) fractionCount with within | carry
  · -- The next number has the same exponent.
    rw [Nat.add_assoc, Nat.mul_add_div positive, Nat.div_eq_of_lt within, Nat.mul_add_mod,
      Nat.mod_eq_of_lt within, Nat.add_zero]
    split
    · simp [*]
    · ring
  · -- The next number is the first one with the next exponent.
    obtain rfl : fraction = fractionCount - 1 := by omega
    have next : fractionCount * exponent + (fractionCount - 1) + 1 =
        fractionCount * (exponent + 1) := by
      rw [Nat.mul_succ]
      omega
    rw [next, Nat.mul_div_cancel_left _ positive, Nat.mul_mod_right]
    cases exponent with
    | zero => simp; omega
    | succ e =>
      simp only [Nat.add_eq_zero_iff, one_ne_zero, and_false, if_false, Nat.add_sub_cancel,
        Nat.add_zero, pow_succ]
      have double : fractionCount + (fractionCount - 1) + 1 = fractionCount * 2 := by omega
      rw [← Nat.succ_mul, Nat.succ_eq_add_one, double]
      ring

theorem unitsOfRank_strictMono : StrictMono unitsOfRank :=
  strictMono_nat_of_lt_succ fun rank => by
    rw [unitsOfRank_succ]
    exact Nat.lt_add_of_pos_right (unitStep_pos rank)

/-- A number has less than `2 ^ 53` of the steps that lead to the next one. -/
theorem unitsOfRank_lt (rank : Nat) : unitsOfRank rank < 2 * fractionCount * unitStep rank := by
  have bound : rank % fractionCount < fractionCount := Nat.mod_lt rank (by decide)
  simp only [unitsOfRank, unitStep, Nat.shiftLeft_eq]
  split
  · simp only [*, Nat.zero_sub, pow_zero, Nat.mul_one]
    omega
  · exact Nat.mul_lt_mul_of_pos_right (by omega) (Nat.two_pow_pos _)

/-- Sixteen decimal places are finer than the distance between the neighbours of a number. -/
theorem two_mul_unitsOfRank_lt (rank : Nat) :
    2 * unitsOfRank (rank + 1) < 10 ^ 16 * (unitStep rank + unitStep (rank + 1)) := by
  have positive := unitStep_pos (rank + 1)
  by_cases first : (rank + 1) % fractionCount = 0
  · -- The first number with an exponent is close to the one before it.
    have exponent : (rank + 1) / fractionCount ≠ 0 := by
      simp only [fractionCount] at first ⊢
      omega
    have value : unitsOfRank (rank + 1) = fractionCount * unitStep (rank + 1) := by
      simp [unitsOfRank, unitStep, first, exponent, Nat.shiftLeft_eq]
    rw [value]
    simp only [fractionCount]
    omega
  · have same : unitStep rank = unitStep (rank + 1) := by
      have exponent : rank / fractionCount = (rank + 1) / fractionCount := by
        simp only [fractionCount] at first ⊢
        omega
      rw [unitStep, unitStep, exponent]
    have bound := unitsOfRank_lt (rank + 1)
    rw [same]
    simp only [fractionCount] at bound
    omega

/-! ## The interval of a number -/

/-- A value, counted in units, is rounded to the number of a rank: it is at most half way to
its neighbours, and less for odd ranks. -/
def ReadsAs (rank : Nat) (value : ℚ) : Prop :=
  if rank % 2 = 0 then
    (unitsOfRank (rank - 1) + unitsOfRank rank : ℚ) ≤ 2 * value ∧
      2 * value ≤ unitsOfRank rank + unitsOfRank (rank + 1)
  else
    (unitsOfRank (rank - 1) + unitsOfRank rank : ℚ) < 2 * value ∧
      2 * value < unitsOfRank rank + unitsOfRank (rank + 1)

theorem ReadsAs.bounds {rank : Nat} {value : ℚ} (h : ReadsAs rank value) :
    (unitsOfRank (rank - 1) + unitsOfRank rank : ℚ) ≤ 2 * value ∧
      2 * value ≤ unitsOfRank rank + unitsOfRank (rank + 1) := by
  unfold ReadsAs at h
  split at h
  · exact h
  · exact ⟨h.1.le, h.2.le⟩

theorem readsAs_zero : ReadsAs 0 0 := by
  have zero : unitsOfRank 0 = 0 := by simp [unitsOfRank]
  simp only [ReadsAs, Nat.zero_mod, if_true, Nat.zero_sub, zero, Nat.cast_zero, mul_zero, zero_add]
  exact ⟨le_rfl, Nat.cast_nonneg _⟩

theorem readsAs_of_lt {rank : Nat} {value : ℚ}
    (low : (unitsOfRank (rank - 1) + unitsOfRank rank : ℚ) < 2 * value)
    (high : 2 * value < unitsOfRank rank + unitsOfRank (rank + 1)) : ReadsAs rank value := by
  unfold ReadsAs
  split
  · exact ⟨low.le, high.le⟩
  · exact ⟨low, high⟩

theorem cast_unitsOfRank_le {rank other : Nat} :
    (unitsOfRank rank : ℚ) ≤ unitsOfRank other ↔ rank ≤ other := by
  rw [Nat.cast_le, unitsOfRank_strictMono.le_iff_le]

theorem readsAs_le {rank other : Nat} {value : ℚ} (h : ReadsAs rank value)
    (h' : ReadsAs other value) : rank ≤ other := by
  by_contra further
  have below : (unitsOfRank other : ℚ) ≤ unitsOfRank (rank - 1) :=
    cast_unitsOfRank_le.mpr (by omega)
  have above : (unitsOfRank (other + 1) : ℚ) ≤ unitsOfRank rank :=
    cast_unitsOfRank_le.mpr (by omega)
  have low := h.bounds.1
  have high := h'.bounds.2
  -- The value is the common end of both intervals, so that the numbers are neighbours.
  have adjacent : rank = other + 1 := by
    have : (unitsOfRank rank : ℚ) ≤ unitsOfRank (other + 1) := by linarith
    have := cast_unitsOfRank_le.mp this
    omega
  subst adjacent
  -- One of two neighbours is odd and leaves the end out.
  rcases Nat.mod_two_eq_zero_or_one other with even | odd
  · have : ¬ (other + 1) % 2 = 0 := by omega
    simp only [ReadsAs, this, if_false] at h
    linarith [h.1]
  · have : ¬ other % 2 = 0 := by omega
    simp only [ReadsAs, this, if_false] at h'
    linarith [h'.2]

/-- A value is rounded to one number only. -/
theorem readsAs_unique {rank other : Nat} {value : ℚ} (h : ReadsAs rank value)
    (h' : ReadsAs other value) : rank = other :=
  Nat.le_antisymm (readsAs_le h h') (readsAs_le h' h)

/-! ## Reading decimals back -/

/-- Both numbers of a scaled pair are taken over one denominator. -/
theorem cast_scaledPair (a : Nat) (e : Int) (b : Nat) :
    ∃ scale : ℚ, 0 < scale ∧ ((scaledPair a e b).1 : ℚ) = scale * (a * 10 ^ e) ∧
      ((scaledPair a e b).2 : ℚ) = scale * b := by
  rcases Int.le_total 0 e with whole | fraction
  · refine ⟨1, one_pos, ?_, ?_⟩
    · obtain ⟨n, rfl⟩ := Int.eq_ofNat_of_zero_le whole
      simp [scaledPair, cast_tenTo]
    · simp [scaledPair, whole]
  · obtain ⟨n, rfl⟩ : ∃ n : Nat, e = -n := ⟨e.natAbs, by omega⟩
    refine ⟨10 ^ n, by positivity, ?_, ?_⟩
    · cases n with
      | zero => simp [scaledPair, tenTo]
      | succ n =>
        have : ¬ (0 : Int) ≤ -((n + 1 : Nat) : Int) := by omega
        simp only [scaledPair, ge_iff_le, this, if_false, zpow_neg, zpow_natCast]
        field_simp
    · cases n with
      | zero => simp [scaledPair, tenTo]
      | succ n =>
        have : ¬ (0 : Int) ≤ -((n + 1 : Nat) : Int) := by omega
        simp only [scaledPair, ge_iff_le, this, if_false, Int.neg_neg, Int.toNat_natCast,
          Nat.cast_mul, cast_tenTo]
        ring

theorem readsBack_iff (rank : Nat) (d : Decimal) :
    readsBack rank d = true ↔ ReadsAs rank d.inUnits := by
  obtain ⟨scale, positive, value, low⟩ := cast_scaledPair (d.coefficient * 2 * unitDenominator)
    d.exponent (unitsOfRank (rank - 1) + unitsOfRank rank)
  obtain ⟨scale', positive', value', high⟩ :=
    cast_scaledPair (d.coefficient * 2 * unitDenominator) d.exponent
      (unitsOfRank rank + unitsOfRank (rank + 1))
  have double : ((d.coefficient * 2 * unitDenominator : Nat) : ℚ) * 10 ^ d.exponent =
      2 * d.inUnits := by
    rw [Decimal.inUnits]
    push_cast
    ring
  rw [double] at value value'
  unfold readsBack ReadsAs
  dsimp only
  split
  · simp only [Bool.and_eq_true, decide_eq_true_eq]
    rw [← Nat.cast_le (α := ℚ), ← Nat.cast_le (α := ℚ), value, value', low, high,
      mul_le_mul_iff_right₀ positive, mul_le_mul_iff_right₀ positive']
    push_cast
    rfl
  · simp only [Bool.and_eq_true, decide_eq_true_eq]
    rw [← Nat.cast_lt (α := ℚ), ← Nat.cast_lt (α := ℚ), value, value', low, high,
      mul_lt_mul_iff_right₀ positive, mul_lt_mul_iff_right₀ positive']
    push_cast
    rfl

/-! ## The search for a decimal -/

/-- One place on a decimal grid, counted in units. -/
def placeInUnits (e : Int) : ℚ := 10 ^ e * unitDenominator

theorem inUnits_eq (d : Decimal) : d.inUnits = d.coefficient * placeInUnits d.exponent := by
  simp only [Decimal.inUnits, placeInUnits, mul_assoc]

/-- The neighbours on a grid are the last decimal that is not above the number and the one after
it. -/
theorem neighbours_spec (rank : Nat) (e : Int) :
    (neighbours rank e).1.inUnits ≤ unitsOfRank rank ∧
      (unitsOfRank rank : ℚ) < (neighbours rank e).2.inUnits ∧
      (neighbours rank e).2.inUnits = (neighbours rank e).1.inUnits + placeInUnits e := by
  have between : ((neighbours rank e).1.coefficient : ℚ) * placeInUnits e ≤ unitsOfRank rank ∧
      (unitsOfRank rank : ℚ) < ((neighbours rank e).1.coefficient + 1) * placeInUnits e := by
    by_cases whole : 0 ≤ e
    · obtain ⟨n, rfl⟩ := Int.eq_ofNat_of_zero_le whole
      have place : 0 < unitDenominator * tenTo n := Nat.mul_pos unitDenominator_pos (tenTo_pos n)
      have size : ((unitDenominator * tenTo n : Nat) : ℚ) = placeInUnits n := by
        simp [placeInUnits, cast_tenTo, mul_comm]
      simp only [neighbours, ge_iff_le, whole, if_true, Int.toNat_natCast, ← size]
      constructor
      · exact_mod_cast Nat.div_mul_le_self _ _
      · exact_mod_cast Nat.lt_mul_of_div_lt (Nat.lt_succ_self _) place
    · obtain ⟨n, rfl⟩ : ∃ n : Nat, e = -n := ⟨e.natAbs, by omega⟩
      have positive : (0 : ℚ) < tenTo n := Nat.cast_pos.mpr (tenTo_pos n)
      have size : placeInUnits (-n) = unitDenominator / tenTo n := by
        simp only [placeInUnits, cast_tenTo, zpow_neg, zpow_natCast]
        field_simp
      simp only [neighbours, ge_iff_le, whole, if_false, Int.neg_neg, Int.toNat_natCast, size]
      rw [← mul_div_assoc, ← mul_div_assoc, div_le_iff₀ positive, lt_div_iff₀ positive]
      constructor
      · exact_mod_cast Nat.div_mul_le_self _ _
      · exact_mod_cast Nat.lt_mul_of_div_lt (Nat.lt_succ_self _) unitDenominator_pos
  have lower : (neighbours rank e).1.exponent = e := rfl
  have upper : (neighbours rank e).2.exponent = e := rfl
  have next : (neighbours rank e).2.coefficient = (neighbours rank e).1.coefficient + 1 := rfl
  rw [inUnits_eq, inUnits_eq, lower, upper, next, Nat.cast_succ]
  exact ⟨between.1, between.2, by ring⟩

/-- A grid that is finer than the distance between the neighbours of a number holds a decimal
that reads back. -/
theorem onGrid_isSome {rank : Nat} {e : Int}
    (fine : 2 * placeInUnits e < unitsOfRank (rank + 1) - unitsOfRank (rank - 1)) :
    (onGrid rank e).isSome := by
  obtain ⟨below, above, apart⟩ := neighbours_spec rank e
  by_contra missing
  have neither : ¬ ReadsAs rank (neighbours rank e).1.inUnits ∧
      ¬ ReadsAs rank (neighbours rank e).2.inUnits := by
    rw [← readsBack_iff, ← readsBack_iff]
    unfold onGrid at missing
    dsimp only at missing
    cases low : readsBack rank (neighbours rank e).1 <;>
      cases high : readsBack rank (neighbours rank e).2 <;> simp [low, high] at missing ⊢
  have before : (unitsOfRank (rank - 1) : ℚ) ≤ unitsOfRank rank :=
    cast_unitsOfRank_le.mpr (by omega)
  have after : (unitsOfRank rank : ℚ) < unitsOfRank (rank + 1) :=
    Nat.cast_lt.mpr (unitsOfRank_strictMono (Nat.lt_succ_self rank))
  -- The lower neighbour is not too high, and so it is too low; the upper one is too high.
  have low : 2 * (neighbours rank e).1.inUnits ≤ unitsOfRank (rank - 1) + unitsOfRank rank := by
    by_contra h
    exact neither.1 (readsAs_of_lt (by linarith) (by linarith))
  have high : (unitsOfRank rank + unitsOfRank (rank + 1) : ℚ) ≤
      2 * (neighbours rank e).2.inUnits := by
    by_contra h
    exact neither.2 (readsAs_of_lt (by linarith) (by linarith))
  linarith

theorem readsAs_of_onGrid {rank : Nat} {e : Int} {d : Decimal} (h : onGrid rank e = some d) :
    ReadsAs rank d.inUnits := by
  rw [← readsBack_iff]
  unfold onGrid at h
  dsimp only at h
  split at h
  · next low high =>
    obtain rfl := Option.some.inj h
    split
    · exact low
    · exact high
  · next low _ =>
    obtain rfl := Option.some.inj h
    exact low
  · next _ high =>
    obtain rfl := Option.some.inj h
    exact high
  · cases h

theorem firstGrid_spec {rank : Nat} {leading : Int} {places : List Nat}
    (h : ∃ place ∈ places, (onGrid rank (leading - place)).isSome) :
    ∃ d, firstGrid rank leading places = some d ∧ ReadsAs rank d.inUnits := by
  induction places with
  | nil => simp at h
  | cons place finer ih =>
    cases found : onGrid rank (leading - place) with
    | some d => exact ⟨d, by rw [firstGrid, found]; rfl, readsAs_of_onGrid found⟩
    | none =>
      obtain ⟨d, first, reads⟩ := ih (by simpa [found] using h)
      exact ⟨d, by rw [firstGrid, found, first]; rfl, reads⟩

theorem length_digitsOf_pos (n : Nat) : 0 < (Decimal.digitsOf n).length :=
  Nat.length_toDigits_pos

theorem tenTo_length_digitsOf_le {n : Nat} (positive : 0 < n) :
    tenTo ((Decimal.digitsOf n).length - 1) ≤ n := by
  by_contra short
  have some := length_digitsOf_pos n
  rcases Nat.eq_zero_or_pos ((Decimal.digitsOf n).length - 1) with single | several
  · simp [single, tenTo] at short
    omega
  · have := (Nat.length_toDigits_le_iff (by decide) several).mpr (Nat.lt_of_not_le short)
    simp only [Decimal.digitsOf] at this some several
    omega

/-- The first digit of a number stands at its leading exponent or above. -/
theorem placeInUnits_leadingExponent_le {units : Nat} (positive : 0 < units) :
    placeInUnits (leadingExponent units) ≤ units := by
  have one : 0 < units * tenTo 400 / unitDenominator :=
    Nat.div_pos (unitDenominator_le_tenTo.trans (Nat.le_mul_of_pos_left _ positive))
      unitDenominator_pos
  have digits : tenTo ((Decimal.digitsOf (units * tenTo 400 / unitDenominator)).length - 1) *
      unitDenominator ≤ units * tenTo 400 :=
    (Nat.mul_le_mul_right _ (tenTo_length_digitsOf_le one)).trans (Nat.div_mul_le_self _ _)
  have some := length_digitsOf_pos (units * tenTo 400 / unitDenominator)
  have exponent : leadingExponent units =
      ((Decimal.digitsOf (units * tenTo 400 / unitDenominator)).length - 1 : Nat) -
        (400 : Nat) := by
    rw [leadingExponent]
    omega
  rw [exponent, placeInUnits, zpow_sub₀ (by norm_num), zpow_natCast, zpow_natCast,
    div_mul_eq_mul_div, div_le_iff₀ (by positivity), ← cast_tenTo, ← cast_tenTo]
  exact_mod_cast digits

theorem readsAs_firstGrid {rank : Nat} (positive : 0 < rank) :
    ∃ d, firstGrid rank (leadingExponent (unitsOfRank rank)) (List.range 17) = some d ∧
      ReadsAs rank d.inUnits := by
  refine firstGrid_spec ⟨16, by simp, onGrid_isSome ?_⟩
  obtain ⟨before, rfl⟩ := Nat.exists_eq_succ_of_ne_zero positive.ne'
  have some : 0 < unitsOfRank (before + 1) := by
    have := unitsOfRank_succ before
    have := unitStep_pos before
    omega
  have leading := placeInUnits_leadingExponent_le some
  -- The last of the grids has its place sixteen digits behind the first one.
  have shift : placeInUnits (leadingExponent (unitsOfRank (before + 1)) - (16 : Nat)) * 10 ^ 16 =
      placeInUnits (leadingExponent (unitsOfRank (before + 1))) := by
    simp only [placeInUnits, zpow_sub₀ (show (10 : ℚ) ≠ 0 by norm_num), zpow_natCast]
    field_simp
  have gap : (2 * unitsOfRank (before + 1) : ℚ) <
      10 ^ 16 * (unitStep before + unitStep (before + 1)) := by
    exact_mod_cast two_mul_unitsOfRank_lt before
  have next : (unitsOfRank (before + 1 + 1) : ℚ) =
      unitsOfRank before + unitStep before + unitStep (before + 1) := by
    rw [unitsOfRank_succ, unitsOfRank_succ]
    push_cast
    ring
  rw [Nat.succ_eq_add_one, Nat.add_sub_cancel, next]
  linarith

/-! ## Zeros at the end of a coefficient -/

/-- As many powers of ten divide a number as it has zeros at its end. -/
theorem tenTo_zeros_dvd (n : Nat) :
    tenTo ((Decimal.digitsOf n).reverse.takeWhile (· == '0')).length ∣ n := by
  -- The digits are those of the tenth part, and the last one.
  induction n using Nat.strong_induction_on with
  | _ n ih =>
    rcases Nat.lt_or_ge n 10 with single | several
    · rw [Decimal.digitsOf, Nat.toDigits_of_lt_base single]
      by_cases zero : n = 0
      · simp [zero]
      · simp [zero, tenTo]
    · rw [Decimal.digitsOf, Nat.toDigits_of_base_le (by decide) several, List.reverse_append]
      by_cases zero : n % 10 = 0
      · have split : n = n / 10 * 10 := by omega
        have last : (Nat.digitChar 0 == '0') = true := rfl
        simp only [zero, List.reverse_singleton, List.singleton_append, List.takeWhile_cons, last,
          if_true, List.length_cons]
        refine (Eq.dvd (Nat.pow_succ ..)).trans ?_
        have others := Nat.mul_dvd_mul_right (ih (n / 10) (by omega)) 10
        rwa [← split] at others
      · simp [zero, tenTo]

/-- Dropping zeros from the end of a coefficient keeps the value. -/
theorem inUnits_strip (d : Decimal) : d.strip.inUnits = d.inUnits := by
  by_cases zero : d.coefficient = 0
  · simp [Decimal.strip, inUnits_eq, zero]
  · have zeros : (Decimal.digitsOf d.coefficient).length -
        ((Decimal.digitsOf d.coefficient).reverse.dropWhile (· == '0')).reverse.length =
        ((Decimal.digitsOf d.coefficient).reverse.takeWhile (· == '0')).length := by
      have split := congrArg List.length (List.takeWhile_append_dropWhile
        (p := (· == '0')) (l := (Decimal.digitsOf d.coefficient).reverse))
      rw [List.length_append, List.length_reverse] at split
      rw [List.length_reverse]
      omega
    obtain ⟨kept, coefficient⟩ := tenTo_zeros_dvd d.coefficient
    simp only [Decimal.strip, zero, if_false, zeros]
    generalize ((Decimal.digitsOf d.coefficient).reverse.takeWhile (· == '0')).length = count
      at coefficient
    have positive : (0 : ℚ) < tenTo count := Nat.cast_pos.mpr (tenTo_pos count)
    rw [inUnits_eq, inUnits_eq, coefficient, Nat.mul_div_cancel_left _ (tenTo_pos count)]
    simp only [placeInUnits, zpow_add₀ (show (10 : ℚ) ≠ 0 by norm_num), zpow_natCast, Nat.cast_mul,
      cast_tenTo]
    ring

/-- The shortest decimal of a positive number is rounded to this number. -/
theorem readsAs_shortest {rank : Nat} (positive : 0 < rank) :
    ReadsAs rank (shortest rank).inUnits := by
  obtain ⟨d, first, reads⟩ := readsAs_firstGrid positive
  rw [shortest, first, inUnits_strip]
  exact reads

end Binary64

end DocGraph
