import DocGraph.Proofs.Number.Shortest

/-!
# Rounding to the nearest number

A quotient is rounded to the number in whose interval it lies, the ends of the interval belonging to
it exactly when its rank is even. So a quotient that is a number is rounded to itself, no other
number is closer to a quotient than the one that it is rounded to, and it is rounded to an infinity
from the middle between the last number and the one that would come next.

## Main definitions

* `IsBinaryWhole`: the whole numbers that are binary numbers.

## Main results

* `Binary64.readsAs_nearestRank`: a quotient lies in the interval of the number that it is rounded
  to.
* `Binary64.ReadsAs.dist_le`: no number is closer to a value of the interval.
* `Binary64.nearestRank_lt_rankLimit_iff`: which whole numbers are rounded to finite ones.
* `isBinaryWhole_iff`: the whole numbers that are binary numbers have 53 significant bits.
-/

namespace DocGraph

namespace Binary64

/-! ## Rounding to a whole number -/

/-- A quotient is rounded to one of the two whole numbers around it. -/
theorem roundHalfEven_bounds (numerator denominator : Nat) :
    numerator / denominator ≤ roundHalfEven numerator denominator ∧
      roundHalfEven numerator denominator ≤ numerator / denominator + 1 := by
  unfold roundHalfEven
  dsimp only
  split
  · omega
  · split
    · omega
    · split <;> omega

/-- A quotient is rounded by one half at most, and by less to an odd number. -/
theorem roundHalfEven_spec (numerator : Nat) {denominator : Nat} (positive : 0 < denominator) :
    let q := roundHalfEven numerator denominator
    (2 * (q * denominator) ≤ 2 * numerator + denominator ∧
        2 * numerator ≤ 2 * (q * denominator) + denominator) ∧
      (q % 2 = 1 → 2 * (q * denominator) < 2 * numerator + denominator ∧
        2 * numerator < 2 * (q * denominator) + denominator) := by
  have split := Nat.div_add_mod numerator denominator
  have bound := Nat.mod_lt numerator positive
  unfold roundHalfEven
  dsimp only
  generalize numerator / denominator = quotient at split ⊢
  generalize numerator % denominator = rest at split bound ⊢
  rw [Nat.mul_comm] at split
  have next : (quotient + 1) * denominator = quotient * denominator + denominator :=
    Nat.succ_mul quotient denominator
  split
  · omega
  · split
    · rw [next]
      omega
    · split
      · omega
      · rw [next]
        omega

/-- Nothing is left to round of a multiple. -/
theorem roundHalfEven_mul (q : Nat) {denominator : Nat} (positive : 0 < denominator) :
    roundHalfEven (q * denominator) denominator = q := by
  simp [roundHalfEven, Nat.mul_div_cancel _ positive, positive]

/-! ## The number of a scale and a significand -/

section

variable {scale significand : Nat}

/-- The rank of a number with a scale and a significand of 53 bits, or of fewer bits at the least
scale. A significand may also be the first one with 54 bits. -/
theorem unitsOfRank_scale (most : significand ≤ 2 * fractionCount)
    (least : scale = 0 ∨ fractionCount ≤ significand) :
    unitsOfRank (scale * fractionCount + significand) = significand * 2 ^ scale := by
  have positive : 0 < fractionCount := by decide
  by_cases small : significand < fractionCount
  · obtain rfl : scale = 0 := by omega
    simp [unitsOfRank, Nat.div_eq_of_lt small, Nat.mod_eq_of_lt small]
  · obtain ⟨fraction, rfl⟩ := Nat.exists_eq_add_of_le (Nat.le_of_not_lt small)
    have above : scale * fractionCount + (fractionCount + fraction) =
        fractionCount * (scale + 1) + fraction := by ring
    by_cases within : fraction < fractionCount
    · rw [above, unitsOfRank, Nat.mul_add_div positive, Nat.div_eq_of_lt within, Nat.mul_add_mod,
        Nat.mod_eq_of_lt within]
      simp [Nat.shiftLeft_eq]
    · -- The significand has 54 bits and carries into the exponent.
      obtain rfl : fraction = fractionCount := by omega
      have carried : fractionCount * (scale + 1) + fractionCount =
          fractionCount * (scale + 2) := by ring
      rw [above, carried, unitsOfRank, Nat.mul_div_cancel_left _ positive, Nat.mul_mod_right]
      simp only [Nat.add_eq_zero_iff, OfNat.ofNat_ne_zero, and_false, if_false, Nat.add_zero,
        Nat.shiftLeft_eq]
      have exponent : scale + 2 - 1 = scale + 1 := by omega
      rw [exponent, pow_succ]
      ring

/-- The number before one whose significand is not the least one of its scale. -/
theorem unitsOfRank_scale_pred (most : significand ≤ 2 * fractionCount)
    (more : scale = 0 ∨ fractionCount < significand) :
    unitsOfRank (scale * fractionCount + significand - 1) = (significand - 1) * 2 ^ scale := by
  cases significand with
  | zero =>
    obtain rfl : scale = 0 := by omega
    simp [unitsOfRank]
  | succ before =>
    rw [← Nat.add_assoc, Nat.add_sub_cancel, Nat.add_sub_cancel]
    exact unitsOfRank_scale (by omega) (by omega)

theorem le_unitStep_scale (least : scale = 0 ∨ fractionCount ≤ significand) :
    2 ^ scale ≤ unitStep (scale * fractionCount + significand) := by
  have positive : 0 < fractionCount := by decide
  refine Nat.pow_le_pow_right (by decide) ?_
  rcases least with rfl | large
  · exact Nat.zero_le _
  · obtain ⟨more, rfl⟩ := Nat.exists_eq_add_of_le large
    have above : scale * fractionCount + (fractionCount + more) =
        fractionCount * (scale + 1) + more := by ring
    rw [above, Nat.mul_add_div positive]
    generalize more / fractionCount = carried
    omega

/-- The number after it is further by one unit of the scale at least. -/
theorem le_unitsOfRank_scale_succ (most : significand ≤ 2 * fractionCount)
    (least : scale = 0 ∨ fractionCount ≤ significand) :
    (significand + 1) * 2 ^ scale ≤ unitsOfRank (scale * fractionCount + significand + 1) := by
  rw [unitsOfRank_succ, unitsOfRank_scale most least, Nat.add_one_mul]
  exact Nat.add_le_add_left (le_unitStep_scale least) _

theorem scale_add_mod_two : (scale * fractionCount + significand) % 2 = significand % 2 := by
  have even : fractionCount % 2 = 0 := by decide
  simp [Nat.add_mod, Nat.mul_mod, even]

end

/-! ## The interval of a quotient -/

/-- The scale of a quotient, of which only the whole part matters. -/
def scaleOf (whole : Nat) : Nat := if whole = 0 then 0 else whole.log2 + 1 - 53

theorem nearestRank_eq (numerator denominator : Nat) :
    nearestRank numerator denominator =
      let scaled := numerator * unitDenominator
      let scale := scaleOf (scaled / denominator)
      scale * fractionCount + roundHalfEven scaled (denominator * 2 ^ scale) := by
  simp only [nearestRank, scaleOf, Nat.shiftLeft_eq]

/-- At its scale, a number has 53 bits, unless the scale is the least one. -/
theorem scaleOf_spec (whole : Nat) :
    whole < 2 * fractionCount * 2 ^ scaleOf whole ∧
      (scaleOf whole = 0 ∨ fractionCount * 2 ^ scaleOf whole ≤ whole) := by
  have bits : 2 * fractionCount = 2 ^ 53 := by decide
  have fraction : fractionCount = 2 ^ 52 := by decide
  unfold scaleOf
  split
  next zero => simp [zero, fractionCount]
  next nonzero =>
    constructor
    · rw [bits, ← Nat.pow_add]
      exact Nat.lt_log2_self.trans_le (Nat.pow_le_pow_right (by decide) (by omega))
    · rcases Nat.eq_zero_or_pos (whole.log2 + 1 - 53) with least | positive
      · exact .inl least
      · right
        rw [fraction, ← Nat.pow_add]
        exact (Nat.pow_le_pow_right (by decide) (by omega)).trans (Nat.log2_self_le nonzero)

/-- A number of 53 bits with zeros behind them is a multiple of its scale. -/
theorem scaleOf_le {significand : Nat} (bits : significand < 2 * fractionCount) (zeros : Nat) :
    scaleOf (significand * 2 ^ zeros) ≤ zeros := by
  obtain least | enough := (scaleOf_spec (significand * 2 ^ zeros)).2
  · omega
  · by_contra more
    have size : 2 ^ zeros * 2 ≤ 2 ^ scaleOf (significand * 2 ^ zeros) :=
      Nat.pow_le_pow_right Nat.two_pos (Nat.lt_of_not_le more)
    have below : significand * 2 ^ zeros < fractionCount * (2 ^ zeros * 2) :=
      calc significand * 2 ^ zeros
          < 2 * fractionCount * 2 ^ zeros := Nat.mul_lt_mul_of_pos_right bits (Nat.two_pow_pos _)
        _ = fractionCount * (2 ^ zeros * 2) := by ring
    have above := Nat.mul_le_mul_left fractionCount size
    omega

/-- The significand of a quotient has 53 bits, unless the scale is the least one, and it may be
rounded to the first number with 54 bits. -/
theorem significand_bounds (scaled denominator : Nat) :
    let scale := scaleOf (scaled / denominator)
    let significand := roundHalfEven scaled (denominator * 2 ^ scale)
    significand ≤ 2 * fractionCount ∧ (scale = 0 ∨ fractionCount ≤ significand) := by
  intro scale significand
  obtain ⟨below, above⟩ := scaleOf_spec (scaled / denominator)
  obtain ⟨lower, upper⟩ := roundHalfEven_bounds scaled (denominator * 2 ^ scale)
  have whole : scaled / (denominator * 2 ^ scale) = scaled / denominator / 2 ^ scale :=
    (Nat.div_div_eq_div_mul ..).symm
  rw [whole] at lower upper
  constructor
  · have bits : scaled / denominator / 2 ^ scale < 2 * fractionCount :=
      Nat.div_lt_of_lt_mul (by rwa [Nat.mul_comm])
    show roundHalfEven scaled (denominator * 2 ^ scale) ≤ 2 * fractionCount
    omega
  · refine above.imp_right fun enough => ?_
    have bits : fractionCount ≤ scaled / denominator / 2 ^ scale :=
      (Nat.le_div_iff_mul_le (Nat.two_pow_pos _)).mpr enough
    exact bits.trans lower

/-- The value that a quotient is rounded to is a multiple of its scale. -/
theorem unitsOfRank_nearestRank (numerator denominator : Nat) :
    let scaled := numerator * unitDenominator
    let scale := scaleOf (scaled / denominator)
    unitsOfRank (nearestRank numerator denominator) =
      roundHalfEven scaled (denominator * 2 ^ scale) * 2 ^ scale := by
  obtain ⟨most, least⟩ := significand_bounds (numerator * unitDenominator) denominator
  rw [nearestRank_eq]
  exact unitsOfRank_scale most least

/-- A quotient is at most half way to the neighbours of the number that it is rounded to, and less
if the rank of the number is odd. -/
theorem nearestRank_between (numerator : Nat) {denominator : Nat} (positive : 0 < denominator) :
    let rank := nearestRank numerator denominator
    let twice := 2 * (numerator * unitDenominator)
    ((unitsOfRank (rank - 1) + unitsOfRank rank) * denominator ≤ twice ∧
        twice ≤ (unitsOfRank rank + unitsOfRank (rank + 1)) * denominator) ∧
      (rank % 2 = 1 → (unitsOfRank (rank - 1) + unitsOfRank rank) * denominator < twice ∧
        twice < (unitsOfRank rank + unitsOfRank (rank + 1)) * denominator) := by
  rw [nearestRank_eq]
  dsimp only
  generalize numerator * unitDenominator = scaled
  obtain ⟨most, least⟩ := significand_bounds scaled denominator
  obtain ⟨-, enough⟩ := scaleOf_spec (scaled / denominator)
  generalize scaleOf (scaled / denominator) = scale at most least enough ⊢
  have size : 0 < denominator * 2 ^ scale := Nat.mul_pos positive (Nat.two_pow_pos _)
  obtain ⟨near, closer⟩ := roundHalfEven_spec scaled size
  generalize roundHalfEven scaled (denominator * 2 ^ scale) = significand at *
  -- Everything is counted in the size of a unit of the scale.
  have middle : unitsOfRank (scale * fractionCount + significand) * denominator =
      significand * (denominator * 2 ^ scale) := by
    rw [unitsOfRank_scale most least]
    ring
  have upper : significand * (denominator * 2 ^ scale) + denominator * 2 ^ scale ≤
      unitsOfRank (scale * fractionCount + significand + 1) * denominator :=
    calc significand * (denominator * 2 ^ scale) + denominator * 2 ^ scale
        = (significand + 1) * 2 ^ scale * denominator := by ring
      _ ≤ _ := Nat.mul_le_mul_right _ (le_unitsOfRank_scale_succ most least)
  rw [scale_add_mod_two, Nat.add_mul, Nat.add_mul, middle]
  by_cases edge : scale = 0 ∨ fractionCount < significand
  · have pred : unitsOfRank (scale * fractionCount + significand - 1) * denominator =
        (significand - 1) * (denominator * 2 ^ scale) := by
      rw [unitsOfRank_scale_pred most edge]
      ring
    rw [pred]
    cases significand with
    | zero => omega
    | succ before =>
      have split : (before + 1) * (denominator * 2 ^ scale) =
          before * (denominator * 2 ^ scale) + denominator * 2 ^ scale :=
        Nat.add_one_mul before _
      rw [show before + 1 - 1 = before from rfl]
      omega
  · -- Below the least number of a scale, numbers are closer together.
    obtain ⟨positive, least⟩ : scale ≠ 0 ∧ significand = fractionCount := by omega
    have pred : unitsOfRank (scale * fractionCount + significand - 1) * denominator ≤
        significand * (denominator * 2 ^ scale) := by
      rw [← middle]
      exact Nat.mul_le_mul_right _ (unitsOfRank_strictMono.monotone (Nat.sub_le _ 1))
    have within : significand * (denominator * 2 ^ scale) ≤ scaled := by
      have whole := Nat.mul_le_of_le_div _ _ _ (enough.resolve_left positive)
      rw [least]
      calc fractionCount * (denominator * 2 ^ scale)
          = fractionCount * 2 ^ scale * denominator := by ring
        _ ≤ scaled := whole
    have even : significand % 2 = 0 := by
      rw [least]
      decide
    omega

/-- A quotient lies in the interval of the number that it is rounded to. -/
theorem readsAs_nearestRank (numerator : Nat) {denominator : Nat} (positive : 0 < denominator) :
    ReadsAs (nearestRank numerator denominator) (numerator * unitDenominator / denominator) := by
  obtain ⟨near, closer⟩ := nearestRank_between numerator positive
  generalize nearestRank numerator denominator = rank at *
  have size : (0 : ℚ) < denominator := Nat.cast_pos.mpr positive
  have twice : 2 * ((numerator : ℚ) * unitDenominator / denominator) =
      2 * (numerator * unitDenominator) / denominator := by ring
  unfold ReadsAs
  rw [twice]
  split
  next =>
    rw [le_div_iff₀ size, div_le_iff₀ size]
    exact_mod_cast near
  next odd =>
    rw [lt_div_iff₀ size, div_lt_iff₀ size]
    exact_mod_cast closer (by omega)

/-- A quotient is rounded to the number in whose interval it lies. -/
theorem nearestRank_eq_iff {numerator denominator : Nat} (positive : 0 < denominator)
    {rank : Nat} : nearestRank numerator denominator = rank ↔
      ReadsAs rank (numerator * unitDenominator / denominator) := by
  constructor
  · rintro rfl
    exact readsAs_nearestRank numerator positive
  · intro reads
    exact readsAs_unique (readsAs_nearestRank numerator positive) reads

/-! ## Consequences -/

theorem readsAs_unitsOfRank (rank : Nat) : ReadsAs rank (unitsOfRank rank) := by
  have after : (unitsOfRank rank : ℚ) < unitsOfRank (rank + 1) :=
    Nat.cast_lt.mpr (unitsOfRank_strictMono (Nat.lt_succ_self rank))
  rcases Nat.eq_zero_or_pos rank with rfl | positive
  · have zero : unitsOfRank 0 = 0 := by simp [unitsOfRank]
    simpa [zero] using readsAs_zero
  · have before : (unitsOfRank (rank - 1) : ℚ) < unitsOfRank rank :=
      Nat.cast_lt.mpr (unitsOfRank_strictMono (Nat.sub_lt positive one_pos))
    apply readsAs_of_lt
    · linarith
    · linarith

/-- A whole number that is a binary number is rounded to itself. -/
theorem nearestRank_of_units {n rank : Nat} (exactly : unitsOfRank rank = n * unitDenominator) :
    nearestRank n 1 = rank := by
  rw [nearestRank_eq_iff one_pos]
  have value : (n : ℚ) * unitDenominator / (1 : Nat) = unitsOfRank rank := by
    rw [exactly]
    push_cast
    ring
  rw [value]
  exact readsAs_unitsOfRank rank

/-- No number is closer to a value than the one that the value is rounded to. -/
theorem ReadsAs.dist_le {rank : Nat} {value : ℚ} (h : ReadsAs rank value) (other : Nat) :
    |(unitsOfRank rank : ℚ) - value| ≤ |(unitsOfRank other : ℚ) - value| := by
  obtain ⟨low, high⟩ := h.bounds
  rcases lt_trichotomy other rank with below | rfl | above
  · have before : (unitsOfRank other : ℚ) ≤ unitsOfRank (rank - 1) :=
      cast_unitsOfRank_le.mpr (by omega)
    have order : (unitsOfRank (rank - 1) : ℚ) ≤ unitsOfRank rank :=
      cast_unitsOfRank_le.mpr (by omega)
    rw [abs_of_nonpos (by linarith : (unitsOfRank other : ℚ) - value ≤ 0), abs_le]
    constructor <;> linarith
  · exact le_rfl
  · have after : (unitsOfRank (rank + 1) : ℚ) ≤ unitsOfRank other :=
      cast_unitsOfRank_le.mpr (by omega)
    have order : (unitsOfRank rank : ℚ) ≤ unitsOfRank (rank + 1) :=
      cast_unitsOfRank_le.mpr (by omega)
    rw [abs_of_nonneg (by linarith : (0 : ℚ) ≤ unitsOfRank other - value), abs_le]
    constructor <;> linarith

/-- How many places behind the binary point a unit has. -/
def unitPlaces : ℕ := 1074

theorem unitDenominator_eq : unitDenominator = 2 ^ unitPlaces := Nat.one_shiftLeft unitPlaces

theorem pow_le_unitDenominator {places : ℕ} (h : places ≤ unitPlaces) :
    2 ^ places ≤ unitDenominator :=
  (Nat.pow_le_pow_right Nat.two_pos h).trans_eq unitDenominator_eq.symm

/-- The whole numbers from here on are rounded to infinities. It is the middle between the last
number and the one that would come next. -/
def overflowThreshold : Nat := 2 ^ 1024 - 2 ^ 970

theorem two_mul_overflowThreshold :
    2 * (overflowThreshold * unitDenominator) =
      unitsOfRank (rankLimit - 1) + unitsOfRank (rankLimit - 1 + 1) := by
  -- The last number has the greatest significand of its scale, and the next one would carry.
  have last : rankLimit - 1 = (unitPlaces + 971) * fractionCount + (2 * fractionCount - 1) := by
    decide
  have next : rankLimit - 1 + 1 = (unitPlaces + 971) * fractionCount + 2 * fractionCount := by
    decide
  have threshold : 2 * overflowThreshold = (4 * fractionCount - 1) * 2 ^ 971 := by
    rw [overflowThreshold, Nat.mul_sub, Nat.sub_mul, Nat.one_mul]
    have split : 4 * fractionCount = 2 ^ 54 := by decide
    rw [split, ← pow_add, ← pow_succ', ← pow_succ']
  have total : 2 * fractionCount - 1 + 2 * fractionCount = 4 * fractionCount - 1 := by decide
  rw [next, last, unitsOfRank_scale (Nat.sub_le _ _) (.inr (by decide)),
    unitsOfRank_scale le_rfl (.inr (by decide)), ← Nat.mul_assoc, threshold, unitDenominator_eq,
    ← Nat.add_mul, total, Nat.mul_assoc, ← pow_add, Nat.add_comm 971]

/-- Which whole numbers are rounded to finite ones. -/
theorem nearestRank_lt_rankLimit_iff (n : Nat) :
    nearestRank n 1 < rankLimit ↔ n < overflowThreshold := by
  obtain ⟨⟨low, high⟩, closer⟩ := nearestRank_between n one_pos
  generalize nearestRank n 1 = rank at *
  simp only [Nat.mul_one] at low high closer
  have last := two_mul_overflowThreshold
  have odd : (rankLimit - 1) % 2 = 1 := by decide
  have units : overflowThreshold * unitDenominator ≤ n * unitDenominator ↔
      overflowThreshold ≤ n := Nat.mul_le_mul_right_iff unitDenominator_pos
  have limit : 0 < rankLimit := by decide
  generalize overflowThreshold * unitDenominator = middle at *
  rw [← not_iff_not, not_lt, not_lt, ← units]
  constructor
  · intro beyond
    have previous : unitsOfRank (rankLimit - 1) ≤ unitsOfRank (rank - 1) :=
      unitsOfRank_strictMono.monotone (by omega)
    have next : unitsOfRank (rankLimit - 1 + 1) ≤ unitsOfRank rank :=
      unitsOfRank_strictMono.monotone (by omega)
    omega
  · intro large
    by_contra within
    rcases Nat.lt_or_ge rank (rankLimit - 1) with before | at_last
    · have own : unitsOfRank rank < unitsOfRank (rankLimit - 1) := unitsOfRank_strictMono before
      have next : unitsOfRank (rank + 1) ≤ unitsOfRank (rankLimit - 1 + 1) :=
        unitsOfRank_strictMono.monotone (by omega)
      omega
    · obtain rfl : rank = rankLimit - 1 := by omega
      have below := (closer odd).2
      omega

end Binary64

/-! ## Whole numbers that are binary numbers -/

/-- A whole number is a binary number: all of its bits but 53 are zeros at its end, and it has no
more bits than the last finite number. -/
def IsBinaryWhole (n : ℤ) : Prop :=
  n.natAbs < 2 ^ 1024 ∧ ∃ significand zeros : ℕ, significand < 2 ^ 53 ∧
    n.natAbs = significand * 2 ^ zeros

theorem isBinaryWhole_mul_pow {significand zeros : ℕ} (bits : significand < 2 ^ 53)
    (few : 53 + zeros ≤ 1024) : IsBinaryWhole (significand * 2 ^ zeros : ℕ) := by
  have within : significand * 2 ^ zeros < 2 ^ (53 + zeros) := by
    rw [pow_add]
    exact Nat.mul_lt_mul_of_pos_right bits (Nat.two_pow_pos zeros)
  exact ⟨within.trans_le (pow_le_pow_right₀ one_le_two few), significand, zeros, bits, rfl⟩

open Binary64

theorem unitsOfRank_rankLimit : unitsOfRank rankLimit = 2 ^ 1024 * unitDenominator := by
  have least : rankLimit = (972 + unitPlaces) * fractionCount + fractionCount := by decide
  have fraction : fractionCount = 2 ^ 52 := by decide
  rw [least, unitsOfRank_scale (by decide) (.inr le_rfl), unitDenominator_eq, pow_add,
    ← Nat.mul_assoc, fraction, ← pow_add]

/-- Multiples of the scale of a whole number are rounded to themselves. -/
theorem unitsOfRank_nearestRank_of_dvd {n : ℕ}
    (multiple : 2 ^ scaleOf (n * unitDenominator) ∣ n * unitDenominator) :
    unitsOfRank (nearestRank n 1) = n * unitDenominator := by
  have value := unitsOfRank_nearestRank n 1
  dsimp only at value
  rw [Nat.div_one, Nat.one_mul] at value
  obtain ⟨significand, split⟩ := multiple
  generalize scaleOf (n * unitDenominator) = scale at value split
  rw [split, Nat.mul_comm (2 ^ scale), roundHalfEven_mul _ (Nat.two_pow_pos scale)] at value
  rw [value, split, Nat.mul_comm]

/-- A whole number is rounded to a whole number: either it is a multiple of its scale, or its scale
is that of a whole number. -/
theorem exists_whole_nearestRank (n : ℕ) :
    ∃ whole, unitsOfRank (nearestRank n 1) = whole * unitDenominator := by
  rcases Nat.le_total (scaleOf (n * unitDenominator)) unitPlaces with small | large
  · have part : 2 ^ scaleOf (n * unitDenominator) ∣ unitDenominator :=
      (pow_dvd_pow 2 small).trans (dvd_of_eq unitDenominator_eq.symm)
    exact ⟨n, unitsOfRank_nearestRank_of_dvd (part.mul_left n)⟩
  · have value := unitsOfRank_nearestRank n 1
    dsimp only at value
    rw [Nat.div_one] at value
    have whole : unitDenominator ∣ 2 ^ scaleOf (n * unitDenominator) :=
      (dvd_of_eq unitDenominator_eq).trans (pow_dvd_pow 2 large)
    rw [value]
    obtain ⟨more, split⟩ := whole
    exact ⟨_, by rw [split, Nat.mul_comm unitDenominator, ← Nat.mul_assoc]⟩

/-- The number of a rank has a significand of 53 bits. -/
theorem exists_significand (rank : ℕ) : ∃ significand zeros : ℕ,
    significand < 2 * fractionCount ∧ unitsOfRank rank = significand * 2 ^ zeros := by
  have bound : rank % fractionCount < fractionCount := Nat.mod_lt rank (by decide)
  unfold unitsOfRank
  dsimp only
  split
  · exact ⟨rank % fractionCount, 0, by omega, by simp⟩
  · exact ⟨fractionCount + rank % fractionCount, rank / fractionCount - 1, by omega,
      Nat.shiftLeft_eq ..⟩

theorem isBinaryWhole_iff {n : ℤ} :
    IsBinaryWhole n ↔ ∃ rank < rankLimit, unitsOfRank rank = n.natAbs * unitDenominator := by
  have fraction : 2 ^ 53 = 2 * fractionCount := by decide
  unfold IsBinaryWhole
  rw [fraction]
  constructor
  · rintro ⟨small, significand, zeros, bits, split⟩
    have units : n.natAbs * unitDenominator = significand * 2 ^ (zeros + unitPlaces) := by
      rw [split, unitDenominator_eq, pow_add, Nat.mul_assoc]
    have exactly : unitsOfRank (nearestRank n.natAbs 1) = n.natAbs * unitDenominator := by
      apply unitsOfRank_nearestRank_of_dvd
      rw [units]
      exact Dvd.dvd.mul_left (pow_dvd_pow 2 (scaleOf_le bits _)) significand
    refine ⟨nearestRank n.natAbs 1, ?_, exactly⟩
    rw [← unitsOfRank_strictMono.lt_iff_lt, exactly, unitsOfRank_rankLimit]
    exact Nat.mul_lt_mul_of_pos_right small unitDenominator_pos
  · rintro ⟨rank, within, units⟩
    have few : n.natAbs * unitDenominator < 2 ^ 1024 * unitDenominator := by
      rw [← units, ← unitsOfRank_rankLimit]
      exact unitsOfRank_strictMono within
    refine ⟨Nat.lt_of_mul_lt_mul_right few, ?_⟩
    obtain ⟨significand, zeros, bits, value⟩ := exists_significand rank
    rw [units] at value
    by_cases whole : unitPlaces ≤ zeros
    · obtain ⟨more, rfl⟩ := Nat.exists_eq_add_of_le whole
      refine ⟨significand, more, bits, ?_⟩
      apply Nat.eq_of_mul_eq_mul_right unitDenominator_pos
      rw [value, Nat.mul_assoc, Nat.mul_comm (2 ^ more), pow_add, unitDenominator_eq]
    · -- Some bits of the significand are behind the point, and so there are fewer before it.
      have places : unitDenominator = 2 ^ (unitPlaces - zeros) * 2 ^ zeros := by
        rw [← pow_add, Nat.sub_add_cancel (Nat.le_of_not_le whole), unitDenominator_eq]
      have fewer : n.natAbs ≤ significand := by
        apply Nat.le_of_mul_le_mul_right _ (Nat.two_pow_pos zeros)
        rw [← value, places]
        exact Nat.mul_le_mul_left _ (Nat.le_mul_of_pos_left _ (Nat.two_pow_pos _))
      exact ⟨n.natAbs, 0, by omega, by simp⟩

end DocGraph
