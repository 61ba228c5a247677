import DocGraph.Proofs.Number.Nearest
import DocGraph.Proofs.Number.Printed

/-!
# How whole numbers are printed

A binary number that is a whole number has a shortest decimal without places behind the point. Below
`10 ^ 16` this decimal is the number itself, and it is printed with a point and a zero. From there
on it may only be close to the number, and it is printed with an exponent.

## Main results

* `Binary64.dist_of_readsAs`: how close a decimal is that is rounded to a whole number.
* `Binary64.exists_shortest_whole`: the shortest decimal of a whole number.
* `Binary64.filter_writeDecimal_short`, `Binary64.filter_writeDecimal_long`: the digits of what is
  printed for it.
-/

namespace DocGraph

open Decimal (digitsOf)
open Binary64 (length_digitsOf_pos tenTo_length_digitsOf_le)

/-! ## Lengths -/

theorem length_digitsOf_eq_iff {n places : ℕ} (positive : 0 < n) :
    (digitsOf n).length = places + 1 ↔ 10 ^ places ≤ n ∧ n < 10 ^ (places + 1) := by
  have above (length : ℕ) (some : 0 < length) : (digitsOf n).length ≤ length ↔ n < 10 ^ length :=
    Nat.length_toDigits_le_iff (by decide) some
  have digits := length_digitsOf_pos n
  constructor
  · intro length
    constructor
    · have least := tenTo_length_digitsOf_le positive
      rwa [length, Nat.add_sub_cancel] at least
    · exact (above (places + 1) (Nat.succ_pos _)).mp length.le
  · rintro ⟨least, most⟩
    have few := (above (places + 1) (Nat.succ_pos _)).mpr most
    rcases Nat.eq_zero_or_pos places with rfl | some
    · omega
    · have many := mt (above places some).mp (Nat.not_lt.mpr least)
      omega

theorem length_digitsOf_mul_tenTo {n : ℕ} (positive : 0 < n) (zeros : ℕ) :
    (digitsOf (n * tenTo zeros)).length = (digitsOf n).length + zeros := by
  obtain ⟨places, length⟩ := Nat.exists_eq_add_of_lt (length_digitsOf_pos n)
  rw [Nat.zero_add] at length
  obtain ⟨least, most⟩ := (length_digitsOf_eq_iff positive).mp length
  have size : 0 < tenTo zeros := tenTo_pos zeros
  have shifted : (digitsOf (n * tenTo zeros)).length = places + zeros + 1 := by
    rw [length_digitsOf_eq_iff (Nat.mul_pos positive size)]
    constructor
    · rw [pow_add]
      exact Nat.mul_le_mul_right _ least
    · rw [Nat.add_right_comm, pow_add]
      exact Nat.mul_lt_mul_of_pos_right most size
  omega

namespace Binary64

/-! ## Grids -/

/-- What is found on a grid is one of the neighbours. -/
theorem eq_neighbour_of_onGrid {rank : ℕ} {e : ℤ} {d : Decimal} (h : onGrid rank e = some d) :
    d = (neighbours rank e).1 ∨ d = (neighbours rank e).2 := by
  unfold onGrid at h
  dsimp only at h
  split at h
  next =>
    obtain rfl := Option.some.inj h
    split
    · exact .inl rfl
    · exact .inr rfl
  next => exact .inl (Option.some.inj h).symm
  next => exact .inr (Option.some.inj h).symm
  next => cases h

/-- On a grid that has the number itself, the number is found. -/
theorem onGrid_of_exact {rank : ℕ} {e : ℤ}
    (exactly : (neighbours rank e).1.inUnits = unitsOfRank rank) :
    onGrid rank e = some (neighbours rank e).1 := by
  have reads : readsBack rank (neighbours rank e).1 = true := by
    rw [readsBack_iff, exactly]
    exact readsAs_unitsOfRank rank
  have nearer : lowerIsNearer rank (neighbours rank e).1 = true := by
    obtain ⟨scale, positive, upper, lower⟩ := cast_scaledPair
      ((2 * (neighbours rank e).1.coefficient + 1) * unitDenominator)
      (neighbours rank e).1.exponent (2 * unitsOfRank rank)
    have place : (0 : ℚ) < 10 ^ (neighbours rank e).1.exponent * unitDenominator :=
      mul_pos (zpow_pos (by norm_num) _) (Nat.cast_pos.mpr unitDenominator_pos)
    have below : (2 * unitsOfRank rank : ℚ) <
        ((2 * (neighbours rank e).1.coefficient + 1) * unitDenominator : ℕ) *
          10 ^ (neighbours rank e).1.exponent := by
      rw [← exactly, Decimal.inUnits]
      push_cast
      linarith
    unfold lowerIsNearer
    dsimp only
    rw [Bool.or_eq_true, decide_eq_true_eq]
    left
    rw [← Nat.cast_lt (α := ℚ), upper, lower]
    push_cast at below ⊢
    exact mul_lt_mul_of_pos_left below positive
  unfold onGrid
  dsimp only
  rw [reads]
  cases readsBack rank (neighbours rank e).2 <;> simp [nearer]

/-- What the search finds is found on the first grid that has anything. -/
theorem firstGrid_eq_some {rank : ℕ} {leading : ℤ} {places : List ℕ} {d : Decimal}
    (h : firstGrid rank leading places = some d) :
    ∃ (before : List ℕ) (place : ℕ) (after : List ℕ), places = before ++ place :: after ∧
      onGrid rank (leading - place) = some d ∧
      ∀ coarser ∈ before, onGrid rank (leading - coarser) = none := by
  induction places with
  | nil => cases h
  | cons place finer ih =>
    rw [firstGrid] at h
    cases found : onGrid rank (leading - place) with
    | some d' =>
      rw [found] at h
      obtain rfl : d' = d := Option.some.inj h
      exact ⟨[], place, finer, rfl, found, by simp⟩
    | none =>
      rw [found] at h
      obtain ⟨before, later, after, rfl, given, none⟩ := ih h
      exact ⟨place :: before, later, after, rfl, given, List.forall_mem_cons.mpr ⟨found, none⟩⟩

/-! ## Shortest decimals of whole numbers -/

theorem inUnits_whole (c e : ℕ) :
    (Decimal.mk c e).inUnits = (c * 10 ^ e : ℕ) * unitDenominator := by
  rw [Decimal.inUnits, zpow_natCast]
  push_cast
  rfl

theorem exists_strip_whole (c e : ℕ) :
    ∃ d k : ℕ, (Decimal.mk c e).strip = ⟨d, k⟩ ∧ d * 10 ^ k = c * 10 ^ e := by
  obtain ⟨d, k, stripped⟩ : ∃ d k : ℕ, (Decimal.mk c e).strip = ⟨d, k⟩ := by
    unfold Decimal.strip
    dsimp only
    split
    · exact ⟨0, 0, rfl⟩
    · exact ⟨_, _, congrArg _ (Int.natCast_add ..).symm⟩
  have value := inUnits_strip ⟨c, e⟩
  have unit : (unitDenominator : ℚ) ≠ 0 := Nat.cast_ne_zero.mpr unitDenominator_pos.ne'
  rw [stripped, inUnits_whole, inUnits_whole] at value
  exact ⟨d, k, stripped, Nat.cast_injective (mul_right_cancel₀ unit value)⟩

section

variable {n rank : ℕ} (units : unitsOfRank rank = n * unitDenominator)
include units

theorem neighbours_whole (e : ℕ) :
    neighbours rank e = (⟨n / 10 ^ e, e⟩, ⟨n / 10 ^ e + 1, e⟩) := by
  have quotient : n * unitDenominator / (unitDenominator * 10 ^ e) = n / 10 ^ e := by
    rw [Nat.mul_comm n, Nat.mul_div_mul_left _ _ unitDenominator_pos]
  simp only [neighbours, ge_iff_le, Int.natCast_nonneg, if_true, Int.toNat_natCast, units, tenTo,
    Nat.pow_eq, quotient]

theorem leadingExponent_whole (positive : 0 < n) :
    leadingExponent (unitsOfRank rank) = ((digitsOf n).length - 1 : ℕ) := by
  have digits := length_digitsOf_pos n
  rw [leadingExponent, units, Nat.mul_right_comm, Nat.mul_div_cancel _ unitDenominator_pos,
    length_digitsOf_mul_tenTo positive]
  omega

/-- The number itself is on the grid of whole numbers. -/
theorem onGrid_zero : onGrid rank 0 = some ⟨n, 0⟩ := by
  have whole := neighbours_whole units 0
  rw [pow_zero, Nat.div_one] at whole
  have exactly : (neighbours rank (0 : ℕ)).1.inUnits = unitsOfRank rank := by
    rw [whole, units]
    simp [Decimal.inUnits]
  have found := onGrid_of_exact exactly
  rwa [whole] at found

/-- The search ends on a grid of whole numbers, at one of the neighbours of the number. -/
theorem exists_grid (positive : 0 < n) :
    ∃ c e : ℕ, firstGrid rank (leadingExponent (unitsOfRank rank)) (List.range 17) = some ⟨c, e⟩ ∧
      onGrid rank e = some ⟨c, e⟩ ∧ (c = n / 10 ^ e ∨ c = n / 10 ^ e + 1) ∧
      e ≤ (digitsOf n).length - 1 := by
  have some : 0 < rank := by
    rcases Nat.eq_zero_or_pos rank with rfl | some
    · have zero : unitsOfRank 0 = 0 := by simp [unitsOfRank]
      rw [zero] at units
      exact absurd units.symm (Nat.mul_pos positive unitDenominator_pos).ne'
    · exact some
  obtain ⟨d, first, -⟩ := readsAs_firstGrid some
  have leading := leadingExponent_whole units positive
  obtain ⟨before, place, after, range, found, none⟩ := firstGrid_eq_some first
  have sorted : (before ++ place :: after).Pairwise (· < ·) := range ▸ List.pairwise_lt_range
  have among (p : ℕ) : p < 17 ↔ p ∈ before ++ place :: after := by rw [← range, List.mem_range]
  -- No finer grid than that of whole numbers is looked at.
  have whole : place ≤ (digitsOf n).length - 1 := by
    by_contra beyond
    have within : place < 17 := (among place).mpr (by simp)
    have earlier : (digitsOf n).length - 1 ∈ before := by
      have mem := (among ((digitsOf n).length - 1)).mp (by omega)
      rcases List.mem_append.mp mem with earlier | later
      · exact earlier
      · rcases List.mem_cons.mp later with same | later
        · omega
        · have order := (List.pairwise_cons.mp (List.pairwise_append.mp sorted).2.1).1 _ later
          omega
    have nothing := none _ earlier
    rw [leading, sub_self, onGrid_zero units] at nothing
    cases nothing
  obtain ⟨e, exponent⟩ := Nat.exists_eq_add_of_le whole
  have grid : leadingExponent (unitsOfRank rank) - place = (e : ℤ) := by
    rw [leading]
    omega
  rw [grid] at found
  have neighbours := eq_neighbour_of_onGrid found
  rw [neighbours_whole units] at neighbours
  rcases neighbours with rfl | rfl
  · exact ⟨_, e, first, found, .inl rfl, by omega⟩
  · exact ⟨_, e, first, found, .inr rfl, by omega⟩

/-- A decimal that is rounded to the number is at most half a step away from it. -/
theorem near_of_readsAs {m : ℕ} (reads : ReadsAs rank (m * unitDenominator)) :
    2 * (m * unitDenominator) ≤ 2 * (n * unitDenominator) + unitStep rank ∧
      2 * (n * unitDenominator) ≤ 2 * (m * unitDenominator) + unitStep rank := by
  obtain ⟨low, high⟩ := reads.bounds
  have low : unitsOfRank (rank - 1) + unitsOfRank rank ≤ 2 * (m * unitDenominator) := by
    exact_mod_cast low
  have high : 2 * (m * unitDenominator) ≤ unitsOfRank rank + unitsOfRank (rank + 1) := by
    exact_mod_cast high
  have next := unitsOfRank_succ rank
  have before : unitsOfRank rank ≤ unitsOfRank (rank - 1) + unitStep rank := by
    cases rank with
    | zero => simp
    | succ before =>
      have grows : unitStep before ≤ unitStep (before + 1) :=
        Nat.pow_le_pow_right Nat.two_pos
          (Nat.sub_le_sub_right (Nat.div_le_div_right (Nat.le_succ before)) 1)
      rw [unitsOfRank_succ, Nat.add_sub_cancel]
      exact Nat.add_le_add_left grows _
  omega

/-- A whole number is a multiple of the steps to its neighbours, and has `2 ^ 52` of them. -/
theorem unitStep_whole (positive : 0 < n) :
    unitStep rank ∣ n * unitDenominator ∧ fractionCount * unitStep rank ≤ n * unitDenominator := by
  by_cases first : rank / fractionCount = 0
  · have step : unitStep rank = 1 := by rw [unitStep, first, Nat.zero_sub, pow_zero]
    have bits : fractionCount = 2 ^ 52 := rfl
    have few : fractionCount ≤ unitDenominator :=
      bits.trans_le (pow_le_unitDenominator (by decide))
    rw [step, Nat.mul_one]
    exact ⟨one_dvd _, few.trans (Nat.le_mul_of_pos_left _ positive)⟩
  · have steps : unitsOfRank rank = (fractionCount + rank % fractionCount) * unitStep rank := by
      simp only [unitsOfRank, first, if_false, Nat.shiftLeft_eq, unitStep]
    rw [← units, steps]
    exact ⟨dvd_mul_left _ _, Nat.mul_le_mul_right _ (Nat.le_add_right _ _)⟩

/-- Half a step is small beside the number. -/
theorem dist_of_readsAs (positive : 0 < n) {m : ℕ} (reads : ReadsAs rank (m * unitDenominator)) :
    2 * fractionCount * m ≤ 2 * fractionCount * n + n ∧
      2 * fractionCount * n ≤ 2 * fractionCount * m + n := by
  obtain ⟨low, high⟩ := near_of_readsAs units reads
  obtain ⟨-, size⟩ := unitStep_whole units positive
  constructor
  · refine Nat.le_of_mul_le_mul_right (c := unitDenominator) ?_ unitDenominator_pos
    calc 2 * fractionCount * m * unitDenominator
        = fractionCount * (2 * (m * unitDenominator)) := by ring
      _ ≤ fractionCount * (2 * (n * unitDenominator) + unitStep rank) := Nat.mul_le_mul_left _ low
      _ = 2 * fractionCount * n * unitDenominator + fractionCount * unitStep rank := by ring
      _ ≤ 2 * fractionCount * n * unitDenominator + n * unitDenominator :=
        Nat.add_le_add_left size _
      _ = (2 * fractionCount * n + n) * unitDenominator := by ring
  · refine Nat.le_of_mul_le_mul_right (c := unitDenominator) ?_ unitDenominator_pos
    calc 2 * fractionCount * n * unitDenominator
        = fractionCount * (2 * (n * unitDenominator)) := by ring
      _ ≤ fractionCount * (2 * (m * unitDenominator) + unitStep rank) := Nat.mul_le_mul_left _ high
      _ = 2 * fractionCount * m * unitDenominator + fractionCount * unitStep rank := by ring
      _ ≤ 2 * fractionCount * m * unitDenominator + n * unitDenominator :=
        Nat.add_le_add_left size _
      _ = (2 * fractionCount * m + n) * unitDenominator := by ring

/-- Numbers from `2 ^ 53` on differ from their decimals only if they are multiples of all powers of
two that are at most twice the difference. -/
theorem dvd_of_step (positive : 0 < n) {zeros : ℕ}
    (far : 2 ^ zeros * unitDenominator ≤ unitStep rank) :
    2 ^ zeros ∣ n ∧ fractionCount * 2 ^ zeros ≤ n := by
  obtain ⟨multiple, size⟩ := unitStep_whole units positive
  constructor
  · have part : 2 ^ zeros * unitDenominator ∣ unitStep rank := by
      rw [unitDenominator_eq, unitStep, ← pow_add] at far ⊢
      exact pow_dvd_pow 2 ((Nat.pow_le_pow_iff_right (by decide)).mp far)
    exact Nat.dvd_of_mul_dvd_mul_right unitDenominator_pos (part.trans multiple)
  · refine Nat.le_of_mul_le_mul_right (c := unitDenominator) ?_ unitDenominator_pos
    rw [Nat.mul_assoc]
    exact (Nat.mul_le_mul_left _ far).trans size

/-- Below `10 ^ 16`, a multiple of ten that is rounded to the number is the number. -/
theorem eq_of_readsAs_small (positive : 0 < n) (small : n < 10 ^ 16) {m : ℕ} (ten : 10 ∣ m)
    (reads : ReadsAs rank (m * unitDenominator)) : m = n := by
  obtain ⟨low, high⟩ := dist_of_readsAs units positive reads
  obtain ⟨near, near'⟩ := near_of_readsAs units reads
  have bits : fractionCount = 4503599627370496 := rfl
  rw [bits] at low high
  by_contra apart
  -- Only a neighbour can be meant, and then the number is even.
  have beside : m = n + 1 ∨ n = m + 1 := by omega
  have step : 2 ^ 1 * unitDenominator ≤ unitStep rank := by
    rcases beside with rfl | rfl
    · rw [Nat.add_mul] at near
      omega
    · rw [Nat.add_mul] at near'
      omega
  have even := (dvd_of_step units positive step).1
  omega

/-- The shortest decimal of a whole number is a whole number that is rounded to it and has as many
digits at least. Below `10 ^ 16` it is the number itself. -/
theorem exists_shortest_whole (positive : 0 < n) :
    ∃ d k : ℕ, shortest rank = ⟨d, k⟩ ∧ ReadsAs rank ((d * 10 ^ k : ℕ) * unitDenominator) ∧
      10 ^ ((digitsOf n).length - 1) ≤ d * 10 ^ k ∧ (n < 10 ^ 16 → d * 10 ^ k = n) := by
  obtain ⟨c, e, first, found, neighbour, coarse⟩ := exists_grid units positive
  obtain ⟨d, k, stripped, value⟩ := exists_strip_whole c e
  have reads := readsAs_of_onGrid found
  rw [inUnits_whole] at reads
  refine ⟨d, k, ?_, value ▸ reads, ?_, ?_⟩
  · rw [shortest, first]
    exact stripped
  · -- The digits of the number before the grid are kept.
    have least := tenTo_length_digitsOf_le positive
    have split : 10 ^ ((digitsOf n).length - 1) = 10 ^ ((digitsOf n).length - 1 - e) * 10 ^ e := by
      rw [← pow_add, Nat.sub_add_cancel coarse]
    have kept : 10 ^ ((digitsOf n).length - 1 - e) ≤ n / 10 ^ e := by
      rw [Nat.le_div_iff_mul_le (by positivity), ← split]
      exact least
    rw [value, split]
    apply Nat.mul_le_mul_right
    omega
  · intro small
    rw [value]
    rcases Nat.eq_zero_or_pos e with rfl | some
    · have same := (onGrid_zero units).symm.trans found
      cases same
      simp
    · exact eq_of_readsAs_small units positive small
        (Dvd.dvd.mul_left (dvd_pow_self 10 some.ne') c) reads

end

/-! ## Digits that are printed -/

theorem filter_digitsOf (n : ℕ) : (digitsOf n).filter Char.isDigit = digitsOf n :=
  List.filter_eq_self.mpr isDigit_of_mem_digitsOf

/-- A whole number with up to sixteen digits is printed with a point and a zero behind it. -/
theorem filter_writeDecimal_short {d k : ℕ} (short : (digitsOf d).length + k ≤ 16) :
    (writeDecimal ⟨d, k⟩).filter Char.isDigit = digitsOf d ++ List.replicate k '0' ++ ['0'] := by
  have some := length_digitsOf_pos d
  have places : ((k : ℤ) + (digitsOf d).length - 1).toNat + 1 - (digitsOf d).length = k := by omega
  have written : writeDecimal ⟨d, k⟩ =
      digitsOf d ++ List.replicate k '0' ++ ['.', '0'] := by
    unfold writeDecimal
    dsimp only
    rw [if_neg (by simp; omega), if_neg (by omega), if_pos (by omega), places]
  have zeros : (List.replicate k '0').filter Char.isDigit = List.replicate k '0' :=
    List.filter_eq_self.mpr isDigit_of_mem_zeros
  rw [written, List.filter_append, List.filter_append, filter_digitsOf, zeros]
  rfl

/-- A whole number with more digits is printed with an exponent. -/
theorem filter_writeDecimal_long {d k e : ℕ} (exponent : (digitsOf d).length + k = e + 1)
    (long : 16 ≤ e) :
    (writeDecimal ⟨d, k⟩).filter Char.isDigit = digitsOf d ++ digitsOf e := by
  have some := length_digitsOf_pos d
  have leading : (k : ℤ) + (digitsOf d).length - 1 = e := by omega
  have digits (part : List Char) (among : ∀ c ∈ part, c ∈ digitsOf d) :
      part.filter Char.isDigit = part :=
    List.filter_eq_self.mpr fun c mem => isDigit_of_mem_digitsOf c (among c mem)
  have first := digits ((digitsOf d).take 1) fun _ => List.mem_of_mem_take
  have others := digits ((digitsOf d).drop 1) fun _ => List.mem_of_mem_drop
  have power : ('e' :: '+' :: digitsOf e).filter Char.isDigit = digitsOf e := filter_digitsOf e
  unfold writeDecimal
  dsimp only
  rw [leading, if_pos (by simp; omega), if_neg (by omega), Int.natAbs_natCast, if_neg (by omega),
    List.filter_append, List.filter_append, first, power]
  conv_rhs => rw [← List.take_append_drop 1 (digitsOf d)]
  cases behind : (digitsOf d).drop 1 with
  | nil => rfl
  | cons c more =>
    rw [behind] at others
    exact congrArg (_ ++ · ++ _) others

end Binary64

end DocGraph
