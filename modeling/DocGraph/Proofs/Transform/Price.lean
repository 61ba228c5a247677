import DocGraph.Proofs.Number.Whole
import DocGraph.Proofs.Number.WholeText
import DocGraph.Transform.Registry

/-!
# Prices

A price is what the digits of a text spell, whatever stands between them, unless there are more of
them than numbers are read from. Other values have a text first, and so the price of a number
depends on how it is printed: a whole number as it is, but a binary number with a zero behind the
point, or with an exponent whose digits are read along with the others.

## Main definitions

* `plainDigits`, `SpellsNumber`: the digits of a text, and the number that they spell.
* `price`: the price of a value.

## Main results

* `price_iff_spells`: which texts have a price, and which changes of a text leave it alone.
* `price_of_equal_number`: the prices of a whole number and of a binary number that is equal to it.
-/

namespace DocGraph

open Binary64
open Decimal (digitsOf)

/-- The digits of a text. -/
def plainDigits (text : String) : List Char := text.toList.filter Char.isDigit

/-- The digits of a text spell a number. There may be zeros in front of it, but with them no more
digits than numbers are read from. -/
def SpellsNumber (text : String) (n : ℕ) : Prop :=
  plainDigits text ≠ [] ∧ (plainDigits text).length ≤ maxDigits ∧
    Nat.ofDigitChars 10 (plainDigits text) 0 = n

/-- The price of a value. -/
def price (value : Json) (params : Params) : Except TransformFault Transformed :=
  TransformRegistry.builtin.apply "price_normalize" value params

/-- A number as a price. -/
def priced (n : ℕ) : Transformed := ⟨.integer n, .string, .int64⟩

theorem priced_injective {n m : ℕ} (h : priced n = priced m) : n = m := by
  simpa [priced] using h

/-! ## Prices of texts -/

/-- The number that the digits spell is the price if it is not too large and they are not too
many. -/
theorem wholePrice_eq (text : String) : wholePrice text =
    if plainDigits text = [] then .error (.priceWithoutDigits text)
    else
      (limitDigits (plainDigits text).length
        (Nat.ofDigitChars 10 (plainDigits text) 0)).mapError .longPrice >>= fun n =>
          if maxInt64 < n then .error (.priceOutOfRange text) else .ok n := by
  have digits : text.toList.filter isPlainDigit = plainDigits text := rfl
  have value : digitsValue ((plainDigits text).map plainValue) =
      Nat.ofDigitChars 10 (plainDigits text) 0 := foldl_digits _ 0
  unfold wholePrice
  simp only [digits, value, List.isEmpty_iff, gt_iff_lt]
  cases limitDigits (plainDigits text).length (Nat.ofDigitChars 10 (plainDigits text) 0) <;> rfl

/-- The price of a value is that of its text. -/
theorem price_of_toText {value : Json} {text : String} (written : toText value = .ok text)
    (params : Params) : price value params = (wholePrice text).map priced := by
  have applied : price value params = priceTransform value params := rfl
  have read : inputText value = .ok text := by
    rw [inputText, written]
    rfl
  rw [applied, priceTransform, read]
  cases found : wholePrice text <;> simp only [bind, Except.bind, found] <;> rfl

theorem price_of_noDigits {value : Json} {text : String} (written : toText value = .ok text)
    (none : plainDigits text = []) (params : Params) :
    price value params = .error (.priceWithoutDigits text) := by
  rw [price_of_toText written, wholePrice_eq, if_pos none]
  rfl

theorem price_of_manyDigits {value : Json} {text : String} (written : toText value = .ok text)
    {excess : DigitExcess} (many : (plainDigits text).length = excess.count) (params : Params) :
    price value params = .error (.longPrice excess) := by
  have some : plainDigits text ≠ [] := by
    have beyond := excess.beyond
    rw [← many] at beyond
    exact List.ne_nil_of_length_pos (Nat.zero_lt_of_lt beyond)
  rw [price_of_toText written, wholePrice_eq, if_neg some, limitDigits_eq_error_iff.mpr many]
  rfl

theorem price_of_spells {value : Json} {text : String} {n : ℕ} (written : toText value = .ok text)
    (spells : SpellsNumber text n) (params : Params) : price value params =
      if n ≤ maxInt64 then .ok (priced n) else .error (.priceOutOfRange text) := by
  obtain ⟨some, few, number⟩ := spells
  rw [price_of_toText written, wholePrice_eq, if_neg some,
    limitDigits_eq_ok_iff.mpr ⟨few, number⟩]
  change Except.map priced (if maxInt64 < n then _ else _) = _
  by_cases within : n ≤ maxInt64
  · rw [if_pos within, if_neg (Nat.not_lt.mpr within)]
    rfl
  · rw [if_neg within, if_pos (Nat.lt_of_not_le within)]
    rfl

/-- A text has no digits, or it has too many, or it spells one number. -/
theorem noDigits_or_manyDigits_or_spells (text : String) :
    plainDigits text = [] ∨ (∃ excess : DigitExcess, (plainDigits text).length = excess.count) ∨
      ∃ n, SpellsNumber text n := by
  by_cases none : plainDigits text = []
  · exact .inl none
  rcases Nat.lt_or_ge maxDigits (plainDigits text).length with beyond | few
  · exact .inr (.inl ⟨⟨_, beyond⟩, rfl⟩)
  · exact .inr (.inr ⟨_, none, few, rfl⟩)

namespace SpellsNumber

variable {text : String} {n m : ℕ}

theorem unique (h : SpellsNumber text n) (h' : SpellsNumber text m) : n = m :=
  h.2.2.symm.trans h'.2.2

theorem ne_excess (h : SpellsNumber text n) (excess : DigitExcess) :
    (plainDigits text).length ≠ excess.count := fun many =>
  Nat.not_lt.mpr h.2.1 (many ▸ excess.beyond)

end SpellsNumber

/-- Texts with the same digits have the same price, and fail with the same message. -/
theorem price_congr {text other : String} (same : plainDigits other = plainDigits text)
    (params : Params) : (price (.string other) params).mapError (·.message) =
      (price (.string text) params).mapError (·.message) := by
  rw [price_of_toText rfl, price_of_toText rfl, wholePrice_eq, wholePrice_eq, same]
  split
  · rfl
  cases limitDigits (plainDigits text).length (Nat.ofDigitChars 10 (plainDigits text) 0) with
  | error excess => rfl
  | ok n =>
    change (Except.map priced (if maxInt64 < n then _ else _)).mapError _ =
      (Except.map priced (if maxInt64 < n then _ else _)).mapError _
    split <;> rfl

/-- A whole number of the type `INT64` that is not negative spells itself. -/
theorem spellsNumber_toString {n : ℕ} (within : n ≤ 2 ^ 63 - 1) :
    SpellsNumber (toString (n : ℤ)) n := by
  have digits : plainDigits (toString (n : ℤ)) = digitsOf n := by
    rw [plainDigits, toList_toString_int, signOf, if_neg (Int.not_lt.mpr (Int.natCast_nonneg n))]
    exact filter_digitsOf n
  have few : (digitsOf n).length ≤ 19 :=
    (Nat.length_toDigits_le_iff (by decide) (by decide)).mpr (by omega)
  rw [SpellsNumber, digits]
  exact ⟨digitsOf_ne_nil n, few.trans (by decide), ofDigitChars_digitsOf n⟩

section

variable {value : Json} {text : String} (written : toText value = .ok text) (params : Params)
include written

theorem price_eq_ok_iff {result : Transformed} : price value params = .ok result ↔
    ∃ n, SpellsNumber text n ∧ n ≤ maxInt64 ∧ result = priced n := by
  rcases noDigits_or_manyDigits_or_spells text with none | ⟨excess, many⟩ | ⟨n, spells⟩
  · rw [price_of_noDigits written none]
    constructor
    · intro given
      cases given
    · rintro ⟨n, spells, -⟩
      exact absurd none spells.1
  · rw [price_of_manyDigits written many]
    constructor
    · intro given
      cases given
    · rintro ⟨n, spells, -⟩
      exact absurd many (spells.ne_excess excess)
  · rw [price_of_spells written spells]
    constructor
    · intro given
      split at given
      next within => exact ⟨n, spells, within, (Except.ok.inj given).symm⟩
      next => cases given
    · rintro ⟨m, spells', within, rfl⟩
      obtain rfl := spells.unique spells'
      rw [if_pos within]

theorem price_eq_error_iff {fault : TransformFault} : price value params = .error fault ↔
    (plainDigits text = [] ∧ fault = .priceWithoutDigits text) ∨
      (∃ excess : DigitExcess, (plainDigits text).length = excess.count ∧
        fault = .longPrice excess) ∨
      ∃ n, SpellsNumber text n ∧ maxInt64 < n ∧ fault = .priceOutOfRange text := by
  rcases noDigits_or_manyDigits_or_spells text with none | ⟨excess, many⟩ | ⟨n, spells⟩
  · rw [price_of_noDigits written none, Except.error.injEq]
    constructor
    · rintro rfl
      exact .inl ⟨none, rfl⟩
    · rintro (⟨-, rfl⟩ | ⟨excess, many, -⟩ | ⟨n, spells, -⟩)
      · rfl
      · rw [none] at many
        exact absurd excess.beyond (many ▸ Nat.not_lt_zero _)
      · exact absurd none spells.1
  · rw [price_of_manyDigits written many, Except.error.injEq]
    constructor
    · rintro rfl
      exact .inr (.inl ⟨excess, many, rfl⟩)
    · rintro (⟨none, -⟩ | ⟨other, many', rfl⟩ | ⟨n, spells, -⟩)
      · rw [none] at many
        exact absurd excess.beyond (many ▸ Nat.not_lt_zero _)
      · exact congrArg _ (DigitExcess.ext (many.symm.trans many'))
      · exact absurd many (spells.ne_excess excess)
  · rw [price_of_spells written spells]
    constructor
    · intro failed
      split at failed
      next => cases failed
      next beyond =>
        have large := Nat.lt_of_not_le beyond
        exact .inr (.inr ⟨n, spells, large, (Except.error.inj failed).symm⟩)
    · rintro (⟨none, -⟩ | ⟨excess, many, -⟩ | ⟨m, spells', beyond, rfl⟩)
      · exact absurd none spells.1
      · exact absurd many (spells.ne_excess excess)
      · obtain rfl := spells.unique spells'
        rw [if_neg (Nat.not_le.mpr beyond)]

end

/-- A text has a price if it has a digit and its digits spell a number of the type `INT64`, and then
this number is the price; else it has no digit, or more than numbers are read from, or they spell a
number that is too large. So characters that are no digits do not matter, except that a fault quotes
them, and the price of the text of a price is the price. -/
theorem price_iff_spells (text : String) (params : Params) :
    (∀ result, price (.string text) params = .ok result ↔
      ∃ n, SpellsNumber text n ∧ n ≤ 2 ^ 63 - 1 ∧ result = priced n) ∧
    (∀ fault, price (.string text) params = .error fault ↔
      (plainDigits text = [] ∧ fault = .priceWithoutDigits text) ∨
        (∃ excess : DigitExcess, (plainDigits text).length = excess.count ∧
          fault = .longPrice excess) ∨
        ∃ n, SpellsNumber text n ∧ 2 ^ 63 - 1 < n ∧ fault = .priceOutOfRange text) ∧
    (∀ other, plainDigits other = plainDigits text →
      (price (.string other) params).mapError (·.message) =
        (price (.string text) params).mapError (·.message)) ∧
    ∀ n : ℕ, price (.string text) params = .ok (priced n) →
      price (.string (toString (n : ℤ))) params = .ok (priced n) := by
  refine ⟨fun result => price_eq_ok_iff rfl params, fun fault => price_eq_error_iff rfl params,
    fun other same => price_congr same params, fun n given => ?_⟩
  obtain ⟨m, -, within, same⟩ := (price_eq_ok_iff rfl params).mp given
  obtain rfl := priced_injective same
  exact (price_eq_ok_iff rfl params).mpr ⟨n, spellsNumber_toString within, within, rfl⟩

/-- The greatest price, behind zeros and between characters that are no digits. -/
theorem price_iff_spells_greatest :
    SpellsNumber "US$ 009,223,372,036,854,775,807.\u0663" (2 ^ 63 - 1) ∧
      price (.string "US$ 009,223,372,036,854,775,807.\u0663") [] = .ok (priced (2 ^ 63 - 1)) := by
  have spells : SpellsNumber "US$ 009,223,372,036,854,775,807.\u0663" (2 ^ 63 - 1) := by
    unfold SpellsNumber
    decide
  exact ⟨spells, ((price_iff_spells _ []).1 _).mpr ⟨_, spells, le_rfl, rfl⟩⟩

/-! ## Prices of numbers -/

/-- A binary number that is equal to a whole number that is not negative. -/
theorem exists_rank_of_equalsInt {n : ℕ} {x : Binary64} (same : x.equalsInt n = true) :
    ∃ negative rank, x = .finite negative rank ∧ unitsOfRank rank = n * unitDenominator ∧
      (negative = true → n = 0) := by
  rw [equalsInt, Bool.and_eq_true, beq_iff_eq] at same
  obtain ⟨finite, value⟩ := same
  match x with
  | .finite negative rank =>
    refine ⟨negative, rank, rfl, ?_⟩
    cases negative with
    | false =>
      rw [signedUnits, Binary64.negative, if_neg Bool.false_ne_true, units] at value
      exact ⟨by exact_mod_cast value, nofun⟩
    | true =>
      -- Only a zero may have the other sign.
      rw [signedUnits, Binary64.negative, if_pos rfl, units] at value
      have nothing : unitsOfRank rank = 0 ∧ n * unitDenominator = 0 := by
        rw [← Nat.add_eq_zero_iff]
        zify
        rw [← value, add_neg_cancel]
      obtain ⟨magnitude, product⟩ := nothing
      rw [magnitude, product]
      exact ⟨rfl, fun _ => (Nat.mul_eq_zero.mp product).resolve_right unitDenominator_pos.ne'⟩

theorem plainDigits_text (negative : Bool) (rank : Fin rankLimit) :
    plainDigits (Binary64.finite negative rank).text = (printed rank).filter Char.isDigit := by
  have unsigned : unsignedChars (.finite negative rank) = printed rank := rfl
  have sign : ('-' :: printed rank).filter Char.isDigit = (printed rank).filter Char.isDigit :=
    List.filter_cons_of_neg (by decide)
  rw [plainDigits, toList_text, unsigned]
  cases (Binary64.finite negative rank).negative with
  | false => rw [if_neg Bool.false_ne_true]
  | true => rw [if_pos rfl, sign]

section

variable {n : ℕ} {negative : Bool} {rank : Fin rankLimit}
  (units : unitsOfRank rank = n * unitDenominator)
include units

theorem printed_of_positive (positive : 0 < n) : printed rank = writeDecimal (shortest rank) := by
  apply if_neg
  intro zero
  rw [zero] at units
  exact absurd units.symm (Nat.mul_pos positive unitDenominator_pos).ne'

theorem spellsNumber_text_zero (zero : n = 0) :
    SpellsNumber (Binary64.finite negative rank).text 0 := by
  have first : rank.val = 0 := by
    apply unitsOfRank_strictMono.injective
    rw [units, zero, Nat.zero_mul]
    simp [unitsOfRank]
  rw [SpellsNumber, plainDigits_text, printed, if_pos first]
  decide

/-- The text of a binary number below `10 ^ 16` that is a whole number has one zero more. -/
theorem spellsNumber_text_short (small : n < 10 ^ 16) :
    SpellsNumber (Binary64.finite negative rank).text (10 * n) := by
  rcases Nat.eq_zero_or_pos n with zero | positive
  · rw [zero]
    exact spellsNumber_text_zero units zero
  · obtain ⟨d, k, decimal, -, -, exactly⟩ := exists_shortest_whole units positive
    have value : d * tenTo k = n := exactly small
    have some : 0 < d := by
      rw [← value] at positive
      exact Nat.pos_of_mul_pos_right positive
    have short : (digitsOf d).length + k ≤ 16 := by
      rw [← length_digitsOf_mul_tenTo some k, value]
      exact (Nat.length_toDigits_le_iff (by decide) (by decide)).mpr small
    rw [SpellsNumber, plainDigits_text, printed_of_positive units positive, decimal,
      filter_writeDecimal_short short]
    refine ⟨by simp, ?_, ?_⟩
    · have few : maxDigits = 4300 := rfl
      simp only [List.length_append, List.length_replicate, List.length_singleton, few]
      omega
    · rw [Nat.ofDigitChars_append, Nat.ofDigitChars_append, ofDigitChars_digitsOf,
        Nat.ofDigitChars_replicate_zero, Nat.mul_comm (10 ^ k)]
      show 10 * (d * tenTo k) + 0 = 10 * n
      rw [value, Nat.add_zero]

/-- From `10 ^ 16` on, the digits of the shortest decimal are followed by those of the exponent. -/
theorem spellsNumber_text_long (large : 10 ^ 16 ≤ n) (within : n ≤ 2 ^ 63 - 1) :
    ∃ d k e : ℕ, shortest rank = ⟨d, k⟩ ∧ 16 ≤ e ∧ 10 ^ e ≤ d * 10 ^ k ∧ d * 10 ^ k < 10 ^ (e + 1) ∧
      ReadsAs rank ((d * 10 ^ k : ℕ) * unitDenominator) ∧
      SpellsNumber (Binary64.finite negative rank).text (100 * d + e) := by
  have positive : 0 < n := Nat.lt_of_lt_of_le (by decide) large
  obtain ⟨d, k, decimal, reads, least, -⟩ := exists_shortest_whole units positive
  have some : 0 < d * 10 ^ k := Nat.lt_of_lt_of_le (Nat.pow_pos (by decide)) least
  have above : 10 ^ 16 ≤ d * 10 ^ k := by
    have many : ¬ (digitsOf n).length ≤ 16 := by
      rw [digitsOf, Nat.length_toDigits_le_iff (by decide) (by decide)]
      exact Nat.not_lt.mpr large
    exact (Nat.pow_le_pow_right (by decide) (by omega)).trans least
  have below : d * 10 ^ k < 10 ^ 20 := by
    have near := (dist_of_readsAs units positive reads).1
    have bits : fractionCount = 4503599627370496 := rfl
    rw [bits] at near
    omega
  -- The exponent has two digits.
  obtain ⟨e, length⟩ := Nat.exists_eq_add_of_lt (length_digitsOf_pos (d * 10 ^ k))
  rw [Nat.zero_add] at length
  obtain ⟨low, high⟩ := (length_digitsOf_eq_iff some).mp length
  have few : e < 20 := (Nat.pow_lt_pow_iff_right (by decide)).mp (low.trans_lt below)
  have long : 16 ≤ e :=
    Nat.lt_succ_iff.mp ((Nat.pow_lt_pow_iff_right (by decide)).mp (above.trans_lt high))
  have exponent : (digitsOf d).length + k = e + 1 := by
    rw [← length_digitsOf_mul_tenTo (Nat.pos_of_mul_pos_right some) k]
    exact length
  have two : (digitsOf e).length = 2 := by
    rw [length_digitsOf_eq_iff (by omega)]
    omega
  refine ⟨d, k, e, decimal, long, low, high, reads, ?_⟩
  rw [SpellsNumber, plainDigits_text, printed_of_positive units positive, decimal,
    filter_writeDecimal_long exponent long]
  refine ⟨by simp [digitsOf_ne_nil], ?_, ?_⟩
  · have limit : maxDigits = 4300 := rfl
    rw [List.length_append, limit]
    omega
  · rw [Nat.ofDigitChars_append, Nat.ofDigitChars_eq_ofDigitChars_zero, ofDigitChars_digitsOf,
      ofDigitChars_digitsOf, two]

/-- The digits of the shortest decimal and of its exponent never spell the number. -/
theorem ne_of_exponent (within : n ≤ 2 ^ 63 - 1) {d k e : ℕ} (long : 16 ≤ e)
    (low : 10 ^ e ≤ d * 10 ^ k) (high : d * 10 ^ k < 10 ^ (e + 1))
    (reads : ReadsAs rank ((d * 10 ^ k : ℕ) * unitDenominator)) : 100 * d + e ≠ n := by
  intro same
  have positive : 0 < n := by omega
  obtain ⟨above, below⟩ := dist_of_readsAs units positive reads
  have near := (near_of_readsAs units reads).2
  have bits : fractionCount = 4503599627370496 := rfl
  rw [bits] at above below
  have large : 10 ^ 16 ≤ d * 10 ^ k := (Nat.pow_le_pow_right (by decide) long).trans low
  have few : e < 20 := by
    have most : d * 10 ^ k < 10 ^ 20 := by omega
    exact (Nat.pow_lt_pow_iff_right (by decide)).mp (low.trans_lt most)
  -- Unless the decimal has two zeros at its end, it is ten times too large or too small.
  obtain rfl | rfl | rfl | many : k = 0 ∨ k = 1 ∨ k = 2 ∨ 3 ≤ k := by omega
  · omega
  · omega
  · -- The exponent is the whole difference, and so steps of 32 at least are taken here.
    have step : 2 ^ 5 * unitDenominator ≤ unitStep rank := by
      have split : (100 * d + e) * unitDenominator =
          d * 10 ^ 2 * unitDenominator + e * unitDenominator := by ring
      rw [← same, split] at near
      have size : 16 * unitDenominator ≤ e * unitDenominator := Nat.mul_le_mul_right _ long
      generalize unitDenominator = unit at near size ⊢
      omega
    obtain ⟨multiple, size⟩ := dvd_of_step units positive step
    rw [bits] at size
    obtain rfl : e = 16 := by omega
    omega
  · obtain ⟨more, rfl⟩ := Nat.exists_eq_add_of_le many
    have split : d * 10 ^ (3 + more) = 1000 * (d * 10 ^ more) := by ring
    have grows : d ≤ d * 10 ^ more := Nat.le_mul_of_pos_right d (Nat.pow_pos (by decide))
    omega

end

/-! ## Equal numbers -/

/-- A whole number is rounded to the binary number in whose interval it lies. -/
theorem ofInt_eq_of_readsAs {m : ℕ} {rank : Fin rankLimit}
    (reads : ReadsAs rank (m * unitDenominator)) : ofInt m = .finite false rank := by
  have nearest : nearestRank m 1 = rank := by
    rw [nearestRank_eq_iff one_pos, Nat.cast_one, div_one]
    exact reads
  have sign : decide ((m : ℤ) < 0) = false :=
    decide_eq_false (Int.not_lt.mpr (Int.natCast_nonneg m))
  rw [ofInt, sign, Int.natAbs_natCast, Binary64.nearest, nearest, ofRank, dif_pos rank.isLt]

/-- A whole number with 53 significant bits is equal to the number that it is rounded to. -/
theorem equalsInt_ofInt {n : ℕ} (binary : IsBinaryWhole n) : (ofInt n).equalsInt n = true := by
  obtain ⟨rank, within, units⟩ := isBinaryWhole_iff.mp binary
  rw [Int.natAbs_natCast] at units
  have given : ofInt n = .finite false ⟨rank, within⟩ := by
    apply ofInt_eq_of_readsAs
    have reads := readsAs_unitsOfRank rank
    rw [units] at reads
    exact_mod_cast reads
  rw [given, equalsInt, Bool.and_eq_true, beq_iff_eq]
  exact ⟨rfl, congrArg Int.ofNat units⟩

/-- The price of a whole number is the number. A binary number that is equal to it has another
price unless it is zero: below `10 ^ 16` the zero behind the point is read along, and from there on
the price is read from the digits of the shortest decimal that is rounded to the number and from
those of its exponent. -/
theorem price_of_equal_number {n : ℕ} (within : n ≤ 2 ^ 63 - 1) {x : Binary64}
    (same : x.equalsInt n = true) (params : Params) :
    price (.integer n) params = .ok (priced n) ∧
    (n < 10 ^ 16 → price (.float x) params = .ok (priced (10 * n))) ∧
    (10 ^ 16 ≤ n → ∃ (rank : Fin rankLimit) (d k e : ℕ), x = .finite false rank ∧
      shortest rank = ⟨d, k⟩ ∧ ofInt (d * 10 ^ k : ℕ) = x ∧
      16 ≤ e ∧ 10 ^ e ≤ d * 10 ^ k ∧ d * 10 ^ k < 10 ^ (e + 1) ∧
      price (.float x) params =
        if 100 * d + e ≤ 2 ^ 63 - 1 then .ok (priced (100 * d + e))
        else .error (.priceOutOfRange x.text)) ∧
    (price (.float x) params = price (.integer n) params ↔ n = 0) := by
  have limit : maxInt64 = 2 ^ 63 - 1 := rfl
  have whole : price (.integer n) params = .ok (priced n) := by
    rw [price_of_spells rfl (spellsNumber_toString within), limit, if_pos within]
  obtain ⟨negative, rank, rfl, units, sign⟩ := exists_rank_of_equalsInt same
  have short (small : n < 10 ^ 16) :
      price (.float (.finite negative rank)) params = .ok (priced (10 * n)) := by
    rw [price_of_spells rfl (spellsNumber_text_short units small), limit, if_pos (by omega)]
  refine ⟨whole, short, fun large => ?_, ?_⟩
  · obtain ⟨d, k, e, decimal, long, low, high, reads, spells⟩ :=
      spellsNumber_text_long units large within
    obtain rfl : negative = false := by
      cases negative with
      | false => rfl
      | true => exact absurd (sign rfl) (by omega)
    exact ⟨rank, d, k, e, rfl, decimal, ofInt_eq_of_readsAs reads, long, low, high,
      price_of_spells rfl spells params⟩
  · rw [whole]
    rcases Nat.lt_or_ge n (10 ^ 16) with small | large
    · rw [short small, Except.ok.injEq]
      constructor
      · intro equal
        have ten := priced_injective equal
        omega
      · rintro rfl
        rfl
    · obtain ⟨d, k, e, -, long, low, high, reads, spells⟩ :=
        spellsNumber_text_long units large within
      rw [price_of_spells rfl spells]
      constructor
      · intro equal
        split at equal
        next =>
          have exponent := priced_injective (Except.ok.inj equal)
          exact absurd exponent (ne_of_exponent units within long low high reads)
        next => cases equal
      · omega

/-- The first binary number that is printed with an exponent, as the digits 1 and 16. -/
theorem price_of_equal_number_exponent :
    (ofInt (10 ^ 16 : ℕ)).equalsInt (10 ^ 16 : ℕ) = true ∧
      price (.integer (10 ^ 16 : ℕ)) [] = .ok (priced (10 ^ 16)) ∧
      price (.float (ofInt (10 ^ 16 : ℕ))) [] = .ok (priced 116) := by
  have split : 5 ^ 16 * 2 ^ 16 = 10 ^ 16 := by decide
  have binary : IsBinaryWhole (10 ^ 16 : ℕ) :=
    split ▸ isBinaryWhole_mul_pow (by decide) (by decide)
  have same := equalsInt_ofInt binary
  obtain ⟨whole, -, long, -⟩ := price_of_equal_number (by decide) same []
  obtain ⟨rank, d, k, e, number, decimal, -, -, low, high, given⟩ := long le_rfl
  have first : ofInt (10 ^ 16 : ℕ) = .finite false ⟨4846369599423283200, by decide⟩ := by
    decide +kernel
  have digits : shortest 4846369599423283200 = ⟨1, 16⟩ := by decide +kernel
  cases first.symm.trans number
  cases digits.symm.trans decimal
  -- Ten to the power of 16 has 16 digits behind the first one.
  rw [Nat.one_mul] at low high
  obtain rfl : e = 16 := Nat.le_antisymm ((Nat.pow_le_pow_iff_right (by decide)).mp low)
    (Nat.le_of_lt_succ ((Nat.pow_lt_pow_iff_right (by decide)).mp high))
  exact ⟨same, whole, given⟩

/-- One and one with a point have different prices. -/
theorem not_forall_same_price :
    ¬ ∀ (n : ℕ) (x : Binary64) (params : Params), n ≤ 2 ^ 63 - 1 → x.equalsInt n = true →
      price (.integer n) params = .ok (priced n) ∧ price (.float x) params = .ok (priced n) := by
  intro always
  have binary : IsBinaryWhole (1 * 2 ^ 0 : ℕ) := isBinaryWhole_mul_pow (by decide) (by decide)
  have same : (ofInt (1 : ℕ)).equalsInt (1 : ℕ) = true := equalsInt_ofInt binary
  obtain ⟨negative, rank, number, units, -⟩ := exists_rank_of_equalsInt same
  have given : price (.float (ofInt (1 : ℕ))) [] = .ok (priced 10) := by
    rw [number, price_of_spells rfl (spellsNumber_text_short units (by decide))]
    exact if_pos (by decide)
  have one := (always 1 (ofInt (1 : ℕ)) [] (by decide) same).2
  rw [given] at one
  exact absurd (priced_injective (Except.ok.inj one)) (by decide)

end DocGraph
