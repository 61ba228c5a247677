import DocGraph.Proofs.Number.Shortest
import DocGraph.Proofs.Text.Format

/-!
# Printed numbers

Different binary numbers are printed differently. A printed finite number spells its shortest
decimal, which tells the number; the parts of a number in decimal notation can be told from its
characters.

## Main definitions

* `Spelling`: a number in decimal notation, by its parts.

## Main results

* `Spelling.eq_of_chars_eq`: a spelling can be told from its characters.
* `exists_spelling`: what a printed number spells.
* `Binary64.text_injective`: different numbers have different texts.
-/

namespace DocGraph

/-- Whether a character stands in printed numbers. -/
def isNumberChar (c : Char) : Bool :=
  c.isDigit || ['.', 'e', '+', '-', 'n', 'a', 'i', 'f'].contains c

/-- The parts of a number in decimal notation: the digits before and after the point, and the
sign and the digits of the exponent. It is told from a whole number by a point or an
exponent. -/
structure Spelling where
  whole : List Char
  fraction : List Char
  exponent : Option (Bool × List Char)
  whole_ne_nil : whole ≠ []
  whole_digits : ∀ c ∈ whole, c.isDigit = true
  fraction_digits : ∀ c ∈ fraction, c.isDigit = true
  exponent_digits : ∀ part ∈ exponent, ∀ c ∈ part.2, c.isDigit = true
  marked : fraction ≠ [] ∨ exponent.isSome

namespace Spelling

/-- The digits after the point, with the point. -/
def pointed : List Char → List Char
  | [] => []
  | c :: digits => '.' :: c :: digits

/-- An exponent with its letter. -/
def powered : Option (Bool × List Char) → List Char
  | none => []
  | some (negative, digits) => 'e' :: (if negative then '-' else '+') :: digits

/-- A number in decimal notation. -/
def chars (s : Spelling) : List Char := s.whole ++ (pointed s.fraction ++ powered s.exponent)

/-- The power of ten that an exponent names. -/
def power : Option (Bool × List Char) → Int
  | none => 0
  | some (negative, digits) =>
    if negative then -(Nat.ofDigitChars 10 digits 0 : Int) else Nat.ofDigitChars 10 digits 0

/-- The value of a number in decimal notation. -/
def value (s : Spelling) : ℚ :=
  Nat.ofDigitChars 10 (s.whole ++ s.fraction) 0 * 10 ^ (power s.exponent - s.fraction.length)

theorem stopsAt_powered (exponent : Option (Bool × List Char)) :
    StopsAt Char.isDigit (powered exponent) := by
  cases exponent <;> simp [powered, StopsAt]

theorem stopsAt_pointed (fraction : List Char) (exponent : Option (Bool × List Char)) :
    StopsAt Char.isDigit (pointed fraction ++ powered exponent) := by
  cases fraction with
  | nil => exact stopsAt_powered exponent
  | cons c digits => simp [pointed, StopsAt]

theorem powered_injective {exponent other : Option (Bool × List Char)}
    (h : powered exponent = powered other) : exponent = other := by
  rcases exponent with _ | ⟨negative, digits⟩ <;> rcases other with _ | ⟨negative', digits'⟩ <;>
    simp [powered] at h ⊢
  obtain ⟨sign, rfl⟩ := h
  refine ⟨?_, rfl⟩
  cases negative <;> cases negative' <;> simp at sign ⊢

/-- A spelling can be told from its characters. -/
theorem eq_of_chars_eq {s t : Spelling} (h : s.chars = t.chars) : s = t := by
  obtain ⟨whole, rest⟩ := selfDelimiting_span Char.isDigit s.whole_digits t.whole_digits
    (stopsAt_pointed s.fraction s.exponent) (stopsAt_pointed t.fraction t.exponent) h
  -- What stands behind the whole digits starts with a point exactly if there is a fraction.
  have parts : s.fraction = t.fraction ∧ powered s.exponent = powered t.exponent := by
    cases fraction : s.fraction with
    | nil =>
      cases fraction' : t.fraction with
      | nil => exact ⟨rfl, by simpa [fraction, fraction', pointed] using rest⟩
      | cons c digits =>
        rw [fraction, fraction'] at rest
        cases exponent : s.exponent <;> simp [exponent, pointed, powered] at rest
    | cons c digits =>
      cases fraction' : t.fraction with
      | nil =>
        rw [fraction, fraction'] at rest
        cases exponent : t.exponent <;> simp [exponent, pointed, powered] at rest
      | cons c' digits' =>
        rw [fraction, fraction'] at rest
        exact selfDelimiting_span Char.isDigit (fraction ▸ s.fraction_digits)
          (fraction' ▸ t.fraction_digits) (stopsAt_powered s.exponent) (stopsAt_powered t.exponent)
          (by simpa [pointed] using rest)
  obtain ⟨whole', fraction', exponent', _, _, _, _, _⟩ := t
  obtain ⟨_, _, _, _, _, _, _, _⟩ := s
  obtain rfl := whole
  obtain rfl := parts.1
  obtain rfl := powered_injective parts.2
  rfl

/-- The characters of a number in decimal notation. -/
theorem isNumberChar_of_mem_chars (s : Spelling) {c : Char} (h : c ∈ s.chars) :
    isNumberChar c = true := by
  have digit {digits : List Char} (all : ∀ c ∈ digits, c.isDigit = true) (h : c ∈ digits) :
      isNumberChar c = true := by
    simp [isNumberChar, all c h]
  rcases List.mem_append.mp h with whole | h
  · exact digit s.whole_digits whole
  rcases List.mem_append.mp h with point | power
  · have digits := s.fraction_digits
    cases fraction : s.fraction with
    | nil => simp [fraction, pointed] at point
    | cons d rest =>
      rw [fraction] at point digits
      rcases List.mem_cons.mp point with rfl | after
      · rfl
      · exact digit digits after
  · have digits := s.exponent_digits
    rcases exponent : s.exponent with _ | ⟨negative, size⟩
    · simp [exponent, powered] at power
    · rw [exponent, powered] at power
      rcases List.mem_cons.mp power with rfl | power
      · rfl
      rcases List.mem_cons.mp power with rfl | after
      · cases negative <;> rfl
      · exact digit (digits _ exponent) after

/-- A point or an exponent tells a number from a whole one. -/
theorem exists_mark (s : Spelling) : ∃ c ∈ s.chars, c.isDigit = false ∧ c ≠ '-' := by
  rcases s.marked with point | power
  · obtain ⟨d, rest, fraction⟩ := List.exists_cons_of_ne_nil point
    exact ⟨'.', by simp [chars, fraction, pointed], by decide⟩
  · obtain ⟨⟨negative, digits⟩, exponent⟩ := Option.isSome_iff_exists.mp power
    exact ⟨'e', by simp [chars, exponent, powered], by decide⟩

end Spelling

/-! ## What is printed -/

theorem isDigit_of_mem_digitsOf {n : Nat} : ∀ c ∈ Decimal.digitsOf n, c.isDigit = true :=
  fun _ h => Nat.isDigit_of_mem_toDigits (by decide) (by decide) h

theorem ofDigitChars_digitsOf (n : Nat) : Nat.ofDigitChars 10 (Decimal.digitsOf n) 0 = n :=
  Nat.ofDigitChars_ten_toDigits

theorem ofDigitChars_zero_cons (digits : List Char) :
    Nat.ofDigitChars 10 ('0' :: digits) 0 = Nat.ofDigitChars 10 digits 0 := by
  rw [Nat.ofDigitChars_cons]
  rfl

theorem isDigit_of_mem_zeros {n : Nat} : ∀ c ∈ List.replicate n '0', c.isDigit = true :=
  fun _ h => List.eq_of_mem_replicate h ▸ rfl

/-- An exponent is written with two digits at least. -/
theorem exponentDigits_spec (size : Nat) :
    let power := if size < 10 then '0' :: Decimal.digitsOf size else Decimal.digitsOf size
    (∀ c ∈ power, c.isDigit = true) ∧ Nat.ofDigitChars 10 power 0 = size := by
  dsimp only
  split
  · refine ⟨fun c h => ?_, by rw [ofDigitChars_zero_cons, ofDigitChars_digitsOf]⟩
    rcases List.mem_cons.mp h with rfl | digit
    · rfl
    · exact isDigit_of_mem_digitsOf c digit
  · exact ⟨isDigit_of_mem_digitsOf, ofDigitChars_digitsOf size⟩

section

variable {digits : List Char} (all : ∀ c ∈ digits, c.isDigit = true) (some : 0 < digits.length)
  (e : Int)
include all some

/-- One digit before the point, and an exponent. -/
theorem exists_spelling_exponent {power : List Char} (powers : ∀ c ∈ power, c.isDigit = true)
    (size : Nat.ofDigitChars 10 power 0 = (e + digits.length - 1).natAbs) :
    ∃ s : Spelling,
      digits.take 1 ++ (Spelling.pointed (digits.drop 1) ++
        'e' :: (if e + digits.length - 1 < 0 then '-' else '+') :: power) = s.chars ∧
      s.value = Nat.ofDigitChars 10 digits 0 * 10 ^ e := by
  refine ⟨⟨digits.take 1, digits.drop 1, .some (decide (e + digits.length - 1 < 0), power),
    ?_, fun c h => all c (List.mem_of_mem_take h), fun c h => all c (List.mem_of_mem_drop h),
    by simpa using powers, by simp⟩, ?_, ?_⟩
  · simp only [ne_eq, List.take_eq_nil_iff, one_ne_zero, false_or]
    exact List.ne_nil_of_length_pos some
  · simp [Spelling.chars, Spelling.powered]
  · have exponent : Spelling.power (.some (decide (e + digits.length - 1 < 0), power)) -
        (digits.drop 1).length = e := by
      simp only [Spelling.power, size, decide_eq_true_eq, List.length_drop]
      split <;> omega
    simp only [Spelling.value, List.take_append_drop, exponent]

/-- Zeros between the point and the digits. -/
theorem exists_spelling_small {zeros : Nat} (count : e = -(zeros + digits.length : Nat)) :
    ∃ s : Spelling, '0' :: '.' :: List.replicate zeros '0' ++ digits = s.chars ∧
      s.value = Nat.ofDigitChars 10 digits 0 * 10 ^ e := by
  obtain ⟨c, rest, split⟩ : ∃ c rest, List.replicate zeros '0' ++ digits = c :: rest :=
    List.exists_cons_of_length_pos (by rw [List.length_append]; omega)
  refine ⟨⟨['0'], List.replicate zeros '0' ++ digits, none, by simp, by simp, ?_, by simp,
    by simp [split]⟩, ?_, ?_⟩
  · intro c h
    rcases List.mem_append.mp h with zero | digit
    · exact isDigit_of_mem_zeros c zero
    · exact all c digit
  · simp [Spelling.chars, Spelling.powered, split, Spelling.pointed]
  · simp only [Spelling.value, List.singleton_append, ofDigitChars_zero_cons,
      Nat.ofDigitChars_append, Nat.ofDigitChars_replicate_zero, Nat.mul_zero, Spelling.power,
      List.length_append, List.length_replicate, count, zero_sub]

/-- Zeros between the digits and the point. -/
theorem exists_spelling_whole {zeros : Nat} (count : e = zeros) :
    ∃ s : Spelling, digits ++ List.replicate zeros '0' ++ ['.', '0'] = s.chars ∧
      s.value = Nat.ofDigitChars 10 digits 0 * 10 ^ e := by
  refine ⟨⟨digits ++ List.replicate zeros '0', ['0'], none, ?_, ?_, by simp, by simp, by simp⟩,
    ?_, ?_⟩
  · simp [List.ne_nil_of_length_pos some]
  · intro c h
    rcases List.mem_append.mp h with digit | zero
    · exact all c digit
    · exact isDigit_of_mem_zeros c zero
  · simp [Spelling.chars, Spelling.powered, Spelling.pointed]
  · have last : Nat.ofDigitChars 10 ['0'] (10 ^ zeros * Nat.ofDigitChars 10 digits 0) =
        10 * (10 ^ zeros * Nat.ofDigitChars 10 digits 0) := rfl
    simp only [Spelling.value, Nat.ofDigitChars_append, Nat.ofDigitChars_replicate_zero, last,
      Spelling.power, List.length_singleton, count, zpow_natCast]
    push_cast
    norm_num
    ring

omit some in
/-- A point among the digits. -/
theorem exists_spelling_point {whole : Nat} (count : e = whole - digits.length)
    (positive : 0 < whole) (within : whole < digits.length) :
    ∃ s : Spelling, digits.take whole ++ '.' :: digits.drop whole = s.chars ∧
      s.value = Nat.ofDigitChars 10 digits 0 * 10 ^ e := by
  obtain ⟨c, rest, split⟩ : ∃ c rest, digits.drop whole = c :: rest :=
    List.exists_cons_of_length_pos (by rw [List.length_drop]; omega)
  refine ⟨⟨digits.take whole, digits.drop whole, none, ?_,
    fun c h => all c (List.mem_of_mem_take h), fun c h => all c (List.mem_of_mem_drop h), by simp,
    by simp [split]⟩, ?_, ?_⟩
  · exact List.ne_nil_of_length_pos (by rw [List.length_take]; omega)
  · simp [Spelling.chars, Spelling.powered, split, Spelling.pointed]
  · have exponent : Spelling.power none - (digits.drop whole).length = e := by
      simp only [Spelling.power, List.length_drop]
      omega
    simp only [Spelling.value, List.take_append_drop, exponent]

end

/-- What is printed for a decimal is a spelling of its value. -/
theorem exists_spelling (d : Decimal) :
    ∃ s : Spelling, Binary64.writeDecimal d = s.chars ∧
      s.value = d.coefficient * 10 ^ d.exponent := by
  have all := isDigit_of_mem_digitsOf (n := d.coefficient)
  have some := Binary64.length_digitsOf_pos d.coefficient
  rw [← ofDigitChars_digitsOf d.coefficient]
  unfold Binary64.writeDecimal
  generalize Decimal.digitsOf d.coefficient = digits at all some
  dsimp only
  -- The forms of writing: with an exponent, small, whole, and with a point among the digits.
  split
  · have power := exponentDigits_spec (d.exponent + digits.length - 1).natAbs
    obtain ⟨s, chars, value⟩ := exists_spelling_exponent all some d.exponent power.1 power.2
    refine ⟨s, ?_, value⟩
    rw [← chars, List.append_assoc]
    cases digits.drop 1 <;> rfl
  · next near =>
    have near : -4 ≤ d.exponent + digits.length - 1 ∧ d.exponent + digits.length - 1 < 16 := by
      simpa using near
    split
    · next small =>
      exact exists_spelling_small all some _ (by omega)
    · split
      · next short =>
        exact exists_spelling_whole all some _ (by omega)
      · next long =>
        exact exists_spelling_point all _ (by omega) (by omega) (by omega)

namespace Binary64

/-- What is printed for the absolute value of the number of a rank. -/
def printed (rank : Nat) : List Char :=
  if rank = 0 then ['0', '.', '0'] else writeDecimal (shortest rank)

/-- What is printed for an absolute value spells a value that is rounded to it. -/
theorem exists_spelling_printed (rank : Nat) :
    ∃ s : Spelling, printed rank = s.chars ∧ ReadsAs rank (s.value * unitDenominator) := by
  rcases Nat.eq_zero_or_pos rank with rfl | positive
  · refine ⟨⟨['0'], ['0'], none, by simp, by simp, by simp, by simp, by simp⟩, rfl, ?_⟩
    have zero : Nat.ofDigitChars 10 (['0'] ++ ['0']) 0 = 0 := rfl
    simp only [Spelling.value, zero, Nat.cast_zero, zero_mul]
    exact readsAs_zero
  · obtain ⟨s, chars, value⟩ := exists_spelling (shortest rank)
    refine ⟨s, by rw [printed, if_neg positive.ne', chars], ?_⟩
    rw [value]
    exact readsAs_shortest positive

/-- Different absolute values are printed differently. -/
theorem printed_injective {rank other : Nat} (h : printed rank = printed other) :
    rank = other := by
  obtain ⟨s, chars, reads⟩ := exists_spelling_printed rank
  obtain ⟨t, chars', reads'⟩ := exists_spelling_printed other
  obtain rfl : s = t := Spelling.eq_of_chars_eq (by rw [← chars, ← chars', h])
  exact readsAs_unique reads reads'

theorem exists_digit_printed (rank : Nat) :
    ∃ c rest, printed rank = c :: rest ∧ c.isDigit = true := by
  obtain ⟨s, chars, -⟩ := exists_spelling_printed rank
  obtain ⟨c, rest, whole⟩ := List.exists_cons_of_ne_nil s.whole_ne_nil
  exact ⟨c, rest ++ (Spelling.pointed s.fraction ++ Spelling.powered s.exponent),
    by rw [chars, Spelling.chars, whole, List.cons_append], s.whole_digits c (by simp [whole])⟩

/-- What is printed for a number without its sign. -/
def unsignedChars : Binary64 → List Char
  | .nan => ['n', 'a', 'n']
  | .infinite _ => ['i', 'n', 'f']
  | .finite _ rank => printed rank.val

/-- The characters of the text of a number. -/
theorem toList_text (x : Binary64) :
    x.text.toList = if x.negative then '-' :: unsignedChars x else unsignedChars x := by
  match x with
  | .nan => rfl
  | .infinite negative => cases negative <;> rfl
  | .finite negative rank => cases negative <;> exact String.toList_ofList

/-- Without its sign, a printed number does not start with one. -/
theorem unsignedChars_head (x : Binary64) : ∃ c rest, unsignedChars x = c :: rest ∧ c ≠ '-' := by
  match x with
  | .nan => exact ⟨'n', _, rfl, by decide⟩
  | .infinite _ => exact ⟨'i', _, rfl, by decide⟩
  | .finite _ rank =>
    obtain ⟨c, rest, starts, digit⟩ := exists_digit_printed rank.val
    exact ⟨c, rest, starts, fun sign => by cases sign; cases digit⟩

/-- A sign can be told from what has none. -/
theorem sign_injective {negative negative' : Bool} {c c' : Char} {rest rest' : List Char}
    (ne : c ≠ '-') (ne' : c' ≠ '-')
    (h : (if negative then '-' :: c :: rest else c :: rest) =
      if negative' then '-' :: c' :: rest' else c' :: rest') :
    negative = negative' ∧ c :: rest = c' :: rest' := by
  cases negative <;> cases negative'
  · exact ⟨rfl, h⟩
  · exact absurd (List.cons.inj h).1 ne
  · exact absurd (List.cons.inj h).1.symm ne'
  · exact ⟨rfl, (List.cons.inj h).2⟩

/-- Words are not printed for finite numbers. -/
theorem printed_ne_word (rank : Nat) :
    printed rank ≠ ['n', 'a', 'n'] ∧ printed rank ≠ ['i', 'n', 'f'] := by
  obtain ⟨c, rest, starts, digit⟩ := exists_digit_printed rank
  rw [starts]
  constructor <;> rintro ⟨⟩ <;> cases digit

/-- Different numbers have different texts. -/
theorem text_injective : Function.Injective text := by
  intro x y h
  have parts : x.negative = y.negative ∧ unsignedChars x = unsignedChars y := by
    replace h := congrArg String.toList h
    rw [toList_text, toList_text] at h
    obtain ⟨c, rest, starts, ne⟩ := unsignedChars_head x
    obtain ⟨c', rest', starts', ne'⟩ := unsignedChars_head y
    rw [starts, starts'] at h ⊢
    exact sign_injective ne ne' h
  obtain ⟨sign, chars⟩ := parts
  -- Without their signs, words differ from digits and finite numbers by their ranks.
  match x, y with
  | .nan, .nan => rfl
  | .infinite negative, .infinite negative' => exact congrArg _ sign
  | .nan, .infinite _ | .infinite _, .nan => cases chars
  | .nan, .finite _ rank => exact absurd chars.symm (printed_ne_word rank.val).1
  | .finite _ rank, .nan => exact absurd chars (printed_ne_word rank.val).1
  | .infinite _, .finite _ rank => exact absurd chars.symm (printed_ne_word rank.val).2
  | .finite _ rank, .infinite _ => exact absurd chars (printed_ne_word rank.val).2
  | .finite negative rank, .finite negative' rank' =>
    obtain rfl : negative = negative' := sign
    exact congrArg _ (Fin.ext (printed_injective chars))

theorem isNumberChar_of_mem_unsignedChars (x : Binary64) {c : Char} (h : c ∈ unsignedChars x) :
    isNumberChar c = true := by
  match x with
  | .nan | .infinite _ => exact List.all_eq_true.mp (by rfl) c h
  | .finite _ rank =>
    obtain ⟨s, chars, -⟩ := exists_spelling_printed rank.val
    exact s.isNumberChar_of_mem_chars (chars ▸ h)

/-- The characters of the text of a number. -/
theorem isNumberChar_of_mem_text (x : Binary64) {c : Char} (h : c ∈ x.text.toList) :
    isNumberChar c = true := by
  rw [toList_text] at h
  split at h
  · rcases List.mem_cons.mp h with rfl | h
    · rfl
    · exact isNumberChar_of_mem_unsignedChars x h
  · exact isNumberChar_of_mem_unsignedChars x h

/-- The text of a number is not that of a whole number. -/
theorem exists_mark_text (x : Binary64) : ∃ c ∈ x.text.toList, c.isDigit = false ∧ c ≠ '-' := by
  have mark : ∃ c ∈ unsignedChars x, c.isDigit = false ∧ c ≠ '-' := by
    match x with
    | .nan | .infinite _ => exact ⟨'n', by simp [unsignedChars], by decide⟩
    | .finite _ rank =>
      obtain ⟨s, chars, -⟩ := exists_spelling_printed rank.val
      obtain ⟨c, h, mark⟩ := s.exists_mark
      exact ⟨c, by rwa [unsignedChars, chars], mark⟩
  obtain ⟨c, h, mark⟩ := mark
  refine ⟨c, ?_, mark⟩
  rw [toList_text]
  split
  · exact List.mem_cons_of_mem _ h
  · exact h

end Binary64

end DocGraph
