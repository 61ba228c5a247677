import DocGraph.Proofs.Number.Whole
import DocGraph.Time.Reading

/-!
# Matching what was written

A part of a time that was written with digits is found again by a pattern when the first of its
forms that accepts a beginning of the digits takes all of them. No later form is tried then, unless
the rest of the pattern fails.

## Main definitions

* `Directive.Reads`: a part of a time takes all of the characters that were written for it.
* `twoDigits`: a number with two digits at least.

## Main results

* `afterForm?_replicate_length`, `afterForm?_replicate_eq_none`: digits and as many, or more, atoms.
* `matchFrom_field`: a part of a time in front of the rest of a pattern.
* `writtenNumber_twoDigits`: digits that are read back.
-/

namespace DocGraph

open Decimal (digitsOf)
open Pattern (afterForm? matchFrom)

variable {atom : FormAtom} {form : List FormAtom} {directive : Directive} {pattern : Pattern}
  {digits written rest cs : List Char}

/-! ## Forms -/

theorem afterForm?_append (form further : List FormAtom) (cs : List Char) :
    afterForm? (form ++ further) cs = (afterForm? form cs).bind (afterForm? further) := by
  induction form generalizing cs with
  | nil => rfl
  | cons atom form ih =>
    cases cs with
    | nil => rfl
    | cons c cs =>
      rw [List.cons_append, afterForm?, afterForm?]
      split
      · exact ih cs
      · rfl

/-- What follows a form is as long as the form leaves it. -/
theorem length_of_afterForm? (h : afterForm? form cs = some rest) :
    cs.length = form.length + rest.length := by
  induction form generalizing cs with
  | nil =>
    obtain rfl := Option.some.inj h
    simp
  | cons atom form ih =>
    cases cs with
    | nil => cases h
    | cons c cs =>
      rw [afterForm?] at h
      split at h
      · have := ih h
        simp only [List.length_cons]
        omega
      · cases h

/-- A form that is not longer than a text does not look beyond it. -/
theorem afterForm?_append_right (short : form.length ≤ cs.length) (rest : List Char) :
    afterForm? form (cs ++ rest) = (afterForm? form cs).map (· ++ rest) := by
  induction form generalizing cs with
  | nil => rfl
  | cons atom form ih =>
    cases cs with
    | nil => cases short
    | cons c cs =>
      rw [List.cons_append, afterForm?, afterForm?]
      split
      · exact ih (Nat.le_of_succ_le_succ short)
      · rfl

theorem afterForm?_replicate_length (accepted : ∀ c ∈ digits, atom.accepts c = true)
    (rest : List Char) :
    afterForm? (List.replicate digits.length atom) (digits ++ rest) = some rest := by
  induction digits with
  | nil => rfl
  | cons c digits ih =>
    obtain ⟨first, further⟩ := List.forall_mem_cons.mp accepted
    rw [List.length_cons, List.replicate_succ, List.cons_append, afterForm?, if_pos first]
    exact ih further

/-- Too few digits, with something else after them. -/
theorem afterForm?_replicate_eq_none {n : Nat} {c : Char} (few : digits.length < n)
    (stops : atom.accepts c = false) :
    afterForm? (List.replicate n atom) (digits ++ c :: rest) = none := by
  induction digits generalizing n with
  | nil =>
    obtain ⟨n, rfl⟩ := Nat.exists_eq_add_of_lt few
    rw [List.replicate_succ, List.nil_append, afterForm?, if_neg (by simp [stops])]
  | cons d digits ih =>
    obtain ⟨n, rfl⟩ := Nat.exists_eq_add_of_lt few
    rw [List.replicate_succ, List.cons_append, afterForm?]
    split
    · apply ih
      simp only [List.length_cons]
      omega
    · rfl

/-! ## Elements of patterns -/

/-- The first form that accepts a beginning of what was written takes all of it, and no form looks
beyond it. -/
def Directive.Reads (directive : Directive) (written : List Char) : Prop :=
  (∀ form ∈ directive.forms, form.length ≤ written.length) ∧
    directive.forms.findSome? (afterForm? · written) = some []

instance (directive : Directive) (written : List Char) : Decidable (directive.Reads written) :=
  inferInstanceAs (Decidable (_ ∧ _))

/-- A part of a time is found where it was written, if the rest of the pattern matches after it. -/
theorem matchFrom_field (reads : directive.Reads written)
    {fields : List (Directive × List Char)} {last : List Char}
    (further : matchFrom pattern rest = some (fields, last)) :
    matchFrom (.field directive :: pattern) (written ++ rest) =
      some ((directive, written) :: fields, last) := by
  obtain ⟨short, first⟩ := reads
  obtain ⟨before, form, after, split, takes, fail⟩ := List.findSome?_eq_some_iff.mp first
  have beyond (f : List FormAtom) (mem : f ∈ directive.forms) :=
    afterForm?_append_right (short f mem) rest
  have whole := length_of_afterForm? takes
  rw [matchFrom, split, List.findSome?_append, List.findSome?_eq_none_iff.mpr, Option.none_or,
    List.findSome?_cons]
  · rw [beyond form (by simp [split]), takes]
    simp [further, whole]
  · intro f mem
    rw [beyond f (by simp [split, mem]), fail f mem]
    rfl

theorem matchFrom_literal (pattern : Pattern) (x : Char) (rest : List Char) :
    matchFrom (.literal x :: pattern) (x :: rest) = matchFrom pattern rest := by
  have same : sameLetter x x = true := by simp [sameLetter]
  rw [matchFrom, if_pos same]

/-- A run of blanks that is a single space. -/
theorem matchFrom_blanks (pattern : Pattern) (free : ∀ c ∈ rest.head?, isBlank c = false) :
    matchFrom (.blanks :: pattern) (' ' :: rest) = matchFrom pattern rest := by
  have space : isBlank ' ' = true := rfl
  have run : (' ' :: rest).takeWhile isBlank = [' '] := by
    cases rest with
    | nil => rfl
    | cons c rest => simp [space, free c rfl]
  rw [matchFrom, Pattern.blankRests, run]
  simp

/-! ## Digits -/

/-- The digits of a number, with zeros in front of them if there are less than two. -/
def twoDigits (n : Nat) : List Char := List.replicate (2 - (digitsOf n).length) '0' ++ digitsOf n

theorem toList_paddedDigits_two (n : Nat) : (paddedDigits 2 n).toList = twoDigits n := by
  have digits : (toString n).toList = digitsOf n := Nat.toList_repr
  rw [paddedDigits, String.toList_append, String.toList_ofList, ← String.length_toList, digits]
  rfl

theorem isDigit_of_mem_twoDigits {n : Nat} : ∀ c ∈ twoDigits n, c.isDigit = true := by
  intro c mem
  rcases List.mem_append.mp mem with zero | digit
  · exact isDigit_of_mem_zeros c zero
  · exact isDigit_of_mem_digitsOf c digit

theorem length_twoDigits {n : Nat} (h : n < 100) : (twoDigits n).length = 2 := by
  have most : (digitsOf n).length ≤ 2 := (Nat.length_toDigits_le_iff (by decide) (by decide)).mpr h
  rw [twoDigits, List.length_append, List.length_replicate]
  omega

theorem writtenNumber_of_isDigit (h : ∀ c ∈ digits, c.isDigit = true) :
    writtenNumber digits = Nat.ofDigitChars 10 digits 0 := by
  have values : digits.filterMap decimalValue? = digits.map fun c => c.toNat - 0x30 := by
    rw [← List.filterMap_eq_map]
    exact List.filterMap_congr fun c mem => decimalValue?_of_isDigit (h c mem)
  rw [writtenNumber, values, foldl_digits]

theorem writtenNumber_digitsOf (n : Nat) : writtenNumber (digitsOf n) = n := by
  rw [writtenNumber_of_isDigit isDigit_of_mem_digitsOf, ofDigitChars_digitsOf]

theorem writtenNumber_twoDigits (n : Nat) : writtenNumber (twoDigits n) = n := by
  have zeros (k : Nat) :
      Nat.ofDigitChars 10 (List.replicate k '0' ++ digitsOf n) 0 =
        Nat.ofDigitChars 10 (digitsOf n) 0 := by
    induction k with
    | zero => rfl
    | succ k ih => rw [List.replicate_succ, List.cons_append, ofDigitChars_zero_cons, ih]
  rw [writtenNumber_of_isDigit isDigit_of_mem_twoDigits, twoDigits, zeros, ofDigitChars_digitsOf]

end DocGraph
