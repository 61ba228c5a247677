import DocGraph.Json.Reader
import DocGraph.Number.Spelling
import DocGraph.Proofs.Number.Printed
import DocGraph.Proofs.Text.Blank

/-!
# Whole numbers

A whole number is written as digits after a sign perhaps, and is read back as it was: where
people write numbers, and in JSON texts.

## Main definitions

* `signOf`: the sign in front of a whole number.

## Main results

* `toList_toString_int`: the characters of a whole number.
* `readInteger?_toString`: a written whole number is read where people write numbers.
* `readNumber_toString`: a written whole number is read in a JSON text.
-/

namespace DocGraph

open Decimal (digitsOf)

/-! ## Digits -/

theorem isDigit_bounds {c : Char} (h : c.isDigit = true) : 0x30 ≤ c.toNat ∧ c.toNat ≤ 0x39 :=
  Char.isDigit_iff_toNat.mp h

/-- The value of digits that are written is the number that they stand for. -/
theorem foldl_digits (digits : List Char) (start : Nat) :
    (digits.map fun c => c.toNat - 0x30).foldl (fun n d => n * 10 + d) start =
      Nat.ofDigitChars 10 digits start := by
  rw [Nat.ofDigitChars_eq_foldl, List.foldl_map]
  simp only [Nat.mul_comm 10]
  rfl

theorem digitsOf_ne_nil (n : Nat) : digitsOf n ≠ [] := Nat.toDigits_ne_nil

/-- Only zero is written with a zero in front. -/
theorem head_digitsOf_ne_zero {n : Nat} (positive : 0 < n) : (digitsOf n).head? ≠ some '0' := by
  induction n using Nat.strongRecOn with
  | ind n ih =>
    by_cases single : n < 10
    · have digits : ∀ m < 10, 0 < m → (digitsOf m).head? ≠ some '0' := by decide
      exact digits n single positive
    · have first := ih (n / 10) (by omega) (by omega)
      rw [digitsOf] at first ⊢
      rwa [Nat.toDigits_of_base_le (by decide) (by omega),
        List.head?_append_of_ne_nil _ Nat.toDigits_ne_nil]

/-! ## Characters -/

/-- The sign in front of a whole number. -/
def signOf (n : Int) : List Char := if n < 0 then ['-'] else []

theorem toList_toString_int (n : Int) : (toString n).toList = signOf n ++ digitsOf n.natAbs := by
  cases n with
  | ofNat m => exact Nat.toList_repr
  | negSucc m =>
    have written : toString (Int.negSucc m) = "-" ++ (m + 1).repr := rfl
    rw [written, String.toList_append, Nat.toList_repr, signOf, if_pos (Int.negSucc_lt_zero m)]
    rfl

/-- A whole number starts with a digit, or with a sign and a digit. -/
theorem toString_starts (n : Int) : ∃ c rest, (toString n).toList = c :: rest ∧
    (c.isDigit = true ∨ c = '-' ∧ ∃ d more, rest = d :: more ∧ d.isDigit = true) := by
  rw [toList_toString_int]
  obtain ⟨d, digits, starts⟩ := List.exists_cons_of_ne_nil (digitsOf_ne_nil n.natAbs)
  have digit : d.isDigit = true := isDigit_of_mem_digitsOf (n := n.natAbs) d (by simp [starts])
  rw [starts]
  unfold signOf
  split
  · exact ⟨'-', d :: digits, rfl, .inr ⟨rfl, d, digits, rfl, digit⟩⟩
  · exact ⟨d, digits, rfl, .inl digit⟩

/-- A character that is neither a digit nor the sign does not start a whole number. -/
theorem ne_of_starts {c x : Char} (starts : c.isDigit = true ∨ c = '-') (other : x.isDigit = false)
    (sign : x ≠ '-') : c ≠ x := by
  rintro rfl
  rcases starts with digit | minus
  · rw [other] at digit
    cases digit
  · exact sign minus

theorem signed_natAbs (n : Int) : signed (decide (n < 0)) n.natAbs = n := by
  unfold signed
  by_cases negative : n < 0
  · rw [if_pos (decide_eq_true negative)]
    omega
  · rw [if_neg (by simpa using negative)]
    omega

/-! ## Numbers as people write them -/

theorem decimalValue?_of_isDigit {c : Char} (h : c.isDigit = true) :
    decimalValue? c = some (c.toNat - 0x30) := by
  obtain ⟨low, high⟩ := isDigit_bounds h
  rw [decimalValue?, digitZeros, List.find?_cons_of_pos (by simp; omega)]
  rfl

theorem digitIn?_of_isDigit {c : Char} (h : c.isDigit = true) :
    digitIn? 10 c = some (c.toNat - 0x30) := by
  obtain ⟨low, high⟩ := isDigit_bounds h
  rw [digitIn?, decimalValue?_of_isDigit h]
  exact Option.filter_some_pos (by simp; omega)

theorem groupedDigitsFrom_of_isDigit {digits : List Char} (h : ∀ c ∈ digits, c.isDigit = true)
    (afterDigit : Bool) :
    groupedDigitsFrom 10 afterDigit digits = (digits.map fun c => c.toNat - 0x30, []) := by
  induction digits generalizing afterDigit with
  | nil => rfl
  | cons c digits ih =>
    obtain ⟨first, rest⟩ := List.forall_mem_cons.mp h
    simp only [groupedDigitsFrom, digitIn?_of_isDigit first, ih rest]
    rfl

theorem isNumberBlank_of_isWhole {c : Char} (h : c = '-' ∨ c.isDigit = true) :
    isNumberBlank c = false := by
  rcases h with rfl | digit
  · decide
  · obtain ⟨low, high⟩ := isDigit_bounds digit
    simp [isNumberBlank, isBlank]
    omega

/-- No white space stands in the text of a whole number. -/
theorem isNumberBlank_of_mem_toString {n : Int} {c : Char}
    (mem : c ∈ signOf n ++ digitsOf n.natAbs) : isNumberBlank c = false := by
  apply isNumberBlank_of_isWhole
  rcases List.mem_append.mp mem with sign | digit
  · unfold signOf at sign
    split at sign
    · exact .inl (List.mem_singleton.mp sign)
    · cases sign
  · exact .inr (isDigit_of_mem_digitsOf c digit)

theorem stripBy_eq_self {kind : Char → Bool} {cs : List Char} (h : ∀ c ∈ cs, kind c = false) :
    stripBy kind cs = cs :=
  stripBy_eq_self_iff.mpr
    ⟨fun c first => h c (List.mem_of_head? first), fun c last => h c (List.mem_of_getLast? last)⟩

theorem takeSign_signOf (n : Int) :
    takeSign (signOf n ++ digitsOf n.natAbs) = (decide (n < 0), digitsOf n.natAbs) := by
  by_cases negative : n < 0
  · simp [signOf, negative, takeSign]
  · have digits := isDigit_of_mem_digitsOf (n := n.natAbs)
    rw [signOf, if_neg negative, decide_eq_false negative, List.nil_append]
    generalize digitsOf n.natAbs = written at digits ⊢
    unfold takeSign
    split
    next rest => exact absurd (digits '-' (by simp)) (by decide)
    next rest => exact absurd (digits '+' (by simp)) (by decide)
    next => rfl

theorem readInteger?_toString (n : Int) : readInteger? 10 (toString n) = some n := by
  have unmarked (cs : List Char) : afterRadixSign 10 cs = cs := by
    unfold afterRadixSign
    split <;> rfl
  have value : ((digitsOf n.natAbs).map fun c => c.toNat - 0x30).foldl
      (fun n d => n * 10 + d) 0 = n.natAbs := by
    rw [foldl_digits, ofDigitChars_digitsOf]
  rw [readInteger?, toList_toString_int, stripBy_eq_self fun _ => isNumberBlank_of_mem_toString,
    takeSign_signOf]
  simp only [unmarked, groupedDigits, groupedDigitsFrom_of_isDigit isDigit_of_mem_digitsOf]
  obtain ⟨c, rest, starts⟩ := List.exists_cons_of_ne_nil (digitsOf_ne_nil n.natAbs)
  rw [starts] at value ⊢
  simp only [List.map_cons] at value ⊢
  rw [value, signed_natAbs]

/-! ## Numbers in JSON texts -/

namespace Json

theorem Cursor.skip_append (offset : Nat) (passed rest : List Char) :
    (Cursor.mk offset (passed ++ rest)).skip passed.length =
      ⟨offset + passed.length, rest⟩ := by
  rw [Cursor.skip, List.drop_left]

/-- Whether a character could go on with a number in a JSON text. -/
def isNumberPart (c : Char) : Bool := c.isDigit || c == '.' || c == 'e' || c == 'E'

theorem isNumberPart_eq_false_iff {c : Char} : isNumberPart c = false ↔
    c.isDigit = false ∧ (c == '.') = false ∧ (c == 'e' || c == 'E') = false := by
  simp only [isNumberPart, Bool.or_eq_false_iff, and_assoc]

theorem leadingDigits_append {digits rest : List Char} (h : ∀ c ∈ digits, c.isDigit = true)
    (stops : StopsAt isNumberPart rest) : leadingDigits (digits ++ rest) = digits := by
  have same : (fun c => decide ('0' ≤ c) && decide (c ≤ '9')) = Char.isDigit := rfl
  rw [leadingDigits, same, List.takeWhile_append_of_pos h]
  cases rest with
  | nil => rw [List.takeWhile_nil, List.append_nil]
  | cons c rest =>
    have noDigit := (isNumberPart_eq_false_iff.mp ((stopsAt_cons rest).mp stops)).1
    rw [List.takeWhile_cons_of_neg (by simp [noDigit]), List.append_nil]

theorem wholePart_append (n : Nat) {rest : List Char} (stops : StopsAt isNumberPart rest) :
    wholePart (digitsOf n ++ rest) = digitsOf n := by
  rcases Nat.eq_zero_or_pos n with rfl | positive
  · rfl
  · have digits := leadingDigits_append (isDigit_of_mem_digitsOf (n := n)) stops
    obtain ⟨c, more, starts⟩ := List.exists_cons_of_ne_nil (digitsOf_ne_nil n)
    have first : c ≠ '0' := by simpa [starts] using head_digitsOf_ne_zero positive
    rw [starts] at digits ⊢
    unfold wholePart
    split
    next same => exact absurd (List.cons.inj same).1 first
    next => exact digits

theorem fractionPart_eq_nil {rest : List Char} (stops : StopsAt isNumberPart rest) :
    fractionPart rest = [] := by
  unfold fractionPart
  split
  next => exact absurd ((stopsAt_cons _).mp stops) (by decide)
  next => rfl

theorem exponentPart_eq_none {rest : List Char} (stops : StopsAt isNumberPart rest) :
    exponentPart rest = none := by
  cases rest with
  | nil => rfl
  | cons c rest =>
    have letter := (isNumberPart_eq_false_iff.mp ((stopsAt_cons rest).mp stops)).2.2
    simp only [exponentPart, letter, Bool.false_eq_true, if_false]

theorem digitsOf_append_ne_minus (n : Nat) (rest more : List Char) :
    digitsOf n ++ rest ≠ '-' :: more := by
  intro same
  obtain ⟨c, digits, starts⟩ := List.exists_cons_of_ne_nil (digitsOf_ne_nil n)
  have digit : c.isDigit = true := isDigit_of_mem_digitsOf (n := n) c (by simp [starts])
  rw [starts] at same
  obtain rfl : c = '-' := (List.cons.inj same).1
  exact absurd digit (by decide)

/-- After a whole number there is neither a fraction nor an exponent. However many digits it has, a
reader that is not strict reads it. -/
theorem readNumber_toString (n : Int) (offset : Nat) {rest : List Char}
    (stops : StopsAt isNumberPart rest) :
    readNumber false ⟨offset, (toString n).toList ++ rest⟩ =
      .ok (.integer n, ⟨offset + (toString n).toList.length, rest⟩) := by
  have whole := wholePart_append n.natAbs stops
  have value : digitsValue (digitValues (digitsOf n.natAbs)) = n.natAbs :=
    (foldl_digits _ 0).trans (ofDigitChars_digitsOf n.natAbs)
  have digits : (digitsOf n.natAbs).isEmpty = false := by simp [digitsOf_ne_nil]
  rw [toList_toString_int]
  unfold readNumber
  split
  next negative signs unsigned parts =>
    obtain ⟨rfl, rfl, rfl⟩ : negative = decide (n < 0) ∧ signs = (signOf n).length ∧
        unsigned = digitsOf n.natAbs ++ rest := by
      by_cases below : n < 0
      · simp only [signOf, below, if_true, List.cons_append, List.nil_append,
          Prod.mk.injEq] at parts
        simp [signOf, below, ← parts]
      · simp only [signOf, below, if_false, List.nil_append] at parts
        split at parts
        next same => exact absurd same (digitsOf_append_ne_minus _ _ _)
        next =>
          simp only [Prod.mk.injEq] at parts
          simp [signOf, below, ← parts]
    have number : (if decide (n < 0) = true then -(n.natAbs : Int) else n.natAbs) = n :=
      signed_natAbs n
    have size : (signOf n).length + (digitsOf n.natAbs).length =
        (signOf n ++ digitsOf n.natAbs).length := List.length_append.symm
    simp only [whole, digits, Bool.false_eq_true, if_false, List.drop_left,
      fractionPart_eq_nil stops, List.isEmpty_nil, if_true, List.drop_zero,
      exponentPart_eq_none stops, wholeNumber, value, Option.isNone_none, Bool.and_self, number,
      Option.map_none, Option.getD_none, Nat.add_zero, size, Cursor.skip_append]

end Json

end DocGraph
