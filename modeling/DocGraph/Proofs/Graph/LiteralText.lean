import DocGraph.Graph.Statement
import DocGraph.Proofs.Number.Printed
import Std.Data.String.ToInt

/-!
# Reading literals back

The characters of a literal show its kind: a text between quotes, the word for null, a truth
value, a whole number or a binary number. So values of different kinds stay apart, whatever
characters the texts hold. In a list of literals each of them can be told where it stands, if
its text holds no quotes.

## Main definitions

* `Literal.form`, `formOfChars`: the kind of a literal, and how its characters show it.
* `Literal.Unquoted`: a literal without quotes in its text.

## Main results

* `Literal.text_injective`: different literals are written differently.
* `selfDelimiting_literal`: literals can be told from what follows them.
-/

namespace DocGraph

/-! ## Kinds of literals -/

/-- The kinds of literals. -/
inductive LiteralForm where
  | null
  | truth
  | whole
  | float
  | quoted

/-- The kind of a literal. -/
def Literal.form : Literal → LiteralForm
  | .null => .null
  | .value (.bool _) => .truth
  | .value (.integer _) => .whole
  | .value (.float _) => .float
  | .value (.text _) => .quoted

/-- Whether a character stands in whole numbers. -/
def isWholeChar (c : Char) : Bool := c.isDigit || c == '-'

/-- The kind of a literal with given characters. -/
def formOfChars (cs : List Char) : LiteralForm :=
  if cs.head? = some '"' then .quoted
  else if cs = ['N', 'U', 'L', 'L'] then .null
  else if cs = ['t', 'r', 'u', 'e'] ∨ cs = ['f', 'a', 'l', 's', 'e'] then .truth
  else if cs.all isWholeChar then .whole
  else .float

theorem toList_text_text (s : String) :
    (Literal.value (.text s)).text.toList = '"' :: (s.toList ++ ['"']) := by
  simp [Literal.text, Scalar.written]

/-- The characters of a whole number are digits, after a sign perhaps. -/
theorem isWholeChar_of_mem_written {n : Int} {c : Char}
    (h : c ∈ (Scalar.integer n).written.toList) : isWholeChar c = true := by
  have digit {m : Nat} (h : c ∈ m.repr.toList) : c.isDigit = true :=
    Nat.isDigit_of_mem_toDigits (by decide) (by decide) (Nat.toList_repr ▸ h)
  cases n with
  | ofNat m =>
    have h : c ∈ m.repr.toList := h
    simp [isWholeChar, digit h]
  | negSucc m =>
    have h : c ∈ ("-" ++ (m + 1).repr).toList := h
    rw [String.toList_append] at h
    rcases List.mem_append.mp h with sign | h
    · obtain rfl : c = '-' := by simpa using sign
      rfl
    · simp [isWholeChar, digit h]

theorem isNumberChar_of_isWholeChar {c : Char} (h : isWholeChar c = true) :
    isNumberChar c = true := by
  rcases Bool.or_eq_true_iff.mp h with digit | sign
  · simp [isNumberChar, digit]
  · obtain rfl := beq_iff_eq.mp sign
    rfl

/-- Characters of numbers are neither quoted nor a word for another literal. -/
theorem formOfChars_number {cs : List Char} (h : ∀ c ∈ cs, isNumberChar c = true) :
    formOfChars cs = if cs.all isWholeChar then .whole else .float := by
  have quote : cs.head? ≠ some '"' := fun head => by cases h '"' (List.mem_of_mem_head? head)
  have null : cs ≠ ['N', 'U', 'L', 'L'] := by
    rintro rfl
    cases h 'N' (by simp)
  have truth : ¬ (cs = ['t', 'r', 'u', 'e'] ∨ cs = ['f', 'a', 'l', 's', 'e']) := by
    rintro (rfl | rfl)
    · cases h 't' (by simp)
    · cases h 'l' (by simp)
  simp only [formOfChars, quote, null, truth, if_false]

/-- The characters of a literal show its kind. -/
theorem formOfChars_text (literal : Literal) : formOfChars literal.text.toList = literal.form := by
  match literal with
  | .null => rfl
  | .value (.bool b) => cases b <;> rfl
  | .value (.text s) =>
    rw [toList_text_text]
    simp [formOfChars, Literal.form]
  | .value (.integer n) =>
    have whole : (Scalar.integer n).written.toList.all isWholeChar = true :=
      List.all_eq_true.mpr fun c h => isWholeChar_of_mem_written h
    rw [Literal.text, formOfChars_number fun c h =>
      isNumberChar_of_isWholeChar (isWholeChar_of_mem_written h), if_pos whole, Literal.form]
  | .value (.float x) =>
    have mark : ¬ (x.text.toList.all isWholeChar = true) := by
      obtain ⟨c, h, digit, sign⟩ := x.exists_mark_text
      intro all
      simpa [isWholeChar, digit, sign] using List.all_eq_true.mp all c h
    rw [Literal.text, Scalar.written, formOfChars_number fun c => x.isNumberChar_of_mem_text,
      if_neg mark, Literal.form]

/-- Different literals are written differently. -/
theorem Literal.text_injective : Function.Injective Literal.text := by
  intro a b h
  have form : a.form = b.form := by
    rw [← formOfChars_text, ← formOfChars_text, h]
  -- Literals of different kinds are out of the question by their forms.
  match a, b with
  | .null, .null => rfl
  | .value (.bool x), .value (.bool y) =>
    cases x <;> cases y <;> simp [Literal.text, Scalar.written] at h ⊢
  | .value (.integer m), .value (.integer n) => exact congrArg _ (congrArg _ (Int.repr_injective h))
  | .value (.float x), .value (.float y) =>
    exact congrArg _ (congrArg _ (Binary64.text_injective h))
  | .value (.text s), .value (.text t) =>
    replace h := congrArg String.toList h
    rw [toList_text_text, toList_text_text] at h
    have same : s.toList = t.toList := by simpa using h
    exact congrArg _ (congrArg _ (String.toList_inj.mp same))

/-! ## The format of literals -/

/-- Whether a character does not end a bare word. -/
def isBareChar (c : Char) : Bool := c != ' ' && c != ',' && c != ')'

/-- Characters of a kind that holds none of the characters that end a bare word. -/
theorem isBareChar_of_kind {kind : Char → Bool} (blank : kind ' ' = false)
    (comma : kind ',' = false) (close : kind ')' = false) {c : Char} (h : kind c = true) :
    isBareChar c = true := by
  have ne {other : Char} (out : kind other = false) : c ≠ other := by
    rintro rfl
    exact Bool.false_ne_true (out.symm.trans h)
  simp [isBareChar, ne blank, ne comma, ne close]

/-- A literal holds no quotes. -/
def Literal.Unquoted : Literal → Prop
  | .value (.text s) => '"' ∉ s.toList
  | _ => True

theorem bare_of_number {cs : List Char} (h : ∀ c ∈ cs, isNumberChar c = true) :
    cs.head? ≠ some '"' ∧ ∀ c ∈ cs, isBareChar c = true :=
  ⟨fun head => absurd (h '"' (List.mem_of_mem_head? head)) (by decide),
    fun c hc => isBareChar_of_kind rfl rfl rfl (h c hc)⟩

/-- A literal is a text between quotes, or a bare word. -/
theorem Literal.eq_text_or_bare (literal : Literal) :
    (∃ s, literal = .value (.text s)) ∨
      literal.text.toList.head? ≠ some '"' ∧ ∀ c ∈ literal.text.toList, isBareChar c = true := by
  match literal with
  | .null => exact .inr ⟨by simp [Literal.text], List.all_eq_true.mp rfl⟩
  | .value (.bool b) =>
    cases b <;>
      exact .inr ⟨by simp [Literal.text, Scalar.written], List.all_eq_true.mp rfl⟩
  | .value (.text s) => exact .inl ⟨s, rfl⟩
  | .value (.integer n) =>
    have number (c : Char) (h : c ∈ (Scalar.integer n).written.toList) : isNumberChar c = true :=
      isNumberChar_of_isWholeChar (isWholeChar_of_mem_written h)
    exact .inr (bare_of_number number)
  | .value (.float x) => exact .inr (bare_of_number fun c h => x.isNumberChar_of_mem_text h)

theorem bare_append_ne {cs rest : List Char} (bare : cs.head? ≠ some '"')
    (stops : StopsAt isBareChar rest) (quoted : List Char) : cs ++ rest ≠ '"' :: quoted := by
  cases cs with
  | nil =>
    rintro rfl
    cases stops '"' rfl
  | cons c cs =>
    rintro ⟨⟩
    exact bare rfl

theorem selfDelimiting_quoted :
    SelfDelimiting (fun s : String => '"' ∉ s.toList) Anything
      (fun s => '"' :: (s.toList ++ ['"'])) := by
  have chars := (selfDelimiting_enclosed '"').comp (f := String.toList)
    (fun _ _ _ _ => String.toList_inj.mp) fun _ h => h
  exact chars.after ['"']

theorem selfDelimiting_literal :
    SelfDelimiting Literal.Unquoted (StopsAt isBareChar) (·.text.toList) := by
  intro a b ha hb x y hx hy same
  dsimp only at same
  rcases a.eq_text_or_bare with ⟨s, rfl⟩ | ⟨head, bare⟩ <;>
    rcases b.eq_text_or_bare with ⟨t, rfl⟩ | ⟨head', bare'⟩
  -- A quote starts texts only, and it does not follow a bare word.
  · obtain ⟨text, rest⟩ := selfDelimiting_quoted ha hb trivial trivial
      (by simpa [toList_text_text] using same)
    exact ⟨congrArg _ (congrArg _ text), rest⟩
  · rw [toList_text_text] at same
    exact absurd same.symm (bare_append_ne head' hy _)
  · rw [toList_text_text] at same
    exact absurd same (bare_append_ne head hx _)
  · obtain ⟨text, rest⟩ := selfDelimiting_span isBareChar bare bare' hx hy same
    exact ⟨Literal.text_injective (String.toList_inj.mp text), rest⟩

theorem text_ne_nil (literal : Literal) : literal.text.toList ≠ [] := by
  match literal with
  | .null => simp [Literal.text]
  | .value (.bool b) => cases b <;> simp [Literal.text, Scalar.written]
  | .value (.text s) => simp [toList_text_text]
  | .value (.integer (.ofNat m)) => exact Nat.toList_repr ▸ Nat.toDigits_ne_nil
  | .value (.integer (.negSucc m)) => simp [Literal.text, Scalar.written, toString, Int.repr]
  | .value (.float x) =>
    obtain ⟨c, h, -⟩ := x.exists_mark_text
    exact List.ne_nil_of_mem h

/-- What starts a bare word or a text does not close a list. -/
theorem exists_cons_literal (literal : Literal) :
    ∃ c rest, literal.text.toList = c :: rest ∧ c ≠ ')' := by
  obtain ⟨c, rest, starts⟩ := List.exists_cons_of_ne_nil (text_ne_nil literal)
  refine ⟨c, rest, starts, ?_⟩
  rintro rfl
  rcases literal.eq_text_or_bare with ⟨s, rfl⟩ | ⟨-, bare⟩
  · simp [toList_text_text] at starts
  · cases bare ')' (by simp [starts])

end DocGraph
