import DocGraph.Proofs.Number.Whole
import DocGraph.Text.Printable
import DocGraph.Text.Quoted
import DocGraph.Text.Split

/-!
# Line breaks in texts

A text takes one line unless it holds one of the characters that end lines. Numbers hold none, and
a text in quotes holds none either, because all of them are escaped. So in a text that is put
together from literal words, numbers, quoted texts and others, every line break is one of these
others.

## Main definitions

* `lineBreakChars`: the characters that end a line.
* `lineBreaks`: the line breaks of a text.
* `BreaksWithin`, `AllWithin`: the line breaks of a text, or of some texts, are of a kind.

## Main results

* `lineBreaks_append`, `lineBreaks_joinText`: texts that are put together.
* `lineBreaks_quoted`: a text in quotes takes one line.
-/

namespace DocGraph

/-- The characters that end a line. -/
def lineBreakChars : List Char :=
  ['\n', '\x0b', '\x0c', '\r', '\x1c', '\x1d', '\x1e', '\x85', '\u2028', '\u2029']

def isLineBreak (c : Char) : Bool := lineBreakChars.contains c

/-- The line breaks of a text, in order. -/
def lineBreaks (text : String) : List Char := text.toList.filter isLineBreak

theorem isLineBreak_iff {c : Char} : isLineBreak c = true ↔ c ∈ lineBreakChars := by
  simp [isLineBreak]

theorem mem_lineBreaks {text : String} {c : Char} :
    c ∈ lineBreaks text ↔ c ∈ text.toList ∧ c ∈ lineBreakChars := by
  rw [lineBreaks, List.mem_filter, isLineBreak_iff]

theorem lineBreaks_ofList (cs : List Char) :
    lineBreaks (String.ofList cs) = cs.filter isLineBreak := by
  rw [lineBreaks, String.toList_ofList]

/-! ## Texts that take one line -/

/-- None of the characters of a text ends a line. -/
theorem lineBreaks_of_all {text : String}
    (h : (text.toList.all fun c => !isLineBreak c) = true) : lineBreaks text = [] := by
  simpa [lineBreaks] using h

/-- A literal text is a list of characters, on which this is decided. -/
theorem all_toList_ofList {cs : List Char} {p : Char → Bool} (h : cs.all p = true) :
    (String.ofList cs).toList.all p = true := by
  rwa [String.toList_ofList]

/-- A literal text whose characters are none that end a line. -/
theorem lineBreaks_word {cs : List Char} (h : (cs.all fun c => !isLineBreak c) = true) :
    lineBreaks (String.ofList cs) = [] :=
  lineBreaks_of_all (all_toList_ofList h)

/-- Characters of a kind that no line break is of take one line. -/
theorem lineBreaks_of_kind {text : String} (kind : Char → Bool)
    (all : ∀ c ∈ text.toList, kind c = true)
    (apart : (lineBreakChars.all fun c => !kind c) = true) : lineBreaks text = [] := by
  refine List.filter_eq_nil_iff.mpr fun c mem breaks => ?_
  have other := List.all_eq_true.mp apart c (isLineBreak_iff.mp breaks)
  simp [all c mem] at other

@[simp high]
theorem lineBreaks_repr_nat (n : Nat) : lineBreaks n.repr = [] := by
  refine lineBreaks_of_kind Char.isDigit (fun c mem => ?_) (by decide)
  exact Nat.isDigit_of_mem_toDigits (by decide) (by decide) (Nat.toList_repr ▸ mem)

@[simp high]
theorem lineBreaks_repr_int (n : Int) : lineBreaks n.repr = [] := by
  refine lineBreaks_of_kind (fun c => c.isDigit || c == '-') (fun c mem => ?_) (by decide)
  rw [show n.repr = toString n from rfl, toList_toString_int] at mem
  rcases List.mem_append.mp mem with sign | digit
  · unfold signOf at sign
    split at sign
    · obtain rfl := List.mem_singleton.mp sign
      rfl
    · cases sign
  · have isDigit : c.isDigit = true :=
      Nat.isDigit_of_mem_toDigits (by decide) (by decide) digit
    simp [isDigit]

@[simp high]
theorem lineBreaks_text (x : Binary64) : lineBreaks x.text = [] :=
  lineBreaks_of_kind isNumberChar (fun _ => x.isNumberChar_of_mem_text) (by decide)

/-! ## Quoted texts -/

theorem not_isLineBreak_digitChar : ∀ d < 16, isLineBreak (Nat.digitChar d) = false := by decide

theorem not_isLineBreak_of_mem_toDigits {n : Nat} {c : Char} (h : c ∈ Nat.toDigits 16 n) :
    isLineBreak c = false := by
  induction n using Nat.strongRecOn with
  | ind n ih =>
    by_cases single : n < 16
    · rw [Nat.toDigits_of_lt_base single] at h
      obtain rfl := List.mem_singleton.mp h
      exact not_isLineBreak_digitChar n single
    · rw [Nat.toDigits_of_base_le (by decide) (by omega)] at h
      rcases List.mem_append.mp h with earlier | last
      · exact ih (n / 16) (by omega) earlier
      · obtain rfl := List.mem_singleton.mp last
        exact not_isLineBreak_digitChar (n % 16) (by omega)

theorem not_isLineBreak_of_mem_hexDigits {width n : Nat} {c : Char} (h : c ∈ hexDigits width n) :
    isLineBreak c = false := by
  rcases List.mem_append.mp h with zero | digit
  · obtain rfl := List.eq_of_mem_replicate zero
    rfl
  · exact not_isLineBreak_of_mem_toDigits digit

theorem filter_hexDigits (width n : Nat) : (hexDigits width n).filter isLineBreak = [] :=
  List.filter_eq_nil_iff.mpr fun c mem => by simp [not_isLineBreak_of_mem_hexDigits mem]

theorem lineBreaks_hexDigits (width n : Nat) :
    lineBreaks (String.ofList (hexDigits width n)) = [] := by
  rw [lineBreaks_ofList, filter_hexDigits]

theorem filter_escape {letter : Char} {digits : List Char} (named : isLineBreak letter = false)
    (none : digits.filter isLineBreak = []) :
    ('\\' :: letter :: digits).filter isLineBreak = [] := by
  rw [List.filter_cons_of_neg (by decide), List.filter_cons_of_neg (by simp [named]), none]

/-- The line breaks that are not escaped by a letter have no visible form. -/
theorem isPrintable_of_isLineBreak {c : Char} (h : isLineBreak c = true) :
    isPrintable c = false := by
  have none : (lineBreakChars.all fun c => !isPrintable c) = true := by decide +kernel
  simpa using List.all_eq_true.mp none c (isLineBreak_iff.mp h)

theorem filter_quotedChar {quote : Char} (plain : isLineBreak quote = false) (c : Char) :
    (quotedChar quote c).filter isLineBreak = [] := by
  unfold quotedChar
  split
  next same =>
    obtain rfl | rfl := by simpa using same
    · exact filter_escape plain rfl
    · rfl
  split
  · rfl
  split
  · rfl
  split
  · rfl
  split
  next visible =>
    have other : isLineBreak c ≠ true := fun breaks => by
      rw [isPrintable_of_isLineBreak breaks] at visible
      cases visible
    exact List.filter_cons_of_neg other
  split
  · exact filter_escape rfl (filter_hexDigits 2 _)
  split
  · exact filter_escape rfl (filter_hexDigits 4 _)
  · exact filter_escape rfl (filter_hexDigits 8 _)

theorem not_isLineBreak_chooseQuote (cs : List Char) : isLineBreak (chooseQuote cs) = false := by
  unfold chooseQuote
  split <;> rfl

/-- A text in quotes takes one line, whatever the text. -/
@[simp high]
theorem lineBreaks_quoted (text : String) : lineBreaks (quoted text) = [] := by
  have quote := not_isLineBreak_chooseQuote text.toList
  have inside : (text.toList.flatMap (quotedChar (chooseQuote text.toList))).filter isLineBreak =
      [] := by
    rw [List.filter_flatMap]
    simp [filter_quotedChar quote]
  rw [quoted, lineBreaks_ofList, List.filter_append, List.filter_cons_of_neg (by simp [quote]),
    inside, List.filter_cons_of_neg (by simp [quote])]
  rfl

/-! ## Texts that are put together -/

@[simp high]
theorem lineBreaks_append (s t : String) : lineBreaks (s ++ t) = lineBreaks s ++ lineBreaks t := by
  rw [lineBreaks, String.toList_append, List.filter_append]
  rfl

/-- A text stands for itself where it is put into another. -/
@[simp high]
theorem lineBreaks_toString (text : String) : lineBreaks (toString text) = lineBreaks text := rfl

@[simp high]
theorem lineBreaks_toString_char (c : Char) :
    lineBreaks (toString c) = lineBreaks (String.singleton c) := rfl

theorem lineBreaks_joinText {delimiter : String} (plain : lineBreaks delimiter = [])
    (parts : List String) : lineBreaks (joinText delimiter parts) = parts.flatMap lineBreaks := by
  rw [lineBreaks, joinText, String.toList_intercalate]
  induction parts with
  | nil => rfl
  | cons part rest ih =>
    cases rest with
    | nil => simp [lineBreaks]
    | cons next rest =>
      have none : delimiter.toList.filter isLineBreak = [] := plain
      rw [List.map_cons, List.intercalate_cons_of_ne_nil (by simp), List.filter_append,
        List.filter_append, none, List.append_nil, ih, List.flatMap_cons]
      rfl

/-! ## Line breaks of a kind -/

/-- Every line break of a text is of a kind. -/
def BreaksWithin (kind : Char → Prop) (text : String) : Prop := ∀ c ∈ lineBreaks text, kind c

/-- Every line break of some texts is of a kind. -/
def AllWithin (kind : Char → Prop) (texts : List String) : Prop :=
  ∀ text ∈ texts, BreaksWithin kind text

variable {kind : Char → Prop} {s t : String}

theorem BreaksWithin.of_lineBreaks (h : lineBreaks s = []) : BreaksWithin kind s := by
  intro c mem
  rw [h] at mem
  cases mem

theorem BreaksWithin.imp {kind' : Char → Prop} (h : BreaksWithin kind s)
    (weaker : ∀ c, kind c → kind' c) : BreaksWithin kind' s :=
  fun c breaks => weaker c (h c breaks)

theorem AllWithin.imp {kind' : Char → Prop} {texts : List String} (h : AllWithin kind texts)
    (weaker : ∀ c, kind c → kind' c) : AllWithin kind' texts :=
  fun text among => (h text among).imp weaker

theorem AllWithin.of_lineBreaks {texts : List String} (h : texts.flatMap lineBreaks = []) :
    AllWithin kind texts :=
  fun text among => .of_lineBreaks (List.flatMap_eq_nil_iff.mp h text among)

theorem BreaksWithin.append (hs : BreaksWithin kind s) (ht : BreaksWithin kind t) :
    BreaksWithin kind (s ++ t) := by
  intro c mem
  rw [lineBreaks_append] at mem
  exact (List.mem_append.mp mem).elim (hs c) (ht c)

/-- A text that is made of the characters of another, and of some that are no line breaks. -/
theorem BreaksWithin.of_chars (h : BreaksWithin kind s)
    (made : ∀ c ∈ t.toList, c ∈ s.toList ∨ isLineBreak c = false) : BreaksWithin kind t := by
  intro c mem
  obtain ⟨among, breaks⟩ := mem_lineBreaks.mp mem
  obtain own | other := made c among
  · exact h c (mem_lineBreaks.mpr ⟨own, breaks⟩)
  · rw [isLineBreak_iff.mpr breaks] at other
    cases other

end DocGraph
