import DocGraph.Text.Blank
import Mathlib.Data.List.TakeWhile

/-!
# What is left of a text that is stripped

A text without the characters of a kind at its ends is what stands between them: the only part of
the text whose ends are free of the kind and which has nothing but the kind around it.

## Main definitions

* `EndsFreeOf`: characters of which neither the first nor the last is of a kind.

## Main results

* `exists_stripBy`: what is stripped off a text, and what is left.
* `stripBy_eq_of_around`: nothing else could be left.
-/

namespace DocGraph

variable {kind : Char → Bool} {cs front body back : List Char}

/-- Neither the first nor the last character is of a kind. -/
def EndsFreeOf (kind : Char → Bool) (cs : List Char) : Prop :=
  (∀ c ∈ cs.head?, kind c = false) ∧ ∀ c ∈ cs.getLast?, kind c = false

theorem EndsFreeOf.reverse (h : EndsFreeOf kind cs) : EndsFreeOf kind cs.reverse := by
  rw [EndsFreeOf, List.head?_reverse, List.getLast?_reverse]
  exact h.symm

theorem dropWhile_eq_self (h : ∀ c ∈ cs.head?, kind c = false) : cs.dropWhile kind = cs := by
  cases cs with
  | nil => rfl
  | cons c cs =>
    have start : kind c = false := h c rfl
    exact List.dropWhile_cons_of_neg (by simp [start])

/-- The first character that is left is not of the kind. -/
theorem head?_dropWhile (kind : Char → Bool) (cs : List Char) :
    ∀ c ∈ (cs.dropWhile kind).head?, kind c = false := by
  intro c first
  have stops := List.head?_dropWhile_not kind cs
  rw [first] at stops
  exact stops

/-- What is stripped off a text is of the kind, and what is left does not begin or end with it. -/
theorem exists_stripBy (kind : Char → Bool) (cs : List Char) :
    ∃ front back, cs = front ++ stripBy kind cs ++ back ∧ (∀ c ∈ front, kind c = true) ∧
      (∀ c ∈ back, kind c = true) ∧ EndsFreeOf kind (stripBy kind cs) := by
  have rest : cs.dropWhile kind =
      stripBy kind cs ++ ((cs.dropWhile kind).reverse.takeWhile kind).reverse := by
    rw [stripBy, ← List.reverse_append, List.takeWhile_append_dropWhile, List.reverse_reverse]
  refine ⟨cs.takeWhile kind, ((cs.dropWhile kind).reverse.takeWhile kind).reverse, ?_, ?_, ?_,
    ?_, ?_⟩
  · rw [List.append_assoc, ← rest, List.takeWhile_append_dropWhile]
  · intro c mem
    exact List.mem_takeWhile_imp mem
  · intro c mem
    exact List.mem_takeWhile_imp (List.mem_reverse.mp mem)
  · -- The first character that is left is also the first one after the front.
    intro c first
    apply head?_dropWhile kind cs c
    rw [rest, List.head?_append, first]
    rfl
  · intro c last
    rw [stripBy, List.getLast?_reverse] at last
    exact head?_dropWhile kind _ c last

theorem stripBy_isInfix (kind : Char → Bool) (cs : List Char) : stripBy kind cs <:+: cs := by
  obtain ⟨front, back, split, -, -, -⟩ := exists_stripBy kind cs
  exact ⟨front, back, split.symm⟩

theorem stripBy_eq_of_around (off : ∀ c ∈ front, kind c = true) (off' : ∀ c ∈ back, kind c = true)
    (ends : EndsFreeOf kind body) : stripBy kind (front ++ body ++ back) = body := by
  have dropped : (body ++ back).dropWhile kind = [] ∧ body = [] ∨
      (body ++ back).dropWhile kind = body ++ back := by
    cases body with
    | nil =>
      refine .inl ⟨?_, rfl⟩
      rw [List.nil_append, List.dropWhile_eq_nil_iff]
      exact off'
    | cons c body => exact .inr (dropWhile_eq_self ends.1)
  rw [stripBy, List.append_assoc, List.dropWhile_append_of_pos off]
  rcases dropped with ⟨nothing, rfl⟩ | kept
  · rw [nothing]
    rfl
  · have off' : ∀ c ∈ back.reverse, kind c = true := fun c mem => off' c (List.mem_reverse.mp mem)
    rw [kept, List.reverse_append, List.dropWhile_append_of_pos off',
      dropWhile_eq_self ends.reverse.1, List.reverse_reverse]

/-- Stripping leaves a text as it is exactly if there is nothing to strip off. -/
theorem stripBy_eq_self_iff : stripBy kind cs = cs ↔ EndsFreeOf kind cs := by
  constructor
  · intro same
    obtain ⟨-, -, -, -, -, ends⟩ := exists_stripBy kind cs
    rwa [same] at ends
  · intro ends
    have kept : stripBy kind ([] ++ cs ++ []) = cs := stripBy_eq_of_around nofun nofun ends
    simpa using kept

theorem stripBy_stripBy (kind : Char → Bool) (cs : List Char) :
    stripBy kind (stripBy kind cs) = stripBy kind cs := by
  obtain ⟨-, -, -, -, -, ends⟩ := exists_stripBy kind cs
  exact stripBy_eq_self_iff.mpr ends

/-- The first character that is left is the first one that is not of the kind, and likewise for the
last one. -/
theorem head?_stripBy (kind : Char → Bool) (cs : List Char) :
    (stripBy kind cs).head? = cs.find? (!kind ·) ∧
      (stripBy kind cs).getLast? = cs.reverse.find? (!kind ·) := by
  have first {front body back : List Char} (off : ∀ c ∈ front, kind c = true)
      (off' : ∀ c ∈ back, kind c = true) (start : ∀ c ∈ body.head?, kind c = false) :
      (front ++ body ++ back).find? (!kind ·) = body.head? := by
    have none {cs : List Char} (off : ∀ c ∈ cs, kind c = true) : cs.find? (!kind ·) = none :=
      List.find?_eq_none.mpr fun c mem => by simp [off c mem]
    rw [List.find?_append, List.find?_append, none off, none off']
    cases body with
    | nil => rfl
    | cons c body => simp [start c rfl]
  obtain ⟨front, back, split, off, off', ends⟩ := exists_stripBy kind cs
  generalize stripBy kind cs = body at split ends
  subst split
  refine ⟨(first off off' ends.1).symm, ?_⟩
  rw [List.reverse_append, List.reverse_append, ← List.append_assoc, first _ _ ends.reverse.1,
    List.head?_reverse]
  · exact fun c mem => off' c (List.mem_reverse.mp mem)
  · exact fun c mem => off c (List.mem_reverse.mp mem)

/-- Trimming a text again changes nothing. -/
theorem trim_trim (text : String) : trim (trim text) = trim text := by
  simp only [trim, String.toList_ofList, stripBy_stripBy]

end DocGraph
