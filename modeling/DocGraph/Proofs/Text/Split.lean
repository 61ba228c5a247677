import DocGraph.Text.Split
import Mathlib.Data.List.Infix
import Mathlib.Data.List.Lemmas

/-!
# Where a text is cut

A text is cut at the first occurrence of a delimiter, and what follows is cut the same way. Parts
that are glued together need not be the parts of the text that they make: an occurrence that begins
inside a part and ends inside the delimiter after it comes first.

## Main definitions

* `BeginsAfter`: no occurrence of a delimiter begins inside a part before it.
* `CutsInto`: the parts of a text, one occurrence of the delimiter after the other.
* `Overlaps`: the end of a part and a beginning of the delimiter make an occurrence.
* `OverlapsItself`: two occurrences of a delimiter may share characters.

## Main results

* `cutsInto_splitAt`, `CutsInto.splitAt_eq`: a text is cut into the parts that it splits into.
* `splitAt_intercalate_iff`: which parts are those of the text that they make.
* `intercalate_map_eq_self_iff`: shorter parts make another text.
-/

namespace DocGraph

variable {delimiter part rest cs : List Char} {parts : List (List Char)}

/-- The delimiter that follows a part does not occur any earlier. -/
def BeginsAfter (delimiter part : List Char) : Prop :=
  ∀ inner, inner <:+ part → inner ≠ [] → ¬ delimiter <+: inner ++ delimiter

/-- The parts of a text that is cut at the first occurrence of a delimiter, then at the first one in
what follows, until there is none. -/
inductive CutsInto (delimiter : List Char) : List Char → List (List Char) → Prop
  | last {part : List Char} : ¬ delimiter <:+: part → CutsInto delimiter part [part]
  | next {part rest : List Char} {parts : List (List Char)} : BeginsAfter delimiter part →
      CutsInto delimiter rest parts →
      CutsInto delimiter (part ++ delimiter ++ rest) (part :: parts)

/-- A part ends with a beginning of the delimiter, and the other characters of the delimiter are a
beginning of it as well. -/
def Overlaps (delimiter part : List Char) : Prop :=
  ∃ front back, delimiter = front ++ back ∧ front ≠ [] ∧ back ≠ [] ∧ front <:+ part ∧
    back <+: delimiter

/-- An end of the delimiter, not all of it, is a beginning of it. -/
def OverlapsItself (delimiter : List Char) : Prop :=
  ∃ front back, delimiter = front ++ back ∧ front ≠ [] ∧ back ≠ [] ∧ back <+: delimiter

theorem Overlaps.itself (h : Overlaps delimiter part) : OverlapsItself delimiter := by
  obtain ⟨front, back, split, nonempty, more, -, begins⟩ := h
  exact ⟨front, back, split, nonempty, more, begins⟩

/-- A single character has nothing to overlap with. -/
theorem not_overlapsItself_singleton (c : Char) : ¬ OverlapsItself [c] := by
  rintro ⟨front, back, split, nonempty, more, -⟩
  have total := congrArg List.length split
  have first := List.length_pos_iff.mpr nonempty
  have second := List.length_pos_iff.mpr more
  simp only [List.length_append, List.length_singleton] at total
  omega

/-! ## The first occurrence -/

theorem beginsAfter_nil (delimiter : List Char) : BeginsAfter delimiter [] := by
  intro inner ends nonempty
  exact absurd (List.suffix_nil.mp ends) nonempty

theorem beginsAfter_cons {c : Char} (later : ¬ delimiter <+: c :: part ++ delimiter)
    (h : BeginsAfter delimiter part) : BeginsAfter delimiter (c :: part) := by
  intro inner ends nonempty
  rcases List.suffix_cons_iff.mp ends with rfl | ends
  · exact later
  · exact h inner ends nonempty

theorem BeginsAfter.of_cons {c : Char} (h : BeginsAfter delimiter (c :: part)) :
    BeginsAfter delimiter part := by
  intro inner ends
  exact h inner (ends.trans (List.suffix_cons c part))

/-- Where a delimiter occurs, there is a first occurrence. -/
theorem exists_beginsAfter (h : delimiter <:+: cs) :
    ∃ part rest, cs = part ++ delimiter ++ rest ∧ BeginsAfter delimiter part := by
  induction cs with
  | nil =>
    obtain rfl := List.infix_nil.mp h
    exact ⟨[], [], rfl, beginsAfter_nil []⟩
  | cons c cs ih =>
    by_cases now : delimiter <+: c :: cs
    · obtain ⟨rest, split⟩ := now
      exact ⟨[], rest, split.symm, beginsAfter_nil delimiter⟩
    · have later : delimiter <:+: cs := (List.infix_cons_iff.mp h).resolve_left now
      obtain ⟨part, rest, rfl, begins⟩ := ih later
      refine ⟨c :: part, rest, rfl, beginsAfter_cons ?_ begins⟩
      intro earlier
      exact now (List.prefix_append_of_prefix earlier)

theorem BeginsAfter.not_isInfix (nonempty : delimiter ≠ []) (h : BeginsAfter delimiter part) :
    ¬ delimiter <:+: part := by
  rintro ⟨front, back, rfl⟩
  apply h (delimiter ++ back)
  · exact ⟨front, by rw [List.append_assoc]⟩
  · simp [nonempty]
  · rw [List.append_assoc]
    exact List.prefix_append delimiter _

/-- Unless it is inside the part, an earlier occurrence takes some of its characters from the part
and the others from the delimiter. -/
theorem beginsAfter_iff_not_overlaps (h : ¬ delimiter <:+: part) :
    BeginsAfter delimiter part ↔ ¬ Overlaps delimiter part := by
  constructor
  · rintro begins ⟨front, back, split, nonempty, -, ends, further, whole⟩
    apply begins front ends nonempty
    refine ⟨further, ?_⟩
    calc delimiter ++ further
      _ = front ++ (back ++ further) := by rw [split, List.append_assoc]
      _ = front ++ delimiter := by rw [whole]
  · intro apart inner ends nonempty earlier
    have short : inner.length < delimiter.length := by
      by_contra long
      have within : delimiter <+: inner :=
        List.prefix_of_prefix_length_le earlier (List.prefix_append inner _) (by omega)
      exact h (within.isInfix.trans ends.isInfix)
    obtain ⟨back, split⟩ : inner <+: delimiter :=
      List.prefix_of_prefix_length_le (List.prefix_append inner _) earlier (by omega)
    refine apart ⟨inner, back, split.symm, nonempty, ?_, ends, ?_⟩
    · rintro rfl
      rw [← split, List.append_nil] at short
      omega
    · -- What follows the part in the occurrence is where the delimiter begins.
      have whole : inner ++ back <+: inner ++ delimiter := by rwa [split]
      exact (List.prefix_append_right_inj inner).mp whole

/-! ## The parts -/

theorem splitFrom_skip (delimiter : List Char) (skip : Nat) (part cs : List Char) :
    splitFrom delimiter skip part cs = splitFrom delimiter 0 part (cs.drop skip) := by
  induction cs generalizing skip with
  | nil => rw [List.drop_nil, splitFrom, splitFrom]
  | cons c cs ih =>
    cases skip with
    | zero => rfl
    | succ skip =>
      rw [splitFrom, List.drop_succ_cons]
      exact ih skip

theorem splitFrom_of_not_isInfix (h : ¬ delimiter <:+: cs) :
    splitFrom delimiter 0 part cs = [part.reverse ++ cs] := by
  induction cs generalizing part with
  | nil => rw [splitFrom, List.append_nil]
  | cons c cs ih =>
    rw [List.infix_cons_iff, not_or] at h
    have absent : ¬ delimiter.isPrefixOf (c :: cs) = true :=
      fun found => h.1 (List.isPrefixOf_iff_prefix.mp found)
    rw [splitFrom, if_neg absent, ih h.2, List.reverse_cons, List.append_assoc]
    rfl

theorem splitFrom_of_beginsAfter (nonempty : delimiter ≠ []) (before : List Char)
    (h : BeginsAfter delimiter part) (rest : List Char) :
    splitFrom delimiter 0 before (part ++ delimiter ++ rest) =
      (before.reverse ++ part) :: splitFrom delimiter 0 [] rest := by
  induction part generalizing before with
  | nil =>
    obtain ⟨c, further, rfl⟩ := List.exists_cons_of_ne_nil nonempty
    have found : (c :: further).isPrefixOf (c :: (further ++ rest)) = true :=
      List.isPrefixOf_iff_prefix.mpr (List.prefix_append (c :: further) rest)
    rw [List.nil_append, List.cons_append, splitFrom, if_pos found, splitFrom_skip,
      List.append_nil, List.length_cons, Nat.add_sub_cancel, List.drop_left]
  | cons c part ih =>
    have absent : ¬ delimiter.isPrefixOf (c :: (part ++ delimiter ++ rest)) = true := by
      intro found
      have earlier : delimiter <+: c :: part ++ delimiter :=
        List.prefix_of_prefix_length_le (List.isPrefixOf_iff_prefix.mp found) ⟨rest, by simp⟩
          (by simp only [List.cons_append, List.length_cons, List.length_append]; omega)
      exact h (c :: part) List.suffix_rfl (List.cons_ne_nil c part) earlier
    rw [List.cons_append, List.cons_append, splitFrom, if_neg absent, ih (c :: before) h.of_cons,
      List.reverse_cons, List.append_assoc]
    rfl

theorem splitAt_of_ne_nil (nonempty : delimiter ≠ []) (cs : List Char) :
    splitAt delimiter cs = splitFrom delimiter 0 [] cs := by
  rw [splitAt, if_neg (by simp [nonempty])]

theorem CutsInto.splitAt_eq (nonempty : delimiter ≠ []) (h : CutsInto delimiter cs parts) :
    splitAt delimiter cs = parts := by
  rw [splitAt_of_ne_nil nonempty]
  induction h with
  | last absent => exact splitFrom_of_not_isInfix absent
  | next begins _ ih =>
    rw [splitFrom_of_beginsAfter nonempty [] begins, ih]
    rfl

theorem cutsInto_splitAt (nonempty : delimiter ≠ []) (cs : List Char) :
    CutsInto delimiter cs (splitAt delimiter cs) := by
  by_cases occurs : delimiter <:+: cs
  · obtain ⟨part, rest, rfl, begins⟩ := exists_beginsAfter occurs
    have cut := CutsInto.next begins (cutsInto_splitAt nonempty rest)
    rwa [cut.splitAt_eq nonempty]
  · have cut := CutsInto.last occurs
    rwa [cut.splitAt_eq nonempty]
termination_by cs.length
decreasing_by
  have := List.length_pos_iff.mpr nonempty
  subst cs
  simp only [List.length_append]
  omega

theorem CutsInto.ne_nil (h : CutsInto delimiter cs parts) : parts ≠ [] := by
  cases h <;> exact List.cons_ne_nil _ _

theorem CutsInto.intercalate_eq (h : CutsInto delimiter cs parts) :
    delimiter.intercalate parts = cs := by
  induction h with
  | last => exact List.intercalate_singleton
  | next _ further ih => rw [List.intercalate_cons_of_ne_nil further.ne_nil, ih]

theorem CutsInto.not_isInfix (nonempty : delimiter ≠ []) (h : CutsInto delimiter cs parts) :
    ∀ part ∈ parts, ¬ delimiter <:+: part := by
  induction h with
  | last absent => simpa using absent
  | next begins _ ih => exact List.forall_mem_cons.mpr ⟨begins.not_isInfix nonempty, ih⟩

theorem CutsInto.beginsAfter (h : CutsInto delimiter cs parts) :
    ∀ part ∈ parts.dropLast, BeginsAfter delimiter part := by
  induction h with
  | last => nofun
  | next begins further ih =>
    rw [List.dropLast_cons_of_ne_nil further.ne_nil]
    exact List.forall_mem_cons.mpr ⟨begins, ih⟩

theorem cutsInto_intercalate (some : parts ≠ []) (absent : ∀ part ∈ parts, ¬ delimiter <:+: part)
    (begins : ∀ part ∈ parts.dropLast, BeginsAfter delimiter part) :
    CutsInto delimiter (delimiter.intercalate parts) parts := by
  induction parts with
  | nil => contradiction
  | cons part parts ih =>
    obtain ⟨first, further⟩ := List.forall_mem_cons.mp absent
    by_cases last : parts = []
    · subst last
      rw [List.intercalate_singleton]
      exact .last first
    · rw [List.dropLast_cons_of_ne_nil last] at begins
      obtain ⟨now, later⟩ := List.forall_mem_cons.mp begins
      rw [List.intercalate_cons_of_ne_nil last]
      exact .next now (ih last further later)

theorem splitAt_ne_nil (nonempty : delimiter ≠ []) (cs : List Char) :
    splitAt delimiter cs ≠ [] :=
  (cutsInto_splitAt nonempty cs).ne_nil

theorem intercalate_splitAt (nonempty : delimiter ≠ []) (cs : List Char) :
    delimiter.intercalate (splitAt delimiter cs) = cs :=
  (cutsInto_splitAt nonempty cs).intercalate_eq

/-- Parts without the delimiter are those of the text that they make exactly if none of them but the
last overlaps the delimiter. -/
theorem splitAt_intercalate_iff (nonempty : delimiter ≠ []) (some : parts ≠ [])
    (absent : ∀ part ∈ parts, ¬ delimiter <:+: part) :
    splitAt delimiter (delimiter.intercalate parts) = parts ↔
      ∀ part ∈ parts.dropLast, ¬ Overlaps delimiter part := by
  have apart : (∀ part ∈ parts.dropLast, ¬ Overlaps delimiter part) ↔
      ∀ part ∈ parts.dropLast, BeginsAfter delimiter part :=
    forall₂_congr fun part mem =>
      (beginsAfter_iff_not_overlaps (absent part (List.dropLast_subset parts mem))).symm
  rw [apart]
  constructor
  · intro same
    have cut := cutsInto_splitAt nonempty (delimiter.intercalate parts)
    rw [same] at cut
    exact cut.beginsAfter
  · intro begins
    exact (cutsInto_intercalate some absent begins).splitAt_eq nonempty

/-! ## Shorter parts -/

section Shorter

variable {cut : List Char → List Char} (shortens : ∀ part, cut part <:+: part)
include shortens

theorem length_intercalate_map_le (delimiter : List Char) (parts : List (List Char)) :
    (delimiter.intercalate (parts.map cut)).length ≤ (delimiter.intercalate parts).length := by
  induction parts with
  | nil => rfl
  | cons part parts ih =>
    have first := (shortens part).length_le
    by_cases last : parts = []
    · subst last
      simpa using first
    · have last' : parts.map cut ≠ [] := by simpa using last
      simp only [List.map_cons, List.intercalate_cons_of_ne_nil last,
        List.intercalate_cons_of_ne_nil last', List.length_append]
      omega

/-- Parts with characters taken off at their ends make the same text only if nothing is taken
off. -/
theorem intercalate_map_eq_self_iff (delimiter : List Char) (parts : List (List Char)) :
    delimiter.intercalate (parts.map cut) = delimiter.intercalate parts ↔
      ∀ part ∈ parts, cut part = part := by
  constructor
  · intro same
    induction parts with
    | nil => nofun
    | cons part parts ih =>
      have first := (shortens part).length_le
      by_cases last : parts = []
      · subst last
        simpa using same
      · have last' : parts.map cut ≠ [] := by simpa using last
        have further := length_intercalate_map_le shortens delimiter parts
        rw [List.map_cons, List.intercalate_cons_of_ne_nil last,
          List.intercalate_cons_of_ne_nil last', List.append_assoc, List.append_assoc] at same
        -- Neither the first part nor the others can make up for characters that are gone.
        have total := congrArg List.length same
        simp only [List.length_append] at total
        obtain ⟨now, later⟩ := List.append_inj same (by omega)
        exact List.forall_mem_cons.mpr ⟨now, ih (List.append_cancel_left later)⟩
  · intro same
    rw [List.map_congr_left same, List.map_id']

end Shorter

end DocGraph
