import DocGraph.Proofs.Text.Blank
import DocGraph.Proofs.Text.Split
import DocGraph.Transform.Registry

/-!
# Lists that are joined again

A list is cut at its delimiter, its parts are trimmed and joined with the same delimiter. Trimming
can bring the end of a part next to a delimiter so that the two make another occurrence, which
begins in the part: then the list that comes out has other parts than the trimmed ones, and joining
it again may change it. A delimiter that does not overlap itself, such as a single character, never
does this.

## Main definitions

* `joinDelimiter`: the delimiter that parameters give.
* `JoinsTo`: what the transform makes of a text with a delimiter.

## Main results

* `splitText_rejoin_iff`: when a joined list has the trimmed parts.
* `rejoin_eq_self_iff`: when joining leaves a list as it is.
* `parts_kept_iff_not_overlaps`: the parts of a joined list, and joining it again.
-/

namespace DocGraph

variable {delimiter : String}

/-- The delimiter that parameters give, or the one for lists without. -/
def joinDelimiter (params : Params) : String :=
  (params.given? "delimiter").getD defaultDelimiter

/-- Whatever the other parameters are, the transform makes one text of another. -/
def JoinsTo (delimiter text joined : String) : Prop :=
  ∀ params, joinDelimiter params = delimiter →
    TransformRegistry.builtin.apply "array_join" (.string text) params =
      .ok ⟨.text joined, .string, .string⟩

/-- Every delimiter but the empty one can be given. -/
theorem joinDelimiter_given (nonempty : delimiter ≠ "") :
    joinDelimiter [("delimiter", delimiter)] = delimiter := by
  have given : Params.given? [("delimiter", delimiter)] "delimiter" = some delimiter := by
    simp [Params.given?, nonempty]
  rw [joinDelimiter, given, Option.getD_some]

theorem joinsTo_iff (nonempty : delimiter ≠ "") {text joined : String} :
    JoinsTo delimiter text joined ↔ joined = rejoin delimiter text := by
  have given (params : Params) (asked : joinDelimiter params = delimiter) :
      TransformRegistry.builtin.apply "array_join" (.string text) params =
        .ok ⟨.text (rejoin delimiter text), .string, .string⟩ := by
    subst asked
    rfl
  constructor
  · intro joins
    have asked := joinDelimiter_given nonempty
    have same := (given _ asked).symm.trans (joins _ asked)
    simp only [Except.ok.injEq, Transformed.mk.injEq, Scalar.text.injEq, and_true] at same
    exact same.symm
  · rintro rfl
    exact given

/-! ## Texts as characters -/

theorem toList_ne_nil (nonempty : delimiter ≠ "") : delimiter.toList ≠ [] :=
  fun nothing => nonempty (String.toList_eq_nil_iff.mp nothing)

theorem toList_trim (text : String) : (trim text).toList = stripBy isPlainBlank text.toList :=
  String.toList_ofList

theorem map_toList_splitText (delimiter text : String) :
    (splitText delimiter text).map String.toList = splitAt delimiter.toList text.toList := by
  have back : String.toList ∘ String.ofList = id := funext fun _ => String.toList_ofList
  rw [splitText, List.map_map, back, List.map_id]

/-- The trimmed parts of a text, as characters. -/
theorem map_toList_trimmed (delimiter text : String) :
    ((splitText delimiter text).map trim).map String.toList =
      (splitAt delimiter.toList text.toList).map (stripBy isPlainBlank) := by
  rw [← map_toList_splitText, List.map_map, List.map_map]
  apply List.map_congr_left
  intro part _
  exact toList_trim part

theorem toList_rejoin (delimiter text : String) :
    (rejoin delimiter text).toList = delimiter.toList.intercalate
      ((splitAt delimiter.toList text.toList).map (stripBy isPlainBlank)) := by
  rw [rejoin, joinText, String.toList_intercalate, map_toList_trimmed]

/-! ## Parts and trimmed parts -/

theorem not_isInfix_trimmed (nonempty : delimiter ≠ "") (text : String) :
    ∀ part ∈ (splitAt delimiter.toList text.toList).map (stripBy isPlainBlank),
      ¬ delimiter.toList <:+: part := by
  intro trimmed among occurs
  obtain ⟨part, mem, rfl⟩ := List.mem_map.mp among
  have cut := cutsInto_splitAt (toList_ne_nil nonempty) text.toList
  exact cut.not_isInfix (toList_ne_nil nonempty) part mem (occurs.trans (stripBy_isInfix _ part))

/-- A joined list has the trimmed parts exactly if none of them but the last overlaps the
delimiter. -/
theorem splitText_rejoin_iff (nonempty : delimiter ≠ "") (text : String) :
    splitText delimiter (rejoin delimiter text) = (splitText delimiter text).map trim ↔
      ∀ part ∈ ((splitText delimiter text).map trim).dropLast,
        ¬ Overlaps delimiter.toList part.toList := by
  have inj : Function.Injective (List.map String.toList) :=
    List.map_injective_iff.mpr fun _ _ => String.toList_inj.mp
  have some : (splitAt delimiter.toList text.toList).map (stripBy isPlainBlank) ≠ [] := by
    simp [splitAt_ne_nil (toList_ne_nil nonempty)]
  have parts := splitAt_intercalate_iff (toList_ne_nil nonempty) some
    (not_isInfix_trimmed nonempty text)
  rw [← inj.eq_iff, map_toList_splitText, map_toList_trimmed, toList_rejoin, parts,
    ← map_toList_trimmed, ← List.map_dropLast, List.forall_mem_map]

/-- Joining leaves a list as it is exactly if its parts are trimmed. -/
theorem rejoin_eq_self_iff (nonempty : delimiter ≠ "") (text : String) :
    rejoin delimiter text = text ↔ ∀ part ∈ splitText delimiter text, trim part = part := by
  have whole := intercalate_splitAt (toList_ne_nil nonempty) text.toList
  have same := intercalate_map_eq_self_iff (stripBy_isInfix isPlainBlank) delimiter.toList
    (splitAt delimiter.toList text.toList)
  rw [← String.toList_inj, toList_rejoin]
  rw [whole, ← map_toList_splitText, List.forall_mem_map] at same
  rw [← map_toList_splitText, same]
  refine forall₂_congr fun part _ => ?_
  rw [← toList_trim, String.toList_inj]

theorem splitText_rejoin_of_apart (nonempty : delimiter ≠ "")
    (apart : ¬ OverlapsItself delimiter.toList) (text : String) :
    splitText delimiter (rejoin delimiter text) = (splitText delimiter text).map trim := by
  apply (splitText_rejoin_iff nonempty text).mpr
  intro part _ overlaps
  exact apart overlaps.itself

/-- A list with a single character as its delimiter has the trimmed parts. -/
theorem splitText_rejoin_of_char {c : Char} (single : delimiter.toList = [c]) (text : String) :
    splitText delimiter (rejoin delimiter text) = (splitText delimiter text).map trim := by
  have nonempty : delimiter ≠ "" := by
    rintro rfl
    cases single
  apply splitText_rejoin_of_apart nonempty
  rw [single]
  exact not_overlapsItself_singleton c

theorem rejoin_rejoin_of_kept (nonempty : delimiter ≠ "") {text : String}
    (kept : splitText delimiter (rejoin delimiter text) = (splitText delimiter text).map trim) :
    rejoin delimiter (rejoin delimiter text) = rejoin delimiter text := by
  rw [rejoin_eq_self_iff nonempty, kept]
  intro trimmed mem
  obtain ⟨part, -, rfl⟩ := List.mem_map.mp mem
  exact trim_trim part

/-- With a delimiter, every text is joined to a list, which has the trimmed parts of the text
exactly if none of them but the last overlaps the delimiter. A list that has them is not changed by
joining it again; in general it is not changed exactly if its own parts are trimmed. With a
delimiter that does not overlap itself the list always has the trimmed parts. -/
theorem parts_kept_iff_not_overlaps (delimiter text : String) (nonempty : delimiter ≠ "") :
    ∃ joined again, JoinsTo delimiter text joined ∧ JoinsTo delimiter joined again ∧
      (splitText delimiter joined = (splitText delimiter text).map trim ↔
        ∀ part ∈ ((splitText delimiter text).map trim).dropLast,
          ¬ Overlaps delimiter.toList part.toList) ∧
      (splitText delimiter joined = (splitText delimiter text).map trim → again = joined) ∧
      (again = joined ↔ ∀ part ∈ splitText delimiter joined, trim part = part) ∧
      (¬ OverlapsItself delimiter.toList →
        splitText delimiter joined = (splitText delimiter text).map trim) := by
  exact ⟨rejoin delimiter text, rejoin delimiter (rejoin delimiter text),
    (joinsTo_iff nonempty).mpr rfl, (joinsTo_iff nonempty).mpr rfl,
    splitText_rejoin_iff nonempty text, rejoin_rejoin_of_kept nonempty,
    rejoin_eq_self_iff nonempty _, fun apart => splitText_rejoin_of_apart nonempty apart text⟩

/-- The bar at the end stands before no delimiter, so that the list has the trimmed parts. -/
theorem parts_kept_iff_not_overlaps_bars :
    "||" ≠ "" ∧ JoinsTo "||" " a || b| " "a||b|" ∧ JoinsTo "||" "a||b|" "a||b|" ∧
      splitText "||" "a||b|" = ["a", "b|"] ∧
      ∀ part ∈ ((splitText "||" " a || b| ").map trim).dropLast,
        ¬ Overlaps "||".toList part.toList := by
  have nonempty : "||" ≠ "" := by decide
  obtain ⟨joined, again, joins, rejoins, kept_iff, twice, -⟩ :=
    parts_kept_iff_not_overlaps "||" " a || b| " nonempty
  obtain rfl : joined = "a||b|" :=
    ((joinsTo_iff nonempty).mp joins).trans (by decide +kernel)
  have parts : splitText "||" "a||b|" = ["a", "b|"] := by decide +kernel
  have kept : splitText "||" "a||b|" = (splitText "||" " a || b| ").map trim :=
    parts.trans (by decide +kernel)
  obtain rfl := twice kept
  exact ⟨nonempty, joins, rejoins, parts, kept_iff.mp kept⟩

/-- Trimmed, the first part ends with a bar right before the two bars of the delimiter. -/
theorem not_forall_parts_kept :
    ¬ ∀ delimiter text joined : String, delimiter ≠ "" → JoinsTo delimiter text joined →
      splitText delimiter joined = (splitText delimiter text).map trim ∧
        JoinsTo delimiter joined joined := by
  intro always
  have nonempty : "||" ≠ "" := by decide
  have joins : JoinsTo "||" "a | ||b" "a |||b" :=
    (joinsTo_iff nonempty).mpr (by decide +kernel)
  obtain ⟨kept, -⟩ := always "||" "a | ||b" "a |||b" nonempty joins
  exact absurd kept (by decide +kernel)

end DocGraph
