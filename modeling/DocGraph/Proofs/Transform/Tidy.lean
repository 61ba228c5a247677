import DocGraph.Proofs.Text.Blank
import DocGraph.Transform.Registry
import Mathlib.Data.List.Chain
import Mathlib.Data.List.Induction

/-!
# Tidied texts

A text is tidy if no white space stands at its ends and single spaces are all the white space
inside. Tidying strips plain blanks off the ends and then makes a space of every run of blanks of
any kind. So the words of a text are kept, and single spaces stand between them; but when a blank
that is not plain is the first or the last thing that stripping leaves, its run becomes a space at
an end of the result. Only a second tidying takes it away, and with this the text is always tidy.

## Main definitions

* `words`: what stands between the blanks of a text.
* `HasSingleSpaces`, `IsTidy`: the white space that a text may have.
* `HasOddEnd`: a blank that is not plain at an end of a text.
* `TidiesTo`: what the transform makes of a text.

## Main results

* `words_tidyText`: tidying keeps the words of a text.
* `endsFreeOf_collapseFrom_iff`: blanks at the ends stay there when runs become spaces.
* `isTidy_iff_no_oddEnd`: when the result is tidy, and when tidying it again changes nothing.
-/

namespace DocGraph

/-- The words of a text: what stands between blanks. -/
def words (cs : List Char) : List (List Char) :=
  (cs.splitOnP isBlank).filter (· ≠ [])

/-- The blanks in a text are spaces, no two of them side by side. -/
def HasSingleSpaces (cs : List Char) : Prop :=
  (∀ c ∈ cs, isBlank c = true → c = ' ') ∧
    cs.IsChain fun c d => isBlank c = false ∨ isBlank d = false

/-- No blank stands at either end of a text, and the blanks inside are single spaces. -/
def IsTidy (text : String) : Prop :=
  EndsFreeOf isBlank text.toList ∧ HasSingleSpaces text.toList

/-- Plain blanks apart, a text begins or ends with a blank. -/
def HasOddEnd (text : String) : Prop :=
  ∃ c, isBlank c = true ∧ (text.toList.find? (!isPlainBlank ·) = some c ∨
    text.toList.reverse.find? (!isPlainBlank ·) = some c)

/-- Whatever the parameters are, the transform makes one text of another. -/
def TidiesTo (text tidied : String) : Prop :=
  ∀ params, TransformRegistry.builtin.apply "string_normalize" (.string text) params =
    .ok ⟨.text tidied, .string, .string⟩

theorem tidiesTo_iff {text tidied : String} : TidiesTo text tidied ↔ tidied = tidyText text := by
  have given (params : Params) :
      TransformRegistry.builtin.apply "string_normalize" (.string text) params =
        .ok ⟨.text (tidyText text), .string, .string⟩ := rfl
  constructor
  · intro tidies
    have same := (given []).symm.trans (tidies [])
    simp only [Except.ok.injEq, Transformed.mk.injEq, Scalar.text.injEq, and_true] at same
    exact same.symm
  · rintro rfl
    exact given

theorem isBlank_of_isPlainBlank {c : Char} (h : isPlainBlank c = true) : isBlank c = true := by
  simp only [isPlainBlank, Bool.or_eq_true, beq_iff_eq] at h
  rcases h with ((rfl | rfl) | rfl) | rfl <;> rfl

/-! ## Words -/

/-- Blanks separate words. -/
theorem words_append_cons {c : Char} (blank : isBlank c = true) (cs rest : List Char) :
    words (cs ++ c :: rest) = words cs ++ words rest := by
  rw [words, List.splitOnP_append_cons cs rest blank, List.filter_append]
  rfl

theorem words_cons {c : Char} (blank : isBlank c = true) (cs : List Char) :
    words (c :: cs) = words cs :=
  words_append_cons blank [] cs

theorem words_append_of_blank {front : List Char} (blank : ∀ c ∈ front, isBlank c = true)
    (cs : List Char) : words (front ++ cs) = words cs := by
  induction front with
  | nil => rfl
  | cons c front ih =>
    obtain ⟨first, further⟩ := List.forall_mem_cons.mp blank
    rw [List.cons_append, words_cons first, ih further]

theorem words_of_append_blank {back : List Char} (blank : ∀ c ∈ back, isBlank c = true)
    (cs : List Char) : words (cs ++ back) = words cs := by
  cases back with
  | nil => rw [List.append_nil]
  | cons c back =>
    obtain ⟨first, further⟩ := List.forall_mem_cons.mp blank
    have nothing := words_append_of_blank further []
    rw [List.append_nil] at nothing
    rw [words_append_cons first, nothing]
    exact List.append_nil _

/-- A run of blanks and a space separate words alike. -/
theorem words_append_collapseFrom (inRun : Bool) (cs word : List Char)
    (fresh : inRun = true → word = []) :
    words (word ++ collapseFrom inRun cs) = words (word ++ cs) := by
  induction cs generalizing inRun word with
  | nil => rfl
  | cons c cs ih =>
    by_cases blank : isBlank c = true
    · have rest : words (collapseFrom true cs) = words cs := ih true [] fun _ => rfl
      rw [collapseFrom, if_pos blank, words_append_cons blank]
      cases inRun with
      | false => rw [if_neg (by simp), words_append_cons rfl, rest]
      | true =>
        obtain rfl := fresh rfl
        exact rest
    · have next := ih false (word ++ [c]) nofun
      rw [List.append_assoc, List.append_assoc] at next
      rw [collapseFrom, if_neg blank]
      exact next

theorem words_stripBy (cs : List Char) : words (stripBy isPlainBlank cs) = words cs := by
  obtain ⟨front, back, split, off, off', -⟩ := exists_stripBy isPlainBlank cs
  generalize stripBy isPlainBlank cs = body at split
  rw [split, List.append_assoc,
    words_append_of_blank fun c mem => isBlank_of_isPlainBlank (off c mem),
    words_of_append_blank fun c mem => isBlank_of_isPlainBlank (off' c mem)]

theorem toList_tidyText (text : String) :
    (tidyText text).toList = collapseFrom false (stripBy isPlainBlank text.toList) := by
  simp only [tidyText, collapse, trim, String.toList_ofList]

/-- Tidying keeps the words of a text. -/
theorem words_tidyText (text : String) : words (tidyText text).toList = words text.toList := by
  have collapsed := words_append_collapseFrom false (stripBy isPlainBlank text.toList) [] nofun
  rw [toList_tidyText]
  exact collapsed.trans (words_stripBy _)

/-! ## Runs of blanks -/

theorem eq_space_of_mem_collapseFrom {inRun : Bool} {cs : List Char} :
    ∀ c ∈ collapseFrom inRun cs, isBlank c = true → c = ' ' := by
  induction cs generalizing inRun with
  | nil => nofun
  | cons c cs ih =>
    intro d mem blank
    unfold collapseFrom at mem
    split at mem
    · split at mem
      · exact ih d mem blank
      · rcases List.mem_cons.mp mem with rfl | mem
        · rfl
        · exact ih d mem blank
    · next word =>
      rcases List.mem_cons.mp mem with rfl | mem
      · exact absurd blank word
      · exact ih d mem blank

/-- Within a run, blanks are passed over. -/
theorem head?_collapseFrom_true (cs : List Char) :
    ∀ c ∈ (collapseFrom true cs).head?, isBlank c = false := by
  induction cs with
  | nil => nofun
  | cons c cs ih =>
    by_cases blank : isBlank c = true
    · rwa [collapseFrom, if_pos blank, if_pos rfl]
    · rw [collapseFrom, if_neg blank]
      rintro _ ⟨⟩
      simpa using blank

theorem hasSingleSpaces_collapseFrom (inRun : Bool) (cs : List Char) :
    HasSingleSpaces (collapseFrom inRun cs) := by
  refine ⟨eq_space_of_mem_collapseFrom, ?_⟩
  induction cs generalizing inRun with
  | nil => exact .nil
  | cons c cs ih =>
    by_cases blank : isBlank c = true
    · cases inRun with
      | true =>
        rw [collapseFrom, if_pos blank, if_pos rfl]
        exact ih true
      | false =>
        rw [collapseFrom, if_pos blank, if_neg (by simp), List.isChain_cons]
        exact ⟨fun d next => .inr (head?_collapseFrom_true cs d next), ih true⟩
    · rw [collapseFrom, if_neg blank, List.isChain_cons]
      exact ⟨fun _ _ => .inl (by simpa using blank), ih false⟩

/-- Where blanks are single spaces already, nothing changes. -/
theorem collapseFrom_eq_self {inRun : Bool} {cs : List Char} (spaces : HasSingleSpaces cs)
    (stops : inRun = true → ∀ c ∈ cs.head?, isBlank c = false) : collapseFrom inRun cs = cs := by
  induction cs generalizing inRun with
  | nil => rfl
  | cons c cs ih =>
    obtain ⟨single, chain⟩ := spaces
    obtain ⟨first, further⟩ := List.forall_mem_cons.mp single
    obtain ⟨next, chain⟩ := List.isChain_cons.mp chain
    by_cases blank : isBlank c = true
    · have outside : inRun = false := by
        by_contra inside
        exact absurd (stops (by simpa using inside) c rfl) (by simp [blank])
      have rest : collapseFrom true cs = cs := ih ⟨further, chain⟩ fun _ d mem => by
        simpa [blank] using next d mem
      rw [collapseFrom, if_pos blank, if_neg (by simp [outside]), rest, first blank]
    · rw [collapseFrom, if_neg blank, ih ⟨further, chain⟩ (by simp)]

/-! ## Blanks at the ends -/

theorem head?_collapseFrom_false (cs : List Char) :
    (∀ c ∈ (collapseFrom false cs).head?, isBlank c = false) ↔
      ∀ c ∈ cs.head?, isBlank c = false := by
  cases cs with
  | nil => exact Iff.rfl
  | cons c cs =>
    have space : isBlank ' ' = true := rfl
    by_cases blank : isBlank c = true
    · simp [collapseFrom, blank, space]
    · simp [collapseFrom, blank]

/-- Characters are taken one after the other, and all that is left from the ones to the others is
whether a run is under way. -/
theorem collapseFrom_append (inRun : Bool) (cs rest : List Char) :
    collapseFrom inRun (cs ++ rest) =
      collapseFrom inRun cs ++ collapseFrom ((cs.getLast?.map isBlank).getD inRun) rest := by
  induction cs generalizing inRun with
  | nil => rfl
  | cons c cs ih =>
    have state (b : Bool) (same : b = isBlank c) :
        (((c :: cs).getLast?.map isBlank).getD inRun) = (cs.getLast?.map isBlank).getD b := by
      subst same
      cases cs <;> simp [List.getLast?_cons]
    by_cases blank : isBlank c = true
    · rw [List.cons_append, collapseFrom, collapseFrom, if_pos blank, if_pos blank, ih,
        state true blank.symm]
      split <;> rfl
    · rw [List.cons_append, collapseFrom, collapseFrom, if_neg blank, if_neg blank, ih,
        state false (by simpa using blank)]
      rfl

theorem getLast?_collapseFrom_false (cs : List Char) :
    (∀ c ∈ (collapseFrom false cs).getLast?, isBlank c = false) ↔
      ∀ c ∈ cs.getLast?, isBlank c = false := by
  induction cs using List.reverseRecOn with
  | nil => exact Iff.rfl
  | append_singleton cs c ih =>
    rw [collapseFrom_append, List.getLast?_concat]
    by_cases blank : isBlank c = true
    · cases inRun : (cs.getLast?.map isBlank).getD false with
      | false =>
        have space : isBlank ' ' = true := rfl
        simp [collapseFrom, blank, space]
      | true =>
        -- The last blank joins a run, whose space is the last character before it.
        have before : ¬ ∀ d ∈ cs.getLast?, isBlank d = false := by
          cases last : cs.getLast? with
          | none => simp [last] at inRun
          | some d => simpa [last] using inRun
        simpa [collapseFrom, blank] using ih.not.mpr before
    · simp [collapseFrom, blank]

theorem endsFreeOf_collapseFrom_iff (cs : List Char) :
    EndsFreeOf isBlank (collapseFrom false cs) ↔ EndsFreeOf isBlank cs :=
  and_congr (head?_collapseFrom_false cs) (getLast?_collapseFrom_false cs)

theorem hasOddEnd_iff (text : String) :
    HasOddEnd text ↔ ¬ EndsFreeOf isBlank (stripBy isPlainBlank text.toList) := by
  obtain ⟨first, last⟩ := head?_stripBy isPlainBlank text.toList
  simp only [HasOddEnd, ← first, ← last, EndsFreeOf, Option.mem_def, not_and_or, not_forall,
    Bool.not_eq_false, exists_prop, ← exists_or]
  exact exists_congr fun c => by tauto

/-- A tidied text is tidy unless it had an odd end. -/
theorem isTidy_tidyText_iff (text : String) : IsTidy (tidyText text) ↔ ¬ HasOddEnd text := by
  rw [IsTidy, toList_tidyText, endsFreeOf_collapseFrom_iff, hasOddEnd_iff, not_not,
    and_iff_left (hasSingleSpaces_collapseFrom false _)]

/-! ## Tidying twice -/

theorem hasSingleSpaces_tidyText (text : String) : HasSingleSpaces (tidyText text).toList := by
  rw [toList_tidyText]
  exact hasSingleSpaces_collapseFrom false _

theorem HasSingleSpaces.stripBy {cs : List Char} (h : HasSingleSpaces cs) (kind : Char → Bool) :
    HasSingleSpaces (stripBy kind cs) := by
  have within := stripBy_isInfix kind cs
  exact ⟨fun c mem => h.1 c (within.subset mem), List.IsChain.infix h.2 within⟩

/-- After a first tidying, a second one only strips the ends. -/
theorem toList_tidyText_tidyText (text : String) :
    (tidyText (tidyText text)).toList = stripBy isPlainBlank (tidyText text).toList := by
  rw [toList_tidyText (tidyText text)]
  exact collapseFrom_eq_self ((hasSingleSpaces_tidyText text).stripBy _) nofun

theorem isTidy_tidyText_tidyText (text : String) : IsTidy (tidyText (tidyText text)) := by
  have spaces := (hasSingleSpaces_tidyText text).stripBy isPlainBlank
  obtain ⟨-, -, -, -, -, ends⟩ := exists_stripBy isPlainBlank (tidyText text).toList
  rw [IsTidy, toList_tidyText_tidyText]
  generalize stripBy isPlainBlank (tidyText text).toList = body at spaces ends
  -- All blanks are spaces by now, so that ends without plain blanks have none at all.
  have free {c : Char} (mem : c ∈ body) (plain : isPlainBlank c = false) : isBlank c = false := by
    by_contra blank
    obtain rfl := spaces.1 c mem (by simpa using blank)
    cases plain
  exact ⟨⟨fun c first => free (List.mem_of_head? first) (ends.1 c first),
    fun c last => free (List.mem_of_getLast? last) (ends.2 c last)⟩, spaces⟩

theorem tidyText_tidyText_eq_iff (text : String) :
    tidyText (tidyText text) = tidyText text ↔ IsTidy (tidyText text) := by
  constructor
  · intro same
    have tidy := isTidy_tidyText_tidyText text
    rwa [same] at tidy
  · rintro ⟨⟨first, last⟩, -⟩
    have plain {c : Char} (free : isBlank c = false) : isPlainBlank c = false := by
      by_contra blank
      exact absurd (isBlank_of_isPlainBlank (by simpa using blank)) (by simp [free])
    rw [← String.toList_inj, toList_tidyText_tidyText]
    exact stripBy_eq_self_iff.mpr
      ⟨fun c mem => plain (first c mem), fun c mem => plain (last c mem)⟩

/-- Every text is tidied, with the same words and single spaces between them. The result is tidy,
and is not changed by tidying it again, exactly if the text has no odd end; tidied twice, a text is
always tidy. -/
theorem isTidy_iff_no_oddEnd (text : String) :
    ∃ tidied again, TidiesTo text tidied ∧ TidiesTo tidied again ∧
      words tidied.toList = words text.toList ∧ HasSingleSpaces tidied.toList ∧
      (IsTidy tidied ↔ ¬ HasOddEnd text) ∧ (again = tidied ↔ ¬ HasOddEnd text) ∧
      IsTidy again := by
  exact ⟨tidyText text, tidyText (tidyText text), tidiesTo_iff.mpr rfl, tidiesTo_iff.mpr rfl,
    words_tidyText text, hasSingleSpaces_tidyText text, isTidy_tidyText_iff text,
    (tidyText_tidyText_eq_iff text).trans (isTidy_tidyText_iff text),
    isTidy_tidyText_tidyText text⟩

/-- A space that does not break lines is no plain blank, and stays at the front of a text as a
space. -/
theorem not_forall_isTidy :
    ¬ ∀ text tidied : String, TidiesTo text tidied →
      IsTidy tidied ∧ TidiesTo tidied tidied := by
  intro always
  obtain ⟨⟨⟨first, -⟩, -⟩, -⟩ := always "\u00a0a" " a" (tidiesTo_iff.mpr (by decide +kernel))
  exact absurd (first ' ' rfl) (by decide)

end DocGraph
