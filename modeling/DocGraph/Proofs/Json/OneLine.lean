import DocGraph.Json.Writer
import DocGraph.Proofs.Outcome
import DocGraph.Proofs.Run.Wording

/-!
# Faults of JSON texts take one line

A text that is not JSON is reported by the place where it goes wrong, or by a word for a number that
is not finite. Nothing else of the text is shown. The display of a value takes one line too, as long
as the value is not a text, because all texts inside are in quotes.

## Main definitions

* `Fault.InOneLine`: what is shown of a text takes one line.

## Main results

* `inOneLine_readText`: the faults of texts.
* `lineBreaks_nestedDisplay`: the display of values.
-/

namespace DocGraph.Json

/-! ## Displays -/

mutual

theorem lineBreaks_nestedDisplay (value : Json) : lineBreaks value.nestedDisplay = [] := by
  have comma : lineBreaks ", " = [] := lineBreaks_word rfl
  cases value with
  | null => exact lineBreaks_word rfl
  | bool b => cases b <;> exact lineBreaks_word rfl
  | integer n => simp [nestedDisplay]
  | float x => simp [nestedDisplay]
  | string s => simp [nestedDisplay]
  | array items =>
    simp (disch := (apply all_toList_ofList; decide)) [nestedDisplay, lineBreaks_of_all,
      lineBreaks_joinText comma, lineBreaks_itemDisplays items]
  | object fields =>
    simp (disch := (apply all_toList_ofList; decide)) [nestedDisplay, lineBreaks_of_all,
      lineBreaks_joinText comma, lineBreaks_fieldDisplays fields]

theorem lineBreaks_itemDisplays (items : List Json) :
    (itemDisplays items).flatMap lineBreaks = [] := by
  cases items with
  | nil => rfl
  | cons item rest =>
    rw [itemDisplays, List.flatMap_cons, lineBreaks_nestedDisplay item,
      lineBreaks_itemDisplays rest]
    rfl

theorem lineBreaks_fieldDisplays (fields : List (String × Json)) :
    (fieldDisplays fields).flatMap lineBreaks = [] := by
  match fields with
  | [] => rfl
  | (name, value) :: rest =>
    simp (disch := (apply all_toList_ofList; decide)) [fieldDisplays, lineBreaks_of_all,
      lineBreaks_nestedDisplay value, lineBreaks_fieldDisplays rest]

end

/-! ## Faults -/

/-- What is shown of a text takes one line. -/
def Fault.InOneLine (fault : Fault) : Prop := fault.unquoted.flatMap lineBreaks = []

theorem settles_readHexEscape (c : Cursor) :
    Settles (fun _ => True) Fault.InOneLine (readHexEscape c) := by
  unfold readHexEscape
  dsimp only
  repeat' split
  all_goals trivial

theorem settles_readString (start fuel : Nat) (before : List Char) (c : Cursor) :
    Settles (fun _ => True) Fault.InOneLine (readString start fuel before c) := by
  fun_induction readString start fuel before c
  case case5 ih => exact (settles_readHexEscape _).andThen fun found => ih found.1 found.2
  case case6 ih | case9 ih => exact ih
  all_goals trivial

theorem settles_wholeNumber (strict : Bool) (digits : List Char) :
    Settles (fun _ => True) Fault.InOneLine (wholeNumber strict digits) := by
  unfold wholeNumber
  dsimp only
  split
  · cases found : limitDigits digits.length (digitsValue (digitValues digits)) <;> trivial
  · trivial

theorem settles_readNumber (strict : Bool) (c : Cursor) :
    Settles (fun _ => True) Fault.InOneLine (readNumber strict c) := by
  fun_cases readNumber strict c
  case case2 failed => exact (settles_wholeNumber strict _).of_error failed
  all_goals trivial

theorem settles_word? {strict : Bool} {c : Cursor} {outcome : Except Fault (Json × Cursor)}
    (h : word? strict c = some outcome) : Settles (fun _ => True) Fault.InOneLine outcome := by
  unfold word? at h
  split at h
  · cases h
    trivial
  next name value _ found =>
    cases h
    split
    · have named : (name, value) ∈ constants := List.mem_of_find?_eq_some found
      have plain : ∀ entry ∈ constants, lineBreaks entry.1 = [] := by decide +kernel
      simpa [Settles, Fault.InOneLine, Fault.unquoted] using plain _ named
    · trivial
  · cases h

section

variable {strict : Bool} {fuel : Nat}

/-- Whatever is read with less fuel, its fault takes one line. -/
structure FailsInOneLine (strict : Bool) (fuel : Nat) : Prop where
  value : ∀ c, Settles (fun _ => True) Fault.InOneLine (readValue strict fuel c)
  fields : ∀ before c, Settles (fun _ => True) Fault.InOneLine (readFields strict fuel before c)
  items : ∀ before c, Settles (fun _ => True) Fault.InOneLine (readItems strict fuel before c)

theorem settles_readValue (less : FailsInOneLine strict fuel) (c : Cursor) :
    Settles (fun _ => True) Fault.InOneLine (readValue strict (fuel + 1) c) := by
  rw [readValue]
  split
  · refine (settles_readString _ _ _ _).andThen fun s => ?_
    trivial
  · dsimp only
    split
    · trivial
    · refine (less.fields _ _).andThen fun fields => ?_
      trivial
  · dsimp only
    split
    · trivial
    · refine (less.items _ _).andThen fun items => ?_
      trivial
  · split
    next outcome word => exact settles_word? word
    next => exact settles_readNumber strict c

theorem settles_readFields (less : FailsInOneLine strict fuel) (before : List (String × Json))
    (c : Cursor) :
    Settles (fun _ => True) Fault.InOneLine (readFields strict (fuel + 1) before c) := by
  rw [readFields]
  split
  · refine (settles_readString _ _ _ _).andThen fun name => ?_
    dsimp only
    split
    · refine (less.value _).andThen fun value => ?_
      split
      · trivial
      · exact less.fields _ _
      · trivial
    · trivial
  · trivial

theorem settles_readItems (less : FailsInOneLine strict fuel) (before : List Json) (c : Cursor) :
    Settles (fun _ => True) Fault.InOneLine (readItems strict (fuel + 1) before c) := by
  rw [readItems]
  refine (less.value _).andThen fun item => ?_
  dsimp only
  split
  · trivial
  · exact less.items _ _
  · trivial

end

theorem failsInOneLine (strict : Bool) (fuel : Nat) : FailsInOneLine strict fuel := by
  induction fuel with
  | zero =>
    constructor
    · intro c
      rw [readValue]
      rfl
    · intro before c
      rw [readFields]
      rfl
    · intro before c
      rw [readItems]
      rfl
  | succ fuel less =>
    exact ⟨settles_readValue less, settles_readFields less, settles_readItems less⟩

theorem inOneLine_readText (strict : Bool) (text : List Char) :
    Settles (fun _ => True) Fault.InOneLine (readText strict text) := by
  unfold readText
  split
  · trivial
  · refine ((failsInOneLine _ _).value _).andThen fun value => ?_
    dsimp only
    split <;> trivial

end DocGraph.Json
