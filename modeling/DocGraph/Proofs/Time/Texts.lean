import DocGraph.Proofs.Outcome
import DocGraph.Proofs.Run.Wording
import DocGraph.Time.Reading

/-!
# What faults of reading times show

A time that cannot be read is reported with parts of its text and with its pattern, and some of
these stand in the report as they are. Nothing else does: the characters shown are those of the text
and of the pattern, and others that are no line breaks.

## Main definitions

* `AreParts`: parts of a text.
* `PatternFault.IsNamedIn`, `TimeFault.IsWorded`, `TimeFault.ShowsOnly`: what faults show.

## Main results

* `areParts_of_matchFrom`: what a pattern finds in a text are parts of the text.
* `settles_readTime`: what a fault of reading shows.
-/

namespace DocGraph

open Pattern (matchFrom afterForm? elementsFrom repeatedFault)

variable {kind : Char → Prop}

/-! ## Fields of texts -/

theorem isSuffix_of_afterForm? {form : List FormAtom} {cs rest : List Char}
    (h : afterForm? form cs = some rest) : rest <:+ cs := by
  induction form generalizing cs with
  | nil =>
    obtain rfl := Option.some.inj h
    exact List.suffix_rfl
  | cons atom form ih =>
    cases cs with
    | nil => cases h
    | cons c cs =>
      rw [afterForm?] at h
      split at h
      · exact (ih h).trans (List.suffix_cons c cs)
      · cases h

/-- Parts of a text, and what follows them in it. -/
def AreParts (cs : List Char) (fields : List (Directive × List Char)) (last : List Char) : Prop :=
  (∀ field ∈ fields, field.2 <:+: cs) ∧ last <:+ cs

theorem AreParts.behind {cs rest last : List Char} {fields : List (Directive × List Char)}
    (h : AreParts rest fields last) (suffix : rest <:+ cs) : AreParts cs fields last :=
  ⟨fun field among => (h.1 field among).trans suffix.isInfix, h.2.trans suffix⟩

/-- What a pattern finds in a text are parts of it, and so is what follows them. -/
theorem areParts_of_matchFrom {pattern : Pattern} {cs last : List Char}
    {fields : List (Directive × List Char)} (h : matchFrom pattern cs = some (fields, last)) :
    AreParts cs fields last := by
  -- An element leaves a suffix of the text, in which the further elements find their parts.
  induction pattern generalizing cs fields with
  | nil =>
    cases h
    exact ⟨List.forall_mem_nil _, List.suffix_rfl⟩
  | cons element pattern ih =>
    cases element with
    | literal x =>
      cases cs with
      | nil => cases h
      | cons c rest =>
        rw [matchFrom] at h
        split at h
        · exact (ih h).behind (List.suffix_cons c rest)
        · cases h
    | blanks =>
      rw [matchFrom] at h
      obtain ⟨rest, among, found⟩ := List.exists_of_findSome?_eq_some h
      obtain ⟨n, -, rfl⟩ := List.mem_map.mp among
      exact (ih found).behind (List.drop_suffix _ cs)
    | field d =>
      rw [matchFrom] at h
      obtain ⟨form, -, found⟩ := List.exists_of_findSome?_eq_some h
      obtain ⟨rest, after, found⟩ := Option.bind_eq_some_iff.mp found
      obtain ⟨⟨further, last'⟩, found, same⟩ := Option.bind_eq_some_iff.mp found
      cases same
      have parts := (ih found).behind (isSuffix_of_afterForm? after)
      exact ⟨List.forall_mem_cons.mpr ⟨(List.take_prefix _ cs).isInfix, parts.1⟩, parts.2⟩

/-! ## Patterns -/

/-- The name that a fault shows is a character of the pattern, or no line break. -/
def PatternFault.IsNamedIn (cs : List Char) : PatternFault → Prop
  | .badDirective name => name ∈ cs ∨ isLineBreak name = false
  | .stray => True
  | .repeated repetition => isLineBreak repetition.name = false

theorem PatternFault.IsNamedIn.behind {cs rest : List Char} {fault : PatternFault}
    (h : fault.IsNamedIn rest) (suffix : rest <:+ cs) : fault.IsNamedIn cs := by
  cases fault with
  | badDirective name => exact Or.imp_left (suffix.subset ·) h
  | stray => trivial
  | repeated repetition => exact h

theorem settles_elementsFrom (afterBlank : Bool) (cs : List Char) :
    Settles (fun _ => True) (PatternFault.IsNamedIn cs) (elementsFrom afterBlank cs) := by
  have further {cs rest : List Char} {later : Except PatternFault Pattern}
      (h : Settles (fun _ => True) (PatternFault.IsNamedIn rest) later) (suffix : rest <:+ cs) :
      Settles (fun _ => True) (PatternFault.IsNamedIn cs) later :=
    h.imp (fun _ => id) fun _ named => named.behind suffix
  fun_induction elementsFrom afterBlank cs
  case case1 | case2 => trivial
  case case3 c rest elements _ ih =>
    have suffix : rest <:+ '%' :: c :: rest := List.suffix_append ['%', c] rest
    exact (further ih suffix).bind fun _ _ => trivial
  case case4 c rest _ =>
    change (if _ then '%' else c) ∈ _ ∨ isLineBreak (if _ then '%' else c) = false
    split
    · exact .inr rfl
    · exact .inl (by simp)
  case case5 ih => exact further ih (List.suffix_cons _ _)
  case case6 ih | case7 ih => exact (further ih (List.suffix_cons _ _)).bind fun _ _ => trivial

theorem isLineBreak_letter (d : Directive) : isLineBreak d.letter = false := by
  cases d <;> rfl

theorem isNamedIn_of_repeatedFault {seen : List (Directive × Nat)} {groups position : Nat}
    {pattern : Pattern} {fault : PatternFault}
    (h : repeatedFault seen groups position pattern = some fault) (cs : List Char) :
    fault.IsNamedIn cs := by
  fun_induction repeatedFault seen groups position pattern
  case case1 => cases h
  case case2 d _ _ _ =>
    obtain rfl := Option.some.inj h
    exact isLineBreak_letter d
  case case3 ih | case4 ih => exact ih h

/-- What a text has instead of a pattern is shown with its characters, if by a name at all. -/
theorem settles_ofText (text : String) :
    Settles (fun _ => True) (PatternFault.IsNamedIn text.toList) (Pattern.ofText text) := by
  refine (settles_elementsFrom false text.toList).bind fun pattern _ => ?_
  split
  next fault found => exact isNamedIn_of_repeatedFault found _
  next => trivial

/-! ## Moments -/

/-- Nothing stands in the wording of a fault as it is. -/
def TimeFault.IsWorded (fault : TimeFault) : Prop := fault.unquoted = []

theorem settles_checkedDate (year : Int) (month day : Nat) :
    Settles (fun _ => True) TimeFault.IsWorded (checkedDate year month day) :=
  (Settles.of_any _).mapError fun _ _ => rfl

theorem settles_dayOfWeekOfYear (year week weekday : Nat) (fromMonday : Bool) :
    Settles (fun _ => True) TimeFault.IsWorded
      (dayOfWeekOfYear year week weekday fromMonday) := by
  refine (settles_checkedDate _ _ _).andThen fun first => ?_
  dsimp only
  split <;> trivial

theorem settles_dayOfIsoWeek (year week weekday : Nat) :
    Settles (fun _ => True) TimeFault.IsWorded (dayOfIsoWeek year week weekday) := by
  refine (settles_checkedDate _ _ _).andThen fun correction => ?_
  dsimp only
  split
  · refine (settles_checkedDate _ _ _).andThen fun start => ?_
    refine (settles_checkedDate _ _ _).andThen fun before => ?_
    trivial
  · trivial

theorem settles_namedDay (t : TimeParts) (year : Nat) :
    Settles (fun _ => True) TimeFault.IsWorded (namedDay t year) := by
  unfold namedDay
  split
  · trivial
  · trivial
  split
  · refine (settles_dayOfWeekOfYear _ _ _ _).andThen fun day => ?_
    trivial
  · refine (settles_dayOfIsoWeek _ _ _).andThen fun day => ?_
    trivial
  · trivial

theorem settles_dateOfParts (t : TimeParts) :
    Settles (fun _ => True) TimeFault.IsWorded (dateOfParts t) := by
  have date (ordinal : Int) : Settles (fun _ => True) TimeFault.IsWorded
      ((Date.ofOrdinal ordinal).mapError .calendar) :=
    (Settles.of_any _).mapError fun _ _ => rfl
  refine (settles_namedDay _ _).andThen fun day => ?_
  dsimp only
  split
  · refine (settles_checkedDate _ _ _).andThen fun date => ?_
    trivial
  · refine (settles_checkedDate _ _ _).andThen fun start => ?_
    refine (date _).andThen fun date => ?_
    trivial

theorem settles_checkIsoParts (t : TimeParts) :
    Settles (fun _ => True) TimeFault.IsWorded (checkIsoParts t) := by
  unfold checkIsoParts
  repeat' split
  all_goals trivial

theorem settles_momentOfParts (t : TimeParts) :
    Settles (fun _ => True) TimeFault.IsWorded (momentOfParts t) := by
  have moment (year : Int) (month day : Nat) :
      Settles (fun _ => True) TimeFault.IsWorded ((Moment.make year month day t.hour t.minute
        t.second t.microsecond).mapError .calendar) :=
    (Settles.of_any _).mapError fun _ _ => rfl
  refine (settles_checkIsoParts t).andThen fun _ => ?_
  refine (settles_dateOfParts t).andThen fun date => ?_
  dsimp only
  split
  · split
    · exact moment _ _ _
    · rfl
  · exact moment _ _ _

/-! ## Times -/

theorem settles_nameIndex (names : List String) (written : List Char) :
    Settles (fun _ => True) TimeFault.IsWorded (nameIndex names written) := by
  unfold nameIndex
  dsimp only
  split
  · trivial
  · rfl

/-- What a field shows as it is, is the field. -/
def TimeFault.ShowsOnly (written : List Char) (fault : TimeFault) : Prop :=
  ∀ text ∈ fault.unquoted, text = String.ofList written

theorem TimeFault.IsWorded.showsOnly {fault : TimeFault} (h : fault.IsWorded)
    (written : List Char) : fault.ShowsOnly written := by
  intro text among
  rw [h] at among
  cases among

theorem settles_writtenOffset (written : List Char) :
    Settles (fun _ => True) (TimeFault.ShowsOnly written) (writtenOffset written) := by
  have found (z : List Char) : Settles (fun _ => True) (TimeFault.ShowsOnly written)
      (pure z : Except TimeFault (List Char)) := trivial
  have refused : Settles (fun _ => True) (TimeFault.ShowsOnly written)
      (.error (.inconsistentColons (String.ofList written)) : Except TimeFault (List Char)) :=
    List.forall_mem_singleton.mpr rfl
  have digits {z : List Char} {total : Int} : Settles (fun _ => True) (TimeFault.ShowsOnly written)
      (if (z.any fun c => !isDecimalDigit c) = true then .error (.badNumber (String.ofList z))
        else .ok total) := by
    split
    · exact List.forall_mem_nil _
    · trivial
  unfold writtenOffset
  split
  · trivial
  dsimp only
  split
  · split
    · split
      · exact (found _).andThen fun z => digits
      · exact refused.andThen fun z => digits
    · exact (found _).andThen fun z => digits
  · exact (found _).andThen fun z => digits

theorem settles_takeField (half : Option (List Char)) (t : TimeParts)
    (field : Directive × List Char) :
    Settles (fun _ => True) (TimeFault.ShowsOnly field.2) (takeField half t field) := by
  obtain ⟨directive, written⟩ := field
  have named (names : List String) : Settles (fun _ => True) (TimeFault.ShowsOnly written)
      (nameIndex names written) :=
    (settles_nameIndex names written).imp (fun _ => id) fun _ worded => worded.showsOnly written
  cases directive
  case monthName | shortMonthName | weekdayName | shortWeekdayName =>
    refine (named _).andThen fun index => ?_
    trivial
  case offset =>
    refine (settles_writtenOffset written).andThen fun offset => ?_
    trivial
  all_goals trivial

theorem settles_readElements {patternText text : String} (pattern : Pattern)
    (within : BreaksWithin kind text) :
    Settles (fun _ => True) (fun fault => AllWithin kind fault.unquoted)
      (readElements patternText pattern text) := by
  have part {cs : List Char} (inside : cs <:+: text.toList) :
      BreaksWithin kind (String.ofList cs) :=
    within.of_chars fun c among => .inl (inside.subset (by rwa [String.toList_ofList] at among))
  unfold readElements
  split
  · exact List.forall_mem_nil _
  next fields rest found =>
    obtain ⟨parts, behind⟩ := areParts_of_matchFrom found
    split
    · refine Settles.andThen (Settles.foldlM (fun field among t _ => ?_) trivial) fun parts => ?_
      · refine (settles_takeField _ t field).imp (fun _ => id) fun fault shows text shown => ?_
        rw [shows text shown]
        exact part (parts field among)
      · refine (settles_momentOfParts parts).imp (fun _ => id) fun fault worded => ?_
        rw [worded]
        exact List.forall_mem_nil _
    · exact List.forall_mem_singleton.mpr (part behind.isInfix)

theorem breaksWithin_singleton {c : Char} (h : isLineBreak c = false) :
    BreaksWithin kind (String.singleton c) := by
  refine .of_lineBreaks (lineBreaks_of_all ?_)
  simp [h]

/-- What a fault of reading shows is made of the characters of the text and of the pattern, and of
some that are no line breaks. -/
theorem settles_readTime {text patternText : String} (within : BreaksWithin kind text)
    (pattern : BreaksWithin kind patternText) :
    Settles (Settles (fun _ => True) fun fault => AllWithin kind fault.unquoted)
      (fun repetition => isLineBreak repetition.name = false) (readTime text patternText) := by
  unfold readTime
  split
  next elements _ => exact settles_readElements elements within
  next fault failed =>
    have named := (settles_ofText patternText).of_error failed
    cases fault with
    | badDirective name =>
      refine List.forall_mem_cons.mpr ⟨?_, List.forall_mem_singleton.mpr pattern⟩
      obtain own | other := named
      · refine pattern.of_chars fun c among => .inl ?_
        obtain rfl : c = name := by simpa using among
        exact own
      · exact breaksWithin_singleton other
    | stray => exact List.forall_mem_singleton.mpr pattern
    | repeated repetition => exact named

end DocGraph
