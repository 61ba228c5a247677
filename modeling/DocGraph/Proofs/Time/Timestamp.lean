import DocGraph.Proofs.Outcome
import DocGraph.Proofs.Time.Matching
import DocGraph.Transform.Registry

/-!
# Timestamps and the pattern that they follow

Every time that is read is one of the calendar, whatever the pattern was, and is written as a
timestamp: the year as it is and the other parts with two digits. From the year 1000 on the year has
four digits, so that the timestamp has its full form and is read back by the pattern of that form as
the same moment, to the second. An earlier year has fewer digits; its timestamp does not have the
form, and the pattern, which asks for four digits, does not match it.

## Main definitions

* `Moment.InCalendar`: the parts of a moment are in their ranges.
* `timestampPattern`, `HasTimestampForm`: the pattern and the form of timestamps.
* `FormatsTo`: what the transform makes of a text with that pattern.

## Main results

* `inCalendar_of_readTime`: what is read is in the calendar.
* `hasTimestampForm_iff`: which timestamps have the full form.
* `readTime_timestampText`: what reading a timestamp gives.
* `hasTimestampForm_iff_fourDigitYear`: the outcome of the transform, and the transform once more.
-/

namespace DocGraph

open Decimal (digitsOf)
open Pattern (afterForm? matchFrom)

/-! ## Moments of the calendar -/

/-- The parts of a moment are in their ranges. -/
structure Moment.InCalendar (m : Moment) : Prop where
  year : 1 ≤ m.date.year ∧ m.date.year ≤ 9999
  month : 1 ≤ m.date.month ∧ m.date.month ≤ 12
  day : 1 ≤ m.date.day ∧ m.date.day ≤ daysInMonth m.date.year m.date.month
  hour : m.hour ≤ 23
  minute : m.minute ≤ 59
  second : m.second ≤ 59

variable {m : Moment}

theorem daysInMonth_le (year month : Nat) : daysInMonth year month ≤ 31 := by
  unfold daysInMonth
  split_ifs <;> omega

theorem Moment.InCalendar.day_le (h : m.InCalendar) : m.date.day ≤ 31 :=
  h.day.2.trans (daysInMonth_le _ _)

theorem date_make_eq_ok {year : Int} {month day : Nat} {date : Date}
    (h : Date.make year month day = .ok date) :
    date = ⟨year.toNat, month, day⟩ ∧ (1 ≤ year ∧ year ≤ 9999) ∧ (1 ≤ month ∧ month ≤ 12) ∧
      1 ≤ day ∧ day ≤ daysInMonth year.toNat month := by
  simp only [Date.make, Bool.or_eq_true, decide_eq_true_eq] at h
  split_ifs at h with badYear badMonth badDay
  exact ⟨(Except.ok.inj h).symm, by omega, by omega, by omega⟩

theorem inCalendar_of_make {year : Int} {month day hour minute second microsecond : Nat}
    (h : Moment.make year month day hour minute second microsecond = .ok m) : m.InCalendar := by
  obtain ⟨date, made, h⟩ := bind_eq_ok_iff.mp h
  obtain ⟨rfl, goodYear, goodMonth, goodDay⟩ := date_make_eq_ok made
  split_ifs at h with badHour badMinute badSecond
  obtain rfl := Except.ok.inj h
  exact ⟨by dsimp only; omega, goodMonth, goodDay, by dsimp only; omega, by dsimp only; omega,
    by dsimp only; omega⟩

theorem Moment.InCalendar.date_make (h : m.InCalendar) :
    Date.make m.date.year m.date.month m.date.day = .ok m.date := by
  obtain ⟨⟨firstYear, lastYear⟩, ⟨firstMonth, lastMonth⟩, ⟨firstDay, lastDay⟩, -, -, -⟩ := h
  have goodDay : ¬ (m.date.day < 1 ∨ m.date.day > daysInMonth m.date.year m.date.month) := by omega
  simp only [Date.make, Bool.or_eq_true, decide_eq_true_eq, Int.toNat_natCast]
  rw [if_neg (by omega), if_neg (by omega), if_neg goodDay]

theorem Moment.InCalendar.make (h : m.InCalendar) (microsecond : Nat) :
    Moment.make m.date.year m.date.month m.date.day m.hour m.minute m.second microsecond =
      .ok { m with microsecond } := by
  have lastHour := h.hour
  have lastMinute := h.minute
  have lastSecond := h.second
  rw [Moment.make, h.date_make]
  show (if _ then _ else _) = _
  rw [if_neg (by omega), if_neg (by omega), if_neg (by omega)]

/-- The parts of a time become a moment of the calendar or none at all. -/
theorem inCalendar_of_momentOfParts {parts : TimeParts} (h : momentOfParts parts = .ok m) :
    m.InCalendar := by
  obtain ⟨-, -, h⟩ := bind_eq_ok_iff.mp h
  obtain ⟨⟨year, month, day⟩, -, h⟩ := bind_eq_ok_iff.mp h
  have made : (Moment.make year month day parts.hour parts.minute parts.second
      parts.microsecond).mapError TimeFault.calendar = .ok m := by
    dsimp only at h
    split at h
    · split at h
      · exact h
      · cases h
    · exact h
  exact inCalendar_of_make (mapError_eq_ok_iff.mp made)

theorem inCalendar_of_readTime {text pattern : String} (h : readTime text pattern = .ok (.ok m)) :
    m.InCalendar := by
  unfold readTime at h
  split at h
  · have h := Except.ok.inj h
    unfold readElements at h
    split at h
    · cases h
    · split at h
      · obtain ⟨parts, -, h⟩ := bind_eq_ok_iff.mp h
        exact inCalendar_of_momentOfParts h
      · cases h
  · obtain ⟨fault, -, h⟩ := map_eq_ok_iff.mp h
    cases h

/-! ## The form of a timestamp -/

/-- A digit of the basic alphabet. -/
def plainDigit : FormAtom := .between '0' '9'

/-- Four digits for the year and two for each other part, with the marks between them. -/
def timestampForm : List FormAtom :=
  List.replicate 4 plainDigit ++ .exactly '-' :: (List.replicate 2 plainDigit ++
    .exactly '-' :: (List.replicate 2 plainDigit ++ .exactly ' ' :: (List.replicate 2 plainDigit ++
      .exactly ':' :: (List.replicate 2 plainDigit ++ .exactly ':' ::
        List.replicate 2 plainDigit))))

/-- A text has the form of a timestamp, and nothing follows it. -/
def HasTimestampForm (text : String) : Prop := afterForm? timestampForm text.toList = some []

/-- The time of day of a moment as it is written. -/
def clockText (m : Moment) : List Char :=
  twoDigits m.hour ++ ':' :: (twoDigits m.minute ++ ':' :: twoDigits m.second)

theorem toList_timestampText (m : Moment) :
    (timestampText m).toList = digitsOf m.date.year ++ '-' :: (twoDigits m.date.month ++
      '-' :: (twoDigits m.date.day ++ ' ' :: clockText m)) := by
  have written : timestampText m = m.date.year.repr ++ "-" ++ paddedDigits 2 m.date.month ++ "-" ++
      paddedDigits 2 m.date.day ++ " " ++ paddedDigits 2 m.hour ++ ":" ++
      paddedDigits 2 m.minute ++ ":" ++ paddedDigits 2 m.second := rfl
  have year : m.date.year.repr.toList = digitsOf m.date.year := Nat.toList_repr
  simp [written, year, clockText, toList_paddedDigits_two]

theorem accepts_plainDigit {c : Char} (h : c.isDigit = true) : plainDigit.accepts c = true := by
  obtain ⟨low, high⟩ := isDigit_bounds h
  simp only [plainDigit, FormAtom.accepts, Bool.and_eq_true, decide_eq_true_eq]
  exact ⟨low, high⟩

theorem afterForm?_twoDigits {n : Nat} (few : n < 100) (rest : List Char) :
    afterForm? (List.replicate 2 plainDigit) (twoDigits n ++ rest) = some rest := by
  rw [← length_twoDigits few]
  apply afterForm?_replicate_length
  intro c mem
  exact accepts_plainDigit (isDigit_of_mem_twoDigits c mem)

/-- Two digits and a mark, in front of the rest of a form. -/
theorem afterForm?_twoDigits_append {n : Nat} (few : n < 100) (mark : Char) (form : List FormAtom)
    (rest : List Char) :
    afterForm? (List.replicate 2 plainDigit ++ .exactly mark :: form)
      (twoDigits n ++ mark :: rest) = afterForm? form rest := by
  have same : (FormAtom.exactly mark).accepts mark = true := by simp [FormAtom.accepts]
  rw [afterForm?_append, afterForm?_twoDigits few, Option.bind_some, afterForm?, if_pos same]

theorem length_digitsOf_year (h : m.InCalendar) :
    (digitsOf m.date.year).length ≤ 4 ∧
      ((digitsOf m.date.year).length = 4 ↔ 1000 ≤ m.date.year) := by
  obtain ⟨-, last⟩ := h.year
  have four : (digitsOf m.date.year).length ≤ 4 ↔ m.date.year < 10 ^ 4 :=
    Nat.length_toDigits_le_iff (by decide) (by decide)
  have three : (digitsOf m.date.year).length ≤ 3 ↔ m.date.year < 10 ^ 3 :=
    Nat.length_toDigits_le_iff (by decide) (by decide)
  omega

theorem hasTimestampForm_iff (h : m.InCalendar) :
    HasTimestampForm (timestampText m) ↔ 1000 ≤ m.date.year := by
  obtain ⟨most, four⟩ := length_digitsOf_year h
  have lastDay := h.day_le
  obtain ⟨-, ⟨-, lastMonth⟩, -, lastHour, lastMinute, lastSecond⟩ := h
  rw [HasTimestampForm, toList_timestampText, clockText, timestampForm, afterForm?_append]
  by_cases late : 1000 ≤ m.date.year
  · refine iff_of_true ?_ late
    have year := afterForm?_replicate_length
      (fun c mem => accepts_plainDigit (isDigit_of_mem_digitsOf (n := m.date.year) c mem))
    have mark : (FormAtom.exactly '-').accepts '-' = true := rfl
    have seconds := afterForm?_twoDigits (n := m.second) (by omega) []
    rw [List.append_nil] at seconds
    rw [four.mpr late] at year
    rw [year, Option.bind_some, afterForm?, if_pos mark, afterForm?_twoDigits_append (by omega),
      afterForm?_twoDigits_append (by omega), afterForm?_twoDigits_append (by omega),
      afterForm?_twoDigits_append (by omega), seconds]
  · refine iff_of_false ?_ late
    have few : (digitsOf m.date.year).length < 4 := by omega
    rw [afterForm?_replicate_eq_none few rfl]
    simp

/-! ## Reading a timestamp -/

/-- The pattern of timestamps. -/
def timestampPattern : String := "%Y-%m-%d %H:%M:%S"

def timestampElements : Pattern :=
  [.field .year, .literal '-', .field .month, .literal '-', .field .day, .blanks] ++
    Pattern.timeOfDay

theorem ofText_timestampPattern : Pattern.ofText timestampPattern = .ok timestampElements := by
  decide +kernel

theorem reads_month : ∀ n ≤ 12, 1 ≤ n → Directive.month.Reads (twoDigits n) := by
  decide +kernel

theorem reads_day : ∀ n ≤ 31, 1 ≤ n → Directive.day.Reads (twoDigits n) := by
  decide +kernel

theorem reads_hour24 : ∀ n ≤ 23, Directive.hour24.Reads (twoDigits n) := by
  decide +kernel

theorem reads_minute : ∀ n ≤ 59, Directive.minute.Reads (twoDigits n) := by
  decide +kernel

theorem reads_second : ∀ n ≤ 59, Directive.second.Reads (twoDigits n) := by
  decide +kernel

theorem isDecimalDigit_of_isDigit {c : Char} (h : c.isDigit = true) : isDecimalDigit c = true := by
  rw [isDecimalDigit, decimalValue?_of_isDigit h]
  rfl

theorem reads_year {n : Nat} (four : (digitsOf n).length = 4) :
    Directive.year.Reads (digitsOf n) := by
  have whole : afterForm? (List.replicate (digitsOf n).length .digit) (digitsOf n ++ []) =
      some [] := by
    apply afterForm?_replicate_length
    intro c mem
    exact isDecimalDigit_of_isDigit (isDigit_of_mem_digitsOf c mem)
  have forms : Directive.year.forms = [List.replicate 4 .digit] := rfl
  rw [four, List.append_nil] at whole
  refine ⟨?_, ?_⟩
  · simp [forms, four]
  · rw [forms, List.findSome?_cons, whole]

theorem isBlank_of_isDigit {c : Char} (h : c.isDigit = true) : isBlank c = false := by
  obtain ⟨low, high⟩ := isDigit_bounds h
  simp [isBlank]
  omega

theorem clockText_starts (m : Moment) : ∀ c ∈ (clockText m).head?, isBlank c = false := by
  intro c first
  have hour : twoDigits m.hour ≠ [] := List.append_ne_nil_of_right_ne_nil _ (digitsOf_ne_nil _)
  rw [clockText, List.head?_append_of_ne_nil _ hour] at first
  exact isBlank_of_isDigit (isDigit_of_mem_twoDigits c (List.mem_of_head? first))

/-- The parts of a moment as they are written. -/
def writtenFields (m : Moment) : List (Directive × List Char) :=
  [(.year, digitsOf m.date.year), (.month, twoDigits m.date.month), (.day, twoDigits m.date.day),
    (.hour24, twoDigits m.hour), (.minute, twoDigits m.minute), (.second, twoDigits m.second)]

theorem match?_timestampElements (h : m.InCalendar) :
    timestampElements.match? (timestampText m) =
      if 1000 ≤ m.date.year then some (writtenFields m, []) else none := by
  obtain ⟨most, four⟩ := length_digitsOf_year h
  have lastDay := h.day_le
  obtain ⟨-, ⟨firstMonth, lastMonth⟩, ⟨firstDay, -⟩, lastHour, lastMinute, lastSecond⟩ := h
  rw [Pattern.match?, toList_timestampText]
  split
  case isTrue late =>
    have nothing : matchFrom [] [] = some ([], []) := rfl
    have seconds := matchFrom_field (reads_second _ lastSecond) nothing
    rw [List.append_nil] at seconds
    have minutes := matchFrom_field (reads_minute _ lastMinute)
      ((matchFrom_literal _ ':' _).trans seconds)
    have hours := matchFrom_field (reads_hour24 _ lastHour)
      ((matchFrom_literal _ ':' _).trans minutes)
    have days := matchFrom_field (reads_day _ lastDay firstDay)
      ((matchFrom_blanks _ (clockText_starts m)).trans hours)
    have months := matchFrom_field (reads_month _ lastMonth firstMonth)
      ((matchFrom_literal _ '-' _).trans days)
    exact matchFrom_field (reads_year (four.mpr late)) ((matchFrom_literal _ '-' _).trans months)
  case isFalse early =>
    have few : (digitsOf m.date.year).length < 4 := by omega
    have short : afterForm? (List.replicate 4 .digit) (digitsOf m.date.year ++ '-' ::
        (twoDigits m.date.month ++ '-' :: (twoDigits m.date.day ++ ' ' :: clockText m))) = none :=
      afterForm?_replicate_eq_none few rfl
    have forms : Directive.year.forms = [List.replicate 4 .digit] := rfl
    rw [timestampElements, List.cons_append, matchFrom, forms, List.findSome?_cons, short]
    rfl

/-- The parts of a time that the fields of a written moment give. -/
def writtenParts (m : Moment) : TimeParts where
  year := some m.date.year
  month := m.date.month
  day := m.date.day
  hour := m.hour
  minute := m.minute
  second := m.second

theorem foldlM_writtenFields (half : Option (List Char)) (m : Moment) :
    (writtenFields m).foldlM (takeField half) {} = .ok (writtenParts m) := by
  have taken : (writtenFields m).foldlM (takeField half) {} = .ok
      { year := some (writtenNumber (digitsOf m.date.year))
        month := writtenNumber (twoDigits m.date.month)
        day := writtenNumber (twoDigits m.date.day)
        hour := writtenNumber (twoDigits m.hour)
        minute := writtenNumber (twoDigits m.minute)
        second := writtenNumber (twoDigits m.second) } := rfl
  simp only [writtenNumber_digitsOf, writtenNumber_twoDigits] at taken
  exact taken

/-- The parts that were written make the moment again, without the fraction of its second. -/
theorem momentOfParts_writtenParts (h : m.InCalendar) :
    momentOfParts (writtenParts m) = .ok { m with microsecond := 0 } := by
  have date : dateOfParts (writtenParts m) =
      .ok (m.date.year, m.date.month, m.date.day) := by
    show (checkedDate m.date.year m.date.month m.date.day >>= fun date =>
      Except.ok (date.year, date.month, date.day)) = _
    rw [checkedDate, h.date_make]
    rfl
  show (dateOfParts (writtenParts m) >>= fun x => (Moment.make x.1 x.2.1 x.2.2
    m.hour m.minute m.second 0).mapError TimeFault.calendar) = _
  rw [date]
  show (Moment.make m.date.year m.date.month m.date.day m.hour m.minute m.second 0).mapError _ = _
  rw [h.make]
  rfl

/-- A timestamp is read back as its moment, to the second, if its year has four digits; else it does
not match. -/
theorem readTime_timestampText (h : m.InCalendar) :
    readTime (timestampText m) timestampPattern = .ok (
      if 1000 ≤ m.date.year then .ok { m with microsecond := 0 }
      else .error (.mismatch (timestampText m) timestampPattern)) := by
  have found := match?_timestampElements h
  rw [readTime, ofText_timestampPattern]
  show Except.ok (readElements timestampPattern timestampElements (timestampText m)) = _
  by_cases late : 1000 ≤ m.date.year
  · rw [if_pos late] at found ⊢
    rw [readElements, found]
    show Except.ok ((writtenFields m).foldlM (takeField none) {} >>= momentOfParts) = _
    rw [foldlM_writtenFields]
    exact congrArg _ (momentOfParts_writtenParts h)
  · rw [if_neg late] at found ⊢
    rw [readElements, found]

theorem canonicalTime_timestampText (h : m.InCalendar) :
    canonicalTime timestampPattern (timestampText m) =
      if 1000 ≤ m.date.year then .ok (timestampText m)
      else .error (.unreadableTime (timestampText m) timestampPattern
        (.mismatch (timestampText m) timestampPattern)) := by
  rw [canonicalTime, readTime_timestampText h]
  by_cases late : 1000 ≤ m.date.year
  · rw [if_pos late, if_pos late]
    rfl
  · rw [if_neg late, if_neg late]

/-! ## The transform -/

/-- With the pattern of timestamps, whatever the other parameters are, the transform has an outcome
for a text. -/
def FormatsTo (written : String) (outcome : Except TransformFault Transformed) : Prop :=
  ∀ params : Params, params.given? "format" = some timestampPattern →
    TransformRegistry.builtin.apply "time_format" (.string written) params = outcome

theorem timeTransform_eq_ok {value : Json} {params : Params} {result : Transformed}
    (h : TransformRegistry.builtin.apply "time_format" value params = .ok result) :
    ∃ text pattern moment, inputText value = .ok text ∧ params.given? "format" = some pattern ∧
      readTime text pattern = .ok (.ok moment) ∧
      result = ⟨.text (timestampText moment), .string, .timestamp⟩ := by
  have h : timeTransform value params = .ok result := h
  unfold timeTransform at h
  split at h
  · cases h
  · next pattern given =>
    obtain ⟨text, read, h⟩ := bind_eq_ok_iff.mp h
    obtain ⟨written, canonical, h⟩ := bind_eq_ok_iff.mp h
    unfold canonicalTime at canonical
    split at canonical
    · cases canonical
    · cases canonical
    · next moment parsed =>
      obtain rfl := Except.ok.inj canonical
      exact ⟨text, pattern, moment, read, given, parsed, (Except.ok.inj h).symm⟩

theorem apply_timestampPattern {params : Params}
    (given : params.given? "format" = some timestampPattern) (written : String) :
    TransformRegistry.builtin.apply "time_format" (.string written) params =
      (canonicalTime timestampPattern written).map (⟨.text ·, .string, .timestamp⟩) := by
  show timeTransform (.string written) params = _
  rw [timeTransform, given]
  show (canonicalTime timestampPattern written >>= fun text => _) = _
  cases canonicalTime timestampPattern written <;> rfl

/-- Whenever the transform succeeds, the result is the timestamp of a moment of the calendar, the
one that the pattern reads in the text. If its year has four digits, the result has the full form,
and the transform with the pattern of timestamps leaves it as it is. For an earlier year the result
does not have the form, and that transform fails, since the pattern does not match. -/
theorem hasTimestampForm_iff_fourDigitYear (value : Json) (params : Params) (result : Transformed)
    (success : TransformRegistry.builtin.apply "time_format" value params = .ok result) :
    ∃ text pattern moment, inputText value = .ok text ∧ params.given? "format" = some pattern ∧
      readTime text pattern = .ok (.ok moment) ∧ moment.InCalendar ∧
      result = ⟨.text (timestampText moment), .string, .timestamp⟩ ∧
      (HasTimestampForm (timestampText moment) ↔ 1000 ≤ moment.date.year) ∧
      (1000 ≤ moment.date.year → FormatsTo (timestampText moment) (.ok result)) ∧
      (moment.date.year < 1000 → FormatsTo (timestampText moment)
        (.error (.unreadableTime (timestampText moment) timestampPattern
          (.mismatch (timestampText moment) timestampPattern)))) := by
  obtain ⟨text, pattern, moment, read, given, parsed, rfl⟩ := timeTransform_eq_ok success
  have valid := inCalendar_of_readTime parsed
  refine ⟨text, pattern, moment, read, given, parsed, valid, rfl, hasTimestampForm_iff valid, ?_,
    ?_⟩
  · intro late params asked
    rw [apply_timestampPattern asked, canonicalTime_timestampText valid, if_pos late]
    rfl
  · intro early params asked
    rw [apply_timestampPattern asked, canonicalTime_timestampText valid, if_neg (by omega)]
    rfl

theorem hasTimestampForm_iff_fourDigitYear_party :
    TransformRegistry.builtin.apply "time_format" (.string "15.01.24 9PM")
        [("format", "%d.%m.%y %I%p")] =
      .ok ⟨.text "2024-01-15 21:00:00", .string, .timestamp⟩ ∧
    ∃ text pattern moment, inputText (.string "15.01.24 9PM") = .ok text ∧
      Params.given? [("format", "%d.%m.%y %I%p")] "format" = some pattern ∧
      readTime text pattern = .ok (.ok moment) ∧ moment.InCalendar ∧
      (⟨.text "2024-01-15 21:00:00", .string, .timestamp⟩ : Transformed) =
        ⟨.text (timestampText moment), .string, .timestamp⟩ ∧
      (HasTimestampForm (timestampText moment) ↔ 1000 ≤ moment.date.year) ∧
      (1000 ≤ moment.date.year → FormatsTo (timestampText moment)
        (.ok ⟨.text "2024-01-15 21:00:00", .string, .timestamp⟩)) ∧
      (moment.date.year < 1000 → FormatsTo (timestampText moment)
        (.error (.unreadableTime (timestampText moment) timestampPattern
          (.mismatch (timestampText moment) timestampPattern)))) := by
  have success : TransformRegistry.builtin.apply "time_format" (.string "15.01.24 9PM")
      [("format", "%d.%m.%y %I%p")] =
        .ok ⟨.text "2024-01-15 21:00:00", .string, .timestamp⟩ :=
    toOption_eq_some_iff.mp (by decide +kernel)
  exact ⟨success, hasTimestampForm_iff_fourDigitYear _ _ _ success⟩

/-- The year 999 is written with three digits. -/
theorem not_forall_hasTimestampForm :
    ¬ ∀ value params result, TransformRegistry.builtin.apply "time_format" value params =
        .ok result →
      ∃ written, result = ⟨.text written, .string, .timestamp⟩ ∧ HasTimestampForm written ∧
        FormatsTo written (.ok result) := by
  intro always
  obtain ⟨written, same, form, -⟩ := always (.string "0999-01-15") [("format", "%Y-%m-%d")]
    ⟨.text "999-01-15 00:00:00", .string, .timestamp⟩
    (toOption_eq_some_iff.mp (by decide +kernel))
  simp only [Transformed.mk.injEq, Scalar.text.injEq, and_true] at same
  subst same
  exact absurd form (by rw [HasTimestampForm]; decide +kernel)

end DocGraph
