import DocGraph.Number.Power
import DocGraph.Text.Quoted
import DocGraph.Time.Calendar
import DocGraph.Time.Pattern

/-!
# Reading and writing times by patterns

The fields that a pattern finds are taken over from left to right, so that of two fields
for one part of a time the later wins. A time without a year lies in 1900, one without
a month or day on the first. A day of the year, or a week with a day of the week, takes
precedence over month and day.

## Main definitions

* `TimeFault`: why a text cannot be read by a pattern.
* `readTime`: the moment that a text names.
* `timestampText`: the canonical written form of a moment.
-/

namespace DocGraph

/-- Why a text cannot be read by a pattern. -/
inductive TimeFault where
  /-- The pattern names something unknown. -/
  | badDirective (name : Char) (pattern : String)
  /-- The pattern ends with a percent sign. -/
  | stray (pattern : String)
  /-- The text does not start as the pattern asks. -/
  | mismatch (text pattern : String)
  /-- Something follows what the pattern asks for. -/
  | unconverted (rest : String)
  /-- A name was found that is the wanted one only up to unusual letters. -/
  | unknownName (name : String)
  /-- The colons in a difference to universal time do not agree. -/
  | inconsistentColons (offset : String)
  /-- A part of a difference to universal time is not a number. -/
  | badNumber (digits : String)
  /-- The day of the year does not go with an ISO year. -/
  | dayWithIsoYear
  /-- An ISO year lacks its week or its day of the week. -/
  | incompleteIsoYear
  /-- An ISO week lacks its year or its day of the week. -/
  | incompleteIsoWeek
  /-- An ISO week stands with an ordinary year. -/
  | isoWeekWithYear
  /-- The difference to universal time, in microseconds, is a day or more. -/
  | offset (microseconds : Int)
  /-- The numbers are not those of a date or a time of day. -/
  | calendar (fault : CalendarFault)
  deriving DecidableEq, Repr

namespace TimeFault

def message : TimeFault → String
  | .badDirective name pattern => s!"'{name}' is a bad directive in format '{pattern}'"
  | .stray pattern => s!"stray % in format '{pattern}'"
  | .mismatch text pattern =>
    s!"time data {quoted text} does not match format {quoted pattern}"
  | .unconverted rest => s!"unconverted data remains: {rest}"
  | .unknownName name => s!"{quoted name} is not in list"
  | .inconsistentColons written => s!"Inconsistent use of : in {written}"
  | .badNumber digits => s!"invalid literal for int() with base 10: {quoted digits}"
  | .dayWithIsoYear => "Day of the year directive '%j' is not compatible with ISO year "
      ++ "directive '%G'. Use '%Y' instead."
  | .incompleteIsoYear => "ISO year directive '%G' must be used with the ISO week directive "
      ++ "'%V' and a weekday directive ('%A', '%a', '%w', or '%u')."
  | .incompleteIsoWeek => "ISO week directive '%V' must be used with the ISO year directive "
      ++ "'%G' and a weekday directive ('%A', '%a', '%w', or '%u')."
  | .isoWeekWithYear => "ISO week directive '%V' is incompatible with the year directive "
      ++ "'%Y'. Use the ISO year '%G' instead."
  | .offset microseconds => offsetMessage microseconds
  | .calendar fault => fault.message

end TimeFault

/-- The parts of a time that a text has given so far. -/
structure TimeParts where
  year : Option Nat := none
  isoYear : Option Nat := none
  month : Nat := 1
  day : Nat := 1
  hour : Nat := 0
  minute : Nat := 0
  second : Nat := 0
  microsecond : Nat := 0
  offset : Option Int := none
  isoWeek : Option Nat := none
  /-- The week of the year, and whether weeks start on Monday. -/
  week : Option (Nat × Bool) := none
  weekday : Option Nat := none
  dayOfYear : Option Nat := none

/-- The number written with decimal digits of any script; other characters are passed
over. -/
def writtenNumber (cs : List Char) : Nat :=
  (cs.filterMap decimalValue?).foldl (fun n d => n * 10 + d) 0

/-- The position of a name in a list, in lower case. -/
def nameIndex (names : List String) (written : List Char) : Except TimeFault Nat :=
  let name := lower (String.ofList written)
  match names.findIdx? (· == name) with
  | some index => .ok index
  | none => .error (.unknownName name)

/-- The difference to universal time, in microseconds, of a written one. -/
def writtenOffset (written : List Char) : Except TimeFault Int :=
  if written = ['Z'] then .ok 0
  else do
    let z ←
      if written[3]? = some ':' then
        let z := written.eraseIdx 3
        if z.length > 5 then
          if z[5]? = some ':' then pure (z.eraseIdx 5)
          else .error (.inconsistentColons (String.ofList written))
        else pure z
      else pure written
    let seconds := (z.drop 5).take 2
    if seconds.any (!isDecimalDigit ·) then .error (.badNumber (String.ofList seconds))
    else
      let fraction := z.drop 8
      let hours := writtenNumber ((z.drop 1).take 2)
      let minutes := writtenNumber ((z.drop 3).take 2)
      let micro := writtenNumber (fraction ++ List.replicate (6 - fraction.length) '0')
      let total : Int :=
        (hours * 3600 + minutes * 60 + writtenNumber seconds) * 1000000 + micro
      return if z.head? = some '-' then -total else total

/-- The hour of a twelve-hour clock, given what was found for the half of the day. -/
def hourOfHalf (half : Option (List Char)) (hour : Nat) : Nat :=
  let name := lower (String.ofList (half.getD []))
  if name = "" || name = "am" then if hour = 12 then 0 else hour
  else if name = "pm" then if hour = 12 then 12 else hour + 12
  else hour

/-- Takes over one field. -/
def takeField (half : Option (List Char)) (t : TimeParts) (field : Directive × List Char) :
    Except TimeFault TimeParts :=
  let (directive, written) := field
  let n := writtenNumber written
  match directive with
  | .shortYear => .ok { t with year := some (if n ≤ 68 then n + 2000 else n + 1900) }
  | .year => .ok { t with year := some n }
  | .isoYear => .ok { t with isoYear := some n }
  | .month => .ok { t with month := n }
  | .monthName => do return { t with month := (← nameIndex monthNames written) + 1 }
  | .shortMonthName => do return { t with month := (← nameIndex shortMonthNames written) + 1 }
  | .day => .ok { t with day := n }
  | .hour24 => .ok { t with hour := n }
  | .hour12 => .ok { t with hour := hourOfHalf half n }
  | .minute => .ok { t with minute := n }
  | .second => .ok { t with second := n }
  | .fraction => .ok { t with microsecond := n * tenTo (6 - written.length) }
  | .weekdayName => do return { t with weekday := some (← nameIndex weekdayNames written) }
  | .shortWeekdayName => do
    return { t with weekday := some (← nameIndex shortWeekdayNames written) }
  | .weekdayFromSunday => .ok { t with weekday := some ((n + 6) % 7) }
  | .weekdayFromMonday => .ok { t with weekday := some (n - 1) }
  | .dayOfYear => .ok { t with dayOfYear := some n }
  | .weekFromSunday => .ok { t with week := some (n, false) }
  | .weekFromMonday => .ok { t with week := some (n, true) }
  | .isoWeek => .ok { t with isoWeek := some n }
  | .offset => do return { t with offset := some (← writtenOffset written) }
  | .halfOfDay | .zone => .ok t

/-- A date, with calendar faults as faults of reading. -/
def checkedDate (year : Int) (month day : Nat) : Except TimeFault Date :=
  (Date.make year month day).mapError .calendar

/-- The day of a year, possibly before its first, of a day in a week. -/
def dayOfWeekOfYear (year week weekday : Nat) (fromMonday : Bool) : Except TimeFault Int := do
  let first := (← checkedDate year 1 1).weekday
  let (first, weekday) :=
    if fromMonday then (first, weekday) else ((first + 1) % 7, (weekday + 1) % 7)
  if week = 0 then return 1 + weekday - first
  else return 1 + ((7 - first) % 7 + 7 * (week - 1)) + weekday

/-- The year and the day in it of a day in an ISO week; days of the week count from
zero. -/
def dayOfIsoWeek (year week weekday : Nat) : Except TimeFault (Nat × Int) := do
  let correction := (← checkedDate year 1 4).weekday + 4
  let day : Int := (week * 7 + weekday + 1 : Nat) - (correction : Int)
  if day < 1 then
    let start := (← checkedDate year 1 1).ordinal
    let before := (← checkedDate (year - 1) 1 1).ordinal
    return (year - 1, day + start - before)
  else return (year, day)

/-- The year, and the day in it when the parts name it by a day of the year or by a week
with a day of the week. -/
def namedDay (t : TimeParts) (year : Nat) : Except TimeFault (Nat × Option Int) := do
  match t.dayOfYear, t.weekday with
  | some day, _ => return (year, some day)
  | none, none => return (year, none)
  | none, some weekday =>
    match t.week, t.isoYear, t.isoWeek with
    | some (week, fromMonday), _, _ =>
      return (year, some (← dayOfWeekOfYear year week weekday fromMonday))
    | none, some isoYear, some isoWeek =>
      let (year, day) ← dayOfIsoWeek isoYear isoWeek weekday
      return (year, some day)
    | _, _, _ => return (year, none)

/-- Which ISO parts must stand together. A week counted within an ordinary year takes the
place of an ISO week that has no ISO year. -/
def checkIsoParts (t : TimeParts) : Except TimeFault Unit :=
  if t.isoYear.isSome then
    if t.isoWeek.isNone || t.weekday.isNone then .error .incompleteIsoYear
    else if t.dayOfYear.isSome then .error .dayWithIsoYear
    else .ok ()
  else if t.week.isNone && t.isoWeek.isSome then
    if t.weekday.isNone then .error .incompleteIsoWeek else .error .isoWeekWithYear
  else .ok ()

/-- The date of the parts. A 29 February without a year is looked up in a leap year, but
then moved to 1900. -/
def dateOfParts (t : TimeParts) : Except TimeFault (Nat × Nat × Nat) := do
  let leapDay := t.year.isNone && t.month == 2 && t.day == 29
  let year := t.year.getD (if leapDay then 1904 else 1900)
  let (year, named) ← namedDay t year
  let (year, named) : Int × Option Int := match named with
    | some day =>
      if day ≤ 0 then (year - 1, some (day + daysInYear (year - 1))) else (year, some day)
    | none => (year, none)
  let date ← match named with
    | none => checkedDate year t.month t.day
    | some day => do
      let start := (← checkedDate year 1 1).ordinal
      (Date.ofOrdinal (day - 1 + start)).mapError .calendar
  return (if leapDay then 1900 else date.year, date.month, date.day)

def momentOfParts (t : TimeParts) : Except TimeFault Moment := do
  checkIsoParts t
  let (year, month, day) ← dateOfParts t
  match t.offset with
  | some offset => if isOffset offset then pure () else .error (.offset offset)
  | none => pure ()
  (Moment.make year month day t.hour t.minute t.second t.microsecond).mapError .calendar

/-- The moment that a text names, read by the elements of a pattern text. -/
def readElements (patternText : String) (pattern : Pattern) (text : String) :
    Except TimeFault Moment := do
  match pattern.match? text with
  | none => .error (.mismatch text patternText)
  | some (fields, rest) =>
    if rest.isEmpty then
      let half := fields.lookup .halfOfDay
      let parts ← fields.foldlM (takeField half) {}
      momentOfParts parts
    else .error (.unconverted (String.ofList rest))

/-- What a pattern text that is no pattern means for reading: a fault, except for a part
named twice, which is given back as it is. -/
def patternProblem (patternText : String) : PatternFault → Except Repetition TimeFault
  | .badDirective name => .ok (.badDirective name patternText)
  | .stray => .ok (.stray patternText)
  | .repeated repetition => .error repetition

/-- The moment that a text names, read by a pattern text. A pattern that names a part
twice is not a fault of reading. -/
def readTime (text patternText : String) : Except Repetition (Except TimeFault Moment) :=
  match Pattern.ofText patternText with
  | .ok pattern => .ok (readElements patternText pattern text)
  | .error fault => (patternProblem patternText fault).map .error

/-- The canonical written form of a moment: the year as it is, the other parts with two
digits. -/
def timestampText (m : Moment) : String :=
  let two := paddedDigits 2
  s!"{m.date.year}-{two m.date.month}-{two m.date.day} {two m.hour}:{two m.minute}:{two m.second}"

end DocGraph
