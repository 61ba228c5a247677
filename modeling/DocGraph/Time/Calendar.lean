/-!
# The Gregorian calendar

Dates from year 1 to year 9999, numbered by their *ordinal*: the first of January of
year 1 has ordinal 1.

## Main definitions

* `Date`, `Date.make`: a date, and the check of its three parts.
* `Date.ordinal`, `Date.ofOrdinal`: the numbering of days and its inverse.
* `Date.weekday`: the day of the week, Monday being zero.
* `Moment`: a date with a time of day.
-/

namespace DocGraph

/-- Why numbers do not make a date or a time of day. -/
inductive CalendarFault where
  | year (value : Int)
  | month
  | day
  | ordinal
  | hour
  | minute
  | second
  deriving DecidableEq, Repr

namespace CalendarFault

def message : CalendarFault → String
  | .year value => s!"year {value} is out of range"
  | .month => "month must be in 1..12"
  | .day => "day is out of range for month"
  | .ordinal => "ordinal must be >= 1"
  | .hour => "hour must be in 0..23"
  | .minute => "minute must be in 0..59"
  | .second => "second must be in 0..59"

end CalendarFault

def isLeapYear (year : Nat) : Bool := year % 4 == 0 && (year % 100 != 0 || year % 400 == 0)

/-- The number of days in a month of a year. -/
def daysInMonth (year month : Nat) : Nat :=
  if month = 2 then if isLeapYear year then 29 else 28
  else if month = 4 || month = 6 || month = 9 || month = 11 then 30
  else 31

def daysInYear (year : Nat) : Nat := if isLeapYear year then 366 else 365

/-- The number of days before the first of January of a year. -/
def daysBeforeYear (year : Nat) : Nat :=
  let past := year - 1
  past * 365 + past / 4 - past / 100 + past / 400

/-- The number of days of a year before a month. -/
def daysBeforeMonth (year month : Nat) : Nat :=
  (List.range (month - 1)).foldl (fun days m => days + daysInMonth year (m + 1)) 0

/-- A date by year, month and day. -/
structure Date where
  year : Nat
  month : Nat
  day : Nat
  deriving DecidableEq, Repr

namespace Date

/-- The date with the given parts, which are checked from year to day. -/
def make (year : Int) (month day : Nat) : Except CalendarFault Date :=
  if year < 1 || year > 9999 then .error (.year year)
  else if month < 1 || month > 12 then .error .month
  else if day < 1 || day > daysInMonth year.toNat month then .error .day
  else .ok ⟨year.toNat, month, day⟩

/-- The ordinal of a date. -/
def ordinal (d : Date) : Nat := daysBeforeYear d.year + daysBeforeMonth d.year d.month + d.day

/-- The year that holds an ordinal: the last year with fewer days before it, looked for
upward from an estimate that is at most one year off. -/
def yearOfOrdinal (ordinal : Nat) : Nat :=
  let estimate := (ordinal - 1) * 400 / 146097
  if daysBeforeYear (estimate + 2) < ordinal then estimate + 2
  else if daysBeforeYear (estimate + 1) < ordinal then estimate + 1
  else estimate

/-- The month and day of a day of a year, given the months still to be looked at. -/
def monthOfDay (year : Nat) : List Nat → Nat → Nat × Nat
  | [], day => (12, day)
  | month :: rest, day =>
    let size := daysInMonth year month
    if day ≤ size then (month, day) else monthOfDay year rest (day - size)

def ofOrdinal (ordinal : Int) : Except CalendarFault Date :=
  if ordinal < 1 then .error .ordinal
  else
    let n := ordinal.toNat
    let year := yearOfOrdinal n
    if year > 9999 then .error (.year year)
    else
      let (month, day) := monthOfDay year (List.range' 1 12) (n - daysBeforeYear year)
      .ok ⟨year, month, day⟩

/-- The day of the week of a date, from zero for Monday to six for Sunday. -/
def weekday (d : Date) : Nat := (d.ordinal + 6) % 7

end Date

/-- A date with a time of day. -/
structure Moment where
  date : Date
  hour : Nat
  minute : Nat
  second : Nat
  microsecond : Nat
  deriving DecidableEq, Repr

namespace Moment

/-- The moment with the given parts, checked from the year to the second. -/
def make (year : Int) (month day hour minute second microsecond : Nat) :
    Except CalendarFault Moment := do
  let date ← Date.make year month day
  if hour > 23 then .error .hour
  else if minute > 59 then .error .minute
  else if second > 59 then .error .second
  else .ok ⟨date, hour, minute, second, microsecond⟩

end Moment

/-- The decimal digits of a number, padded with zeros to a width. -/
def paddedDigits (width n : Nat) : String :=
  let digits := toString n
  String.ofList (List.replicate (width - digits.length) '0') ++ digits

/-- The greatest difference between a local time and universal time, in microseconds,
which is never reached. -/
def offsetLimit : Int := 24 * 60 * 60 * 1000000

/-- The written form of a span of time, given in microseconds, in diagnostics: whole
days, then seconds and microseconds of the last day, without the parts that are zero. -/
def spanText (microseconds : Int) : String :=
  let days := microseconds.fdiv offsetLimit
  let rest := microseconds.fmod offsetLimit
  let parts := [("days", days), ("seconds", rest / 1000000), ("microseconds", rest % 1000000)]
  let shown := (parts.filter (·.2 != 0)).map fun (name, size) => s!"{name}={size}"
  let inside := if shown.isEmpty then "0" else String.intercalate ", " shown
  s!"datetime.timedelta({inside})"

/-- The complaint about a difference to universal time of a day or more. -/
def offsetMessage (microseconds : Int) : String :=
  "offset must be a timedelta strictly between -timedelta(hours=24) and timedelta(hours=24), not "
    ++ spanText microseconds ++ "."

/-- Whether a difference to universal time is less than a day. -/
def isOffset (microseconds : Int) : Bool :=
  -offsetLimit < microseconds && microseconds < offsetLimit

end DocGraph
