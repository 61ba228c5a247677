import DocGraph.Text.Blank
import DocGraph.Text.Case
import DocGraph.Text.Digit

/-!
# Patterns for written times

A pattern is a text in which a percent sign and a letter stand for a part of a time; a
run of white space stands for any run of white space; every other character stands for
itself in either letter case. A pattern is matched from the start of a text, each part
trying its forms in a fixed order, and the first way to match the whole pattern counts.

## Main definitions

* `Directive`: the parts of a time, with their forms.
* `Pattern.ofText`: the elements of a pattern, or why it is none.
* `Pattern.match?`: the fields found in a text, and what follows them.
-/

namespace DocGraph

/-- One character of a written form. -/
inductive FormAtom where
  /-- A letter in either case. -/
  | letter (c : Char)
  /-- Exactly this character. -/
  | exactly (c : Char)
  /-- A plain digit within bounds. -/
  | between (low high : Char)
  /-- A decimal digit of any script. -/
  | digit
  deriving DecidableEq, Repr

/-- The lower-case letter of a letter, as far as it is a single letter. -/
def foldLetter (c : Char) : Char :=
  if c.toNat = 0x130 then 'i'
  else
    match lowerRuns.find? (·.contains c.toNat) with
    | some run => Char.ofNat (run.apply c.toNat)
    | none => c

/-- Whether two characters are the same up to letter case: they have the same lower-case
letter, or their lower-case letters have the same upper-case form. -/
def sameLetter (a b : Char) : Bool :=
  a == b || foldLetter a == foldLetter b
    || (mapCase upperRuns upperExpansions (foldLetter a)
          == mapCase upperRuns upperExpansions (foldLetter b))

namespace FormAtom

/-- Whether a character has the form of an atom. -/
def accepts (atom : FormAtom) (c : Char) : Bool :=
  match atom with
  | .letter x => sameLetter x c
  | .exactly x => x == c
  | .between low high => low ≤ c && c ≤ high
  | .digit => isDecimalDigit c

end FormAtom

/-- The forms of a part of a time, in the order in which they are tried. -/
abbrev Forms := List (List FormAtom)

/-- A word in any letter case. -/
def wordForm (word : String) : List FormAtom := word.toList.map .letter

def monthNames : List String :=
  ["january", "february", "march", "april", "may", "june", "july", "august", "september",
   "october", "november", "december"]

def shortMonthNames : List String :=
  ["jan", "feb", "mar", "apr", "may", "jun", "jul", "aug", "sep", "oct", "nov", "dec"]

/-- The days of the week by their full names. -/
def weekdayNames : List String :=
  ["monday", "tuesday", "wednesday", "thursday", "friday", "saturday", "sunday"]

/-- The days of the week by their short names. -/
def shortWeekdayNames : List String := ["mon", "tue", "wed", "thu", "fri", "sat", "sun"]

/-- The names sorted so that longer ones are tried first. -/
def longestFirst (names : List String) : List String :=
  names.mergeSort fun a b => a.length ≥ b.length

/-- The parts of a time that a pattern can name. -/
inductive Directive where
  | day | fraction | hour24 | hour12 | isoYear | dayOfYear | month | minute | second
  | weekFromSunday | weekFromMonday | weekdayFromSunday | weekdayFromMonday | isoWeek
  | shortYear | year | offset | weekdayName | shortWeekdayName | monthName
  | shortMonthName | halfOfDay | zone
  deriving DecidableEq, Repr

namespace Directive

/-- Two digits, the first of them bounded, or one digit. -/
def upTo (last : Char) : Forms := [[.between '0' last, .digit], [.digit]]

/-- Digits that are not zero. -/
def nonzero : FormAtom := .between '1' '9'

/-- The forms of a fraction of a second or of an offset: up to six digits, the longest
first. -/
def upToSix (d : FormAtom) : Forms := [6, 5, 4, 3, 2, 1].map fun n => List.replicate n d

/-- The forms of a difference to universal time: a sign, hours and minutes, then
seconds, then a fraction, with colons between them where they are written. -/
def offsetForms : Forms :=
  let sixty : List FormAtom := [.between '0' '5', .digit]
  let colons : Forms := [[.exactly ':'], []]
  let fractions : Forms := ((upToSix .digit).map (.exactly '.' :: ·)) ++ [[]]
  let seconds : Forms :=
    (colons.flatMap fun colon => fractions.map fun part => colon ++ sixty ++ part) ++ [[]]
  let signs : Forms := [[.exactly '+'], [.exactly '-']]
  (signs.flatMap fun sign => colons.flatMap fun colon => seconds.map fun part =>
    sign ++ [.digit, .digit] ++ colon ++ sixty ++ part) ++ [[.exactly 'Z']]

/-- The forms of a part of a time, in the order in which they are tried. -/
def forms : Directive → Forms
  | .day => [[.between '3' '3', .between '0' '1'], [.between '1' '2', .digit],
      [.exactly '0', nonzero], [nonzero], [.exactly ' ', nonzero]]
  | .fraction => upToSix (.between '0' '9')
  | .hour24 => [[.exactly '2', .between '0' '3'], [.between '0' '1', .digit], [.digit]]
  | .hour12 | .month => [[.exactly '1', .between '0' '2'], [.exactly '0', nonzero], [nonzero]]
  | .isoYear | .year => [[.digit, .digit, .digit, .digit]]
  | .dayOfYear => [[.exactly '3', .exactly '6', .between '0' '6'],
      [.exactly '3', .between '0' '5', .digit], [.between '1' '2', .digit, .digit],
      [.exactly '0', nonzero, .digit], [.exactly '0', .exactly '0', nonzero],
      [nonzero, .digit], [.exactly '0', nonzero], [nonzero]]
  | .minute => upTo '5'
  | .second => [.exactly '6', .between '0' '1'] :: upTo '5'
  | .weekFromSunday | .weekFromMonday => [.exactly '5', .between '0' '3'] :: upTo '4'
  | .weekdayFromSunday => [[.between '0' '6']]
  | .weekdayFromMonday => [[.between '1' '7']]
  | .isoWeek => [[.exactly '5', .between '0' '3'], [.exactly '0', nonzero],
      [.between '1' '4', .digit], [.digit]]
  | .shortYear => [[.digit, .digit]]
  | .offset => offsetForms
  | .weekdayName => (longestFirst weekdayNames).map wordForm
  | .shortWeekdayName => shortWeekdayNames.map wordForm
  | .monthName => (longestFirst monthNames).map wordForm
  | .shortMonthName => shortMonthNames.map wordForm
  | .halfOfDay => ["am", "pm"].map wordForm
  | .zone => ["utc", "gmt"].map wordForm

def letter : Directive → Char
  | .day => 'd' | .fraction => 'f' | .hour24 => 'H' | .hour12 => 'I' | .isoYear => 'G'
  | .dayOfYear => 'j' | .month => 'm' | .minute => 'M' | .second => 'S'
  | .weekFromSunday => 'U' | .weekFromMonday => 'W' | .weekdayFromSunday => 'w'
  | .weekdayFromMonday => 'u' | .isoWeek => 'V' | .shortYear => 'y' | .year => 'Y'
  | .offset => 'z' | .weekdayName => 'A' | .shortWeekdayName => 'a' | .monthName => 'B'
  | .shortMonthName => 'b' | .halfOfDay => 'p' | .zone => 'Z'

/-- How many characters the expression takes that stands for a directive in the written
expression of a pattern. -/
def width : Directive → Nat
  | .day => 41 | .fraction => 17 | .hour24 => 24 | .hour12 | .month => 26
  | .isoYear | .year => 15 | .dayOfYear => 71 | .minute => 17 | .second => 24
  | .weekFromSunday | .weekFromMonday => 24 | .weekdayFromSunday | .weekdayFromMonday => 12
  | .isoWeek => 31 | .shortYear => 11 | .offset => 56 | .weekdayName => 63
  | .shortWeekdayName => 34 | .monthName => 92 | .shortMonthName => 54
  | .halfOfDay => 12 | .zone => 14

/-- How many numbered groups that expression has. -/
def groups : Directive → Nat
  | .offset => 3
  | _ => 1

end Directive

/-- An element of a pattern. -/
inductive PatternElement where
  /-- A character, in either letter case. -/
  | literal (c : Char)
  /-- A run of white space. -/
  | blanks
  /-- A part of a time. -/
  | field (directive : Directive)
  deriving DecidableEq, Repr

/-- A part of a time that a pattern names twice: the groups of the pattern in which it
occurs, counted with all groups before them, and where the second one is. -/
structure Repetition where
  name : Char
  group : Nat
  earlier : Nat
  position : Nat
  deriving DecidableEq, Repr

def Repetition.message (r : Repetition) : String :=
  s!"redefinition of group name '{r.name}' as group {r.group}; was group {r.earlier} "
    ++ s!"at position {r.position}"

/-- Why a text is not a pattern. -/
inductive PatternFault where
  /-- A percent sign is followed by a character that names nothing. -/
  | badDirective (name : Char)
  /-- The text ends with a percent sign. -/
  | stray
  /-- A part of a time is named twice. -/
  | repeated (repetition : Repetition)
  deriving DecidableEq, Repr

abbrev Pattern := List PatternElement

namespace Pattern

def directives : List Directive :=
  [.day, .fraction, .hour24, .hour12, .isoYear, .dayOfYear, .month, .minute, .second,
   .weekFromSunday, .weekFromMonday, .weekdayFromSunday, .weekdayFromMonday, .isoWeek,
   .shortYear, .year, .offset, .weekdayName, .shortWeekdayName, .monthName,
   .shortMonthName, .halfOfDay, .zone]

/-- The elements of a written time of day. -/
def timeOfDay : Pattern :=
  [.field .hour24, .literal ':', .field .minute, .literal ':', .field .second]

/-- The elements that a letter after a percent sign stands for. -/
def elementsOf? (c : Char) : Option Pattern :=
  match c with
  | '%' => some [.literal '%']
  | 'X' => some timeOfDay
  | 'x' => some [.field .month, .literal '/', .field .day, .literal '/', .field .shortYear]
  | 'c' => some ([.field .shortWeekdayName, .blanks, .field .shortMonthName, .blanks, .field .day,
      .blanks] ++ timeOfDay ++ [.blanks, .field .year])
  | _ => (directives.find? (·.letter == c)).map fun d => [.field d]

/-- The characters with a meaning of their own in written expressions. -/
def isSpecial (c : Char) : Bool := "\\.^$*+?()\x7b\x7d[]|".contains c

/-- The elements of a pattern. `afterBlank` tells that the last element is a run of
white space. -/
def elementsFrom (afterBlank : Bool) : List Char → Except PatternFault Pattern
  | [] => .ok []
  | ['%'] => .error .stray
  | '%' :: c :: rest =>
    match elementsOf? c with
    | some elements => do return elements ++ (← elementsFrom false rest)
    | none => .error (.badDirective (if isSpecial c || isBlank c then '%' else c))
  | c :: rest =>
    if isBlank c then
      if afterBlank then elementsFrom true rest
      else do return .blanks :: (← elementsFrom true rest)
    else do return .literal c :: (← elementsFrom false rest)

/-- How many characters an element takes in the written expression of a pattern. -/
def elementWidth : PatternElement → Nat
  | .literal c => if isSpecial c then 2 else 1
  | .blanks => 3
  | .field d => d.width

/-- The fault of the first part of a time that is named twice. The directives seen so
far are kept with their group numbers. -/
def repeatedFault (seen : List (Directive × Nat)) (groups position : Nat) :
    Pattern → Option PatternFault
  | [] => none
  | .field d :: rest =>
    match seen.lookup d with
    | some earlier => some (.repeated ⟨d.letter, groups + 1, earlier, position + 4⟩)
    | none => repeatedFault ((d, groups + 1) :: seen) (groups + d.groups) (position + d.width) rest
  | element :: rest => repeatedFault seen groups (position + elementWidth element) rest

/-- The elements of a pattern text. No part of a time may be named twice. -/
def ofText (text : String) : Except PatternFault Pattern := do
  let pattern ← elementsFrom false text.toList
  match repeatedFault [] 0 0 pattern with
  | some fault => .error fault
  | none => .ok pattern

/-- What follows a form at the start of a text. -/
def afterForm? : List FormAtom → List Char → Option (List Char)
  | [], cs => some cs
  | _ :: _, [] => none
  | atom :: form, c :: cs => if atom.accepts c then afterForm? form cs else none

/-- The ways in which a run of white space can start a text, the longest first. -/
def blankRests (cs : List Char) : List (List Char) :=
  let size := (cs.takeWhile isBlank).length
  (List.range size).map fun n => cs.drop (size - n)

/-- The fields that a pattern finds at the start of a text, and the rest of the text.
An element that can match in several ways tries them in order. -/
def matchFrom : Pattern → List Char → Option (List (Directive × List Char) × List Char)
  | [], cs => some ([], cs)
  | .literal x :: pattern, cs =>
    match cs with
    | [] => none
    | c :: rest => if sameLetter x c then matchFrom pattern rest else none
  | .blanks :: pattern, cs => (blankRests cs).findSome? fun rest => matchFrom pattern rest
  | .field d :: pattern, cs =>
    d.forms.findSome? fun form => do
      let rest ← afterForm? form cs
      let (fields, last) ← matchFrom pattern rest
      return ((d, cs.take form.length) :: fields, last)

/-- The fields that a pattern finds in a text, and what follows them. -/
def match? (pattern : Pattern) (text : String) :
    Option (List (Directive × List Char) × List Char) :=
  matchFrom pattern text.toList

end Pattern

end DocGraph
