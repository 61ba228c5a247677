import DocGraph.Json.Basic
import DocGraph.Number.Literal
import DocGraph.Text.Digit

/-!
# Reading JSON texts

A text is read from left to right; the first thing that cannot be continued is the
fault, with the offset at which it was noticed. A number with neither a fraction nor an
exponent is a whole number; any other number is rounded to a binary number, and one that is
too large becomes an infinity. The words for numbers that are not finite are recognised; a
strict reader refuses them, and whole numbers with too many digits.

## Main definitions

* `Json.Fault`: why a text is not JSON.
* `Json.read`, `Json.readLenient`: the value of a text, or the fault; the second also takes
  words for numbers that are not finite, and whole numbers of any size.
* `placeOf`: the line and column of an offset.
-/

namespace DocGraph

/-- The line and column, counted from one, of an offset into a text. -/
def placeOf (text : List Char) (offset : Nat) : Nat × Nat :=
  let before := text.take offset
  let line := before.count '\n' + 1
  let column := (before.reverse.takeWhile (· != '\n')).length + 1
  (line, column)

namespace Json

/-- What was wrong at a place of a text. -/
inductive FaultKind where
  | expectedValue | expectedName | expectedColon | expectedComma | extraData
  | unterminatedString | controlCharacter | badEscape | badHexEscape | byteOrderMark
  deriving DecidableEq, Repr

/-- Why a text is not JSON. -/
inductive Fault where
  /-- A fault at an offset. -/
  | at (kind : FaultKind) (offset : Nat)
  /-- A word for a number that is not finite. -/
  | constant (name : String)
  /-- A whole number with too many digits. -/
  | longInteger (excess : DigitExcess)
  deriving DecidableEq, Repr

namespace FaultKind

def message : FaultKind → String
  | .expectedValue => "Expecting value"
  | .expectedName => "Expecting property name enclosed in double quotes"
  | .expectedColon => "Expecting ':' delimiter"
  | .expectedComma => "Expecting ',' delimiter"
  | .extraData => "Extra data"
  | .unterminatedString => "Unterminated string starting at"
  | .controlCharacter => "Invalid control character at"
  | .badEscape => "Invalid \\escape"
  | .badHexEscape => "Invalid \\uXXXX escape"
  | .byteOrderMark => "Unexpected UTF-8 BOM (decode using utf-8-sig)"

end FaultKind

/-- The rest of a text and its offset. -/
structure Cursor where
  offset : Nat
  rest : List Char
  deriving DecidableEq, Repr

namespace Cursor

def skip (c : Cursor) (n : Nat) : Cursor := ⟨c.offset + n, c.rest.drop n⟩

def skipBlanks (c : Cursor) : Cursor :=
  let blanks := c.rest.takeWhile fun x => x == ' ' || x == '\t' || x == '\n' || x == '\r'
  c.skip blanks.length

end Cursor

/-- The value of a hexadecimal digit. -/
def hexValue? (c : Char) : Option Nat :=
  if '0' ≤ c && c ≤ '9' then some (c.toNat - '0'.toNat)
  else if 'a' ≤ c && c ≤ 'f' then some (c.toNat - 'a'.toNat + 10)
  else if 'A' ≤ c && c ≤ 'F' then some (c.toNat - 'A'.toNat + 10)
  else none

/-- The value of a run of hexadecimal digits, if all are. -/
def hexValues? (cs : List Char) : Option Nat :=
  cs.foldl (fun value c => do return (← value) * 16 + (← hexValue? c)) (some 0)

/-- The character of a one-letter escape. -/
def simpleEscape? : Char → Option Char
  | '"' => some '"'
  | '\\' => some '\\'
  | '/' => some '/'
  | 'b' => some '\x08'
  | 'f' => some '\x0c'
  | 'n' => some '\n'
  | 'r' => some '\r'
  | 't' => some '\t'
  | _ => none

/-- Whether a code is the first, or the second, half of a pair for one character. -/
def isHighHalf (code : Nat) : Bool := 0xd800 ≤ code && code ≤ 0xdbff

/-- Whether a code is the second half of a pair for one character. -/
def isLowHalf (code : Nat) : Bool := 0xdc00 ≤ code && code ≤ 0xdfff

/-- The first of the characters that stand for halves without their partners. They are the last
ones for private use, as many as there are halves. -/
def firstLoneHalf : Nat := 0x10f800

/-- The character of a code. A half without its partner is no character, and each has a character
for private use that stands for it. -/
def charOfCode (code : Nat) : Char :=
  if isHighHalf code || isLowHalf code then Char.ofNat (firstLoneHalf + (code - 0xd800))
  else Char.ofNat code

/-- The character of a four-digit escape whose first digit stands at the cursor, and
how many characters it takes. A first half directly followed by the escape of a second
half makes one character. The escape must be followed by at least one character. -/
def readHexEscape (c : Cursor) : Except Fault (Char × Nat) :=
  let digits := c.rest.take 4
  if (c.rest.drop 4).isEmpty then .error (.at .badHexEscape (c.offset - 1))
  else
    match hexValues? digits with
    | none => .error (.at .badHexEscape (c.offset - 1))
    | some code =>
      let after := c.rest.drop 4
      if isHighHalf code && !(after.drop 6).isEmpty && after.take 2 == ['\\', 'u'] then
        match hexValues? ((after.drop 2).take 4) with
        | none => .error (.at .badHexEscape (c.offset + 5))
        | some second =>
          if isLowHalf second then
            .ok (Char.ofNat (0x10000 + (code - 0xd800) * 0x400 + (second - 0xdc00)), 10)
          else .ok (charOfCode code, 4)
      else .ok (charOfCode code, 4)

/-- The characters of a string up to its closing quote. `start` is the offset of the
opening quote and `read` holds the characters so far, reversed. -/
def readString (start : Nat) (fuel : Nat) (read : List Char) (c : Cursor) :
    Except Fault (String × Cursor) :=
  match fuel, c.rest with
  | 0, _ | _, [] => .error (.at .unterminatedString start)
  | fuel + 1, x :: rest =>
    if x == '"' then .ok (String.ofList read.reverse, c.skip 1)
    else if x == '\\' then
      match rest with
      | [] => .error (.at .unterminatedString start)
      | 'u' :: _ => do
        let (y, size) ← readHexEscape (c.skip 2)
        readString start fuel (y :: read) (c.skip (2 + size))
      | y :: _ =>
        match simpleEscape? y with
        | some z => readString start fuel (z :: read) (c.skip 2)
        | none => .error (.at .badEscape c.offset)
    else if x.toNat ≤ 0x1f then .error (.at .controlCharacter c.offset)
    else readString start fuel (x :: read) (c.skip 1)

/-- The run of decimal digits at the start of a text. -/
def leadingDigits (cs : List Char) : List Char :=
  cs.takeWhile fun c => '0' ≤ c && c ≤ '9'

def digitValues (cs : List Char) : List Nat := cs.map fun c => c.toNat - '0'.toNat

/-- The whole part of a number: one zero, or digits that start with another digit. -/
def wholePart (cs : List Char) : List Char :=
  match cs with
  | '0' :: _ => ['0']
  | _ => leadingDigits cs

/-- The digits of a fraction, if a point with at least one digit stands here. -/
def fractionPart : List Char → List Char
  | '.' :: rest => leadingDigits rest
  | _ => []

/-- The exponent that stands here, and how many characters it takes. Without a digit
there is no exponent. -/
def exponentPart : List Char → Option (Int × Nat)
  | e :: rest =>
    if e == 'e' || e == 'E' then
      let (negative, signs, digits) := match rest with
        | '-' :: more => (true, 1, leadingDigits more)
        | '+' :: more => (false, 1, leadingDigits more)
        | _ => (false, 0, leadingDigits rest)
      if digits.isEmpty then none
      else
        let size : Int := digitsValue (digitValues digits)
        some (if negative then -size else size, 1 + signs + digits.length)
    else none
  | [] => none

/-- The whole number of digits. A `strict` reader refuses too many of them. -/
def wholeNumber (strict : Bool) (digits : List Char) : Except Fault Nat :=
  let number := digitsValue (digitValues digits)
  if strict then (limitDigits digits.length number).mapError .longInteger else .ok number

def readNumber (strict : Bool) (c : Cursor) : Except Fault (Json × Cursor) :=
  let (negative, signs, unsigned) := match c.rest with
    | '-' :: rest => (true, 1, rest)
    | rest => (false, 0, rest)
  let whole := wholePart unsigned
  if whole.isEmpty then .error (.at .expectedValue c.offset)
  else
    let afterWhole := unsigned.drop whole.length
    let fraction := fractionPart afterWhole
    let fractionSize := if fraction.isEmpty then 0 else fraction.length + 1
    let exponent := exponentPart (afterWhole.drop fractionSize)
    let size := signs + whole.length + fractionSize + (exponent.map (·.2)).getD 0
    if fraction.isEmpty && exponent.isNone then
      match wholeNumber strict whole with
      | .error fault => .error fault
      | .ok n => .ok (.integer (if negative then -(n : Int) else n), c.skip size)
    else
      let power := (exponent.map (·.1)).getD 0 - fraction.length
      let x := Binary64.ofDecimal negative (digitValues (whole ++ fraction)) power
      .ok (.float x, c.skip size)

/-- The words that stand for values. -/
def words : List (String × Json) := [("null", .null), ("true", .bool true), ("false", .bool false)]

/-- The words for numbers that are not finite. -/
def constants : List (String × Json) :=
  [("NaN", .float .nan), ("Infinity", .float (.infinite false)),
   ("-Infinity", .float (.infinite true))]

/-- The word of a list that stands at the cursor. -/
def wordAt? (list : List (String × Json)) (c : Cursor) : Option (String × Json) :=
  list.find? fun (name, _) => name.toList.isPrefixOf c.rest

/-- The word at the cursor, if there is one. A `strict` reader refuses the words for numbers
that are not finite. -/
def word? (strict : Bool) (c : Cursor) : Option (Except Fault (Json × Cursor)) :=
  match wordAt? words c, wordAt? constants c with
  | some (name, value), _ => some (.ok (value, c.skip name.length))
  | none, some (name, value) =>
    some (if strict then .error (.constant name) else .ok (value, c.skip name.length))
  | none, none => none

mutual

/-- The value at the cursor. Every nested value takes one step of fuel. -/
def readValue (strict : Bool) (fuel : Nat) (c : Cursor) : Except Fault (Json × Cursor) :=
  match fuel with
  | 0 => .error (.at .expectedValue c.offset)
  | fuel + 1 =>
    match c.rest with
    | '"' :: _ => do
      let (s, c) ← readString c.offset fuel [] (c.skip 1)
      return (.string s, c)
    | '{' :: _ => do
      let inside := (c.skip 1).skipBlanks
      match inside.rest with
      | '}' :: _ => return (.object [], inside.skip 1)
      | _ =>
        let (fields, c) ← readFields strict fuel [] inside
        return (.object fields, c)
    | '[' :: _ => do
      let inside := (c.skip 1).skipBlanks
      match inside.rest with
      | ']' :: _ => return (.array [], inside.skip 1)
      | _ =>
        let (items, c) ← readItems strict fuel [] inside
        return (.array items, c)
    | _ =>
      match word? strict c with
      | some outcome => outcome
      | none => readNumber strict c

/-- The pairs of an object up to its closing brace. -/
def readFields (strict : Bool) (fuel : Nat) (fields : List (String × Json)) (c : Cursor) :
    Except Fault (List (String × Json) × Cursor) :=
  match fuel with
  | 0 => .error (.at .expectedName c.offset)
  | fuel + 1 =>
    match c.rest with
    | '"' :: _ => do
      let (name, c) ← readString c.offset fuel [] (c.skip 1)
      let c := c.skipBlanks
      match c.rest with
      | ':' :: _ =>
        let (value, c) ← readValue strict fuel (c.skip 1).skipBlanks
        let fields := insertPair fields name value
        let c := c.skipBlanks
        match c.rest with
        | '}' :: _ => return (fields, c.skip 1)
        | ',' :: _ => readFields strict fuel fields (c.skip 1).skipBlanks
        | _ => .error (.at .expectedComma c.offset)
      | _ => .error (.at .expectedColon c.offset)
    | _ => .error (.at .expectedName c.offset)

/-- The items of an array up to its closing bracket. -/
def readItems (strict : Bool) (fuel : Nat) (items : List Json) (c : Cursor) :
    Except Fault (List Json × Cursor) :=
  match fuel with
  | 0 => .error (.at .expectedValue c.offset)
  | fuel + 1 => do
    let (item, c) ← readValue strict fuel c
    let items := item :: items
    let c := c.skipBlanks
    match c.rest with
    | ']' :: _ => return (items.reverse, c.skip 1)
    | ',' :: _ => readItems strict fuel items (c.skip 1).skipBlanks
    | _ => .error (.at .expectedComma c.offset)

end

/-- The value of a text, with nothing but white space around it. A value, an item and a
character of a string each take one step of fuel and pass at least one character, and an
item and its value may begin at the same one; so the fuel given here is never used up. -/
def readText (strict : Bool) (text : List Char) : Except Fault Json :=
  if text.head? == some '\ufeff' then .error (.at .byteOrderMark 0)
  else do
    let (value, c) ← readValue strict (2 * text.length + 2) (Cursor.mk 0 text).skipBlanks
    let c := c.skipBlanks
    if c.rest.isEmpty then return value else .error (.at .extraData c.offset)

def read (text : List Char) : Except Fault Json := readText true text

/-- The value of a JSON text that may also name numbers that are not finite, and that may hold
whole numbers of any size. -/
def readLenient (text : List Char) : Except Fault Json := readText false text

end Json

end DocGraph
