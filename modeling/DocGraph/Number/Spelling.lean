import DocGraph.Number.Literal
import DocGraph.Text.Blank
import DocGraph.Text.Case
import DocGraph.Text.Digit

/-!
# Numbers as people write them

Outside JSON, numbers are read from texts in a freer form: white space around them, a
sign, decimal digits of any script, single underscores between digits, and words for the
numbers that are not finite.

## Main definitions

* `readInteger?`: whole numbers in a radix from 2 to 36.
* `readNumber?`: binary numbers in decimal notation.
-/

namespace DocGraph

/-- White space that may stand around a number: all blanks but the information
separators. -/
def isNumberBlank (c : Char) : Bool := isBlank c && !(0x1c ≤ c.toNat && c.toNat ≤ 0x1f)

/-- The value of a letter as a digit after nine. -/
def letterValue? (c : Char) : Option Nat :=
  if 'a' ≤ c && c ≤ 'z' then some (c.toNat - 'a'.toNat + 10)
  else if 'A' ≤ c && c ≤ 'Z' then some (c.toNat - 'A'.toNat + 10)
  else none

/-- The value of a digit in a radix. -/
def digitIn? (radix : Nat) (c : Char) : Option Nat :=
  (decimalValue? c <|> letterValue? c).filter (· < radix)

/-- The digits at the start of a text, single underscores between them left out, and what
follows. `afterDigit` tells that a digit has just been read. -/
def groupedDigitsFrom (radix : Nat) (afterDigit : Bool) : List Char → List Nat × List Char
  | [] => ([], [])
  | c :: rest =>
    match digitIn? radix c with
    | some d =>
      let (digits, after) := groupedDigitsFrom radix true rest
      (d :: digits, after)
    | none =>
      if c == '_' && afterDigit && (rest.head?.bind (digitIn? radix)).isSome then
        groupedDigitsFrom radix false rest
      else ([], c :: rest)

/-- The digits at the start of a text, single underscores between them left out, and what
follows. -/
def groupedDigits (radix : Nat) (cs : List Char) : List Nat × List Char :=
  groupedDigitsFrom radix false cs

/-- Whether a text starts with a minus sign, and the text without its sign. -/
def takeSign : List Char → Bool × List Char
  | '-' :: rest => (true, rest)
  | '+' :: rest => (false, rest)
  | rest => (false, rest)

/-- A number with a sign. -/
def signed (negative : Bool) (magnitude : Nat) : Int :=
  if negative then -(magnitude : Int) else magnitude

/-- The letter that names a radix after a leading zero. -/
def radixLetter? : Nat → Option Char
  | 2 => some 'b'
  | 8 => some 'o'
  | 16 => some 'x'
  | _ => none

/-- The text after the sign of its radix, if it has one. An underscore may follow the
sign. -/
def afterRadixSign (radix : Nat) (cs : List Char) : List Char :=
  match cs with
  | '0' :: letter :: rest =>
    if radixLetter? radix == some letter.toLower then
      match rest with
      | '_' :: after => after
      | _ => rest
    else cs
  | _ => cs

/-- The whole number that a text writes in a radix. -/
def readInteger? (radix : Nat) (text : String) : Option Int :=
  let (negative, cs) := takeSign (stripBy isNumberBlank text.toList)
  match groupedDigits radix (afterRadixSign radix cs) with
  | ([], _) => none
  | (digits, []) => some (signed negative (digits.foldl (fun n d => n * radix + d) 0))
  | (_, _ :: _) => none

/-- The exponent at the start of a text, and what follows. Without digits there is no
exponent. -/
def takeExponent (cs : List Char) : Int × List Char :=
  match cs with
  | c :: rest =>
    if c == 'e' || c == 'E' then
      let (negative, digitsOn) := takeSign rest
      match groupedDigits 10 digitsOn with
      | ([], _) => (0, cs)
      | (digits, after) => (signed negative (digitsValue digits), after)
    else (0, cs)
  | [] => (0, [])

/-- The number that a text without sign writes in decimal notation. -/
def readDecimal? (negative : Bool) (cs : List Char) : Option Binary64 :=
  let (whole, afterWhole) := groupedDigits 10 cs
  let (fraction, afterFraction) := match afterWhole with
    | '.' :: rest => groupedDigits 10 rest
    | _ => ([], afterWhole)
  let (exponent, after) := takeExponent afterFraction
  if (whole.isEmpty && fraction.isEmpty) || !after.isEmpty then none
  else some (Binary64.ofDecimal negative (whole ++ fraction) (exponent - fraction.length))

/-- The number that a text writes: a decimal number, or a word for an infinity or for an
undefined number. -/
def readNumber? (text : String) : Option Binary64 :=
  let (negative, cs) := takeSign (stripBy isNumberBlank text.toList)
  let word := String.ofList (cs.map Char.toLower)
  if word = "inf" || word = "infinity" then some (.infinite negative)
  else if word = "nan" then some .nan
  else readDecimal? negative cs

end DocGraph
