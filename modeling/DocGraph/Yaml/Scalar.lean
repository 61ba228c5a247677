import DocGraph.Number.Spelling
import DocGraph.Yaml.Tag
import DocGraph.Yaml.Fault
import DocGraph.Yaml.Value

/-!
# Values of YAML scalars

## Main definitions

* `Yaml.integerOfText`, `Yaml.floatOfText`, `Yaml.timestampOfText`, `Yaml.bytesOfText`: the
  values of texts under the tags for these kinds.
* `Yaml.scalarValue`: the value of a text under a tag.
-/

namespace DocGraph.Yaml

def withoutUnderscores (text : String) : List Char := text.toList.filter (· != '_')

/-- The sum of digits to the base of sixty, the least significant first. -/
def sixtieths (digits : List Int) : Int := digits.foldr (fun d sum => d + 60 * sum) 0

/-- How many digits the whole number has that a text starts with. -/
def digitCount (radix : Nat) (cs : List Char) : Nat :=
  let (_, magnitude) := DocGraph.takeSign (stripBy isNumberBlank cs)
  (groupedDigits radix magnitude).1.length

/-- The whole number of digits in a radix. Only the digits of decimal numbers can be too many;
this is noticed first. -/
def integerIn (radix : Nat) (digits : List Char) : Except ScalarFault Int :=
  let written := String.ofList digits
  let count := digitCount radix digits
  if beyond : radix = 10 ∧ maxDigits < count then .error (.longInteger ⟨count, beyond.2⟩)
  else
    match readInteger? radix written with
    | some n => .ok n
    | none => .error (.notInteger radix written)

/-- The whole number of a text without sign. A leading zero asks for the radix eight. -/
def unsignedInteger (cs : List Char) : Except ScalarFault Int :=
  match cs with
  | [] => .error .emptyNumber
  | ['0'] => .ok 0
  | '0' :: 'b' :: rest => integerIn 2 rest
  | '0' :: 'x' :: rest => integerIn 16 rest
  | '0' :: _ => integerIn 8 cs
  | _ =>
    match splitAt [':'] cs with
    | [_] => integerIn 10 cs
    | parts => do return sixtieths (← parts.mapM (integerIn 10)).reverse

def integerOfText (text : String) : Except ScalarFault Int := do
  let cs := withoutUnderscores text
  if cs.isEmpty then .error .emptyNumber
  else
    let (negative, magnitude) := DocGraph.takeSign cs
    let n ← unsignedInteger magnitude
    return if negative then -n else n

/-- The number of decimal digits, a word or an exponent form. -/
def floatIn (digits : List Char) : Except ScalarFault Binary64 :=
  let written := String.ofList digits
  match readNumber? written with
  | some x => .ok x
  | none => .error (.notNumber written)

/-- The sum of digits to the base of sixty, the least significant first, rounded at every
step; `weight` is the weight of the first of them. -/
def sixtiethsFrom (sum : Binary64) (weight : Int) : List Binary64 → Except ScalarFault Binary64
  | [] => .ok sum
  | d :: rest =>
    match Binary64.ofInt? weight with
    | some w => sixtiethsFrom (sum.add (d.mul w)) (weight * 60) rest
    | none => .error .tooLarge

def unsignedFloat (cs : List Char) : Except ScalarFault Binary64 :=
  match String.ofList cs with
  | ".inf" => .ok (.infinite false)
  | ".nan" => .ok .nan
  | _ =>
    match splitAt [':'] cs with
    | [_] => floatIn cs
    | parts => do sixtiethsFrom (Binary64.ofInt 0) 1 (← parts.mapM floatIn).reverse

def floatOfText (text : String) : Except ScalarFault Binary64 := do
  let cs := (lower (String.ofList (withoutUnderscores text))).toList
  if cs.isEmpty then .error .emptyNumber
  else
    let (negative, magnitude) := DocGraph.takeSign cs
    let x ← unsignedFloat magnitude
    return if negative then x.neg else x

/-- The number of plain digits; no digits count as zero. -/
def digitsNumber (digits : List Char) : Nat := digitsValue (digits.map plainValue)

/-- A fault of the calendar as a fault of a scalar. -/
def ofCalendar {α : Type} (made : Except CalendarFault α) : Except ScalarFault α :=
  made.mapError .calendar

/-- The minutes by which a clock is ahead of universal time. -/
def offsetMinutes (date : TimestampText) : Except ScalarFault (Option Int) :=
  match date.offset with
  | none => .ok (if date.zoned then some 0 else none)
  | some (negative, hours, minutes) =>
    let size : Int := digitsNumber hours * 60 + digitsNumber minutes
    let offset := if negative then -size else size
    if isOffset (offset * 60000000) then .ok (some offset)
    else .error (.offset (offset * 60000000))

/-- The date or moment of a text. Digits after the sixth of a fraction are dropped. -/
def timestampOfText (text : String) : Except ScalarFault Value :=
  match readTimestamp? text.toList with
  | none => .error .notTimestamp
  | some date =>
    let year := digitsNumber date.year
    let month := digitsNumber date.month
    let day := digitsNumber date.day
    match date.time with
    | none => Value.date <$> ofCalendar (Date.make year month day)
    | some (hour, minute, second) => do
      let offset ← offsetMinutes date
      let fraction := digitsNumber ((date.fraction ++ List.replicate 6 '0').take 6)
      let moment ← ofCalendar
        (Moment.make year month day (digitsNumber hour) (digitsNumber minute)
          (digitsNumber second) fraction)
      return .moment moment offset

def base64Value? (c : Char) : Option Nat :=
  if 'A' ≤ c && c ≤ 'Z' then some (c.toNat - 'A'.toNat)
  else if 'a' ≤ c && c ≤ 'z' then some (c.toNat - 'a'.toNat + 26)
  else if '0' ≤ c && c ≤ '9' then some (c.toNat - '0'.toNat + 52)
  else if c == '+' then some 62
  else if c == '/' then some 63
  else none

/-- The bytes of base64 digits in groups of four. `group` holds the digits of the group
under way, the last one first, and `pads` counts the padding signs since the last digit.
Other characters are passed over, and a padding sign that completes a group ends the
data. -/
def base64Bytes (group : List Nat) (pads count : Nat) : List Char → Except String (List Nat)
  | [] =>
    match group with
    | [] => .ok []
    | [_] =>
      .error (s!"Invalid base64-encoded string: number of data characters ({count}) "
        ++ "cannot be 1 more than a multiple of 4")
    | _ => .error "Incorrect padding"
  | c :: rest =>
    if c == '=' then
      if group.length ≥ 2 then
        if group.length + pads + 1 ≥ 4 then .ok []
        else base64Bytes group (pads + 1) count rest
      else base64Bytes group pads count rest
    else
      match base64Value? c, group with
      | none, _ => base64Bytes group pads count rest
      | some d, [] => base64Bytes [d] 0 (count + 1) rest
      | some d, [a] => do return (a * 4 + d / 16) :: (← base64Bytes [d, a] 0 (count + 1) rest)
      | some d, [b, a] =>
        do return (b % 16 * 16 + d / 4) :: (← base64Bytes [d, b, a] 0 (count + 1) rest)
      | some d, b :: _ => do return (b % 4 * 64 + d) :: (← base64Bytes [] 0 (count + 1) rest)

def bytesOfText (text : String) : Except Problem (List Nat) :=
  let cs := text.toList
  let isBasic (c : Char) : Bool := c.toNat < 128
  let run := (cs.dropWhile isBasic).takeWhile (!isBasic ·)
  if run.isEmpty then (base64Bytes [] 0 0 cs).mapError .badBase64
  else .error (.notAscii run (cs.takeWhile isBasic).length)

/-- The truth value of a word in lower case. -/
def boolOfWord? (word : String) : Option Bool :=
  if ["yes", "true", "on"].contains word then some true
  else if ["no", "false", "off"].contains word then some false
  else none

/-- The value of a scalar under a tag for scalars. -/
def scalarValue (tag : Tag) (text : String) (start : Mark) : Except Fault Value :=
  let ofScalar {α : Type} (f : α → Value) (made : Except ScalarFault α) : Except Fault Value :=
    (f <$> made).mapError .scalar
  match tag with
  | .null => .ok .null
  | .bool =>
    match boolOfWord? (lower text) with
    | some b => .ok (.bool b)
    | none => .error (.scalar (.notBoolean (lower text)))
  | .int => ofScalar .integer (integerOfText text)
  | .float => ofScalar .float (floatOfText text)
  | .timestamp => ofScalar id (timestampOfText text)
  | .binary => (Value.binary <$> bytesOfText text).mapError (.problem · start)
  | _ => .ok (.string text)

end DocGraph.Yaml
