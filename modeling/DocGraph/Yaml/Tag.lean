import DocGraph.Text.Digit
import DocGraph.Text.Split

/-!
# Tags of YAML nodes

The tag of a node says what kind of value it names. A scalar that is written without
quotes and without a tag gets the tag of the first kind whose form its text has.

## Main definitions

* `Yaml.Tag`, `Yaml.Tag.text`, `Yaml.Tag.ofText`: the tags and their written forms.
* `Yaml.TimestampText`, `Yaml.readTimestamp?`: the parts of a written date.
* `Yaml.Tag.ofPlain`: the tag of a plain scalar.
-/

namespace DocGraph.Yaml

/-- What kind of value a node names. -/
inductive Tag where
  | null | bool | int | float | binary | timestamp
  | orderedMap | pairs | set | str | seq | map
  /-- The key of a mapping under which other mappings are merged into it. -/
  | merge
  /-- The key of a mapping under which its main value stands. -/
  | value
  | other (text : String)
  deriving DecidableEq, Repr

namespace Tag

/-- The start of the tags that are defined for all documents. -/
def coreStart : String := "tag:yaml.org,2002:"

/-- The tags with a fixed written form, with that form after the common start. -/
def named : List (Tag × String) :=
  [(.null, "null"), (.bool, "bool"), (.int, "int"), (.float, "float"), (.binary, "binary"),
   (.timestamp, "timestamp"), (.orderedMap, "omap"), (.pairs, "pairs"), (.set, "set"),
   (.str, "str"), (.seq, "seq"), (.map, "map"), (.merge, "merge"), (.value, "value")]

def text : Tag → String
  | .other text => text
  | tag => coreStart ++ ((named.lookup tag).getD "")

def ofText (written : String) : Tag :=
  match named.find? fun (_, name) => coreStart ++ name == written with
  | some (tag, _) => tag
  | none => .other written

end Tag

/-- The parts of a written date: digits, and for a time of day the separate parts. -/
structure TimestampText where
  year : List Char
  month : List Char
  day : List Char
  /-- Hour, minute and second. -/
  time : Option (List Char × List Char × List Char)
  fraction : List Char
  /-- Whether the difference to universal time is given at all. -/
  zoned : Bool
  /-- Whether it is negative, and its hours and minutes. -/
  offset : Option (Bool × List Char × List Char)
  deriving Repr

/-- The digits at the start of a text, if their number is within bounds, and what
follows. -/
def takeDigits? (least most : Nat) (cs : List Char) : Option (List Char × List Char) :=
  let digits := cs.takeWhile isPlainDigit
  if least ≤ digits.length && digits.length ≤ most then some (digits, cs.drop digits.length)
  else none

/-- The text after a character that has to stand first. -/
def after? (c : Char) : List Char → Option (List Char)
  | d :: rest => if c == d then some rest else none
  | [] => none

/-- A space or a tabulator. -/
def isGap (c : Char) : Bool := c == ' ' || c == '\t'

/-- The difference to universal time at the end of a written date. -/
def readZone? (date : TimestampText) (cs : List Char) : Option TimestampText :=
  match cs with
  | [] => some date
  | _ =>
    match cs.dropWhile isGap with
    | ['Z'] => some { date with zoned := true }
    | sign :: rest => do
      if sign != '+' && sign != '-' then none
      else
        let (hours, rest) ← takeDigits? 1 2 rest
        match rest with
        | [] => some { date with zoned := true, offset := some (sign == '-', hours, []) }
        | _ =>
          let (minutes, rest) ← takeDigits? 2 2 (← after? ':' rest)
          if rest.isEmpty then
            some { date with zoned := true, offset := some (sign == '-', hours, minutes) }
          else none
    | [] => none

/-- The time of day after a written day. -/
def readTime? (date : TimestampText) (cs : List Char) : Option TimestampText := do
  let cs ← match cs with
    | 'T' :: rest | 't' :: rest => some rest
    | _ => if cs.head?.any isGap then some (cs.dropWhile isGap) else none
  let (hour, cs) ← takeDigits? 1 2 cs
  let (minute, cs) ← takeDigits? 2 2 (← after? ':' cs)
  let (second, cs) ← takeDigits? 2 2 (← after? ':' cs)
  let fraction := match cs with
    | '.' :: rest => rest.takeWhile isPlainDigit
    | _ => []
  let cs := match cs with
    | '.' :: rest => rest.dropWhile isPlainDigit
    | _ => cs
  readZone? { date with time := some (hour, minute, second), fraction := fraction } cs

/-- The parts of a written date: year, month and day with hyphens between them, and
perhaps a time of day. -/
def readTimestamp? (cs : List Char) : Option TimestampText := do
  let (year, cs) ← takeDigits? 4 4 cs
  let (month, cs) ← takeDigits? 1 2 (← after? '-' cs)
  let (day, cs) ← takeDigits? 1 2 (← after? '-' cs)
  let date : TimestampText := ⟨year, month, day, none, [], false, none⟩
  if cs.isEmpty then some date else readTime? date cs

/-- Whether a text has the form of a date; without a time of day, month and day need two
digits. -/
def isTimestampText (cs : List Char) : Bool :=
  match readTimestamp? cs with
  | some date => date.time.isSome || cs.length == 10
  | none => false

/-- Whether a text is one of the words for a truth value. -/
def isBooleanText (cs : List Char) : Bool :=
  ["yes", "Yes", "YES", "no", "No", "NO", "true", "True", "TRUE", "false", "False", "FALSE",
   "on", "On", "ON", "off", "Off", "OFF"].contains (String.ofList cs)

def isNullText (cs : List Char) : Bool :=
  ["", "~", "null", "Null", "NULL"].contains (String.ofList cs)

def isDigitOrGap (c : Char) : Bool := isPlainDigit c || c == '_'

/-- Whether a text is one digit up to nine, or two digits up to 59. -/
def isSixtieth : List Char → Bool
  | [c] => isPlainDigit c
  | [c, d] => '0' ≤ c && c ≤ '5' && isPlainDigit d
  | _ => false

def withoutSign : List Char → List Char
  | '-' :: rest | '+' :: rest => rest
  | cs => cs

/-- Whether a text without sign has the form of a whole number. -/
def isUnsignedIntegerText : List Char → Bool
  | '0' :: 'b' :: rest => !rest.isEmpty && rest.all fun c => c == '0' || c == '1' || c == '_'
  | '0' :: 'x' :: rest =>
    !rest.isEmpty && rest.all fun c =>
      isDigitOrGap c || ('a' ≤ c && c ≤ 'f') || ('A' ≤ c && c ≤ 'F')
  | '0' :: rest => rest.all fun c => ('0' ≤ c && c ≤ '7') || c == '_'
  | c :: rest =>
    match splitAt [':'] (c :: rest) with
    | whole :: sixtieths => isPlainDigit c && whole.all isDigitOrGap && sixtieths.all isSixtieth
    | [] => false
  | [] => false

/-- Whether a text has the form of a whole number: binary, hexadecimal, octal, decimal or
to the base of sixty. -/
def isIntegerText (cs : List Char) : Bool := isUnsignedIntegerText (withoutSign cs)

/-- Whether a text is empty or an exponent with a sign. -/
def isExponentText : List Char → Bool
  | [] => true
  | [_] => false
  | c :: sign :: digits =>
    (c == 'e' || c == 'E') && (sign == '+' || sign == '-') && !digits.isEmpty
      && digits.all isPlainDigit

/-- Whether a text without sign is digits, a point, digits and an exponent. -/
def isPointNumber (cs : List Char) : Bool :=
  let digitFirst := cs.head?.any isPlainDigit
  match cs.dropWhile isDigitOrGap with
  | '.' :: rest => digitFirst && isExponentText (rest.dropWhile isDigitOrGap)
  | _ => false

/-- Whether a text without sign is a number to the base of sixty with a point. -/
def isSixtiethPointNumber (cs : List Char) : Bool :=
  match splitAt [':'] cs with
  | whole :: next :: more =>
    let parts := next :: more
    let last := parts.getLastD []
    cs.head?.any isPlainDigit && whole.all isDigitOrGap && parts.dropLast.all isSixtieth
      && isSixtieth (last.takeWhile (· != '.'))
      && (match last.dropWhile (· != '.') with
        | '.' :: rest => rest.all isDigitOrGap
        | _ => false)
  | _ => false

/-- Whether a text has the form of a number with a point, or is a word for a number that
is not finite. -/
def isFloatText (cs : List Char) : Bool :=
  let unsigned := withoutSign cs
  isPointNumber unsigned || isSixtiethPointNumber unsigned
    || [".inf", ".Inf", ".INF"].contains (String.ofList unsigned)
    || [".nan", ".NaN", ".NAN"].contains (String.ofList cs)
    || (match cs with
      | '.' :: c :: rest => isPlainDigit c && isExponentText (rest.dropWhile isDigitOrGap)
      | _ => false)

def Tag.ofPlain (text : String) : Tag :=
  let cs := text.toList
  if isBooleanText cs then .bool
  else if isFloatText cs then .float
  else if isIntegerText cs then .int
  else if text = "<<" then .merge
  else if isNullText cs then .null
  else if isTimestampText cs then .timestamp
  else if text = "=" then .value
  else if text = "!" || text = "&" || text = "*" then .other (Tag.coreStart ++ "yaml")
  else .str

end DocGraph.Yaml
