import DocGraph.Text.Digit
import DocGraph.Text.Quoted
import DocGraph.Text.Utf8
import DocGraph.Time.Calendar

/-!
# Faults of YAML texts

## Main definitions

* `Yaml.Mark`: a place in a text.
* `Yaml.Problem`: what is wrong at a place.
* `Yaml.ScalarFault`: why a scalar that has the form of a value names none.
* `Yaml.Fault`: all ways in which a text has no value.
* `Yaml.Raised`: what a reader raises.
-/

namespace DocGraph.Yaml

/-- A place in a text: the number of characters before it, and its line and column,
counted from zero. -/
structure Mark where
  index : Nat
  line : Nat
  column : Nat
  deriving DecidableEq, Repr, Inhabited

/-- What is wrong at a place of a text. -/
inductive Problem where
  /-- No token starts with this character. -/
  | noToken (found : Char)
  /-- A key that had to be followed by a colon is not. -/
  | missingColon
  | sequenceEntryNotAllowed
  | mappingKeyNotAllowed
  | mappingValueNotAllowed
  /-- Another character was needed. -/
  | expected (what : String) (found : Char)
  /-- A block scalar asks for an indentation of zero. -/
  | zeroIndentation
  /-- A quoted scalar is never closed. -/
  | endOfStream
  /-- A document ends inside a quoted scalar. -/
  | documentSeparator
  | unknownEscape (found : Char)
  /-- The escaped bytes of a tag are not a text. -/
  | badBytes (fault : Utf8Fault)
  /-- Another token was needed. -/
  | unexpectedToken (what found : String)
  /-- Entries of a flow collection are not separated. -/
  | unseparated (closer found : String)
  | duplicateYamlDirective
  | incompatibleVersion
  | duplicateTagHandle (handle : String)
  | undefinedTagHandle (handle : String)
  | undefinedAlias (anchor : String)
  /-- An anchor is set a second time. -/
  | duplicateAnchor
  | anotherDocument
  /-- No kind of value has this tag. -/
  | unknownTag (tag : String)
  /-- A tag for one shape of node stands on another. -/
  | wrongShape (what found : String)
  | unhashableKey
  | mergeItem (found : String)
  | mergeValue (found : String)
  | badBase64 (reason : String)
  /-- Base64 data holds characters that are not of the basic alphabet; these are the first
  ones, with the position of the first. -/
  | notAscii (run : List Char) (position : Nat)
  deriving DecidableEq, Repr

namespace Problem

/-- The code of a character, as an escape. -/
def codeText (c : Char) : String :=
  let n := c.toNat
  String.ofList (if n ≤ 0xff then '\\' :: 'x' :: hexDigits 2 n
    else if n ≤ 0xffff then '\\' :: 'u' :: hexDigits 4 n
    else '\\' :: 'U' :: hexDigits 8 n)

/-- Characters that cannot be encoded, with their positions. -/
def runText (run : List Char) (position : Nat) : String :=
  match run with
  | [c] => s!"character '{codeText c}' in position {position}"
  | _ => s!"characters in position {position}-{position + run.length - 1}"

def message : Problem → String
  | .noToken found =>
    s!"found character {quoted (String.singleton found)} that cannot start any token"
  | .missingColon => "could not find expected ':'"
  | .sequenceEntryNotAllowed => "sequence entries are not allowed here"
  | .mappingKeyNotAllowed => "mapping keys are not allowed here"
  | .mappingValueNotAllowed => "mapping values are not allowed here"
  | .expected what found => s!"expected {what}, but found {quoted (String.singleton found)}"
  | .zeroIndentation => "expected indentation indicator in the range 1-9, but found 0"
  | .endOfStream => "found unexpected end of stream"
  | .documentSeparator => "found unexpected document separator"
  | .unknownEscape found => s!"found unknown escape character {quoted (String.singleton found)}"
  | .badBytes fault => fault.message
  | .unexpectedToken what found => s!"expected {what}, but found {quoted found}"
  | .unseparated closer found => s!"expected ',' or {quoted closer}, but got {quoted found}"
  | .duplicateYamlDirective => "found duplicate YAML directive"
  | .incompatibleVersion => "found incompatible YAML document (version 1.* is required)"
  | .duplicateTagHandle handle => s!"duplicate tag handle {quoted handle}"
  | .undefinedTagHandle handle => s!"found undefined tag handle {quoted handle}"
  | .undefinedAlias anchor => s!"found undefined alias {quoted anchor}"
  | .duplicateAnchor => "second occurrence"
  | .anotherDocument => "but found another document"
  | .unknownTag tag => s!"could not determine a constructor for the tag {quoted tag}"
  | .wrongShape what found => s!"expected {what}, but found {found}"
  | .unhashableKey => "found unhashable key"
  | .mergeItem found => s!"expected a mapping for merging, but found {found}"
  | .mergeValue found => s!"expected a mapping or list of mappings for merging, but found {found}"
  | .badBase64 reason => s!"failed to decode base64 data: {reason}"
  | .notAscii run position =>
    s!"failed to convert base64 data into ascii: 'ascii' codec can't encode {runText run position}"
      ++ ": ordinal not in range(128)"

end Problem

/-- Why a scalar that has the form of a value, or is tagged as one, names none. -/
inductive ScalarFault where
  /-- The numbers are not those of a date or a time of day. -/
  | calendar (fault : CalendarFault)
  /-- The difference to universal time, in microseconds, is a day or more. -/
  | offset (microseconds : Int)
  /-- The digits are not those of a whole number. -/
  | notInteger (radix : Nat) (digits : String)
  /-- A whole number has too many decimal digits. -/
  | longInteger (excess : DigitExcess)
  /-- The text is not that of a number. -/
  | notNumber (written : String)
  /-- The word is not a truth value. -/
  | notBoolean (word : String)
  /-- A number was asked for but nothing was written. -/
  | emptyNumber
  /-- The text does not have the form of a date. -/
  | notTimestamp
  /-- A date was asked for, but a mapping is written. -/
  | timestampOfPairs
  /-- A number is beyond all binary numbers. -/
  | tooLarge
  /-- The code is beyond the last character. -/
  | characterCode (code : Nat)
  deriving DecidableEq, Repr

namespace ScalarFault

def message : ScalarFault → String
  | .calendar fault => fault.message
  | .offset microseconds => offsetMessage microseconds
  | .notInteger radix digits =>
    let shown := String.ofList ((quoted digits).toList.take 200)
    s!"invalid literal for int() with base {radix}: {shown}"
  | .longInteger excess => excess.message
  | .notNumber written => s!"could not convert string to float: {quoted written}"
  | .notBoolean word => quoted word
  | .emptyNumber => "string index out of range"
  | .notTimestamp => "'NoneType' object has no attribute 'groupdict'"
  | .timestampOfPairs => "expected string or bytes-like object, got 'list'"
  | .tooLarge => "int too large to convert to float"
  | .characterCode code =>
    if code ≥ 0x80000000 then "Python int too large to convert to C int"
    else "chr() arg not in range(0x110000)"

end ScalarFault

/-- Why a text has no value. -/
inductive Fault where
  /-- The text holds a character that is not allowed anywhere. -/
  | character (code position : Nat)
  /-- Something is wrong at a place. -/
  | problem (problem : Problem) (mark : Mark)
  /-- A scalar names no value. -/
  | scalar (fault : ScalarFault)
  deriving DecidableEq, Repr

namespace Fault

def message : Fault → String
  | .character code position =>
    "unacceptable character #x" ++ String.ofList (hexDigits 4 code)
      ++ s!": special characters are not allowed\n  in \"<unicode string>\", position {position}"
  | .problem found _ => found.message
  | .scalar cause => cause.message

/-- The line and column of a fault, counted from one, as far as it has a place. -/
def place : Fault → Option (Nat × Nat)
  | .problem _ mark => some (mark.line + 1, mark.column + 1)
  | _ => none

end Fault

/-- What a reader of texts raises: a report on a malformed text, or anything else. -/
inductive Raised (ρ ε : Type) where
  | report (found : ρ)
  | other (exception : ε)

/-- A fault as it is raised. No report is made of a scalar that names no value. -/
def Fault.raised : Fault → Raised Fault ScalarFault
  | .scalar cause => .other cause
  | fault => .report fault

end DocGraph.Yaml
