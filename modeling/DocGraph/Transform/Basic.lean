import DocGraph.Schema.ValueType
import DocGraph.Time.Reading
import DocGraph.Transform.Coercion

/-!
# Transforms of values

A transform turns a JSON value into a scalar, guided by parameters that are texts. Five
transforms are built in.

## Main definitions

* `Scalar`: the results of transforms.
* `TransformFault`: why a transform fails.
* `canonicalTime`, `wholePrice`, `tidyText`, `rejoin`, `truthOfWord`: what the built-in
  transforms do to a text.
* `builtinTransforms`: the built-in transforms by name.
-/

namespace DocGraph

/-- A single value of a property. -/
inductive Scalar where
  | text (value : String)
  | integer (value : Int)
  | float (value : Binary64)
  | bool (value : Bool)
  deriving DecidableEq, Repr

/-- Why a transform fails. -/
inductive TransformFault where
  /-- No transform has this name. -/
  | notFound (name : String)
  /-- The input does not have the form that the transform asks for. -/
  | coercion (fault : CoercionFault) (value : Json)
  /-- There is no pattern to read a time by. -/
  | missingFormat
  /-- A time cannot be read by a pattern. -/
  | unreadableTime (text pattern : String) (fault : TimeFault)
  /-- A pattern names a part of the time twice. -/
  | ambiguousPattern (repetition : Repetition)
  | priceWithoutDigits (text : String)
  | priceOutOfRange (text : String)
  /-- A price has too many digits. -/
  | longPrice (excess : DigitExcess)
  | notBoolean (text : String)

namespace TransformFault

def message : TransformFault → String
  | .notFound name => s!"Transform not found: {name}"
  | .coercion fault _ => fault.message
  | .missingFormat => "Missing required parameter: format"
  | .unreadableTime _ pattern fault =>
    s!"Failed to parse time string with format {quoted pattern}: {fault.message}"
  | .ambiguousPattern repetition => repetition.message
  | .priceWithoutDigits _ => "Error parsing price: no digits found"
  | .priceOutOfRange _ => "Error parsing price: value out of INT64 range"
  | .longPrice excess => excess.message
  | .notBoolean _ => "Invalid boolean value"

def context : TransformFault → Option String
  | .unreadableTime text .. | .priceWithoutDigits text | .priceOutOfRange text
  | .notBoolean text => some text
  | _ => none

/-- The value that a fault is about, as it is displayed. -/
def sourceValue : TransformFault → Option String
  | .coercion _ value => some value.display
  | fault => fault.context

end TransformFault

/-- The parameters of a transform by name. -/
abbrev Params := List (String × String)

/-- A parameter, unless it is missing or empty. -/
def Params.given? (params : Params) (name : String) : Option String :=
  (params.lookup name).filter (· ≠ "")

/-- What a transform gives: a scalar, the type that its input was read as, and the type
that it has now. -/
structure Transformed where
  value : Scalar
  source : ValueType
  target : ValueType
  deriving DecidableEq, Repr

/-- A transform: a function of a value and parameters. -/
abbrev TransformFunction := Json → Params → Except TransformFault Transformed

/-- The text of the input of a transform. -/
def inputText (value : Json) : Except TransformFault String :=
  (toText value).mapError (.coercion · value)

/-- A time, read by a pattern, in its canonical form. -/
def canonicalTime (pattern text : String) : Except TransformFault String :=
  match readTime text pattern with
  | .error repetition => .error (.ambiguousPattern repetition)
  | .ok (.error fault) => .error (.unreadableTime text pattern fault)
  | .ok (.ok moment) => .ok (timestampText moment)

/-- The greatest number of the type `INT64`. -/
def maxInt64 : Nat := 0x7fffffffffffffff

/-- The number that the plain digits of a text make; all other characters are dropped. -/
def wholePrice (text : String) : Except TransformFault Nat :=
  let digits := text.toList.filter isPlainDigit
  if digits.isEmpty then .error (.priceWithoutDigits text)
  else
    match limitDigits digits.length (digitsValue (digits.map plainValue)) with
    | .error excess => .error (.longPrice excess)
    | .ok price => if price > maxInt64 then .error (.priceOutOfRange text) else .ok price

/-- A text without plain blanks at its ends and with single spaces inside. -/
def tidyText (text : String) : String := collapse (trim text)

/-- A list written with a delimiter, its parts trimmed. -/
def rejoin (delimiter text : String) : String :=
  joinText delimiter ((splitText delimiter text).map trim)

/-- The truth value of a word in any letter case. -/
def truthOfWord (text : String) : Except TransformFault Bool :=
  let word := lower text
  if ["true", "1", "yes"].contains word then .ok true
  else if ["false", "0", "no"].contains word then .ok false
  else .error (.notBoolean text)

/-- Reads a time by the pattern in the parameter `format`. -/
def timeTransform : TransformFunction := fun value params => do
  match params.given? "format" with
  | none => .error .missingFormat
  | some pattern =>
    return ⟨.text (← canonicalTime pattern (← inputText value)), .string, .timestamp⟩

def priceTransform : TransformFunction := fun value _ => do
  return ⟨.integer (← wholePrice (← inputText value)), .string, .int64⟩

def tidyTransform : TransformFunction := fun value _ => do
  return ⟨.text (tidyText (← inputText value)), .string, .string⟩

/-- The delimiter of a list whose parameters give none. -/
def defaultDelimiter : String := ","

/-- Tidies a list written with the delimiter in the parameter `delimiter`. -/
def rejoinTransform : TransformFunction := fun value params => do
  let delimiter := (params.given? "delimiter").getD defaultDelimiter
  return ⟨.text (rejoin delimiter (← inputText value)), .string, .string⟩

def truthTransform : TransformFunction := fun value _ => do
  return ⟨.bool (← truthOfWord (← inputText value)), .string, .bool⟩

def builtinTransforms : List (String × TransformFunction) :=
  [("time_format", timeTransform), ("price_normalize", priceTransform),
   ("string_normalize", tidyTransform), ("array_join", rejoinTransform),
   ("to_boolean", truthTransform)]

end DocGraph
