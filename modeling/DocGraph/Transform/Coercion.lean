import DocGraph.Json.Writer
import DocGraph.Number.Spelling

/-!
# Coercion of JSON values

A transform asks for its input in one form, and the value at hand is brought into it when
there is a plain way to do so. Numbers and truth values have a text; texts are read as
numbers through a binary number, so a text never gives a whole number that is not
representable as one.

## Main definitions

* `CoercionFault`: why a value cannot be brought into a form.
* `toText`, `toInteger`, `toFloat`, `toBool`, `toList`: the forms.
-/

namespace DocGraph

/-- Why a value cannot be brought into a form. -/
inductive CoercionFault where
  /-- The text is not that of a number. -/
  | notNumber (text : String)
  /-- An infinite number is no whole number. -/
  | infinite
  /-- The undefined number is no whole number. -/
  | undefined
  /-- The whole number is beyond all binary numbers. -/
  | tooLarge
  /-- There is no plain way between the two forms. -/
  | otherForm
  deriving DecidableEq, Repr

namespace CoercionFault

def message : CoercionFault → String
  | .notNumber text => s!"Conversion error: could not convert string to float: {quoted text}"
  | .infinite => "Conversion error: cannot convert float infinity to integer"
  | .undefined => "Conversion error: cannot convert float NaN to integer"
  | .tooLarge => "Conversion error: int too large to convert to float"
  | .otherForm => "Cannot convert value to requested type"

end CoercionFault

def numberOfText (text : String) : Except CoercionFault Binary64 :=
  match readNumber? text with
  | some x => .ok x
  | none => .error (.notNumber text)

def wholeOf : Binary64 → Except CoercionFault Int
  | .nan => .error .undefined
  | x =>
    match x.trunc with
    | some n => .ok n
    | none => .error .infinite

def toText : Json → Except CoercionFault String
  | .string s => .ok s
  | .bool b => .ok (if b then "true" else "false")
  | .integer n => .ok (toString n)
  | .float x => .ok x.text
  | _ => .error .otherForm

def toInteger : Json → Except CoercionFault Int
  | .integer n => .ok n
  | .bool b => .ok (if b then 1 else 0)
  | .float x => wholeOf x
  | .string s => do wholeOf (← numberOfText s)
  | _ => .error .otherForm

def toFloat : Json → Except CoercionFault Binary64
  | .float x => .ok x
  | .bool b => .ok (.ofBool b)
  | .integer n =>
    match Binary64.ofInt? n with
    | some x => .ok x
    | none => .error .tooLarge
  | .string s => numberOfText s
  | _ => .error .otherForm

/-- A value as a truth value: numbers other than zero are true. -/
def toBool : Json → Except CoercionFault Bool
  | .bool b => .ok b
  | .integer n => .ok (n != 0)
  | .float x => .ok !x.isZero
  | .string s => do return !(← numberOfText s).isZero
  | _ => .error .otherForm

def toList : Json → Except CoercionFault (List Json)
  | .array items => .ok items
  | _ => .error .otherForm

end DocGraph
