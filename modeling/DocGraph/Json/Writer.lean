import DocGraph.Json.Basic
import DocGraph.Number.Shortest
import DocGraph.Text.Quoted
import DocGraph.Text.Split

/-!
# Writing JSON values

Two written forms are used. The *text* of a value is JSON. Its *display* is the form in
which diagnostics and literals show a value that is not a text.

## Main definitions

* `Json.text`: JSON, with a space after every comma and colon.
* `Json.display`: the form in diagnostics.
-/

namespace DocGraph

namespace Json

def escapedChar (c : Char) : List Char :=
  match c with
  | '"' => ['\\', '"']
  | '\\' => ['\\', '\\']
  | '\n' => ['\\', 'n']
  | '\r' => ['\\', 'r']
  | '\t' => ['\\', 't']
  | '\x08' => ['\\', 'b']
  | '\x0c' => ['\\', 'f']
  | _ => if c.toNat < 0x20 then '\\' :: 'u' :: hexDigits 4 c.toNat else [c]

def stringText (s : String) : String :=
  String.ofList ('"' :: s.toList.flatMap escapedChar ++ ['"'])

mutual

def text : Json → String
  | .null => "null"
  | .bool b => if b then "true" else "false"
  | .integer n => toString n
  | .float x => x.text
  | .string s => stringText s
  | .array items => "[" ++ joinText ", " (itemTexts items) ++ "]"
  | .object fields => "\x7b" ++ joinText ", " (fieldTexts fields) ++ "\x7d"

/-- The texts of the items of an array. -/
def itemTexts : List Json → List String
  | [] => []
  | item :: rest => text item :: itemTexts rest

/-- The texts of the pairs of an object. -/
def fieldTexts : List (String × Json) → List String
  | [] => []
  | (name, value) :: rest => (stringText name ++ ": " ++ text value) :: fieldTexts rest

end

mutual

/-- The form of a value inside a displayed array or object: texts are quoted. -/
def nestedDisplay : Json → String
  | .null => "None"
  | .bool b => if b then "True" else "False"
  | .integer n => toString n
  | .float x => x.text
  | .string s => quoted s
  | .array items => "[" ++ joinText ", " (itemDisplays items) ++ "]"
  | .object fields => "\x7b" ++ joinText ", " (fieldDisplays fields) ++ "\x7d"

def itemDisplays : List Json → List String
  | [] => []
  | item :: rest => nestedDisplay item :: itemDisplays rest

def fieldDisplays : List (String × Json) → List String
  | [] => []
  | (name, value) :: rest => (quoted name ++ ": " ++ nestedDisplay value) :: fieldDisplays rest

end

/-- The form of a value in diagnostics and literals. A text stands for itself. -/
def display : Json → String
  | .string s => s
  | value => nestedDisplay value

end Json

end DocGraph
