/-!
# Diagnostics

What a failure tells the user: a kind, a message, and where known a place in a text, a
context and a path. They are put one behind the other, each as it is; a line break in one of
them stays where it is.

## Main definitions

* `Diagnostic`: the parts.
* `Diagnostic.describe`: the parts one behind the other.
-/

namespace DocGraph

/-- The parts of a diagnostic. A column counts only together with a line. -/
structure Diagnostic where
  label : String
  message : String
  context : Option String := none
  line : Option Int := none
  column : Option Int := none
  path : Option String := none
  deriving DecidableEq, Repr

namespace Diagnostic

/-- The place in a text, after the message. -/
def placeText (d : Diagnostic) : String :=
  match d.line with
  | none => ""
  | some line =>
    let column := match d.column with
      | none => ""
      | some column => s!", column {column}"
    s!" at line {line}{column}"

/-- The context in parentheses; an empty context is not shown. -/
def contextText (d : Diagnostic) : String :=
  match d.context with
  | none | some "" => ""
  | some context => s!" ({context})"

/-- The path in brackets, unless the context already names it. -/
def pathText (d : Diagnostic) : String :=
  match d.path with
  | none => ""
  | some path => if d.context = some path then "" else s!" [path: {path}]"

def describe (d : Diagnostic) : String :=
  s!"{d.label}: {d.message}{d.placeText}{d.contextText}{d.pathText}"

end Diagnostic

end DocGraph
