import DocGraph.Definition.Reader
import DocGraph.Diagnostic
import DocGraph.Graph.Fault
import DocGraph.Json.Reader
import DocGraph.Mapping.Build
import DocGraph.Schema.Element
import DocGraph.Yaml.Fault

/-!
# Failures of runs

The first fault ends a run. Most faults have a diagnostic, which names what is wrong and
where. A few break a run down without one, because nothing stands ready for them.

## Main definitions

* `Breakdown`: what ends a run without a diagnostic.
* `Failure`: what ends a run.
* `Failure.diagnostic?`: the diagnostic of a failure.
-/

namespace DocGraph

/-- What ends a run without a diagnostic. -/
inductive Breakdown where
  /-- A scalar of a YAML text has the form of a value but names none. -/
  | scalar (fault : Yaml.ScalarFault)
  /-- A pattern for times names a part twice. -/
  | pattern (repetition : Repetition)
  /-- A whole number is beyond all binary numbers. -/
  | oversizedNumber
  /-- A price, or an index in a path, has too many digits. -/
  | longNumber (excess : DigitExcess)
  deriving DecidableEq, Repr

def Breakdown.message : Breakdown → String
  | .scalar fault => fault.message
  | .pattern repetition => repetition.message
  | .oversizedNumber => "int too large to convert to float"
  | .longNumber excess => excess.message

/-- What ends a run. -/
inductive Failure where
  | definition (fault : DefinitionFault)
  | mapping (fault : MappingFault)
  /-- A size of batches that is not a positive whole number, as it is displayed. -/
  | batchSize (shown : String)
  | unreadableFile (reason file : String)
  /-- A path leads nowhere. -/
  | path (fault : PathFault) (path : String)
  | data (fault : DataFault)
  /-- A transform fails, at the path of a property if it is used for one. -/
  | transform (fault : TransformFault) (site : Option String)
  | schema (fault : SchemaFault)
  /-- A text is not JSON; the place is a line and a column. -/
  | json (fault : Json.Fault) (place : Option (Nat × Nat)) (source : Option String)
  | yaml (fault : Yaml.Fault) (source : Option String)
  | breakdown (cause : Breakdown)

namespace Json.Fault

def message : Json.Fault → String
  | .at kind _ => kind.message
  | .constant name => s!"non-standard constant {name}"
  | .longInteger excess => excess.message

/-- The line and column of a fault in its text, as far as it has a place. -/
def place (text : List Char) : Json.Fault → Option (Nat × Nat)
  | .at _ offset => some (placeOf text offset)
  | .constant _ | .longInteger _ => none

end Json.Fault

namespace Failure

/-- The failure of a path, which is reported unless an index in it has too many digits. -/
def ofPath (report : PathFault → Failure) : PathFault → Failure
  | .longIndex excess => .breakdown (.longNumber excess)
  | fault => report fault

/-- The failure of a transform used for a property, or by itself. -/
def ofTransform (site : Option String) : TransformFault → Failure
  | .ambiguousPattern repetition => .breakdown (.pattern repetition)
  | .longPrice excess => .breakdown (.longNumber excess)
  | fault => .transform fault site

def message : Failure → String
  | .definition fault => fault.message
  | .mapping fault => fault.message
  | .batchSize shown => s!"Batch size must be a positive integer, got {shown}"
  | .unreadableFile reason _ => s!"Cannot read file: {reason}"
  | .path fault _ => fault.message
  | .data fault => fault.message
  | .transform fault _ => fault.message
  | .schema fault => fault.message
  | .json fault _ _ => s!"Invalid JSON: {fault.message}"
  | .yaml fault _ => s!"Invalid YAML: {fault.message}"
  | .breakdown cause => cause.message

/-- The kind of a failure, in front of its wording. -/
def label : Failure → String
  | .definition _ | .mapping _ | .batchSize _ | .unreadableFile .. => "Mapping Error"
  | .path .. | .data _ => "Data Error"
  | .transform .. => "Transform Error"
  | .schema _ => "Schema Error"
  | .json .. => "JSON Error"
  | .yaml .. => "YAML Error"
  | .breakdown _ => "Error"

/-- What a failure is about. A transform that fails on a text is about the text, and else
about the property. -/
def context : Failure → Option String
  | .definition fault => fault.context
  | .mapping fault => some fault.context
  | .batchSize _ | .path .. | .breakdown _ => none
  | .unreadableFile _ file => some file
  | .data fault => fault.context
  | .transform fault none => fault.context
  | .transform fault (some site) => some ((fault.context.filter (· ≠ "")).getD site)
  | .schema fault => fault.context
  | .json _ _ source | .yaml _ source => source

/-- The line and column of a failure in a text. -/
def place : Failure → Option (Nat × Nat)
  | .json _ place _ => place
  | .yaml fault _ => fault.place
  | _ => none

/-- The path of a failure in a document. -/
def dataPath : Failure → Option String
  | .path _ written => some written
  | .data fault => some fault.path
  | _ => none

/-- The value that a transform has failed on, as it is displayed. -/
def sourceValue : Failure → Option String
  | .transform fault _ => fault.sourceValue
  | _ => none

/-- The diagnostic of a failure; a breakdown has none. -/
def diagnostic? (failure : Failure) : Option Diagnostic :=
  match failure with
  | .breakdown _ => none
  | _ => some {
      label := failure.label
      message := failure.message
      context := failure.context
      line := failure.place.map fun place => (place.1 : Int)
      column := failure.place.map fun place => (place.2 : Int)
      path := failure.dataPath }

def describe (failure : Failure) : String :=
  match failure.diagnostic? with
  | some diagnostic => diagnostic.describe
  | none => failure.message

end Failure

end DocGraph
