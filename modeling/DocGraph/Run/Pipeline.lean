import DocGraph.Run.Config
import DocGraph.Run.Load
import DocGraph.Schema.Statement

/-!
# Whole runs

A run turns a mapping and a document into statements: perhaps those that remove the schema,
then those that declare it, then those that write the data. Nothing is given out unless
every part succeeds. All runs of a pipeline share its configuration, its transforms and the
paths that were split.

## Main definitions

* `Pipeline`, `RunOptions`, `RunRequest`, `RunResult`: what a run needs and gives.
* `Pipeline.run`: the run on a mapping and a document.
* `Pipeline.runTexts`: the run on two texts.
* `Pipeline.serve`: runs one after the other.
-/

namespace DocGraph

/-- What runs share. -/
structure Pipeline where
  config : Config := {}
  registry : TransformRegistry := .builtin

/-- What is asked of a run. -/
structure RunOptions where
  schemaOnly : Bool := false
  /-- How many rows share a statement, unless the configuration says it. -/
  batchSize : Option Json := none
  /-- Whether indexes are declared, unless the configuration says it. -/
  includeIndexes : Option Bool := none
  dropSchema : Bool := false
  deriving Repr

/-- A run that is asked for, with the texts of its mapping and its document. -/
structure RunRequest where
  mapping : String
  document : String
  options : RunOptions := {}
  deriving Repr

/-- What a run gives. -/
structure RunResult where
  cleanup : List SchemaStatement
  schema : List SchemaStatement
  data : List DataStatement
  deriving DecidableEq, Repr

namespace RunResult

/-- All statements in order, in their written forms. -/
def statements (result : RunResult) : List String :=
  result.cleanup.map SchemaStatement.text ++ result.schema.map SchemaStatement.text
    ++ result.data.map DataStatement.text

/-- All statements, one after the other. -/
def text (result : RunResult) : String := joinText "\n" result.statements

end RunResult

namespace Pipeline

open Generation

def schema (pipeline : Pipeline) (mapping : GraphMapping) (includeIndexes : Option Bool) :
    Except Failure (List SchemaStatement) :=
  (schemaStatements mapping (includeIndexes.getD pipeline.config.includeIndexes)).mapError .schema

/-- The run on a mapping and a document. -/
def run (pipeline : Pipeline) (mapping : GraphMapping) (document : Json) (options : RunOptions) :
    Generation RunResult := do
  let size ← ofExcept id (pipeline.config.resolveBatchSize options.batchSize)
  let cleanup := if options.dropSchema then cleanupStatements mapping else []
  let schema ← ofExcept id (pipeline.schema mapping options.includeIndexes)
  let data ←
    if options.schemaOnly then pure []
    else batchedStatements pipeline.registry mapping document (.integer size.size)
  return ⟨cleanup, schema, data⟩

/-- The run on the text of a mapping and the text of a document. -/
def runTexts (pipeline : Pipeline) (mappingText documentText : String) (options : RunOptions) :
    Generation RunResult := do
  let mapping ← ofExcept id (loadMapping mappingText (some "mapping"))
  let document ← ofExcept id (loadJson documentText (some "input"))
  pipeline.run mapping document options

/-- Runs on one pipeline, one after the other. A run that fails does not end the others. -/
def serve (pipeline : Pipeline) (requests : List RunRequest) :
    StateM Session (List (Except Failure RunResult)) :=
  requests.mapM fun request =>
    (pipeline.runTexts request.mapping request.document request.options).run

end Pipeline

end DocGraph
