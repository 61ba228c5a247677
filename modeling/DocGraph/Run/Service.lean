import DocGraph.Definition.Dump
import DocGraph.Run.Pipeline

/-!
# The service

The service answers requests with JSON. A request carries a mapping and perhaps a document
as texts. Unlike elsewhere, all fields of a request that are not as they should be are
reported at once.

## Main definitions

* `Request`, `Response`: what comes in and goes out.
* `GenerateRequest`, `SchemaRequest`: the bodies of requests.
* `Service.answer`: the answer to a request.
-/

namespace DocGraph

open Yaml (Value)

/-- A request. -/
structure Request where
  method : String
  path : String
  body : Option String := none
  deriving DecidableEq, Repr

/-- An answer: its status and its body. -/
structure Response where
  status : Nat
  body : Json
  deriving Repr

/-- The body of a request for all statements. -/
structure GenerateRequest where
  mapping : String
  document : String
  schemaOnly : Bool := false
  batchSize : Option Int := none
  includeIndexes : Option Bool := none
  deriving DecidableEq, Repr

/-- The body of a request for the statements of a schema. -/
structure SchemaRequest where
  mapping : String
  includeIndexes : Option Bool := none
  deriving DecidableEq, Repr

/-- Something read, or all faults that were found on the way. -/
abbrev ReadsAll (α : Type) := Except (List LocatedFault) α

/-- One more thing read beside others. -/
def alongside {α β : Type} (first : ReadsAll (α → β)) (second : Reads α) : ReadsAll β :=
  match first, second with
  | .ok f, .ok a => .ok (f a)
  | .ok _, .error fault => .error [fault]
  | .error faults, .ok _ => .error faults
  | .error faults, .error fault => .error (faults ++ [fault])

def GenerateRequest.ofEntries (entries : List (Value × Value)) : ReadsAll GenerateRequest :=
  let text (name : String) := requireField entries [name] (readText false)
  let parts : ReadsAll _ := .ok GenerateRequest.mk
  let parts := alongside parts (text "mapping_yaml")
  let parts := alongside parts (text "json_content")
  let parts := alongside parts (readField entries ["schema_only"] false readBool)
  let parts := alongside parts (readField entries ["batch_size"] none (readOptional readWhole))
  alongside parts (readField entries ["include_indexes"] none (readOptional readBool))

/-- A body for the statements of a schema. -/
def SchemaRequest.ofEntries (entries : List (Value × Value)) : ReadsAll SchemaRequest :=
  let parts : ReadsAll _ := .ok SchemaRequest.mk
  let parts := alongside parts (requireField entries ["mapping_yaml"] (readText false))
  alongside parts (readField entries ["include_indexes"] none (readOptional readBool))

namespace Service

/-- An answer with a detail. -/
def detail (status : Nat) (content : Json) : Response := ⟨status, .object [("detail", content)]⟩

/-- One thing that is wrong with a request. -/
def complaint (location : List Json) (message : String) : Json :=
  .object [("loc", .array (.string "body" :: location)), ("msg", .string message)]

/-- The answer to a body that is not as it should be. -/
def refuse (complaints : List Json) : Response := detail 422 (.array complaints)

/-- The answer to faults in the fields of a body. -/
def refuseFaults (faults : List LocatedFault) : Response :=
  refuse (faults.map fun f => complaint (f.location.map .string) f.fault.message)

/-- The text of a body without a mark for the byte order. -/
def bodyText (body : String) : List Char :=
  match body.toList with
  | '\ufeff' :: rest => rest
  | cs => cs

/-- The value of a body; an empty one has the value null. -/
def bodyValue (body : Option String) : Except Response Json :=
  match body.filter (· ≠ "") with
  | none => .ok .null
  | some text =>
    match Json.readLenient (bodyText text) with
    | .ok value => .ok value
    | .error (.at _ offset) => .error (refuse [complaint [.integer offset] "JSON decode error"])
    | .error (.constant _) | .error (.longInteger _) =>
      .error (refuse [complaint [] "JSON decode error"])

def readBody {α : Type} (ofEntries : List (Value × Value) → ReadsAll α) (body : Option String) :
    Except Response α := do
  match Value.ofJson (← bodyValue body) with
  | .null => throw (refuseFaults [⟨.missing, []⟩])
  | .map entries => (ofEntries entries).mapError refuseFaults
  | _ => throw (refuseFaults [⟨.notBody, []⟩])

/-- The answer to a run that has failed. -/
def failed (activity : String) (failure : Failure) : Response :=
  match failure with
  | .breakdown cause => detail 500 (.string s!"{activity} failed: {cause.message}")
  | _ => detail 400 (.string failure.describe)

/-- The answer with the statements of a run. -/
def success (statements : List String) (schemaCount dataCount : Nat) : Response :=
  ⟨200, .object [("status", .string "success"), ("statements", .ofList statements),
    ("schema_count", .integer schemaCount), ("data_count", .integer dataCount)]⟩

/-- The answer to a request for all statements. -/
def generate (pipeline : Pipeline) (request : GenerateRequest) : StateM Session Response := do
  let options : RunOptions := {
    schemaOnly := request.schemaOnly
    batchSize := request.batchSize.map .integer
    includeIndexes := request.includeIndexes }
  match ← (pipeline.runTexts request.mapping request.document options).run with
  | .ok result => return success result.statements result.schema.length result.data.length
  | .error failure => return failed "Generation" failure

/-- The answer to a request for the statements of a schema. -/
def schema (pipeline : Pipeline) (request : SchemaRequest) : Response :=
  let statements := do
    pipeline.schema (← loadMapping request.mapping (some "mapping")) request.includeIndexes
  match statements with
  | .ok statements => success (statements.map SchemaStatement.text) statements.length 0
  | .error failure => failed "Schema generation" failure

/-- The version of the service, when none is configured. -/
def version : String := "unknown"

/-- The answer to the question whether the service is alive. -/
def health : Response :=
  ⟨200, .object [("status", .string "healthy"), ("api_version", .string version)]⟩

/-- The path of a request without its query and without slashes at its end. -/
def routeOf (path : String) : String :=
  let cs := path.toList.takeWhile (· != '?')
  let route := (cs.reverse.dropWhile (· == '/')).reverse
  String.ofList (if route.isEmpty then ['/'] else route)

def answer (pipeline : Pipeline) (request : Request) : StateM Session Response := do
  match routeOf request.path, request.method with
  | "/healthz", "GET" => return health
  | "/api/generate", "POST" =>
    match readBody GenerateRequest.ofEntries request.body with
    | .ok body => generate pipeline body
    | .error response => return response
  | "/api/schema", "POST" =>
    match readBody SchemaRequest.ofEntries request.body with
    | .ok body => return schema pipeline body
    | .error response => return response
  | "/healthz", _ | "/api/generate", _ | "/api/schema", _ =>
    return detail 405 (.string "Method Not Allowed")
  | _, _ => return detail 404 (.string "Not Found")

end Service

end DocGraph
