import DocGraph.Json.Writer
import DocGraph.Schema.Identifier
import DocGraph.Transform.Basic

/-!
# Statements about data

## Main definitions

* `Literal`, `VertexId`: the smallest parts of statements.
* `DataStatement`, `DataStatement.text`: the statements and their written forms.
* `batches`: rows cut into the batches that share a statement.
-/

namespace DocGraph

/-- The value of a property as it stands in a statement. -/
inductive Literal where
  | null
  | value (scalar : Scalar)
  deriving DecidableEq, Repr

/-- The written form of a scalar. Quotes inside a text are not marked. -/
def Scalar.written : Scalar → String
  | .text s => "\"" ++ s ++ "\""
  | .integer n => toString n
  | .float x => x.text
  | .bool b => if b then "true" else "false"

def Scalar.ofJson? : Json → Option Scalar
  | .string s => some (.text s)
  | .integer n => some (.integer n)
  | .float x => some (.float x)
  | .bool b => some (.bool b)
  | _ => none

/-- The type that a scalar is taken to have. -/
def Scalar.inferredType : Scalar → ValueType
  | .text _ => .string
  | .integer _ => .int64
  | .float _ => .double
  | .bool _ => .bool

/-- The type that a JSON value is taken to have; values that are not scalars count as
strings. -/
def inferredType (value : Json) : ValueType :=
  ((Scalar.ofJson? value).map Scalar.inferredType).getD .string

def Literal.text : Literal → String
  | .null => "NULL"
  | .value scalar => scalar.written

/-- The form in which a JSON value is written as a literal. A value that has no literal is
displayed. -/
def literalText (value : Json) : String :=
  match value, Scalar.ofJson? value with
  | .null, _ => Literal.null.text
  | _, some scalar => scalar.written
  | _, none => value.display

/-- The identifier of a vertex: the text of its key. -/
structure VertexId where
  key : String
  deriving DecidableEq, Repr

def VertexId.text (id : VertexId) : String := "\"" ++ id.key ++ "\""

/-- A vertex with the values of its properties. -/
structure VertexRow where
  id : VertexId
  values : List Literal
  deriving DecidableEq, Repr

/-- An edge with the values of its properties. -/
structure EdgeRow where
  start : VertexId
  target : VertexId
  values : List Literal
  deriving DecidableEq, Repr

/-- A statement about data. -/
inductive DataStatement where
  | insertVertices (tag : String) (columns : List String) (rows : List VertexRow)
  | upsertVertex (tag : String) (columns : List String) (row : VertexRow)
  | insertEdges (edge : String) (columns : List String) (rows : List EdgeRow)
  deriving DecidableEq, Repr

/-- Parts with a comma and a space between them. -/
def commaList (parts : List String) : String := joinText ", " parts

def valuesText (values : List Literal) : String := s!"({commaList (values.map Literal.text)})"

def columnsText (columns : List String) : String := s!"({commaList (columns.map writeName)})"

def VertexRow.text (row : VertexRow) : String := s!"{row.id.text}:{valuesText row.values}"

def EdgeRow.text (row : EdgeRow) : String :=
  s!"{row.start.text} -> {row.target.text}:{valuesText row.values}"

def DataStatement.text : DataStatement → String
  | .insertVertices tag columns rows =>
    s!"INSERT VERTEX {writeName tag} {columnsText columns} VALUES "
      ++ commaList (rows.map VertexRow.text) ++ ";"
  | .upsertVertex tag columns row =>
    s!"UPSERT VERTEX {writeName tag} {row.id.text} {columnsText columns} VALUES "
      ++ valuesText row.values ++ ";"
  | .insertEdges edge columns rows =>
    s!"INSERT EDGE {writeName edge} {columnsText columns} VALUES "
      ++ commaList (rows.map EdgeRow.text) ++ ";"

/-- Rows cut into batches, given the rows of the batch under way, the last one first. A
batch is complete as soon as it has the asked size. -/
def batchesFrom {α : Type} (size : Nat) (batch : List α) : List α → List (List α)
  | [] => if batch.isEmpty then [] else [batch.reverse]
  | row :: rest =>
    if size ≤ batch.length + 1 then (row :: batch).reverse :: batchesFrom size [] rest
    else batchesFrom size (row :: batch) rest

/-- Rows cut into batches of a size; the last one may be smaller. -/
def batches {α : Type} (size : Nat) (rows : List α) : List (List α) := batchesFrom size [] rows

end DocGraph
