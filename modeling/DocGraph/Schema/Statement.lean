import DocGraph.Schema.Element

/-!
# Statements about a schema

## Main definitions

* `SchemaStatement`, `SchemaStatement.text`: the statements and their written forms.
* `Element.indexes`: the statements for the indexes of an element.
* `schemaStatements`, `indexStatements`, `cleanupStatements`: what is declared for a mapping
  and what removes it again.
-/

namespace DocGraph

/-- A statement about a schema. -/
inductive SchemaStatement where
  | create (element : Element)
  /-- An index on a column, or on a part of given length at its start. -/
  | createIndex (kind : ElementKind) (element column : String) (length : Option Int)
  | dropIndex (kind : ElementKind) (element column : String)
  | drop (kind : ElementKind) (name : String)
  deriving DecidableEq, Repr

def Column.text (column : Column) : String :=
  let null := if column.nullable then "" else " NOT NULL"
  let default := match column.default with
    | some written => s!" DEFAULT {written}"
    | none => ""
  s!"    {writeName column.name} {column.type}{null}{default}"

namespace SchemaStatement

def text : SchemaStatement → String
  | .create element =>
    s!"CREATE {element.kind.keyword} IF NOT EXISTS {writeName element.name} (\n"
      ++ joinText ",\n" (element.columns.map Column.text)
      ++ "\n) ttl_duration = 0, ttl_col = \"\";"
  | .createIndex kind element column length =>
    let part := match length with
      | some length => s!"({length})"
      | none => ""
    s!"CREATE {kind.keyword} INDEX IF NOT EXISTS {writeName (indexName element column)} "
      ++ s!"ON {writeName element}({writeName column}{part});"
  | .dropIndex kind element column =>
    s!"DROP {kind.keyword} INDEX IF EXISTS {writeName (indexName element column)};"
  | .drop kind name => s!"DROP {kind.keyword} IF EXISTS {writeName name};"

end SchemaStatement

/-- Whether a column gets an index: it is asked for, and the type can have one. -/
def Column.isIndexed (column : Column) : Bool :=
  column.indexable && (ColumnType.isNumericText column.type || ColumnType.isStringText column.type)

/-- The length of the part of a column that is indexed, if not all of it is. -/
def Column.indexLength (column : Column) : Option Int :=
  if ColumnType.isStringText column.type then countingLength column.fixedLength else none

/-- The statements for the indexes of an element. -/
def Element.indexes (element : Element) : List SchemaStatement :=
  (element.columns.filter Column.isIndexed).map fun column =>
    .createIndex element.kind element.name column.name column.indexLength

/-- The statements that declare a mapping, perhaps with its indexes after the elements. -/
def schemaStatements (mapping : GraphMapping) (includeIndexes : Bool) :
    Except SchemaFault (List SchemaStatement) := do
  let elements ← schemaElements mapping
  let indexes := if includeIndexes then elements.flatMap Element.indexes else []
  return elements.map .create ++ indexes

/-- The statements for the indexes of a mapping. -/
def indexStatements (mapping : GraphMapping) : Except SchemaFault (List SchemaStatement) := do
  return (← schemaElements mapping).flatMap Element.indexes

/-- The statements that remove what a mapping may have declared: all indexes that a column
could have, then the tags, then the edge types. -/
def cleanupStatements (mapping : GraphMapping) : List SchemaStatement :=
  mapping.vertices.flatMap (fun v => v.properties.map fun p => .dropIndex .tag v.tag p.name)
    ++ mapping.edges.flatMap (fun e => e.properties.map fun p => .dropIndex .edge e.name p.name)
    ++ mapping.vertices.map (fun v => .drop .tag v.tag)
    ++ mapping.edges.map (fun e => .drop .edge e.name)

end DocGraph
