import DocGraph.Schema.Element

/-!
# Merging declarations

Two declarations of one tag or edge type are merged into one. Columns that only the second
has are added at the end; for shared ones the type of the first stays, the column can be
null if either says so, the later default wins, and so does the greater length.

## Main definitions

* `Column.merge`, `mergeColumn`: one column, and one column into a list.
* `Element.merge`: two elements.
-/

namespace DocGraph

/-- The length of two declarations. -/
def mergeLength (first second : Option Int) : Option Int :=
  match countingLength second with
  | some length => some (max (first.getD 0) length)
  | none => first

def Column.merge (first second : Column) : Column :=
  { first with
    nullable := first.nullable || second.nullable
    default := second.default.or first.default
    fixedLength := mergeLength first.fixedLength second.fixedLength }

/-- A column merged into a list. Of several columns with its name the last is meant. -/
def mergeColumn (columns : List Column) (column : Column) : List Column :=
  match columns with
  | [] => [column]
  | c :: rest =>
    if c.name = column.name && !rest.any (·.name = column.name) then c.merge column :: rest
    else c :: mergeColumn rest column

/-- Names taken together, each once. -/
def unionNames (first second : List String) : List String := (first ++ second).eraseDups

def Element.merge (first second : Element) : Except SchemaFault Element :=
  if first.name ≠ second.name || first.kind ≠ second.kind then
    .error (.mismatch first.name second.name)
  else
    let merged := { first with columns := second.columns.foldl mergeColumn first.columns }
    match first.kind with
    | .tag => .ok merged
    | .edge => .ok {
        merged with
        fromTags := unionNames first.fromTags second.fromTags
        toTags := unionNames first.toTags second.toTags }

end DocGraph
