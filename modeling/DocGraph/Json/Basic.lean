import DocGraph.Number.Binary64

/-!
# JSON values

Whole numbers have any size and are kept apart from binary numbers. An object is a list
of pairs in the order in which the keys first occurred; every operation here keeps its
keys distinct.

## Main definitions

* `Json`: the values.
* `Json.insertField`: adds a pair to an object; a key already there keeps its place and
  takes the new value.
* `JsonKind`: what a value is, without its content.
-/

namespace DocGraph

/-- A JSON value. -/
inductive Json where
  | null
  | bool (value : Bool)
  | integer (value : Int)
  | float (value : Binary64)
  | string (value : String)
  | array (items : List Json)
  | object (fields : List (String × Json))
  deriving BEq, Repr, Inhabited

/-- Adds a pair to a list of pairs with distinct keys. A key already there keeps its
place and takes the new value. -/
def insertPair {κ α : Type} [BEq κ] (fields : List (κ × α)) (key : κ) (value : α) : List (κ × α) :=
  match fields with
  | [] => [(key, value)]
  | (k, v) :: rest => if k == key then (k, value) :: rest else (k, v) :: insertPair rest key value

/-- The value just added is found under its key, and all other keys keep theirs. -/
theorem lookup_insertPair {κ α : Type} [BEq κ] [LawfulBEq κ] (fields : List (κ × α)) (key : κ)
    (value : α) (k : κ) :
    (insertPair fields key value).lookup k = if k == key then some value else fields.lookup k := by
  induction fields with
  | nil => cases h : k == key <;> simp [insertPair, List.lookup_cons, h]
  | cons field rest ih =>
    obtain ⟨other, stored⟩ := field
    by_cases same : other = key <;> grind [insertPair]

/-- The pairs of a list taken one after the other into an ordered object. -/
def orderedPairs {κ α : Type} [BEq κ] (pairs : List (κ × α)) : List (κ × α) :=
  pairs.foldl (fun fields (key, value) => insertPair fields key value) []

/-- What a JSON value is. Whole and binary numbers are two kinds. -/
inductive JsonKind where
  | null | boolean | integer | float | string | object | array
  deriving DecidableEq, Repr

namespace JsonKind

def name : JsonKind → String
  | .null => "null"
  | .boolean => "boolean"
  | .integer => "integer"
  | .float => "float"
  | .string => "string"
  | .object => "object"
  | .array => "array"

end JsonKind

namespace Json

def kind : Json → JsonKind
  | .null => .null
  | .bool _ => .boolean
  | .integer _ => .integer
  | .float _ => .float
  | .string _ => .string
  | .object _ => .object
  | .array _ => .array

def isObject : Json → Bool
  | .object _ => true
  | _ => false

end Json

end DocGraph
