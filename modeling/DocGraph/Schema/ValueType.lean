import DocGraph.Text.Case
import DocGraph.Text.Split

/-!
# Types of graph properties

## Main definitions

* `ValueType`: the types that a property can be declared with.
* `ValueType.resolve?`: the type of a declared name, in any letter case, or of an alias.
* `ColumnType`: a type as it is written in a declaration, string types with a length.
* `ColumnType.isNumericText`, `ColumnType.isStringText`: the categories of a written
  type that decide whether it can be indexed.
-/

namespace DocGraph

/-- The type of a property. -/
inductive ValueType where
  | bool | int8 | int16 | int32 | int64 | double | string | fixedString | varchar
  | timestamp | date | time | datetime
  deriving DecidableEq, Repr, Inhabited

namespace ValueType

def all : List ValueType :=
  [.bool, .int8, .int16, .int32, .int64, .double, .string, .fixedString, .varchar,
   .timestamp, .date, .time, .datetime]

def name : ValueType → String
  | .bool => "BOOL"
  | .int8 => "INT8"
  | .int16 => "INT16"
  | .int32 => "INT32"
  | .int64 => "INT64"
  | .double => "DOUBLE"
  | .string => "STRING"
  | .fixedString => "FIXED_STRING"
  | .varchar => "VARCHAR"
  | .timestamp => "TIMESTAMP"
  | .date => "DATE"
  | .time => "TIME"
  | .datetime => "DATETIME"

/-- Further names of types. -/
def aliases : List (String × ValueType) :=
  [("INT", .int64), ("INTEGER", .int64), ("FLOAT", .double), ("BOOLEAN", .bool)]

/-- The type with a name or alias in upper case. -/
def ofName? (name : String) : Option ValueType :=
  aliases.lookup name <|> all.find? (·.name = name)

/-- The type of a declared name: names and aliases in any letter case. -/
def resolve? (declared : String) : Option ValueType := ofName? (upper declared)

def isInteger : ValueType → Bool
  | .int8 | .int16 | .int32 | .int64 => true
  | _ => false

/-- The length of a string type whose declaration gives none; nothing for other types. -/
def defaultLength? : ValueType → Option Nat
  | .string => some 256
  | .fixedString => some 32
  | .varchar => some 256
  | _ => none

def isString (type : ValueType) : Bool := type.defaultLength?.isSome

end ValueType

/-- The greatest length that a string type may be declared with. -/
def maxStringLength : Int := 65535

/-- The length with which a string type is written: the requested one when it is
positive, else the type's default. -/
def effectiveLength (default : Nat) (requested : Option Int) : Int :=
  match requested with
  | some length => if length > 0 then length else default
  | none => default

/-- A type as it stands in a declaration. -/
inductive ColumnType where
  | plain (type : ValueType)
  | sized (type : ValueType) (length : Int)
  deriving DecidableEq, Repr

namespace ColumnType

def text : ColumnType → String
  | .plain type => type.name
  | .sized type length => s!"{type.name}({length})"

/-- The column type of a property type with a requested length; when the length is too
great, that length. -/
def ofValueType (type : ValueType) (requested : Option Int) : Except Int ColumnType :=
  match type.defaultLength? with
  | none => .ok (.plain type)
  | some default =>
    let length := effectiveLength default requested
    if length > maxStringLength then .error length else .ok (.sized type length)

/-- The part of a written type before its length, in upper case. -/
def baseOfText (written : String) : String :=
  upper (String.ofList (written.toList.takeWhile (· != '(')))

/-- Whether a written type is one of the numeric types. -/
def isNumericText (written : String) : Bool :=
  ["INT", "INT8", "INT16", "INT32", "INT64", "FLOAT", "DOUBLE"].contains (baseOfText written)

/-- Whether one text occurs inside another. -/
def occursIn (part whole : String) : Bool := (splitText part whole).length > 1

/-- Whether a written type is one of the string types. -/
def isStringText (written : String) : Bool :=
  occursIn "STRING" (baseOfText written) || occursIn "VARCHAR" (baseOfText written)

end ColumnType

end DocGraph
