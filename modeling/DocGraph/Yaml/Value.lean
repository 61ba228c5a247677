import DocGraph.Json.Basic
import DocGraph.Time.Calendar

/-!
# Values of YAML texts

Beside the values of JSON there are dates, times, bytes, sets, and mappings with keys of
any kind that can be compared.

## Main definitions

* `Yaml.Value`: the values.
* `Yaml.Value.isSameKey`: when two values are one key of a mapping.
* `Yaml.Value.insertEntry`: adds an entry to a mapping.
* `Yaml.Value.ofJson`: a JSON value as a value.
-/

namespace DocGraph.Yaml

/-- A value. A mapping is a list of entries in the order in which their keys first
occurred. -/
inductive Value where
  | null
  | bool (value : Bool)
  | integer (value : Int)
  | float (value : Binary64)
  | string (value : String)
  | date (value : Date)
  /-- A moment, with the minutes by which its clock is ahead of universal time. -/
  | moment (value : Moment) (offset : Option Int)
  | binary (bytes : List Nat)
  | list (items : List Value)
  /-- An entry of an ordered mapping. -/
  | pair (key value : Value)
  | map (entries : List (Value × Value))
  | set (members : List Value)
  deriving Repr, Inhabited

namespace Value

/-- The number that a truth value, a whole number or a binary number is. -/
inductive Numeric where
  | integer (value : Int)
  | float (value : Binary64)

/-- The number of a value that is one. -/
def numeric? : Value → Option Numeric
  | .bool b => some (.integer (if b then 1 else 0))
  | .integer n => some (.integer n)
  | .float x => some (.float x)
  | _ => none

/-- Whether two numbers are one key: they are equal, or both undefined. -/
def Numeric.isSame : Numeric → Numeric → Bool
  | .integer m, .integer n => m == n
  | .integer m, .float x | .float x, .integer m => x.equalsInt m
  | .float x, .float y => x.equals y || (x == .nan && y == .nan)

/-- The microseconds of a moment since the start of the calendar, by its own clock. -/
def clock (m : Moment) : Int :=
  let seconds := ((m.date.ordinal * 24 + m.hour) * 60 + m.minute) * 60 + m.second
  (seconds * 1000000 + m.microsecond : Nat)

/-- Whether two values are one key of a mapping. Numbers are compared by what they are
worth, and moments with known differences to universal time by when they are. -/
def isSameKey (x y : Value) : Bool :=
  match x, y with
  | .null, .null => true
  | .string s, .string t => s == t
  | .date d, .date e => d == e
  | .moment m none, .moment n none => m == n
  | .moment m (some a), .moment n (some b) =>
    clock m - a * 60000000 == clock n - b * 60000000
  | .binary b, .binary c => b == c
  | _, _ =>
    match x.numeric?, y.numeric? with
    | some m, some n => m.isSame n
    | _, _ => false

def isKey : Value → Bool
  | .list _ | .map _ | .set _ => false
  | _ => true

/-- Adds an entry to a mapping. A key already there keeps its place and its form, and
takes the new value. -/
def insertEntry (entries : List (Value × Value)) (key value : Value) : List (Value × Value) :=
  match entries with
  | [] => [(key, value)]
  | (k, v) :: rest =>
    if isSameKey k key then (k, value) :: rest else (k, v) :: insertEntry rest key value

/-- The entries of a mapping, given pair by pair. -/
def entriesOf (pairs : List (Value × Value)) : List (Value × Value) :=
  pairs.foldl (fun entries (key, value) => insertEntry entries key value) []

mutual

def ofJson : Json → Value
  | .null => .null
  | .bool b => .bool b
  | .integer n => .integer n
  | .float x => .float x
  | .string s => .string s
  | .array items => .list (ofItems items)
  | .object fields => .map (ofFields fields)

def ofItems : List Json → List Value
  | [] => []
  | item :: rest => ofJson item :: ofItems rest

def ofFields : List (String × Json) → List (Value × Value)
  | [] => []
  | (name, value) :: rest => (.string name, ofJson value) :: ofFields rest

end

/-- The value under a key that is a text. -/
def lookup? (entries : List (Value × Value)) (name : String) : Option Value :=
  (entries.find? fun (key, _) => isSameKey key (.string name)).map (·.2)

end Value

end DocGraph.Yaml
