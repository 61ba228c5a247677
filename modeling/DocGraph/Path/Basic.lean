import DocGraph.Json.Basic
import DocGraph.Text.Digit

/-!
# Paths into documents

A path is written with slashes between its segments, and a leading slash makes no
difference. A segment in brackets may follow a key directly: `items[0]/name` has the
three segments `items`, `[0]` and `name`. A bracket that is never closed is an ordinary
character, and slashes inside brackets do not separate.

## Main definitions

* `splitPath`: the segments of a path.
* `PathFault`: why a segment cannot be followed.
* `followSegment`, `follow`: one segment, and a list of segments, followed from a value.
* `resolve`: the value that a path addresses in a document.
-/

namespace DocGraph

/-- The first part of a path, up to and including a closing bracket, and the rest. -/
def throughBracket? : List Char → Option (List Char × List Char)
  | [] => none
  | c :: rest =>
    if c = ']' then some ([c], rest)
    else (throughBracket? rest).map fun (inside, after) => (c :: inside, after)

/-- Adds the key under way, given in reverse, as a segment unless it is empty. -/
def addKey (key : List Char) (segments : List (List Char)) : List (List Char) :=
  if key.isEmpty then segments else key.reverse :: segments

/-- The segments of the rest of a path. The first number counts the characters of a
bracket segment still to be passed over, which are already part of a segment; `key` is
the key under way, in reverse. -/
def segmentsFrom : Nat → List Char → List Char → List (List Char)
  | _, key, [] => addKey key []
  | skip + 1, key, _ :: rest => segmentsFrom skip key rest
  | 0, key, c :: rest =>
    if c = '/' then addKey key (segmentsFrom 0 [] rest)
    else if c = '[' then
      match throughBracket? rest with
      | some (inside, _) => addKey key ((c :: inside) :: segmentsFrom inside.length [] rest)
      | none => segmentsFrom 0 (c :: key) rest
    else segmentsFrom 0 (c :: key) rest

def splitPath (path : String) : List String :=
  (segmentsFrom 0 [] path.toList).map String.ofList

/-- The index written in a segment: brackets around one or more decimal digits of any
script, which can be too many to be read. -/
def segmentIndex? (segment : String) : Option (Except DigitExcess Nat) :=
  match segment.toList with
  | '[' :: rest =>
    let digits := rest.takeWhile isDecimalDigit
    let after := rest.drop digits.length
    if digits.isEmpty || after != [']'] then none
    else
      let index := digits.foldl (fun n c => n * 10 + (decimalValue? c).getD 0) 0
      some (limitDigits digits.length index)
  | _ => none

/-- Why a segment cannot be followed from a value. -/
inductive PathFault where
  /-- An index was applied to something that is not an array. -/
  | expectedArray (segment : String)
  /-- An index was at or beyond the length of the array. -/
  | indexOutOfBounds (segment : String)
  /-- A key was applied to something that is not an object. -/
  | expectedObject (segment : String)
  /-- The object has no such key. -/
  | notFound (segment : String)
  /-- An index for an array has too many digits. -/
  | longIndex (excess : DigitExcess)
  deriving DecidableEq, Repr

namespace PathFault

def message : PathFault → String
  | .expectedArray segment => s!"Expected array at path segment: {segment}"
  | .indexOutOfBounds segment => s!"Array index out of bounds: {segment}"
  | .expectedObject segment => s!"Expected object at path segment: {segment}"
  | .notFound segment => s!"Property not found: {segment}"
  | .longIndex excess => excess.message

end PathFault

/-- The value that one segment addresses inside a value. -/
def followSegment (value : Json) (segment : String) : Except PathFault Json :=
  match segmentIndex? segment with
  | some index =>
    match value with
    | .array items =>
      match index with
      | .error excess => .error (.longIndex excess)
      | .ok position =>
        match items[position]? with
        | some item => .ok item
        | none => .error (.indexOutOfBounds segment)
    | _ => .error (.expectedArray segment)
  | none =>
    match value with
    | .object fields =>
      match fields.lookup segment with
      | some field => .ok field
      | none => .error (.notFound segment)
    | _ => .error (.expectedObject segment)

/-- The value that a list of segments addresses inside a value. -/
def follow (value : Json) : List String → Except PathFault Json
  | [] => .ok value
  | segment :: rest => do follow (← followSegment value segment) rest

/-- The value that a path addresses in a document. -/
def resolve (document : Json) (path : String) : Except PathFault Json :=
  follow document (splitPath path)

end DocGraph
