/-!
# Cutting a text at a delimiter

A text is cut at every occurrence of a delimiter, found from left to right without
overlap. A text without the delimiter has one part, itself; the empty text has one
empty part.

## Main definitions

* `splitAt`: the parts of a list of characters.
* `splitText`, `joinText`: the same on texts, and gluing parts together.
* `replaceChar`: one character exchanged for another.
-/

namespace DocGraph

/-- Cuts at every occurrence of a non-empty delimiter. The first number counts the
characters of a delimiter still to be passed over; `part` is the reversed part under
way. -/
def splitFrom (delimiter : List Char) : Nat → List Char → List Char → List (List Char)
  | _, part, [] => [part.reverse]
  | skip + 1, part, _ :: rest => splitFrom delimiter skip part rest
  | 0, part, c :: rest =>
    if delimiter.isPrefixOf (c :: rest) then
      part.reverse :: splitFrom delimiter (delimiter.length - 1) [] rest
    else splitFrom delimiter 0 (c :: part) rest

/-- The parts of a list of characters. An empty delimiter cuts nowhere. -/
def splitAt (delimiter cs : List Char) : List (List Char) :=
  if delimiter.isEmpty then [cs] else splitFrom delimiter 0 [] cs

def splitText (delimiter text : String) : List String :=
  (splitAt delimiter.toList text.toList).map String.ofList

/-- The parts glued together with a delimiter between neighbours. -/
def joinText (delimiter : String) (parts : List String) : String :=
  String.intercalate delimiter parts

/-- Every occurrence of a single character replaced by another. -/
def replaceChar (old new : Char) (text : String) : String :=
  String.ofList (text.toList.map fun c => if c = old then new else c)

end DocGraph
