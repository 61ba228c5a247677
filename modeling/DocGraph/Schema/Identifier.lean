/-!
# Names of tags, edges, properties and indexes

A *plain identifier* starts with a letter or an underscore and goes on with letters,
digits and underscores of the basic alphabet. Other names are written between
back-ticks.

## Main definitions

* `isPlainIdentifier`, `isDeclarable`: which names may be written bare, and which may be
  declared.
* `writeName`: a name as it stands in a statement.
* `indexName`: the name of the index on a property.
-/

namespace DocGraph

/-- A letter of the basic alphabet or an underscore. -/
def isIdentifierStart (c : Char) : Bool :=
  ('A' ≤ c && c ≤ 'Z') || ('a' ≤ c && c ≤ 'z') || c == '_'

/-- A letter or digit of the basic alphabet or an underscore. -/
def isIdentifierPart (c : Char) : Bool := isIdentifierStart c || ('0' ≤ c && c ≤ '9')

/-- Whether a list of characters is a plain identifier. -/
def isIdentifierText : List Char → Bool
  | [] => false
  | c :: rest => isIdentifierStart c && rest.all isIdentifierPart

def isPlainIdentifier (name : String) : Bool := isIdentifierText name.toList

/-- The words that cannot be declared, in the spelling in which they are refused. -/
def reservedWords : List String :=
  ["SPACE", "TAG", "EDGE", "VERTEX", "INDEX", "INSERT", "UPDATE", "DELETE", "WHERE", "YIELD"]

/-- The greatest length of a declared name. -/
def maxIdentifierLength : Nat := 128

/-- Whether a name may be declared: a plain identifier that is neither too long nor a
reserved word. -/
def isDeclarable (name : String) : Bool :=
  name.length ≤ maxIdentifierLength && !reservedWords.contains name && isPlainIdentifier name

/-- The character between which names are written that are not plain identifiers. -/
def backtick : Char := Char.ofNat 0x60

/-- A name as it stands in a statement: bare when it is a plain identifier or empty, else
between back-ticks. -/
def writeName (name : String) : String :=
  if name.isEmpty || isPlainIdentifier name then name
  else String.ofList (backtick :: name.toList ++ [backtick])

/-- The name of the index on a property of an element. -/
def indexName (element property : String) : String := s!"{element}_{property}_idx"

end DocGraph
