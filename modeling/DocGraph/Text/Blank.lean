/-!
# White space

Two notions of white space are used. *Plain* blanks are the space, the tabulator, the
line feed and the carriage return. *Blanks* are all characters that the Unicode
character database calls white space, with the four information separators.

## Main definitions

* `isPlainBlank`, `isBlank`: the two classes.
* `stripBy`: removes characters of a class from both ends.
* `trim`, `strip`: removal of plain blanks and of all blanks.
* `collapse`: every run of blanks becomes one space.
-/

namespace DocGraph

/-- The space, the tabulator, the line feed and the carriage return. -/
def isPlainBlank (c : Char) : Bool := c == ' ' || c == '\t' || c == '\n' || c == '\r'

/-- White space of all scripts. -/
def isBlank (c : Char) : Bool :=
  let n := c.toNat
  (0x09 ≤ n && n ≤ 0x0d) || (0x1c ≤ n && n ≤ 0x20) || n == 0x85 || n == 0xa0 || n == 0x1680
    || (0x2000 ≤ n && n ≤ 0x200a) || n == 0x2028 || n == 0x2029 || n == 0x202f || n == 0x205f
    || n == 0x3000

/-- Removes the characters of a class from both ends. -/
def stripBy (p : Char → Bool) (cs : List Char) : List Char :=
  ((cs.dropWhile p).reverse.dropWhile p).reverse

/-- Every maximal run of blanks becomes one space; `inRun` tells that the text so far
ends within a run. -/
def collapseFrom (inRun : Bool) : List Char → List Char
  | [] => []
  | c :: rest =>
    if isBlank c then if inRun then collapseFrom true rest else ' ' :: collapseFrom true rest
    else c :: collapseFrom false rest

/-- Removes plain blanks from both ends of a text. -/
def trim (text : String) : String := String.ofList (stripBy isPlainBlank text.toList)

/-- Removes blanks of all scripts from both ends of a text. -/
def strip (text : String) : String := String.ofList (stripBy isBlank text.toList)

/-- Every maximal run of blanks of a text becomes one space. -/
def collapse (text : String) : String := String.ofList (collapseFrom false text.toList)

end DocGraph
