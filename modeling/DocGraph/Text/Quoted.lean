import DocGraph.Text.Printable

/-!
# Quoted texts

Diagnostics show a text between quotes so that every character can be told apart. A
text stands in single quotes, and in double quotes when it holds a single quote but no
double quote. Backslashes, the quote in use, and line breaks are escaped; characters
that are not printable are written by their code point in hexadecimal digits.

## Main definitions

* `quoted`: the quoted form of a text.
-/

namespace DocGraph

/-- The lower-case hexadecimal digits of a number, padded with zeros to a width. -/
def hexDigits (width n : Nat) : List Char :=
  let digits := Nat.toDigits 16 n
  List.replicate (width - digits.length) '0' ++ digits

def quotedChar (quote c : Char) : List Char :=
  if c = quote || c = '\\' then ['\\', c]
  else if c = '\n' then ['\\', 'n']
  else if c = '\r' then ['\\', 'r']
  else if c = '\t' then ['\\', 't']
  else if isPrintable c then [c]
  else if c.toNat ≤ 0xff then '\\' :: 'x' :: hexDigits 2 c.toNat
  else if c.toNat ≤ 0xffff then '\\' :: 'u' :: hexDigits 4 c.toNat
  else '\\' :: 'U' :: hexDigits 8 c.toNat

def chooseQuote (cs : List Char) : Char :=
  if cs.contains '\'' && !cs.contains '"' then '"' else '\''

/-- A text between quotes, with escapes. -/
def quoted (text : String) : String :=
  let cs := text.toList
  let quote := chooseQuote cs
  String.ofList (quote :: cs.flatMap (quotedChar quote) ++ [quote])

end DocGraph
