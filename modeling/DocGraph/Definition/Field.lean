import DocGraph.Number.Shortest
import DocGraph.Number.Spelling
import DocGraph.Text.Quoted
import DocGraph.Text.Split
import DocGraph.Text.Utf8
import DocGraph.Yaml.Value

/-!
# Fields of written records

A field is read from a value by the kind of thing it holds. Reading is generous where the
meaning is plain: a word such as `yes` is a truth value, and digits in a text are a whole
number.

## Main definitions

* `FieldFault`, `LocatedFault`: what is wrong with a field, and where.
* `readText`, `readBool`, `readWhole`, `readItems`, `readDictionary`, `readRecord`: the kinds
  of fields.
* `readField`, `requireField`: a field of a record by its names.
-/

namespace DocGraph

open Yaml (Value)

/-- What is wrong with a field. -/
inductive FieldFault where
  | missing
  | notText
  | notUtf8
  | notBoolean
  /-- A text or a number that stands for no truth value. -/
  | unclearBoolean
  | notInteger
  | unreadableInteger
  | fractionalInteger
  | infiniteInteger
  | oversizedInteger
  | notList
  | notDictionary
  /-- Something else stands for a record of a kind. -/
  | notRecord (kind : String)
  /-- Something else stands for the whole body of a request. -/
  | notBody
  deriving DecidableEq, Repr

namespace FieldFault

def message : FieldFault → String
  | .missing => "Field required"
  | .notText => "Input should be a valid string"
  | .notUtf8 => "Input should be a valid string, unable to parse raw data as a unicode string"
  | .notBoolean => "Input should be a valid boolean"
  | .unclearBoolean => "Input should be a valid boolean, unable to interpret input"
  | .notInteger => "Input should be a valid integer"
  | .unreadableInteger => "Input should be a valid integer, unable to parse string as an integer"
  | .fractionalInteger => "Input should be a valid integer, got a number with a fractional part"
  | .infiniteInteger => "Input should be a finite number"
  | .oversizedInteger => "Unable to parse input string as an integer, exceeded maximum size"
  | .notList => "Input should be a valid list"
  | .notDictionary => "Input should be a valid dictionary"
  | .notRecord kind => s!"Input should be a valid dictionary or instance of {kind}"
  | .notBody => "Input should be a valid dictionary or object to extract fields from"

end FieldFault

/-- A fault with the names and numbers that lead to it, from the outside in. -/
structure LocatedFault where
  fault : FieldFault
  location : List String
  deriving DecidableEq, Repr

/-- Something read from a value. -/
abbrev Reads (α : Type) := Except LocatedFault α

/-- Fails at the value itself. -/
def failHere {α : Type} (fault : FieldFault) : Reads α := .error ⟨fault, []⟩

/-- What is read below a name. -/
def below {α : Type} (name : String) (read : Reads α) : Reads α :=
  read.mapError fun f => { f with location := name :: f.location }

/-- A text. With `numbers`, a number stands for its written form. -/
def readText (numbers : Bool) (value : Value) : Reads String :=
  match value with
  | .string s => .ok s
  | .binary bytes =>
    match decodeUtf8 bytes with
    | .ok s => .ok s
    | .error _ => failHere .notUtf8
  | .integer n => if numbers then .ok (toString n) else failHere .notText
  | .float x => if numbers then .ok x.text else failHere .notText
  | _ => failHere .notText

/-- Words for truth values, in lower case. -/
def truthWords : List (String × Bool) :=
  [("0", false), ("off", false), ("f", false), ("false", false), ("n", false), ("no", false),
   ("1", true), ("on", true), ("t", true), ("true", true), ("y", true), ("yes", true)]

/-- The truth value of a word in any case of plain letters. -/
def boolOfText (text : String) : Reads Bool :=
  match truthWords.lookup (String.ofList (text.toList.map Char.toLower)) with
  | some b => .ok b
  | none => failHere .unclearBoolean

/-- One more than the largest whole number that 64 bits with a sign can hold. -/
def wordLimit : Int := 0x8000000000000000

/-- Whether a number can be held in 64 bits with a sign. -/
def isWord (n : Int) : Bool := -wordLimit ≤ n && n < wordLimit

/-- Zero and one as truth values. -/
def boolOfInteger (n : Int) : Reads Bool :=
  if n = 0 then .ok false
  else if n = 1 then .ok true
  else if isWord n then failHere .unclearBoolean
  else failHere .notBoolean

/-- The whole number that a binary number is. It must be strictly between the limits of 64
bits. -/
def wholeOfFloat (x : Binary64) : Reads Int :=
  match x.trunc with
  | none => failHere .infiniteInteger
  | some n =>
    if !x.equalsInt n then failHere .fractionalInteger
    else if -wordLimit < n && n < wordLimit then .ok n
    else failHere .oversizedInteger

def readBool (value : Value) : Reads Bool :=
  match value with
  | .bool b => .ok b
  | .string s => boolOfText s
  | .binary bytes =>
    match decodeUtf8 bytes with
    | .ok s => boolOfText s
    | .error _ => failHere .unclearBoolean
  | .integer n => boolOfInteger n
  | .float x =>
    match wholeOfFloat x with
    | .ok n => boolOfInteger n
    | .error _ => failHere .notBoolean
  | _ => failHere .notBoolean

/-- The text without underscores, if they stand singly inside it. -/
def withoutUnderscores? (cs : List Char) : Option (List Char) :=
  if cs.head? = some '_' || cs.getLast? = some '_' || (splitAt ['_', '_'] cs).length > 1 then none
  else some (cs.filter (· != '_'))

/-- The text without zeros in front, if it starts like a number. Of a text of zeros, and
before a point, one zero stays. -/
def withoutLeadingZeros? (cs : List Char) : Option (List Char) :=
  match cs with
  | '0' :: _ =>
    match cs.dropWhile fun c => c == '0' || c == '_' with
    | [] => cs.getLast?.map ([·])
    | '.' :: rest => some ('0' :: '.' :: rest)
    | c :: rest => if isPlainDigit c then some (c :: rest) else none
  | c :: _ => if isPlainDigit c || c == '-' then some cs else none
  | [] => none

/-- The text without a point and zeros after it. -/
def withoutZeroFraction (cs : List Char) : List Char :=
  match cs.dropWhile (· != '.') with
  | '.' :: zeros =>
    if !zeros.isEmpty && zeros.all (· == '0') then cs.takeWhile (· != '.') else cs
  | _ => cs

/-- The whole number of plain digits, perhaps after a minus sign, without zeros in front. -/
def plainInteger? (cs : List Char) : Option Int :=
  let (negative, digits) := match cs with
    | '-' :: rest => (true, rest)
    | _ => (false, cs)
  let padded := digits.length > 1 && digits.head? = some '0'
  if digits.isEmpty || padded || !digits.all isPlainDigit then none
  else some (signed negative (digitsValue (digits.map plainValue)))

/-- The whole number that a text writes: blanks around it, a plus sign, zeros in front, a
fraction of zeros and underscores between digits are passed over. -/
def integerOfField (text : String) : Reads Int :=
  let cs := stripBy isNumberBlank text.toList
  let unsigned := match cs with
    | '+' :: '-' :: _ => []
    | '+' :: rest => rest
    | _ => cs
  let digits := do
    withoutUnderscores? (withoutZeroFraction (← withoutLeadingZeros? unsigned))
  match digits.bind plainInteger? with
  | some n => .ok n
  | none => failHere .unreadableInteger

def readWhole (value : Value) : Reads Int :=
  match value with
  | .integer n => .ok n
  | .bool b => .ok (if b then 1 else 0)
  | .float x => wholeOfFloat x
  | .string s => integerOfField s
  | .binary bytes =>
    match decodeUtf8 bytes with
    | .ok s => integerOfField s
    | .error _ => failHere .unreadableInteger
  | _ => failHere .notInteger

def readOptional {α : Type} (read : Value → Reads α) (value : Value) : Reads (Option α) :=
  match value with
  | .null => .ok none
  | _ => some <$> read value

/-- Values read one after the other, numbered from a start. -/
def readEach {α : Type} (read : Value → Reads α) (start : Nat) : List Value → Reads (List α)
  | [] => .ok []
  | value :: rest => do
    let first ← below (toString start) (read value)
    return first :: (← readEach read (start + 1) rest)

def readItems {α : Type} (read : Value → Reads α) (value : Value) : Reads (List α) :=
  match value with
  | .list items | .set items => readEach read 0 items
  | .pair key item => readEach read 0 [key, item]
  | _ => failHere .notList

/-- Bytes as they are shown in a location. -/
def bytesText (bytes : List Nat) : String :=
  let quote := chooseQuote (bytes.map Char.ofNat)
  let shown := bytes.flatMap fun n =>
    if n < 128 then quotedChar quote (Char.ofNat n) else '\\' :: 'x' :: hexDigits 2 n
  String.ofList ('b' :: quote :: shown ++ [quote])

/-- A moment as it is shown in a location. -/
def momentText (m : Moment) (offset : Option Int) : String :=
  let small :=
    if m.microsecond != 0 then [m.second, m.microsecond]
    else if m.second != 0 then [m.second] else []
  let numbers := [m.date.year, m.date.month, m.date.day, m.hour, m.minute] ++ small
  let zone := match offset with
    | none => []
    | some 0 => ["tzinfo=datetime.timezone.utc"]
    | some minutes => [s!"tzinfo=datetime.timezone({spanText (minutes * 60000000)})"]
  let parts := joinText ", " (numbers.map toString ++ zone)
  s!"datetime.datetime({parts})"

/-- A key as it is shown in a location. -/
def keyText (key : Value) : String :=
  match key with
  | .string s => s
  | .bool b => if b then "1" else "0"
  | .integer n => toString n
  | .float x => x.text
  | .date d => s!"datetime.date({d.year}, {d.month}, {d.day})"
  | .moment m offset => momentText m offset
  | .binary bytes => bytesText bytes
  | _ => "None"

/-- The entries of a dictionary read one after the other. -/
def readEntries {α : Type} (read : Value → Reads α) :
    List (Value × Value) → Reads (List (String × α))
  | [] => .ok []
  | (key, value) :: rest => do
    let name ← below (keyText key) (below "[key]" (readText true key))
    let item ← below (keyText key) (read value)
    return (name, item) :: (← readEntries read rest)

/-- Things of one kind by name. Keys that are numbers stand for their written forms; of
several keys with one written form, the first keeps its place and the last its value. -/
def readDictionary {α : Type} (read : Value → Reads α) (value : Value) :
    Reads (List (String × α)) :=
  match value with
  | .map entries => orderedPairs <$> readEntries read entries
  | _ => failHere .notDictionary

/-- The entries of a record of a kind. -/
def readRecord (kind : String) (value : Value) : Reads (List (Value × Value)) :=
  match value with
  | .map entries => .ok entries
  | _ => failHere (.notRecord kind)

/-- The first of some names under which a record has an entry, with the entry. -/
def entryOf? (entries : List (Value × Value)) (names : List String) : Option (String × Value) :=
  names.findSome? fun name => (Value.lookup? entries name).map fun value => (name, value)

/-- A field of a record by its names; without an entry it has a default. -/
def readField {α : Type} (entries : List (Value × Value)) (names : List String) (default : α)
    (read : Value → Reads α) : Reads α :=
  match entryOf? entries names with
  | some (name, value) => below name (read value)
  | none => .ok default

/-- A field of a record that must be there. -/
def requireField {α : Type} (entries : List (Value × Value)) (names : List String)
    (read : Value → Reads α) : Reads α :=
  match entryOf? entries names with
  | some (name, value) => below name (read value)
  | none => .error ⟨.missing, names.take 1⟩

end DocGraph
