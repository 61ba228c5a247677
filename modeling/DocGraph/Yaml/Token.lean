import DocGraph.Yaml.Fault

/-!
# Tokens of YAML texts

A text is cut into tokens from left to right. A key in the middle of a line is noticed
only at its colon, so a token that may start such a key is held back until the question
is decided: it is *delivered* when no token can be put in front of it any more. A fault
found while a token is held back comes before that token.

## Main definitions

* `Yaml.Token`: the tokens.
* `Yaml.Scanner`: the state between two tokens.
* `Yaml.tokens`: the delivered tokens of a text, and the fault after them if any.
-/

namespace DocGraph.Yaml

/-- What a token is. -/
inductive TokenKind where
  | streamStart | streamEnd
  | versionDirective (major minor : Nat)
  | tagDirective (handle start : String)
  | otherDirective
  | documentStart | documentEnd
  | blockSequenceStart | blockMappingStart | blockEnd
  | flowSequenceStart | flowMappingStart | flowSequenceEnd | flowMappingEnd
  | key | value | blockEntry | flowEntry
  | alias (name : String)
  | anchor (name : String)
  | tag (handle : Option String) (suffix : String)
  | scalar (text : String) (plain : Bool)
  deriving DecidableEq, Repr

namespace TokenKind

def name : TokenKind → String
  | .streamStart => "<stream start>"
  | .streamEnd => "<stream end>"
  | .versionDirective .. | .tagDirective .. | .otherDirective => "<directive>"
  | .documentStart => "<document start>"
  | .documentEnd => "<document end>"
  | .blockSequenceStart => "<block sequence start>"
  | .blockMappingStart => "<block mapping start>"
  | .blockEnd => "<block end>"
  | .flowSequenceStart => "["
  | .flowMappingStart => "\x7b"
  | .flowSequenceEnd => "]"
  | .flowMappingEnd => "\x7d"
  | .key => "?"
  | .value => ":"
  | .blockEntry => "-"
  | .flowEntry => ","
  | .alias _ => "<alias>"
  | .anchor _ => "<anchor>"
  | .tag .. => "<tag>"
  | .scalar .. => "<scalar>"

end TokenKind

/-- A token with the place where it starts. -/
structure Token where
  kind : TokenKind
  start : Mark
  deriving DecidableEq, Repr

/-- A place where a key in the middle of a line may have started. -/
structure SimpleKey where
  /-- The number of the token that starts the key. -/
  number : Nat
  /-- Whether a colon must follow. -/
  required : Bool
  mark : Mark
  deriving Repr

/-- The state between two tokens. -/
structure Scanner where
  /-- The length of the text, which bounds the steps of every loop. -/
  size : Nat
  rest : List Char
  mark : Mark
  /-- How many flow collections are open. -/
  flowLevel : Nat
  /-- Tokens held back, oldest first. -/
  held : List Token
  /-- How many tokens have been delivered. -/
  taken : Nat
  /-- The column of the innermost block collection. -/
  indent : Int
  /-- The columns of the collections around it. -/
  outer : List Int
  keyAllowed : Bool
  /-- The possible keys by flow level. -/
  keys : List (Nat × SimpleKey)
  done : Bool

/-- A step of scanning, which may fail. -/
abbrev Scan := StateT Scanner (Except Fault)

/-- The character that stands for the end of the text; it occurs in no text. -/
def endMark : Char := '\x00'

/-- Characters that end a line. -/
def isBreak (c : Char) : Bool :=
  c == '\r' || c == '\n' || c == '\x85' || c == '\u2028' || c == '\u2029'

/-- The end of a line or of the text. -/
def isBreakOrEnd (c : Char) : Bool := c == endMark || isBreak c

/-- A space, the end of a line or of the text. -/
def isSpaceOrEnd (c : Char) : Bool := c == ' ' || isBreakOrEnd c

/-- A space, a tabulator, the end of a line or of the text. -/
def isGapOrEnd (c : Char) : Bool := c == '\t' || isSpaceOrEnd c

/-- Letters, digits, hyphens and underscores, of which names are made. -/
def isNamePart (c : Char) : Bool :=
  ('0' ≤ c && c ≤ '9') || ('A' ≤ c && c ≤ 'Z') || ('a' ≤ c && c ≤ 'z') || c == '-' || c == '_'

/-- The characters of a tag, except the escape sign. -/
def isUriPart (c : Char) : Bool := isNamePart c || ";/?:@&=+$,.!~*'()[]".toList.contains c

def isHex (c : Char) : Bool :=
  ('0' ≤ c && c ≤ '9') || ('A' ≤ c && c ≤ 'F') || ('a' ≤ c && c ≤ 'f')

def hexNumber (cs : List Char) : Nat :=
  cs.foldl (fun n c =>
    n * 16 + (if c ≤ '9' then c.toNat - '0'.toNat
      else if c ≤ 'F' then c.toNat - 'A'.toNat + 10 else c.toNat - 'a'.toNat + 10)) 0

namespace Scanner

def ahead (s : Scanner) (n : Nat) : Char := s.rest.getD n endMark

def step (s : Scanner) : Scanner :=
  match s.rest with
  | [] => s
  | c :: rest =>
    let m := s.mark
    let newLine := (isBreak c && c != '\r') || (c == '\r' && rest.head? != some '\n')
    let mark : Mark :=
      if newLine then ⟨m.index + 1, m.line + 1, 0⟩
      else if c == '\ufeff' then ⟨m.index + 1, m.line, m.column⟩
      else ⟨m.index + 1, m.line, m.column + 1⟩
    { s with rest := rest, mark := mark }

def steps (s : Scanner) : Nat → Scanner
  | 0 => s
  | n + 1 => s.step.steps n

/-- Whether three dashes or dots that end a document stand here at the start of a line. -/
def atSeparator (s : Scanner) : Bool :=
  (s.rest.take 3 == ['-', '-', '-'] || s.rest.take 3 == ['.', '.', '.']) && isGapOrEnd (s.ahead 3)

end Scanner

def fail {α : Type} (problem : Problem) : Scan α := fun s => .error (.problem problem s.mark)

def peek (n : Nat) : Scan Char := return (← get).ahead n

def skip (n : Nat) : Scan Unit := modify (·.steps n)

/-- Takes the characters of a class that stand here. -/
def takeSpan (p : Char → Bool) : Scan (List Char) := do
  let cs := (← get).rest.takeWhile p
  skip cs.length
  return cs

/-- Adds a token to those held back. -/
def hold (kind : TokenKind) (start : Mark) : Scan Unit :=
  modify fun s => { s with held := s.held ++ [⟨kind, start⟩] }

/-- Passes over a line break if one stands here. Most breaks count as a line feed. -/
def takeBreak : Scan (List Char) := do
  let s ← get
  let c := s.ahead 0
  if c == '\r' || c == '\n' || c == '\x85' then
    skip (if c == '\r' && s.ahead 1 == '\n' then 2 else 1)
    return ['\n']
  else if c == '\u2028' || c == '\u2029' then
    skip 1
    return [c]
  else return []

/-- Forgets the possible key of the present flow level; it must not be required. -/
def dropKey : Scan Unit := do
  let s ← get
  match s.keys.lookup s.flowLevel with
  | none => return
  | some key =>
    if key.required then fail .missingColon
    else set { s with keys := s.keys.filter (·.1 != s.flowLevel) }

/-- Notes that a key may start here. -/
def noteKey : Scan Unit := do
  let s ← get
  let required := s.flowLevel == 0 && s.indent == s.mark.column
  if s.keyAllowed then
    dropKey
    modify fun s =>
      let key : SimpleKey := ⟨s.taken + s.held.length, required, s.mark⟩
      { s with keys := s.keys ++ [(s.flowLevel, key)] }

/-- Forgets the keys that cannot be continued: those of an earlier line, and those that
started more than 1024 characters ago. -/
def dropStaleKeys : Scan Unit := do
  let s ← get
  let stale (key : SimpleKey) : Bool :=
    key.mark.line != s.mark.line || s.mark.index - key.mark.index > 1024
  if s.keys.any fun (_, key) => stale key && key.required then fail .missingColon
  else set { s with keys := s.keys.filter fun (_, key) => !stale key }

/-- The ends of the block collections deeper than a column. -/
def closedBy (column : Int) : Int → List Int → Nat × Int × List Int
  | indent, [] => (0, indent, [])
  | indent, next :: outer =>
    if indent > column then
      let (count, indent, outer) := closedBy column next outer
      (count + 1, indent, outer)
    else (0, indent, next :: outer)

/-- Ends the block collections deeper than a column, unless a flow collection is open. -/
def closeBlocks (column : Int) : Scan Unit := do
  let s ← get
  if s.flowLevel == 0 then
    let (count, indent, outer) := closedBy column s.indent s.outer
    let ends : List Token := List.replicate count ⟨.blockEnd, s.mark⟩
    set { s with indent := indent, outer := outer, held := s.held ++ ends }

/-- Opens a block collection if a column is deeper than the present one; tells whether it
did. -/
def openBlock (column : Nat) : Scan Bool := do
  let s ← get
  if s.indent < column then
    set { s with outer := s.indent :: s.outer, indent := column }
    return true
  else return false

/-- Passes over spaces, comments and line breaks. A line break outside flow collections
allows a key again. -/
def skipToToken : Nat → Scan Unit
  | 0 => return
  | fuel + 1 => do
    let _ ← takeSpan (· == ' ')
    if (← peek 0) == '#' then
      let _ ← takeSpan (!isBreakOrEnd ·)
    let lineBreak ← takeBreak
    if !lineBreak.isEmpty then
      modify fun s => if s.flowLevel == 0 then { s with keyAllowed := true } else s
      skipToToken fuel

/-- Fails unless a character of a class stands here. -/
def expectAhead (p : Char → Bool) (what : String) : Scan Unit := do
  let c ← peek 0
  if p c then return else fail (.expected what c)

/-- Passes over the rest of a line that may hold nothing but a comment. -/
def skipIgnoredLine : Scan Unit := do
  let _ ← takeSpan (· == ' ')
  if (← peek 0) == '#' then
    let _ ← takeSpan (!isBreakOrEnd ·)
  expectAhead isBreakOrEnd "a comment or a line break"
  let _ ← takeBreak

def takeVersionNumber : Scan Nat := do
  expectAhead (fun c => '0' ≤ c && c ≤ '9') "a digit"
  let digits ← takeSpan fun c => '0' ≤ c && c ≤ '9'
  return digits.foldl (fun n c => n * 10 + (c.toNat - '0'.toNat)) 0

/-- A name after a directive sign or an anchor sign. -/
def takeName : Scan (List Char) := do
  let name ← takeSpan isNamePart
  if name.isEmpty then fail (.expected "alphabetic or numeric character" (← peek 0))
  else return name

/-- The handle of a tag: an exclamation mark, or a name between two of them. -/
def takeTagHandle : Scan String := do
  expectAhead (· == '!') "'!'"
  let s ← get
  if s.ahead 1 == ' ' then
    skip 1
    return "!"
  else
    let name := (s.rest.drop 1).takeWhile isNamePart
    skip (1 + name.length)
    expectAhead (· == '!') "'!'"
    skip 1
    return String.ofList ('!' :: name ++ ['!'])

/-- The bytes of a run of escapes in a tag. -/
def takeEscapedBytes : Nat → Scan (List Nat)
  | 0 => return []
  | fuel + 1 => do
    if (← peek 0) == '%' then
      skip 1
      let s ← get
      let found := (s.rest.take 2).takeWhile isHex
      if found.length < 2 then
        fail (.expected "URI escape sequence of 2 hexadecimal numbers" (s.ahead found.length))
      else
        skip 2
        return hexNumber found :: (← takeEscapedBytes fuel)
    else return []

/-- The parts of a tag after its handle. -/
def takeUriParts : Nat → Scan (List Char)
  | 0 => return []
  | fuel + 1 => do
    let plain ← takeSpan isUriPart
    let s ← get
    if s.ahead 0 == '%' then
      let bytes ← takeEscapedBytes s.size
      match decodeUtf8 bytes with
      | .ok text => return plain ++ text.toList ++ (← takeUriParts fuel)
      | .error fault => throw (.problem (.badBytes fault) s.mark)
    else return plain

/-- A tag after its handle; it is not empty. -/
def takeUri : Scan String := do
  let s ← get
  let parts ← takeUriParts (s.size + 1)
  let passed := (← get).mark.index != s.mark.index
  if passed then return String.ofList parts
  else fail (.expected "URI" (s.ahead 0))

/-- A directive, after its sign. -/
def takeDirective : Scan TokenKind := do
  let name ← takeName
  expectAhead isSpaceOrEnd "alphabetic or numeric character"
  let kind ←
    if name == "YAML".toList then do
      let _ ← takeSpan (· == ' ')
      let major ← takeVersionNumber
      expectAhead (· == '.') "a digit or '.'"
      skip 1
      let minor ← takeVersionNumber
      expectAhead isSpaceOrEnd "a digit or ' '"
      pure (.versionDirective major minor)
    else if name == "TAG".toList then do
      let _ ← takeSpan (· == ' ')
      let handle ← takeTagHandle
      expectAhead (· == ' ') "' '"
      let _ ← takeSpan (· == ' ')
      let start ← takeUri
      expectAhead isSpaceOrEnd "' '"
      pure (.tagDirective handle start)
    else do
      let _ ← takeSpan (!isBreakOrEnd ·)
      pure .otherDirective
  skipIgnoredLine
  return kind

/-- The name of an anchor or an alias, with its sign. -/
def takeAnchorName : Scan String := do
  skip 1
  let name ← takeName
  expectAhead (fun c => isGapOrEnd c || c == backtickChar || "?:,]\x7d%@".toList.contains c)
    "alphabetic or numeric character"
  return String.ofList name
where
  backtickChar : Char := Char.ofNat 0x60

def takeTag : Scan TokenKind := do
  let s ← get
  let kind ←
    if s.ahead 1 == '<' then do
      skip 2
      let uri ← takeUri
      expectAhead (· == '>') "'>'"
      skip 1
      pure (.tag none uri)
    else if isGapOrEnd (s.ahead 1) then do
      skip 1
      pure (.tag none "!")
    else do
      let usesHandle := ((s.rest.drop 1).takeWhile (!isSpaceOrEnd ·)).contains '!'
      let handle ← if usesHandle then takeTagHandle else do
        skip 1
        pure "!"
      pure (.tag (some handle) (← takeUri))
  expectAhead isSpaceOrEnd "' '"
  return kind

/-- How a block scalar treats the line breaks at its end. -/
inductive Chomping where
  | strip | clip | keep
  deriving DecidableEq, Repr

/-- The sign for the treatment of final line breaks, if it stands here. -/
def takeChomping? : Scan (Option Chomping) := do
  match ← peek 0 with
  | '+' => do skip 1; return some .keep
  | '-' => do skip 1; return some .strip
  | _ => return none

/-- The digit for the indentation, if it stands here. -/
def takeIncrement? : Scan (Option Nat) := do
  let c ← peek 0
  if c == '0' then fail .zeroIndentation
  else if '1' ≤ c && c ≤ '9' then do
    skip 1
    return some (c.toNat - '0'.toNat)
  else return none

/-- The signs after the start of a block scalar, in either order. -/
def takeBlockSigns : Scan (Chomping × Option Nat) := do
  let (chomping, increment) ← do
    match ← takeChomping? with
    | some chomping => pure (some chomping, ← takeIncrement?)
    | none =>
      match ← takeIncrement? with
      | some increment => pure (← takeChomping?, some increment)
      | none => pure (none, none)
  expectAhead isSpaceOrEnd "chomping or indentation indicators"
  return (chomping.getD .clip, increment)

/-- The line breaks before the first line of a block scalar, and the deepest column that
was reached between them. -/
def takeLeadingBreaks : Nat → Nat → Scan (List Char × Nat)
  | 0, deepest => return ([], deepest)
  | fuel + 1, deepest => do
    let _ ← takeSpan (· == ' ')
    let deepest := max deepest (← get).mark.column
    if isBreak (← peek 0) then
      let lineBreak ← takeBreak
      let (more, deepest) ← takeLeadingBreaks fuel deepest
      return (lineBreak ++ more, deepest)
    else return ([], deepest)

/-- The line breaks between two lines of a block scalar; up to its indentation, spaces
are passed over. -/
def takeIndentedBreaks (indent : Nat) : Nat → Scan (List Char)
  | 0 => return []
  | fuel + 1 => do
    let s ← get
    let spaces := (s.rest.takeWhile (· == ' ')).length
    skip (min spaces (indent - s.mark.column))
    if isBreak (← peek 0) then
      let lineBreak ← takeBreak
      return lineBreak ++ (← takeIndentedBreaks indent fuel)
    else return []

/-- Whether the column is the indentation and the text goes on. -/
def atIndentedLine (indent : Nat) : Scan Bool := do
  let s ← get
  return s.mark.column == indent && !s.rest.isEmpty

/-- The lines of a block scalar from its first line on. Gives the text, the last line
break, and the breaks after it. -/
def takeBlockLines (folded : Bool) (indent : Nat) (breaks : List Char) :
    Nat → Scan (List Char × List Char × List Char)
  | 0 => return ([], [], breaks)
  | fuel + 1 => do
    let first ← peek 0
    let flush := first != ' ' && first != '\t'
    let line ← takeSpan (!isBreakOrEnd ·)
    let lineBreak ← takeBreak
    let s ← get
    let after ← takeIndentedBreaks indent (s.size + 1)
    if ← atIndentedLine indent then
      let next ← peek 0
      let joint :=
        if folded && lineBreak == ['\n'] && flush && next != ' ' && next != '\t' then
          if after.isEmpty then [' '] else []
        else lineBreak
      let (text, last, tail) ← takeBlockLines folded indent after fuel
      return (breaks ++ line ++ joint ++ text, last, tail)
    else return (breaks ++ line, lineBreak, after)

def takeBlockScalar (folded : Bool) : Scan TokenKind := do
  skip 1
  let (chomping, increment) ← takeBlockSigns
  skipIgnoredLine
  let s ← get
  let least := max 1 (s.indent + 1).toNat
  let fuel := s.size + 1
  let (breaks, indent) ← do
    match increment with
    | none =>
      let (breaks, deepest) ← takeLeadingBreaks fuel 0
      pure (breaks, max least deepest)
    | some increment =>
      let indent := least + increment - 1
      pure (← takeIndentedBreaks indent fuel, indent)
  let (text, lineBreak, tail) ←
    if ← atIndentedLine indent then takeBlockLines folded indent breaks fuel
    else pure ([], [], breaks)
  let ending := match chomping with
    | .strip => []
    | .clip => lineBreak
    | .keep => lineBreak ++ tail
  return .scalar (String.ofList (text ++ ending)) false

/-- The character of a one-letter escape in a double-quoted scalar. -/
def escapeOf? (c : Char) : Option Char :=
  [('0', '\x00'), ('a', '\x07'), ('b', '\x08'), ('t', '\t'), ('\t', '\t'), ('n', '\n'),
   ('v', '\x0b'), ('f', '\x0c'), ('r', '\r'), ('e', '\x1b'), (' ', ' '), ('"', '"'),
   ('\\', '\\'), ('/', '/'), ('N', '\x85'), ('_', '\xa0'), ('L', '\u2028'),
   ('P', '\u2029')].lookup c

/-- How many hexadecimal digits follow an escape letter. -/
def escapeSize? (c : Char) : Option Nat := [('x', 2), ('u', 4), ('U', 8)].lookup c

/-- The line breaks between two lines of a quoted scalar. -/
def takeQuotedBreaks : Nat → Scan (List Char)
  | 0 => return []
  | fuel + 1 => do
    if (← get).atSeparator then fail .documentSeparator
    else
      let _ ← takeSpan fun c => c == ' ' || c == '\t'
      if isBreak (← peek 0) then
        let lineBreak ← takeBreak
        return lineBreak ++ (← takeQuotedBreaks fuel)
      else return []

/-- The character of an escape, or the breaks after an escaped end of line; the escape
sign has been passed. -/
def takeEscape : Scan (List Char) := do
  let s ← get
  let c := s.ahead 0
  match escapeOf? c, escapeSize? c with
  | some x, _ => do
    skip 1
    return [x]
  | none, some size => do
    skip 1
    let s ← get
    let digits := (s.rest.take size).takeWhile isHex
    if digits.length < size then
      fail (.expected s!"escape sequence of {size} hexadecimal numbers" (s.ahead digits.length))
    else
      let code := hexNumber digits
      if code ≥ 0x110000 then throw (.scalar (.characterCode code))
      else
        skip size
        return [if 0xd800 ≤ code && code ≤ 0xdfff then '\ufffd' else Char.ofNat code]
  | none, none =>
    if isBreak c then
      let _ ← takeBreak
      takeQuotedBreaks (s.size + 1)
    else fail (.unknownEscape c)

/-- The part of a quoted scalar up to white space or its end. -/
def takeQuotedPart (double : Bool) : Nat → Scan (List Char)
  | 0 => return []
  | fuel + 1 => do
    let plain ← takeSpan fun c => !isGapOrEnd c && c != '\'' && c != '"' && c != '\\'
    let s ← get
    let c := s.ahead 0
    if !double && c == '\'' && s.ahead 1 == '\'' then
      skip 2
      return plain ++ '\'' :: (← takeQuotedPart double fuel)
    else if (double && c == '\'') || (!double && (c == '"' || c == '\\')) then
      skip 1
      return plain ++ c :: (← takeQuotedPart double fuel)
    else if double && c == '\\' then
      skip 1
      let escaped ← takeEscape
      return plain ++ escaped ++ (← takeQuotedPart double fuel)
    else return plain

/-- White space inside a quoted scalar; a single line break counts as a space. -/
def takeQuotedGap : Scan (List Char) := do
  let blanks ← takeSpan fun c => c == ' ' || c == '\t'
  let s ← get
  let c := s.ahead 0
  if c == endMark then fail .endOfStream
  else if isBreak c then
    let lineBreak ← takeBreak
    let breaks ← takeQuotedBreaks (s.size + 1)
    let joint := if lineBreak != ['\n'] then lineBreak else if breaks.isEmpty then [' '] else []
    return joint ++ breaks
  else return blanks

/-- The parts of a quoted scalar with the white space between them. -/
def takeQuotedParts (double : Bool) (quote : Char) : Nat → Scan (List Char)
  | 0 => return []
  | fuel + 1 => do
    let part ← takeQuotedPart double ((← get).size + 1)
    if (← peek 0) == quote then return part
    else
      let gap ← takeQuotedGap
      return part ++ gap ++ (← takeQuotedParts double quote fuel)

def takeQuotedScalar (double : Bool) : Scan TokenKind := do
  skip 1
  let text ← takeQuotedParts double (if double then '"' else '\'') ((← get).size + 1)
  skip 1
  return .scalar (String.ofList text) false

/-- The breaks after the first one inside a plain scalar; nothing when a document ends
there. -/
def takePlainBreaks : Nat → Scan (Option (List Char))
  | 0 => return some []
  | fuel + 1 => do
    let _ ← takeSpan (· == ' ')
    if isBreak (← peek 0) then
      let lineBreak ← takeBreak
      if (← get).atSeparator then return none
      else
        match ← takePlainBreaks fuel with
        | some more => return some (lineBreak ++ more)
        | none => return none
    else return some []

/-- White space inside a plain scalar; empty at its end. -/
def takePlainGap : Scan (List Char) := do
  let blanks ← takeSpan (· == ' ')
  let s ← get
  if isBreak (s.ahead 0) then
    let lineBreak ← takeBreak
    modify fun s => { s with keyAllowed := true }
    if (← get).atSeparator then return []
    else
      match ← takePlainBreaks (s.size + 1) with
      | none => return []
      | some breaks =>
        let joint := if lineBreak != ['\n'] then lineBreak else if breaks.isEmpty then [' '] else []
        return joint ++ breaks
  else return blanks

/-- The length of the part of a plain scalar up to white space or its end. -/
def plainLength (inFlow : Bool) : List Char → Nat
  | [] => 0
  | c :: rest =>
    let next := rest.headD endMark
    let colonEnds := isGapOrEnd next || (inFlow && ",[]\x7b\x7d".toList.contains next)
    if isGapOrEnd c || (c == ':' && colonEnds)
        || (inFlow && ",?[]\x7b\x7d".toList.contains c) then 0
    else plainLength inFlow rest + 1

/-- The parts of a plain scalar, the white space in front of each part included. -/
def takePlainParts (gap : List Char) : Nat → Scan (List Char)
  | 0 => return []
  | fuel + 1 => do
    let s ← get
    if s.ahead 0 == '#' then return []
    else
      let size := plainLength (s.flowLevel != 0) s.rest
      if size == 0 then return []
      else
        set { s with keyAllowed := false }
        skip size
        let part := gap ++ s.rest.take size
        let next ← takePlainGap
        let t ← get
        if next.isEmpty || t.ahead 0 == '#' || (t.flowLevel == 0 && t.mark.column < t.indent + 1)
        then return part
        else return part ++ (← takePlainParts next fuel)

/-- Whether a plain scalar can start here. -/
def startsPlain (s : Scanner) : Bool :=
  let c := s.ahead 0
  let sign := "-?:,[]\x7b\x7d#&*!|>'\"%@".toList.contains c || c == Char.ofNat 0x60
  (!isGapOrEnd c && !sign)
    || (!isGapOrEnd (s.ahead 1) && (c == '-' || (s.flowLevel == 0 && (c == '?' || c == ':'))))

def takeSign (kind : TokenKind) (size : Nat) : Scan Unit := do
  let start := (← get).mark
  skip size
  hold kind start

def takeDocumentSign (kind : TokenKind) : Scan Unit := do
  closeBlocks (-1)
  dropKey
  modify fun s => { s with keyAllowed := false }
  takeSign kind 3

def takeFlowStart (kind : TokenKind) : Scan Unit := do
  noteKey
  modify fun s => { s with flowLevel := s.flowLevel + 1, keyAllowed := true }
  takeSign kind 1

def takeFlowEnd (kind : TokenKind) : Scan Unit := do
  dropKey
  modify fun s => { s with flowLevel := s.flowLevel - 1, keyAllowed := false }
  takeSign kind 1

/-- The sign of an entry of a block sequence. -/
def takeBlockEntry : Scan Unit := do
  let s ← get
  if s.flowLevel == 0 then
    if !s.keyAllowed then fail .sequenceEntryNotAllowed
    if ← openBlock s.mark.column then hold .blockSequenceStart s.mark
  modify fun s => { s with keyAllowed := true }
  dropKey
  takeSign .blockEntry 1

def takeKeySign : Scan Unit := do
  let s ← get
  if s.flowLevel == 0 then
    if !s.keyAllowed then fail .mappingKeyNotAllowed
    if ← openBlock s.mark.column then hold .blockMappingStart s.mark
  modify fun s => { s with keyAllowed := s.flowLevel == 0 }
  dropKey
  takeSign .key 1

/-- Puts tokens in front of the held token with a number. -/
def insertHeld (number : Nat) (tokens : List Token) : Scan Unit :=
  modify fun s =>
    let position := number - s.taken
    { s with held := s.held.take position ++ tokens ++ s.held.drop position }

/-- The sign of a value. If a key is possible on this level, it becomes one. -/
def takeValueSign : Scan Unit := do
  let s ← get
  match s.keys.lookup s.flowLevel with
  | some key =>
    set { s with keys := s.keys.filter (·.1 != s.flowLevel) }
    insertHeld key.number [⟨.key, key.mark⟩]
    if s.flowLevel == 0 then
      if ← openBlock key.mark.column then insertHeld key.number [⟨.blockMappingStart, key.mark⟩]
    modify fun s => { s with keyAllowed := false }
  | none =>
    if s.flowLevel == 0 then
      if !s.keyAllowed then fail .mappingValueNotAllowed
      if ← openBlock s.mark.column then hold .blockMappingStart s.mark
    modify fun s => { s with keyAllowed := s.flowLevel == 0 }
    dropKey
  takeSign .value 1

/-- A token that may start a key and after which no key can start. -/
def takeKeyStart (take : Scan TokenKind) : Scan Unit := do
  noteKey
  modify fun s => { s with keyAllowed := false }
  let start := (← get).mark
  hold (← take) start

/-- A block scalar, after which a key can start. -/
def takeBlock (folded : Bool) : Scan Unit := do
  modify fun s => { s with keyAllowed := true }
  dropKey
  let start := (← get).mark
  hold (← takeBlockScalar folded) start

def takeStreamEnd : Scan Unit := do
  closeBlocks (-1)
  dropKey
  modify fun s => { s with keyAllowed := false, keys := [], done := true }
  takeSign .streamEnd 0

def takeDirectiveToken : Scan Unit := do
  closeBlocks (-1)
  dropKey
  modify fun s => { s with keyAllowed := false }
  let start := (← get).mark
  skip 1
  hold (← takeDirective) start

/-- Scans the next token, and holds it back together with those it implies. -/
def scanToken : Scan Unit := do
  skipToToken ((← get).size + 1)
  dropStaleKeys
  closeBlocks (← get).mark.column
  let s ← get
  let c := s.ahead 0
  let inFlow := s.flowLevel != 0
  let gapNext := isGapOrEnd (s.ahead 1)
  if s.rest.isEmpty then takeStreamEnd
  else if c == '%' && s.mark.column == 0 then takeDirectiveToken
  else if c == '-' && s.mark.column == 0 && s.atSeparator then takeDocumentSign .documentStart
  else if c == '.' && s.mark.column == 0 && s.atSeparator then takeDocumentSign .documentEnd
  else if c == '[' then takeFlowStart .flowSequenceStart
  else if c == '\x7b' then takeFlowStart .flowMappingStart
  else if c == ']' then takeFlowEnd .flowSequenceEnd
  else if c == '\x7d' then takeFlowEnd .flowMappingEnd
  else if c == ',' then do
    modify fun s => { s with keyAllowed := true }
    dropKey
    takeSign .flowEntry 1
  else if c == '-' && gapNext then takeBlockEntry
  else if c == '?' && (inFlow || gapNext) then takeKeySign
  else if c == ':' && (inFlow || gapNext) then takeValueSign
  else if c == '*' then takeKeyStart (.alias <$> takeAnchorName)
  else if c == '&' then takeKeyStart (.anchor <$> takeAnchorName)
  else if c == '!' then takeKeyStart takeTag
  else if c == '|' && !inFlow then takeBlock false
  else if c == '>' && !inFlow then takeBlock true
  else if c == '\'' then takeKeyStart (takeQuotedScalar false)
  else if c == '"' then takeKeyStart (takeQuotedScalar true)
  else if startsPlain s then
    takeKeyStart do
      return .scalar (String.ofList (← takePlainParts [] (s.size + 1))) true
  else fail (.noToken c)

/-- Whether the first held token can still get tokens in front of it. -/
def isUndecided (s : Scanner) : Bool := s.keys.any fun (_, key) => key.number == s.taken

/-- Scans one more token before delivering. -/
def scanOn (deliver : Scanner → List Token × Option Fault) (s : Scanner) :
    List Token × Option Fault :=
  match scanToken s with
  | .error fault => ([], some fault)
  | .ok (_, s) => deliver s

/-- The delivered tokens from a state on, and the fault after them if there is one. -/
def deliver : Nat → Scanner → List Token × Option Fault
  | 0, _ => ([], none)
  | fuel + 1, s =>
    if s.done then (s.held, none)
    else
      match s.held with
      | [] => scanOn (deliver fuel) s
      | token :: held =>
        match dropStaleKeys s with
        | .error fault => ([], some fault)
        | .ok (_, s) =>
          if isUndecided s then scanOn (deliver fuel) s
          else
            let (tokens, fault) := deliver fuel { s with held := held, taken := s.taken + 1 }
            (token :: tokens, fault)

/-- Whether a character may occur in a text. -/
def isAllowed (c : Char) : Bool :=
  let n := c.toNat
  n == 0x09 || n == 0x0a || n == 0x0d || (0x20 ≤ n && n ≤ 0x7e) || n == 0x85
    || (0xa0 ≤ n && n ≤ 0xd7ff) || (0xe000 ≤ n && n ≤ 0xfffd) || 0x10000 ≤ n

/-- The first character of a text that is not allowed, with its position. -/
def findForbidden (text : List Char) : Option (Nat × Nat) :=
  (text.findIdx? (!isAllowed ·)).map fun i => ((text.getD i endMark).toNat, i)

/-- The state at the start of a text. A mark for the byte order is passed over. -/
def Scanner.start (text : List Char) : Scanner :=
  let s : Scanner :=
    { size := text.length, rest := text, mark := ⟨0, 0, 0⟩, flowLevel := 0, held := [], taken := 1
      indent := -1, outer := [], keyAllowed := true, keys := [], done := false }
  if text.head? == some '\ufeff' then s.step else s

/-- The delivered tokens of a text, and the fault after them if there is one. -/
def tokens (text : List Char) : List Token × Option Fault :=
  match findForbidden text with
  | some (code, position) => ([], some (.character code position))
  | none => deliver (8 * text.length + 16) (Scanner.start text)

end DocGraph.Yaml
