import DocGraph.Yaml.Tag
import DocGraph.Yaml.Token

/-!
# Nodes of YAML texts

The tokens of a text form at most one document, which is a tree of scalars, sequences and
mappings. An alias stands for the node with its anchor. A fault among the tokens counts
only when the token behind it is asked for, so a fault of the tree that comes earlier in
the text is the one that is reported.

## Main definitions

* `Yaml.Node`: the trees.
* `Yaml.Reading`: the tokens still to be read, with the anchors and tag handles so far.
* `Yaml.readNode`: the tree of a text.
-/

namespace DocGraph.Yaml

/-- A node with its tag and the place where it starts. -/
inductive Node where
  | scalar (tag : Tag) (text : String) (start : Mark)
  | sequence (tag : Tag) (items : List Node) (start : Mark)
  | mapping (tag : Tag) (pairs : List (Node × Node)) (start : Mark)
  deriving Repr

namespace Node

def tag : Node → Tag
  | .scalar tag .. | .sequence tag .. | .mapping tag .. => tag

def start : Node → Mark
  | .scalar _ _ start | .sequence _ _ start | .mapping _ _ start => start

/-- The name of the shape of a node. -/
def shape : Node → String
  | .scalar .. => "scalar"
  | .sequence .. => "sequence"
  | .mapping .. => "mapping"

/-- The node of a place where nothing is written. -/
def absent (start : Mark) : Node := .scalar .null "" start

end Node

/-- The tokens still to be read. -/
structure Reading where
  tokens : List Token
  /-- What is wrong behind the last token. -/
  fault : Option Fault
  /-- The nodes with anchors; a node that is not complete has no value yet. -/
  anchors : List (String × Option Node)
  /-- What the handles of tags stand for. -/
  handles : List (String × String)

/-- A step of reading, which may fail. -/
abbrev Read := StateT Reading (Except Fault)

def failAt {α : Type} (problem : Problem) (mark : Mark) : Read α := throw (.problem problem mark)

def nextToken : Read Token := do
  let s ← get
  match s.tokens, s.fault with
  | token :: _, _ => return token
  | [], some fault => throw fault
  | [], none => return ⟨.streamEnd, ⟨0, 0, 0⟩⟩

def advance : Read Unit := modify fun s => { s with tokens := s.tokens.drop 1 }

/-- The place behind the sign of an entry, a key or a value. -/
def afterSign (token : Token) : Mark :=
  ⟨token.start.index + 1, token.start.line, token.start.column + 1⟩

def failUnexpected {α : Type} (what : String) (token : Token) : Read α :=
  failAt (.unexpectedToken what token.kind.name) token.start

/-- An anchor and a tag in front of a node. -/
structure NodeMarks where
  anchor : Option String
  tag : Option String
  start : Option Mark

/-- The written form of a tag, its handle replaced by what it stands for. -/
def resolveHandle (handle : Option String) (suffix : String) (mark : Mark) : Read String := do
  match handle with
  | none => return suffix
  | some handle =>
    match (← get).handles.lookup handle with
    | some start => return start ++ suffix
    | none => failAt (.undefinedTagHandle handle) mark

/-- The anchor and the tag in front of a node, in either order. -/
def takeNodeMarks : Read NodeMarks := do
  let first ← nextToken
  match first.kind with
  | .anchor name => do
    advance
    let second ← nextToken
    match second.kind with
    | .tag handle suffix => do
      advance
      return ⟨some name, some (← resolveHandle handle suffix second.start), some first.start⟩
    | _ => return ⟨some name, none, some first.start⟩
  | .tag handle suffix => do
    advance
    let second ← nextToken
    match second.kind with
    | .anchor name => do
      advance
      return ⟨some name, some (← resolveHandle handle suffix first.start), some first.start⟩
    | _ => return ⟨none, some (← resolveHandle handle suffix first.start), some first.start⟩
  | _ => return ⟨none, none, none⟩

/-- Notes that a node with an anchor starts. -/
def openAnchor (anchor : Option String) (start : Mark) : Read Unit := do
  match anchor with
  | none => return
  | some name =>
    let s ← get
    if (s.anchors.lookup name).isSome then failAt .duplicateAnchor start
    else set { s with anchors := (name, none) :: s.anchors }

/-- Notes that a node with an anchor is complete. -/
def closeAnchor (anchor : Option String) (node : Node) : Read Node := do
  match anchor with
  | none => return node
  | some name => do
    modify fun s => { s with anchors := (name, some node) :: s.anchors }
    return node

/-- The node with an anchor. While that node is still being read it is not there yet: no tree is a
part of itself. -/
def takeAlias (name : String) (start : Mark) : Read Node := do
  match (← get).anchors.lookup name with
  | some (some node) => return node
  | _ => failAt (.undefinedAlias name) start

/-- The tag of a scalar. An exclamation mark alone asks for the tag that the text would
have without quotes. -/
def scalarTag (written : Option String) (text : String) (plain : Bool) : Tag :=
  match written with
  | some "!" => Tag.ofPlain text
  | some tag => Tag.ofText tag
  | none => if plain then Tag.ofPlain text else .str

/-- The tag of a sequence or a mapping. -/
def collectionTag (written : Option String) (default : Tag) : Tag :=
  match written with
  | some "!" | none => default
  | some tag => Tag.ofText tag

/-- Where a node stands. -/
inductive NodePlace where
  /-- Inside a flow collection. -/
  | flow
  /-- Inside a block sequence or at the top. -/
  | block
  /-- Inside a block mapping, where the entries of a sequence need not be indented. -/
  | blockMapping
  deriving DecidableEq, Repr

/-- Whether block collections can start at a place. -/
def NodePlace.allowsBlocks (place : NodePlace) : Bool := place != .flow

/-- Passes over the comma between two entries of a flow collection. -/
def takeSeparator (closer : TokenKind) (first : Bool) : Read Unit := do
  if first then return
  else
    let token ← nextToken
    if token.kind = .flowEntry then advance
    else failAt (.unseparated closer.name token.kind.name) token.start

mutual

def takeNode (place : NodePlace) : Nat → Read Node
  | 0 => return Node.absent ⟨0, 0, 0⟩
  | fuel + 1 => do
    let first ← nextToken
    match first.kind with
    | .alias name => do
      advance
      takeAlias name first.start
    | _ => do
      let marks ← takeNodeMarks
      let token ← nextToken
      takeContent place marks (marks.start.getD token.start) token fuel

/-- The content of a node, which starts with the next token. -/
def takeContent (place : NodePlace) (marks : NodeMarks) (start : Mark) (token : Token) :
    Nat → Read Node
  | 0 => return Node.absent start
  | fuel + 1 => do
    let isSequence :=
      (place = .blockMapping && token.kind = .blockEntry) || token.kind = .flowSequenceStart
        || (place.allowsBlocks && token.kind = .blockSequenceStart)
    let isMapping :=
      token.kind = .flowMappingStart || (place.allowsBlocks && token.kind = .blockMappingStart)
    match token.kind with
    | .scalar text plain => do
      advance
      openAnchor marks.anchor start
      closeAnchor marks.anchor (.scalar (scalarTag marks.tag text plain) text start)
    | kind =>
      if isSequence then do
        openAnchor marks.anchor start
        let items ← match kind with
          | .flowSequenceStart => do advance; takeFlowItems true fuel
          | .blockSequenceStart => do advance; takeItems fuel
          | _ => takeLooseItems fuel
        closeAnchor marks.anchor (.sequence (collectionTag marks.tag .seq) items start)
      else if isMapping then do
        openAnchor marks.anchor start
        advance
        let pairs ← if kind = .flowMappingStart then takeFlowPairs true fuel else takePairs fuel
        closeAnchor marks.anchor (.mapping (collectionTag marks.tag .map) pairs start)
      else if marks.start.isSome then do
        openAnchor marks.anchor start
        closeAnchor marks.anchor (.scalar (scalarTag marks.tag "" true) "" start)
      else failUnexpected "the node content" token

/-- A node after a sign, unless one of some tokens shows that there is none. -/
def takeNodeAfter (sign : Token) (place : NodePlace) (without : List TokenKind) : Nat → Read Node
  | 0 => return Node.absent sign.start
  | fuel + 1 => do
    let next ← nextToken
    if without.contains next.kind then return Node.absent (afterSign sign)
    else takeNode place fuel

def takeItems : Nat → Read (List Node)
  | 0 => return []
  | fuel + 1 => do
    let token ← nextToken
    advance
    match token.kind with
    | .blockEntry => do
      let item ← takeNodeAfter token .block [.blockEntry, .blockEnd] fuel
      return item :: (← takeItems fuel)
    | .blockEnd => return []
    | _ => failUnexpected "<block end>" token

/-- The items of a block sequence that is not indented. -/
def takeLooseItems : Nat → Read (List Node)
  | 0 => return []
  | fuel + 1 => do
    let token ← nextToken
    if token.kind = .blockEntry then do
      advance
      let item ← takeNodeAfter token .block [.blockEntry, .key, .value, .blockEnd] fuel
      return item :: (← takeLooseItems fuel)
    else return []

def takePairs : Nat → Read (List (Node × Node))
  | 0 => return []
  | fuel + 1 => do
    let token ← nextToken
    match token.kind with
    | .key => do
      advance
      let key ← takeNodeAfter token .blockMapping [.key, .value, .blockEnd] fuel
      takePairsWith key fuel
    | .blockEnd => do
      advance
      return []
    | _ => failUnexpected "<block end>" token

/-- The pairs of a block mapping whose first key has been read. -/
def takePairsWith (key : Node) : Nat → Read (List (Node × Node))
  | 0 => return []
  | fuel + 1 => do
    let value ← takeValue .blockMapping [.key, .value, .blockEnd] fuel
    return (key, value) :: (← takePairs fuel)

/-- The value of a key that has been read. -/
def takeValue (place : NodePlace) (without : List TokenKind) : Nat → Read Node
  | 0 => return Node.absent ⟨0, 0, 0⟩
  | fuel + 1 => do
    let token ← nextToken
    if token.kind = .value then do
      advance
      takeNodeAfter token place without fuel
    else return Node.absent token.start

/-- The items of a flow sequence. A key in it is a mapping of one pair. -/
def takeFlowItems (first : Bool) : Nat → Read (List Node)
  | 0 => return []
  | fuel + 1 => do
    if (← nextToken).kind = .flowSequenceEnd then do
      advance
      return []
    else
      takeSeparator .flowSequenceEnd first
      let token ← nextToken
      match token.kind with
      | .key => do
        advance
        let key ← takeNodeAfter token .flow [.value, .flowEntry, .flowSequenceEnd] fuel
        let value ← takeValue .flow [.flowEntry, .flowSequenceEnd] fuel
        return .mapping .map [(key, value)] token.start :: (← takeFlowItems false fuel)
      | .flowSequenceEnd => do
        advance
        return []
      | _ => do
        let item ← takeNode .flow fuel
        return item :: (← takeFlowItems false fuel)

/-- The pairs of a flow mapping. A node without the sign of a key is a key without
value. -/
def takeFlowPairs (first : Bool) : Nat → Read (List (Node × Node))
  | 0 => return []
  | fuel + 1 => do
    if (← nextToken).kind = .flowMappingEnd then do
      advance
      return []
    else
      takeSeparator .flowMappingEnd first
      let token ← nextToken
      match token.kind with
      | .key => do
        advance
        let key ← takeNodeAfter token .flow [.value, .flowEntry, .flowMappingEnd] fuel
        let value ← takeValue .flow [.flowEntry, .flowMappingEnd] fuel
        return (key, value) :: (← takeFlowPairs false fuel)
      | .flowMappingEnd => do
        advance
        return []
      | _ => do
        let key ← takeNode .flow fuel
        let next ← nextToken
        return (key, Node.absent next.start) :: (← takeFlowPairs false fuel)

end

/-- What the handles of tags stand for unless a directive says otherwise. -/
def defaultHandles : List (String × String) := [("!", "!"), ("!!", Tag.coreStart)]

/-- The directives in front of a document; `versionSeen` tells that one of them has given
the version. -/
def takeDirectives (versionSeen : Bool) (handles : List (String × String)) :
    Nat → Read (List (String × String))
  | 0 => return handles
  | fuel + 1 => do
    let token ← nextToken
    match token.kind with
    | .versionDirective major _ => do
      advance
      if versionSeen then failAt .duplicateYamlDirective token.start
      else if major != 1 then failAt .incompatibleVersion token.start
      else takeDirectives true handles fuel
    | .tagDirective handle start => do
      advance
      if (handles.lookup handle).isSome then failAt (.duplicateTagHandle handle) token.start
      else takeDirectives versionSeen (handles ++ [(handle, start)]) fuel
    | .otherDirective => do
      advance
      takeDirectives versionSeen handles fuel
    | _ => return handles

/-- The directives of a document and the sign of its start. -/
def takeDocumentHead (fuel : Nat) : Read Unit := do
  let handles ← takeDirectives false [] fuel
  modify fun s => { s with handles := handles ++ defaultHandles }
  let token ← nextToken
  if token.kind = .documentStart then advance
  else failUnexpected "'<document start>'" token

/-- Passes over the signs of the end of a document. -/
def skipDocumentEnds : Nat → Read Unit
  | 0 => return
  | fuel + 1 => do
    if (← nextToken).kind = .documentEnd then do
      advance
      skipDocumentEnds fuel

/-- The content of a document after the sign of its start. -/
def takeDocumentContent (fuel : Nat) : Read Node := do
  let token ← nextToken
  match token.kind with
  | .versionDirective .. | .tagDirective .. | .otherDirective | .documentStart | .documentEnd
  | .streamEnd => return Node.absent token.start
  | _ => takeNode .block fuel

/-- Fails if another document follows. -/
def expectEnd (fuel : Nat) : Read Unit := do
  skipDocumentEnds fuel
  let token ← nextToken
  if token.kind = .streamEnd then return
  else
    takeDocumentHead fuel
    failAt .anotherDocument token.start

/-- The only document, if there is one. -/
def takeDocument (fuel : Nat) : Read (Option Node) := do
  let token ← nextToken
  match token.kind with
  | .streamEnd => return none
  | .versionDirective .. | .tagDirective .. | .otherDirective | .documentStart => do
    takeDocumentHead fuel
    let node ← takeDocumentContent fuel
    expectEnd fuel
    return some node
  | _ => do
    let node ← takeNode .block fuel
    expectEnd fuel
    return some node

/-- The tree of a text; a text without a document has none. -/
def readNode (text : List Char) : Except Fault (Option Node) :=
  let (tokens, fault) := tokens text
  (takeDocument (4 * tokens.length + 8)).run' ⟨tokens, fault, [], defaultHandles⟩

end DocGraph.Yaml
