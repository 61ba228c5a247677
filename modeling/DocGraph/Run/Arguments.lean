import DocGraph.Number.Spelling
import DocGraph.Text.Split

/-!
# Arguments of the command

The words of a command line are options and arguments. An option may be shortened as long
as it stays unambiguous, its value may follow it as a word or after an equals sign, and the
value of a short option may be attached to it. After two dashes all words are arguments.

## Main definitions

* `CommandArguments`, `CommandRequest`: what is asked for.
* `classifyWord?`: what a single word is.
* `readArguments`: the request of a list of words; nothing if they make none.
-/

namespace DocGraph

/-- The options. -/
inductive CommandOption where
  | help | schemaOnly | batchSize | withIndexes | dropSchema | output
  deriving DecidableEq, Repr

namespace CommandOption

def named : List (String × CommandOption) :=
  [("-h", .help), ("--help", .help), ("--schema-only", .schemaOnly), ("--batch-size", .batchSize),
   ("--with-indexes", .withIndexes), ("--drop-schema", .dropSchema), ("--output", .output),
   ("-o", .output)]

def takesValue : CommandOption → Bool
  | .batchSize | .output => true
  | _ => false

end CommandOption

/-- What is asked of the command. -/
structure CommandArguments where
  mapping : String
  input : String
  schemaOnly : Bool := false
  batchSize : Option Int := none
  withIndexes : Bool := false
  dropSchema : Bool := false
  output : Option String := none
  deriving DecidableEq, Repr

/-- What is asked for. -/
inductive CommandRequest where
  | help
  | run (arguments : CommandArguments)
  deriving DecidableEq, Repr

/-- What a word is. -/
inductive CommandWord where
  | argument (text : String)
  /-- Two dashes, after which there are only arguments. -/
  | separator
  /-- An option, with its name and the value that is part of the word. -/
  | option (option : CommandOption) (name : String) (attached : Option String)
  /-- A word that looks like an option but is none. -/
  | unknown
  deriving DecidableEq, Repr

/-- A word cut at its first equals sign. -/
def cutAtEquals (word : String) : String × Option String :=
  let cs := word.toList
  match cs.dropWhile (· != '=') with
  | _ :: value => (String.ofList (cs.takeWhile (· != '=')), some (String.ofList value))
  | [] => (word, none)

def startsText (start whole : String) : Bool := start.toList.isPrefixOf whole.toList

def isNegativeNumber (word : String) : Bool :=
  match word.toList with
  | '-' :: rest =>
    let after := rest.dropWhile isDecimalDigit
    match after with
    | [] => !rest.isEmpty
    | '.' :: digits => !digits.isEmpty && digits.all isDecimalDigit
    | _ => false
  | _ => false

/-- The options that a word with dashes may stand for: shortened long options, and short
options with a value attached. -/
def possibleOptions (word : String) : List CommandWord :=
  let (name, attached) := cutAtEquals word
  if startsText "--" word then
    CommandOption.named.filterMap fun (full, option) =>
      if startsText name full then some (.option option full attached) else none
  else
    let short := String.ofList (word.toList.take 2)
    let value := String.ofList (word.toList.drop 2)
    CommandOption.named.filterMap fun (full, option) =>
      if full = short then some (.option option full (some value))
      else if startsText word full then some (.option option full none) else none

/-- What a word in front of two dashes is; nothing if it is ambiguous. -/
def classifyWord? (word : String) : Option CommandWord :=
  let (name, attached) := cutAtEquals word
  if !startsText "-" word || word = "-" then some (.argument word)
  else
    let named (written : String) := CommandOption.named.lookup written
    match named word, attached.bind fun _ => named name with
    | some option, _ => some (.option option word none)
    | none, some option => some (.option option name attached)
    | none, none =>
      match possibleOptions word with
      | [option] => some option
      | _ :: _ => none
      | [] =>
        if isNegativeNumber word || word.contains ' ' then some (.argument word) else some .unknown

/-- What the words are; nothing if one of them is ambiguous. -/
def classifyWords? : List String → Option (List CommandWord)
  | [] => some []
  | word :: rest =>
    if word = "--" then some (.separator :: rest.map .argument)
    else do return (← classifyWord? word) :: (← classifyWords? rest)

/-- What has been read so far. -/
structure CommandState where
  positions : List String := []
  schemaOnly : Bool := false
  batchSize : Option Int := none
  withIndexes : Bool := false
  dropSchema : Bool := false
  output : Option String := none
  /-- Whether some words have no meaning. -/
  surplus : Bool := false
  /-- Whether the last word was taken for a position. -/
  afterPosition : Bool := false

namespace CommandState

def takePosition (state : CommandState) (text : String) : CommandState :=
  if state.positions.length < 2 then
    { state with positions := state.positions ++ [text], afterPosition := true }
  else { state with surplus := true, afterPosition := false }

def takeOption? (state : CommandState) (option : CommandOption) (value : String) :
    Option CommandState :=
  let state := { state with afterPosition := false }
  match option with
  | .help => none
  | .schemaOnly => some { state with schemaOnly := true }
  | .withIndexes => some { state with withIndexes := true }
  | .dropSchema => some { state with dropSchema := true }
  | .output => some { state with output := some value }
  | .batchSize => do return { state with batchSize := some (← readInteger? 10 value) }

/-- What has been asked for, once all words are read. -/
def finish? (state : CommandState) : Option CommandRequest :=
  match state.positions, state.surplus with
  | [mapping, input], false => some (.run {
      mapping := mapping
      input := input
      schemaOnly := state.schemaOnly
      batchSize := state.batchSize
      withIndexes := state.withIndexes
      dropSchema := state.dropSchema
      output := state.output })
  | _, _ => none

end CommandState

/-- Whether the letters after the short form of help are short options themselves; the last
one may have a value, attached or as the next word. -/
def helpChainHolds (nextIsArgument : Bool) : List Char → Bool
  | [] => true
  | 'h' :: rest => helpChainHolds nextIsArgument rest
  | 'o' :: rest => !rest.isEmpty || nextIsArgument
  | _ => false

/-- Whether asking for help in this form makes sense: letters attached to the short form
have to be short options. -/
def helpHolds (name : String) (attached : Option String) (nextIsArgument : Bool) : Bool :=
  match attached with
  | none => true
  | some letters => name = "-h" && letters ≠ "" && helpChainHolds nextIsArgument letters.toList

def startsWithArgument : List CommandWord → Bool
  | .argument _ :: _ => true
  | _ => false

/-- The request of the words after those that have been read. An option whose value is the
next word is pending. Asking for help ends the reading. -/
def readWords? (pending : Option CommandOption) (state : CommandState) :
    List CommandWord → Option CommandRequest
  | [] => if pending.isSome then none else state.finish?
  | word :: rest =>
    match pending, word with
    | some option, .argument value => do readWords? none (← state.takeOption? option value) rest
    | some _, _ => none
    | none, .argument text => readWords? none (state.takePosition text) rest
    | none, .separator =>
      let surplus := state.surplus || (rest.isEmpty && !state.afterPosition)
      readWords? none { state with surplus := surplus } rest
    | none, .unknown => readWords? none { state with surplus := true, afterPosition := false } rest
    | none, .option option name attached =>
      if option = .help then
        if helpHolds name attached (startsWithArgument rest) then some .help else none
      else
        match option.takesValue, attached with
        | true, some value => do readWords? none (← state.takeOption? option value) rest
        | true, none => readWords? (some option) state rest
        | false, some _ => none
        | false, none => do readWords? none (← state.takeOption? option "") rest

/-- The request of a command line; nothing if it makes none. -/
def readArguments (words : List String) : Option CommandRequest := do
  readWords? none {} (← classifyWords? words)

end DocGraph
