import DocGraph.Run.Arguments
import DocGraph.Run.Files
import DocGraph.Run.Pipeline

/-!
# The command

The command reads a mapping and a document from files and prints the statements of the run,
one after the other, or writes them to a file. After a failure it prints one diagnostic and
nothing else.

## Main definitions

* `CommandOutcome`: what the command leaves behind.
* `runCommand`: the command on a list of words.
-/

namespace DocGraph

/-- What the command leaves behind, apart from the file it writes. -/
structure CommandOutcome where
  exitCode : Nat
  output : String := ""
  errors : String := ""
  deriving DecidableEq, Repr

def usageText : String :=
  "usage: docgraph mapping input [--schema-only] [--batch-size BATCH_SIZE] [--with-indexes]\n"
    ++ "                [--drop-schema] [--output OUTPUT] [--help]\n"

def readFile {m : Type → Type} [Monad m] (files : FileAccess m) (file : String) :
    m (Except Failure String) := do
  let path := FilePath.ofText file
  match ← files.read path with
  | .error fault => return .error (.unreadableFile (fault.message path) file)
  | .ok bytes =>
    return (decodeText bytes).mapError fun fault => .unreadableFile fault.message file

/-- The run that is asked for, on the texts of the two files. The second file is read only
when the mapping is in order. -/
def runOnFiles {m : Type → Type} [Monad m] (pipeline : Pipeline) (files : FileAccess m)
    (arguments : CommandArguments) : m (Except Failure RunResult) := do
  match ← readFile files arguments.mapping with
  | .error failure => return .error failure
  | .ok mappingText =>
    match loadMapping mappingText (some arguments.mapping) with
    | .error failure => return .error failure
    | .ok mapping =>
      match ← readFile files arguments.input with
      | .error failure => return .error failure
      | .ok documentText =>
        match loadJson documentText (some arguments.input) with
        | .error failure => return .error failure
        | .ok document =>
          let options : RunOptions := {
            schemaOnly := arguments.schemaOnly
            batchSize := arguments.batchSize.map .integer
            includeIndexes := if arguments.withIndexes then some true else none
            dropSchema := arguments.dropSchema }
          return ((pipeline.run mapping document options).run {}).1

/-- The statements of a run as the command prints them. -/
def printedText (result : RunResult) : String :=
  if result.text = "" then "" else result.text ++ "\n"

/-- What happens to the statements of a run: they are written to a file if one is named, and
else printed. -/
def deliverResult {m : Type → Type} [Monad m] (files : FileAccess m) (output : Option String)
    (result : RunResult) : m CommandOutcome := do
  match output.filter (· ≠ "") with
  | none => return { exitCode := 0, output := printedText result }
  | some file =>
    let path := FilePath.ofText file
    match ← files.write path (printedText result) with
    | .ok () => return { exitCode := 0 }
    | .error fault =>
      let complaint := s!"Error: Cannot write output file: {fault.message path}\n"
      return { exitCode := 1, errors := complaint }

/-- The command on a list of words. A breakdown is not caught. -/
def runCommand {m : Type → Type} [Monad m] (pipeline : Pipeline) (files : FileAccess m)
    (words : List String) : m (Except Breakdown CommandOutcome) := do
  match readArguments words with
  | none => return .ok { exitCode := 1, errors := usageText }
  | some .help => return .ok { exitCode := 0, output := usageText }
  | some (.run arguments) =>
    match ← runOnFiles pipeline files arguments with
    | .error (.breakdown cause) => return .error cause
    | .error failure => return .ok { exitCode := 1, errors := failure.describe ++ "\n" }
    | .ok result => return .ok (← deliverResult files arguments.output result)

end DocGraph
