import DocGraph.Run.Command

/-!
# The program

The command with the files, the environment and the streams of the system.

## Main definitions

* `main`: the program.
-/

namespace DocGraph

def faultOfSystem : IO.Error → FileFault
  | .noFileOrDirectory .. => .missing
  | .noSuchThing .. => .missing
  | .inappropriateType .. => .isDirectory
  | .permissionDenied .. => .other 13 "Permission denied"
  | error => .other 5 (toString error)

/-- What a step on files gives, with its fault as a value. -/
def caught {α : Type} (step : IO α) : IO (Except FileFault α) := do
  try
    return .ok (← step)
  catch error =>
    return .error (faultOfSystem error)

def systemFiles : FileAccess IO where
  read path := caught do
    let bytes ← IO.FS.readBinFile path.text
    return bytes.toList.map UInt8.toNat
  write path text := caught (IO.FS.writeFile path.text text)

/-- The configuration that the environment of the system asks for. -/
def systemConfig : IO Config := do
  let names := ["NEBULA_MAPPER_BATCH_SIZE", "NEBULA_MAPPER_INCLUDE_INDEXES",
    "NEBULA_MAPPER_LOG_LEVEL", "CORS_ORIGINS"]
  let settings ← names.mapM fun name => return (name, ← IO.getEnv name)
  return Config.ofEnvironment fun name => (settings.lookup name).join

end DocGraph

/-- Runs the command on the words of the command line. -/
def main (words : List String) : IO UInt32 := do
  let pipeline : DocGraph.Pipeline := { config := ← DocGraph.systemConfig }
  match ← DocGraph.runCommand pipeline DocGraph.systemFiles words with
  | .ok outcome =>
    IO.print outcome.output
    IO.eprint outcome.errors
    return outcome.exitCode.toUInt32
  | .error cause =>
    IO.eprintln cause.message
    return 1
