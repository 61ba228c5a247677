import DocGraph.Json.Basic
import DocGraph.Text.Quoted
import DocGraph.Text.Split
import DocGraph.Text.Utf8

/-!
# Files

What the command needs of files is to read one as bytes and to write one as text. A
directory that is held in memory serves where no real one is wanted.

## Main definitions

* `FileFault`: why a file cannot be read or written.
* `FilePath`: a path cut into its parts.
* `FileAccess`: reading and writing files.
* `Folder`, `Folder.access`: a directory in memory.
* `decodeText`: the text of the bytes of a file.
-/

namespace DocGraph

/-- Why a file cannot be read or written. -/
inductive FileFault where
  | missing
  | notDirectory
  | isDirectory
  | nameTooLong
  /-- Something else, with its number and its wording. -/
  | other (number : Nat) (wording : String)
  deriving DecidableEq, Repr

/-- The number and the wording of a fault. -/
def FileFault.numbered : FileFault → Nat × String
  | .missing => (2, "No such file or directory")
  | .notDirectory => (20, "Not a directory")
  | .isDirectory => (21, "Is a directory")
  | .nameTooLong => (36, "File name too long")
  | .other number wording => (number, wording)

/-- A path cut into its parts. Empty parts and single points do not count. -/
structure FilePath where
  /-- What a path that starts at the root starts with. -/
  root : String
  parts : List String
  deriving DecidableEq, Repr

namespace FilePath

/-- The path that a text writes. Two slashes in front are kept, and more count as one. -/
def ofText (text : String) : FilePath where
  root :=
    match (text.toList.takeWhile (· == '/')).length with
    | 0 => ""
    | 2 => "//"
    | _ => "/"
  parts := (splitText "/" text).filter fun part => part ≠ "" && part ≠ "."

def text (path : FilePath) : String :=
  if path.root = "" && path.parts.isEmpty then "." else path.root ++ joinText "/" path.parts

end FilePath

def FileFault.message (fault : FileFault) (path : FilePath) : String :=
  let (number, wording) := fault.numbered
  s!"[Errno {number}] {wording}: {quoted path.text}"

/-- Reading files as bytes and writing them as text. -/
structure FileAccess (m : Type → Type) where
  read : FilePath → m (Except FileFault (List Nat))
  write : FilePath → String → m (Except FileFault Unit)

/-- A directory held in memory: the bytes of its files by the parts of their paths. -/
structure Folder where
  files : List (List String × List Nat)
  deriving DecidableEq, Repr

namespace Folder

def isDirectory (folder : Folder) (parts : List String) : Bool :=
  parts.isEmpty || folder.files.any fun (name, _) => parts.isPrefixOf name && parts != name

/-- The place that is reached from a directory by the parts of a path: the parts of the
place itself, or nothing when it is outside of the folder. -/
def walk (folder : Folder) :
    Option (List String) → List String → Except FileFault (Option (List String))
  | place, [] => .ok place
  | none, part :: rest => if part = ".." then folder.walk none rest else .error .missing
  | some place, part :: rest =>
    if part = ".." then folder.walk (if place.isEmpty then none else some place.dropLast) rest
    else if part.utf8ByteSize > 255 then .error .nameTooLong
    else
      let next := place ++ [part]
      if rest.isEmpty || folder.isDirectory next then folder.walk (some next) rest
      else if (folder.files.lookup next).isSome then .error .notDirectory
      else .error .missing

def placeOf (folder : Folder) (path : FilePath) : Except FileFault (Option (List String)) :=
  folder.walk (if path.root = "" then some [] else none) path.parts

def read (folder : Folder) (path : FilePath) : Except FileFault (List Nat) := do
  match ← folder.placeOf path with
  | none => throw .isDirectory
  | some place =>
    if folder.isDirectory place then throw .isDirectory
    else
      match folder.files.lookup place with
      | some bytes => return bytes
      | none => throw .missing

/-- The folder after a text has been written to a file. -/
def write (folder : Folder) (path : FilePath) (text : String) : Except FileFault Folder := do
  match ← folder.placeOf path with
  | none => throw .isDirectory
  | some place =>
    if folder.isDirectory place then throw .isDirectory
    else return ⟨insertPair folder.files place (text.toUTF8.toList.map UInt8.toNat)⟩

def access : FileAccess (StateM Folder) where
  read path := return (← get).read path
  write path text := do
    match (← get).write path text with
    | .ok folder => do
      set folder
      return .ok ()
    | .error fault => return .error fault

end Folder

/-- Line breaks of all systems as line feeds. -/
def unifyBreaks : List Char → List Char
  | [] => []
  | '\r' :: '\n' :: rest => '\n' :: unifyBreaks rest
  | '\r' :: rest => '\n' :: unifyBreaks rest
  | c :: rest => c :: unifyBreaks rest

/-- The text of the bytes of a file. -/
def decodeText (bytes : List Nat) : Except Utf8Fault String := do
  return String.ofList (unifyBreaks (← decodeUtf8 bytes).toList)

end DocGraph
