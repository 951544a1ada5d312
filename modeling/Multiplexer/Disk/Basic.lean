/-!
# Files and directories

A disk is a table of files and directories under one directory that always
exists. The operations are the few that a store needs, and they refuse for the
reasons for which an operating system does.
-/

namespace Multiplexer

/-- Why an operation on files failed. -/
inductive DiskError where
  | notFound
  | exists
  | notADirectory
  | isADirectory
  | notAFile
  | notText
  | zeroInPath
  | nameTooLong
  | other (text : String)
  deriving DecidableEq, Repr

def DiskError.message : DiskError → String
  | .notFound => "No such file or directory (os error 2)"
  | .exists => "File exists (os error 17)"
  | .notADirectory => "Not a directory (os error 20)"
  | .isADirectory => "Is a directory (os error 21)"
  | .notAFile => "the source path is neither a regular file nor a symlink to a regular file"
  | .notText => "stream did not contain valid UTF-8"
  | .zeroInPath => "file name contained an unexpected NUL byte"
  | .nameTooLong => "File name too long (os error 36)"
  | .other text => text

/-- A few words for the cause alone. -/
def DiskError.brief : DiskError → String
  | .notFound => "entity not found"
  | .exists => "entity already exists"
  | .notADirectory => "not a directory"
  | .isADirectory => "is a directory"
  | .notAFile => "invalid input parameter"
  | .notText => "invalid data"
  | .zeroInPath => "invalid input parameter"
  | .nameTooLong => "invalid filename"
  | .other _ => "other error"

/-- Names from the top directory down. -/
abbrev Path := List String

inductive Entry where
  | file (bytes : ByteArray)
  | folder

structure Disk where
  entries : List (Path × Entry) := []

namespace Disk

def entry? (d : Disk) (p : Path) : Option Entry :=
  if p.isEmpty then some .folder else d.entries.lookup p

def put (d : Disk) (p : Path) (e : Entry) : Disk :=
  ⟨d.entries.filter (fun x => x.1 ≠ p) ++ [(p, e)]⟩

def drop (d : Disk) (p : Path) : Disk := ⟨d.entries.filter fun x => x.1 ≠ p⟩

/-- What stands at a path, once every directory on the way is found. -/
def find (d : Disk) (p : Path) : Except DiskError (Option Entry) :=
  let rec walk : Path → Path → Except DiskError (Option Entry)
    | at', [] => .ok (d.entry? at')
    | at', name :: rest =>
      match d.entry? at' with
      | some .folder => walk (at' ++ [name]) rest
      | some (.file _) => .error .notADirectory
      | none => .error .notFound
  walk [] p

def exists? (d : Disk) (p : Path) : Bool :=
  match d.find p with
  | .ok (some _) => true
  | _ => false

def read (d : Disk) (p : Path) : Except DiskError ByteArray := do
  match ← d.find p with
  | some (.file bytes) => return bytes
  | some .folder => throw .isADirectory
  | none => throw .notFound

def readText (d : Disk) (p : Path) : Except DiskError String := do
  match String.fromUTF8? (← d.read p) with
  | some s => return s
  | none => throw .notText

/-- Make a directory and those above it that are missing. -/
def createFolders (d : Disk) (p : Path) : Except DiskError Disk :=
  let rec walk : Disk → Path → Path → Except DiskError Disk
    | d, _, [] => .ok d
    | d, at', name :: rest =>
      let here := at' ++ [name]
      match d.entry? here with
      | some .folder => walk d here rest
      | some (.file _) => .error (if rest.isEmpty then .exists else .notADirectory)
      | none => walk (d.put here .folder) here rest
  walk d [] p

/-- Write a file that is new or takes the place of an old one. -/
def write (d : Disk) (p : Path) (bytes : ByteArray) : Except DiskError Disk := do
  match ← d.find p with
  | some .folder => throw .isADirectory
  | _ => return d.put p (.file bytes)

/-- Move a file over a path that is free or holds a file. -/
def rename (d : Disk) (source target : Path) : Except DiskError Disk := do
  let bytes ← d.read source
  match ← d.find target with
  | some .folder => throw .isADirectory
  | _ => return (d.drop source).put target (.file bytes)

def copy (d : Disk) (source target : Path) : Except DiskError Disk := do
  match ← d.find source with
  | some (.file bytes) => d.write target bytes
  | some .folder => throw .notAFile
  | none => throw .notFound

/-- Names in a directory. -/
def names (d : Disk) (p : Path) : List String :=
  d.entries.filterMap fun (q, _) =>
    match q.getLast? with
    | some name => if q.dropLast = p then some name else none
    | none => none

/-- The path with everything from the last dot of its name on replaced. -/
def withExtension (p : Path) (extension : String) : Path :=
  match p.getLast? with
  | none => p
  | some name =>
    let cs := name.toList.reverse
    let stem := (cs.dropWhile (· ≠ '.')).drop 1
    let stem := if stem.isEmpty then cs else stem
    p.dropLast ++ [String.ofList stem.reverse ++ "." ++ extension]

end Disk

end Multiplexer
