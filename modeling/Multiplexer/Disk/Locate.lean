import Multiplexer.Disk.Basic

/-!
# Paths as text

A path that begins with a slash leads from the top directory from name to name.
Empty names and `.` stay where they are and `..` goes up, and each of them asks
for a directory to stand on.
-/

namespace Multiplexer

/-- Greatest length of a name, and of a path with the zero behind it, in bytes. -/
def nameLimit : Nat := 255
def pathLimit : Nat := 4096

namespace Disk

def follow (d : Disk) : Path → List String → Except DiskError Path
  | at', [] => .ok at'
  | at', name :: rest =>
    match d.entry? at' with
    | some .folder =>
      if name = "" ∨ name = "." then follow d at' rest
      else if name = ".." then follow d at'.dropLast rest
      else if nameLimit < name.utf8ByteSize then .error .nameTooLong
      else follow d (at' ++ [name]) rest
    | some (.file _) => .error .notADirectory
    | none => .error .notFound

/-- Read the text of the file at a path. A path that begins with a name leads nowhere. -/
def readTextAt (d : Disk) (path : String) : Except DiskError String :=
  if path.toList.contains '\x00' then .error .zeroInPath
  else if pathLimit ≤ path.utf8ByteSize then .error .nameTooLong
  else
    match path.splitOn "/" with
    | "" :: name :: names => d.follow [] (name :: names) >>= d.readText
    | _ => .error .notFound

end Disk

end Multiplexer
