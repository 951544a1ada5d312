import Multiplexer.Disk.Basic
import Multiplexer.Json.Reader
import Multiplexer.Json.Writer
import Multiplexer.Text.Blank
import Multiplexer.Trust.Store

/-!
# Trust stores on disk

The records are read from a file once and written back as a whole after each
change, by way of a temporary file. The change is made in memory first, so it
stays there when writing fails.
-/

namespace Multiplexer

structure TrustFile where
  store : TrustStore := {}
  path : Path
  disk : Disk

namespace TrustFile

/-- The records that the text of a file gives. A blank file holds none. -/
def records? (text : String) : Option (List KeyRecord) :=
  if allBlank text then some []
  else (Json.ofText? text).bind (Json.listOf KeyRecord.ofJson?)

/-- A store on a file, which need not exist yet. -/
def load (path : Path) (disk : Disk) : Except TrustError TrustFile :=
  match disk.readText path with
  | .error .notFound => .ok { path, disk }
  | .error e => .error (.disk e.message)
  | .ok text =>
    match records? text with
    | some rs => .ok { store := .ofRecords rs, path, disk }
    | none => .error .damaged

def text (s : TrustStore) : String := (Json.array (s.sorted.map KeyRecord.toJson)).pretty 0

def temporary (path : Path) : Path := Disk.withExtension path "json.tmp"

/-- Write the records to a temporary file and move that over the file. The disk is the one
that a failure leaves, too. -/
def persist (f : TrustFile) : Except TrustError Unit × TrustFile :=
  match f.disk.createFolders f.path.dropLast with
  | .error e => (.error (.disk e.message), f)
  | .ok disk =>
    match disk.write (temporary f.path) (text f.store).toUTF8 with
    | .error e => (.error (.disk e.message), { f with disk })
    | .ok disk =>
      match disk.rename (temporary f.path) f.path with
      | .error e => (.error (.disk e.message), { f with disk })
      | .ok disk => (.ok (), { f with disk })

instance : Keyring TrustFile where
  find hostId algorithm f := .ok (f.store.get? hostId algorithm)
  upsert r f := persist { f with store := f.store.upsert r }
  touch id now f :=
    match f.store.touch? id now with
    | some store => persist { f with store }
    | none => (.error (.recordNotFound id), f)

end TrustFile

end Multiplexer
