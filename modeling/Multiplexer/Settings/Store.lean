import Multiplexer.Disk.Basic
import Multiplexer.Json.Reader
import Multiplexer.Settings.Json
import Multiplexer.Time.Instant

/-!
# The settings file

Settings are read from one file and written by way of a temporary one. A file
that cannot be read as settings is copied aside and counts as the default ones;
a file of a later version is refused.
-/

namespace Multiplexer

inductive SettingsError where
  | disk (e : DiskError)
  | versionTooNew (found : Nat)
  deriving DecidableEq, Repr

def SettingsError.message : SettingsError → String
  | .disk e => "IO error: " ++ e.message
  | .versionTooNew found =>
    "Settings version " ++ toString found ++ " is newer than supported " ++ toString settingsVersion

/-- A word for the cause. -/
def SettingsError.kind : SettingsError → String
  | .disk _ => "Io"
  | .versionTooNew _ => "VersionTooNew"

def Settings.ofText? (s : String) : Option Settings := do Settings.ofJson? (← Json.ofText? s)

def Settings.text (s : Settings) : String := (s.toJson Json.float).pretty 0

namespace SettingsFile

def temporary (p : Path) : Path := Disk.withExtension p "json.tmp"

/-- Time of day in the name of a copy. -/
def stamp (t : Instant) : String :=
  let (y, m, d) := Instant.dateOf t.day
  Instant.yearText y ++ Instant.padded 2 m ++ Instant.padded 2 d ++ "_" ++
    Instant.padded 2 (t.second / 3600) ++ Instant.padded 2 (t.second / 60 % 60) ++
    Instant.padded 2 (t.second % 60)

/-- Copy the file, if there is one, beside itself. -/
def backup (now : Instant) (p : Path) (d : Disk) : Except DiskError (Path × Disk) := do
  let target := Disk.withExtension p ("json.backup." ++ stamp now)
  if d.exists? p then return (target, ← d.copy p target) else return (target, d)

/-- What the text of a settings file gives: settings, a refusal, or nothing if it is damaged. -/
def interpret (text : String) : Except SettingsError (Option Settings) :=
  match Settings.ofText? text with
  | none => .ok none
  | some s => if settingsVersion < s.version then .error (.versionTooNew s.version)
    else .ok (some s.sanitized)

/-- The settings in the file, and the disk with a copy of the file if that is damaged. -/
def load (now : Instant) (p : Path) (d : Disk) : Except SettingsError Settings × Disk :=
  match d.readText p with
  | .error .notFound => (.ok {}, d)
  | .error e => (.error (.disk e), d)
  | .ok text =>
    match interpret text with
    | .error e => (.error e, d)
    | .ok (some s) => (.ok s, d)
    | .ok none =>
      match backup now p d with
      | .ok (_, d) => (.ok {}, d)
      | .error _ => (.ok {}, d)

/-- Write the settings to a temporary file and move that over the file. The disk is the one
that a failure leaves, too. -/
def save (s : Settings) (p : Path) (d : Disk) : Except SettingsError Unit × Disk :=
  match d.createFolders p.dropLast with
  | .error e => (.error (.disk e), d)
  | .ok d =>
    match d.write (temporary p) s.text.toUTF8 with
    | .error e => (.error (.disk e), d)
    | .ok d =>
      match d.rename (temporary p) p with
      | .error e => (.error (.disk e), d)
      | .ok d => (.ok (), d)

end SettingsFile

/-- Where an application keeps its files, below the user's home directory. -/
structure Places where
  home : String

namespace Places

def join (folder name : String) : String :=
  if folder.isEmpty || folder.endsWith "/" then folder ++ name else folder ++ "/" ++ name

def config (p : Places) : String := join p.home ".panemux"

def logs (p : Places) : String := join p.config "logs"

def settingsFile (p : Places) : String := join p.config "settings.json"

end Places

end Multiplexer
