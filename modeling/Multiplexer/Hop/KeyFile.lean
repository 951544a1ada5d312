import Multiplexer.Connect.Error
import Multiplexer.Disk.Locate

/-!
# Keys in files

A secret key and a certificate are read from files that the user names. What the
text of a file stands for is up to a reader of key formats. Only keys that are
not locked are known here, so nobody asks for a passphrase.
-/

namespace Multiplexer

structure SecretKey where
  algorithm : String
  deriving DecidableEq, Repr

structure Certificate where
  keyId : String
  deriving DecidableEq, Repr

/-- Where keys are looked for, and how their files are read. -/
structure KeyFiles where
  home : String
  disk : Disk
  secretKey? : String → Option SecretKey
  certificate? : String → Option Certificate

/-- The path with the home directory for a `~` that stands alone or before a slash. -/
def expandHome (home path : String) : String :=
  match path.toList with
  | ['~'] => home
  | '~' :: '/' :: '/' :: rest => String.ofList ('/' :: rest)
  | '~' :: '/' :: rest => (if home.endsWith "/" then home else home ++ "/") ++ String.ofList rest
  | _ => path

namespace KeyFiles

def text (f : KeyFiles) (path : String) : Except DiskError String :=
  f.disk.readTextAt (expandHome f.home path)

def loadSecretKey (f : KeyFiles) (path : String) : Except ConnectError SecretKey :=
  match f.text path with
  | .error e => .error (.key e.message)
  | .ok text => (f.secretKey? text).elim (.error (.key "Could not read key")) .ok

def loadCertificate (f : KeyFiles) (path : String) : Except ConnectError Certificate :=
  let failed (reason : String) : Except ConnectError Certificate :=
    .error (.key ("Failed to load certificate: " ++ reason))
  match f.text path with
  | .error e => failed ("I/O error: " ++ e.brief)
  | .ok text =>
    (f.certificate? text).elim (failed "Base64 encoding error: invalid Base64 encoding") .ok

end KeyFiles

end Multiplexer
