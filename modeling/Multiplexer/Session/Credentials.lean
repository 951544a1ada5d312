import Multiplexer.Session.Target
import Multiplexer.Text.Quoted

/-!
# Credentials

A book holds the credentials of jump hosts by host id. What is shown of
credentials in a log names files but no secrets.
-/

namespace Multiplexer

/-- Credentials without their secrets. -/
def AuthMethod.shown : AuthMethod → String
  | .password _ => "Password \x7b .. \x7d"
  | .key path _ => "Key \x7b key_path: " ++ quoted path ++ ", .. \x7d"
  | .certificate path cert _ =>
    "Certificate \x7b key_path: " ++ quoted path ++ ", cert_path: " ++ quoted cert ++ ", .. \x7d"
  | .keyboardInteractive => "KeyboardInteractive"

structure CredentialBook where
  entries : List (String × AuthMethod) := []
  deriving DecidableEq, Repr

namespace CredentialBook

def get? (b : CredentialBook) (hostId : String) : Option AuthMethod := b.entries.lookup hostId

def erase (b : CredentialBook) (hostId : String) : CredentialBook :=
  ⟨b.entries.filter fun e => e.1 ≠ hostId⟩

def insert (b : CredentialBook) (hostId : String) (auth : AuthMethod) : CredentialBook :=
  ⟨(hostId, auth) :: (b.erase hostId).entries⟩

def size (b : CredentialBook) : Nat := b.entries.length

end CredentialBook

end Multiplexer
