import Multiplexer.Session.Id

/-!
# Why a connection fails
-/

namespace Multiplexer

inductive ConnectError where
  /-- The chain of jump hosts could not be found; the caller connects directly. -/
  | chainResolution (reason : String)
  | hostKeyRejected (host algorithm : String)
  | authenticationCancelled
  | authenticationFailed (reason : String)
  | transport (reason : String)
  | timeout (reason : String)
  | cancelled
  | alreadyConnecting (session : SessionId)
  | sessionNotFound (session : SessionId)
  | wrongSessionKind (session : SessionId) (kind : String)
  | trustStore (reason : String)
  | disk (reason : String)
  | protocol (reason : String)
  | key (reason : String)
  deriving DecidableEq, Repr

namespace ConnectError

def message : ConnectError → String
  | chainResolution r => "Chain resolution failed: " ++ r
  | hostKeyRejected host algorithm =>
    "Host key for " ++ host ++ " (" ++ algorithm ++ ") was rejected"
  | authenticationCancelled => "Authentication cancelled by user"
  | authenticationFailed r => "Authentication failed: " ++ r
  | transport r => "Transport error: " ++ r
  | timeout r => "Timeout: " ++ r
  | cancelled => "Connection attempt cancelled"
  | alreadyConnecting s => "A connection attempt is already in flight for session " ++ s.text
  | sessionNotFound s => "Session not found: " ++ s.text
  | wrongSessionKind s kind => "Session " ++ s.text ++ " is not a " ++ kind ++ " session"
  | trustStore r => "Trust store error: " ++ r
  | disk r => "IO error: " ++ r
  | protocol r => "SSH protocol error: " ++ r
  | key r => "Key error: " ++ r

/-- A word for the cause. -/
def kind : ConnectError → String
  | chainResolution _ => "ChainResolution"
  | hostKeyRejected _ _ => "HostKeyRejected"
  | authenticationCancelled => "AuthenticationCancelled"
  | authenticationFailed _ => "AuthenticationFailed"
  | transport _ => "Transport"
  | timeout _ => "Timeout"
  | cancelled => "Cancelled"
  | alreadyConnecting _ => "AlreadyConnecting"
  | sessionNotFound _ => "SessionNotFound"
  | wrongSessionKind _ _ => "WrongSessionKind"
  | trustStore _ => "TrustStore"
  | disk _ => "Io"
  | protocol _ => "Protocol"
  | key _ => "Key"

/-- Failures of the transport; only after these a serial line is opened again. -/
def isTransport : ConnectError → Bool
  | transport _ | timeout _ | disk _ | protocol _ => true
  | _ => false

end ConnectError

end Multiplexer
