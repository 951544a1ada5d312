import Multiplexer.Chain.Call
import Multiplexer.Session.Credentials
import Multiplexer.Settings.Basic

/-!
# Finding the chain to a target

A target with a profile is reached through the jump hosts of that profile, for
each of which the book must hold credentials. An empty chain means to connect
directly.
-/

namespace Multiplexer

/-- The hops before a target, with credentials from the book. -/
def fillJumps (book : CredentialBook) (jumps : List JumpHost) : Except ConnectError (List Hop) :=
  jumps.mapM fun j =>
    match book.get? j.hostId with
    | some auth => .ok (j.toHop auth)
    | none => .error (.chainResolution ("No credentials for jump host '" ++ j.hostId ++ "'"))

def resolveChain (profiles : Profiles) (book : CredentialBook) (target : SshTarget)
    (cancelled : Bool) : Except ConnectError (List Hop) :=
  if cancelled then .error .cancelled
  else
    match target.proxyJump with
    | none => .ok []
    | some profile =>
      match profiles.lookup profile with
      | none => .error (.chainResolution ("Unknown proxy-jump profile '" ++ profile ++ "'"))
      | some [] => .ok []
      | some jumps => do return (← fillJumps book jumps) ++ [target.host]

/-- The hops to contact, given the outcome of the resolution: a chain that is empty or cannot
be found gives way to the target alone. -/
def routeOf (target : SshTarget) : Except ConnectError (List Hop) → Except ConnectError (List Hop)
  | .ok [] => .ok [target.host]
  | .ok hops => .ok hops
  | .error (.chainResolution _) => .ok [target.host]
  | .error e => .error e

end Multiplexer
