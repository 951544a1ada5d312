import Multiplexer.Chain.Call

/-!
# Connecting a chain of hops

Hops are connected strictly in order, each through a tunnel from the one before,
and the terminal is opened on the last. After a failure, or when the attempt is
called off, the hops connected so far are closed from the last to the first
before the error is handed on.
-/

namespace Multiplexer

/-- How far a chain has come. `links` are the hops connected so far, in order. -/
inductive ChainRun where
  | tunnelling (links : List Link) (via : Link) (hop : Hop) (rest : List Hop)
  | connecting (links : List Link) (tunnel : Option Tunnel) (hop : Hop) (rest : List Hop)
  | opening (links : List Link) (target : Link)
  /-- Links still to close, next one first. -/
  | closing (links : List Link) (error : ConnectError)
  | failed (error : ConnectError)
  | connected (connection : Connection)
  deriving DecidableEq, Repr

namespace ChainRun

def start : List Hop → ChainRun
  | [] => .failed (.chainResolution "Connection chain is empty")
  | hop :: rest => .connecting [] none hop rest

/-- What the chain waits for. -/
def call (size : TerminalSize) (channel : ChannelId) : ChainRun → Option Call
  | .tunnelling _ via hop _ => some (.tunnel via hop.hostname hop.port)
  | .connecting _ tunnel hop _ => some (.hop hop tunnel)
  | .opening _ target => some (.terminal target size channel)
  | .closing (l :: _) _ => some (.closeLink l)
  | .closing [] _ => none
  | .failed _ => none
  | .connected _ => none

/-- Whether the attempt may be called off here. -/
def cancellable : ChainRun → Bool
  | .tunnelling .. | .connecting .. | .opening .. => true
  | _ => false

/-- Close links, next one first, and fail. -/
def unwind (links : List Link) (e : ConnectError) : ChainRun :=
  if links.isEmpty then .failed e else .closing links e

/-- The run after a hop has been connected. -/
def proceed (links : List Link) (last : Link) : List Hop → ChainRun
  | [] => .opening links last
  | hop :: rest => .tunnelling links last hop rest

def fail (e : ConnectError) : ChainRun → ChainRun
  | .tunnelling links _ _ _ => unwind links.reverse e
  | .connecting links _ _ _ => unwind links.reverse e
  | .opening links _ => unwind links.reverse e
  | r => r

def cancel (r : ChainRun) : ChainRun := r.fail .cancelled

def answer : ChainRun → Reply → ChainRun
  | .closing (_ :: links) e, _ => unwind links e
  | r, .failed e => r.fail e
  | .tunnelling links _ hop rest, .tunnel t => .connecting links (some t) hop rest
  | .connecting links _ _ rest, .link l => proceed (links ++ [l]) l rest
  | .opening links _, .terminal t => .connected (.chained t links)
  | r, _ => r

end ChainRun

end Multiplexer
