import Multiplexer.Connect.Error
import Multiplexer.Session.Target

/-!
# Calls on collaborators

A connection is made by others: the transport connects hops and opens tunnels,
terminals and serial lines, and the history and the forwards are kept elsewhere.
What is asked of them is a call, and each call is answered once, at any time.
What they hand out is known here by a number and a label only.
-/

namespace Multiplexer

/-- A connected hop. -/
structure Link where
  number : Nat
  label : String
  deriving DecidableEq, Repr

/-- A byte stream through a hop. -/
structure Tunnel where
  number : Nat
  deriving DecidableEq, Repr

/-- A shell on a hop, or an open serial line. -/
structure Terminal where
  number : Nat
  label : String
  deriving DecidableEq, Repr

/-- A terminal with the hops that carry it, first jump host first, or a terminal alone. -/
inductive Connection where
  | chained (terminal : Terminal) (links : List Link)
  | bare (terminal : Terminal)
  deriving DecidableEq, Repr

/-- Something that may be called off. -/
structure Token where
  number : Nat
  deriving DecidableEq, Repr

/-- The channel for reports that one connection has ended. -/
structure ChannelId where
  number : Nat
  deriving DecidableEq, Repr

inductive Call where
  | resolve (target : SshTarget) (token : Token)
  | hop (hop : Hop) (tunnel : Option Tunnel)
  | tunnel (link : Link) (host : String) (port : Nat)
  | terminal (link : Link) (size : TerminalSize) (channel : ChannelId)
  | serial (params : SerialParams) (channel : ChannelId)
  | closeTerminal (terminal : Terminal)
  | closeLink (link : Link)
  /-- Note an attempt in the history, with the text of its error. -/
  | note (hostId : String) (error : Option String)
  | startForwards (session : SessionId) (hostId : String) (connection : Connection) (token : Token)
  | stopForwards (session : SessionId)
  deriving DecidableEq, Repr

inductive Reply where
  | done
  | hops (hops : List Hop)
  | link (link : Link)
  | tunnel (tunnel : Tunnel)
  | terminal (terminal : Terminal)
  | failed (error : ConnectError)
  deriving DecidableEq, Repr

def Reply.error? : Reply → Option ConnectError
  | .failed e => some e
  | _ => none

namespace Connection

def terminal : Connection → Terminal
  | .chained t _ => t
  | .bare t => t

def label (c : Connection) : String := c.terminal.label

def links : Connection → List Link
  | .chained _ ls => ls
  | .bare _ => []

/-- The calls that close a connection: the terminal first, then the hops from the last one. -/
def closing (c : Connection) : List Call :=
  .closeTerminal c.terminal :: c.links.reverse.map .closeLink

/-- The call that opens a tunnel from the far end, or why there is none. -/
def tunnelCall (c : Connection) (host : String) (port : Nat) : Except ConnectError Call :=
  match c with
  | .bare t =>
    .error (.protocol (t.label ++ " cannot open tunnels to " ++ host ++ ":" ++ toString port))
  | .chained _ ls =>
    match ls.getLast? with
    | some l => .ok (.tunnel l host port)
    | none => .error (.transport "No established hop")

end Connection

end Multiplexer
