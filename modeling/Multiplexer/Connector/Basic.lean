import Multiplexer.Chain.Run
import Multiplexer.Lifecycle.Channel
import Multiplexer.Reopen.Reopener
import Multiplexer.Session.Registry

/-!
# What the connector keeps

For each session its state and at most one connection; for each connection in
use a watcher, which waits for the first report that the connection has ended.
A watcher has a generation, so that one that comes late finds out that a newer
connection is in use.
-/

namespace Multiplexer

structure SessionStatus where
  state : SessionState := .idle
  connection : Option Connection := none
  deriving DecidableEq, Repr

structure Watcher where
  generation : Nat
  channel : ChannelId
  deriving DecidableEq, Repr

inductive ConnectionEvent where
  /-- An attempt has ended; the text is that of its error. -/
  | completed (session : SessionId) (error : Option String)
  /-- A connection dropped and will not be opened again. -/
  | disconnected (session : SessionId) (reason : String)
  | reopening (event : ReopenEvent)
  deriving DecidableEq, Repr

namespace ConnectionEvent

/-- The event as an object. The name of a reopening event stands beside that of its kind. -/
def toJson : ConnectionEvent → Json
  | .completed s error =>
    .obj [("type", .str "completed"), ("session_id", .str s.text),
      ("success", .bool error.isNone),
      ("error", match error with
        | some e => .str e
        | none => .null)]
  | .disconnected s reason =>
    .obj [("type", .str "disconnected"), ("session_id", .str s.text), ("reason", .str reason)]
  | .reopening e => .obj (("type", .str "reconnecting") :: e.fields)

end ConnectionEvent

structure Connector where
  registry : Registry := {}
  reopener : Reopener := {}
  statuses : List (SessionId × SessionStatus) := []
  watchers : List (SessionId × Watcher) := []
  /-- Generations of the watchers that were told to stop. -/
  stopped : List Nat := []
  nextGeneration : Nat := 1
  channels : List Channel := []
  /-- Tokens that have been cancelled. -/
  cancelled : List Token := []
  size : TerminalSize := {}
  /-- Events since the last time they were taken out, oldest first. -/
  events : List ConnectionEvent := []
  deriving Repr

namespace Connector

def status (c : Connector) (id : SessionId) : SessionStatus := (c.statuses.lookup id).getD {}

def setStatus (c : Connector) (id : SessionId) (s : SessionStatus) : Connector :=
  { c with statuses := (id, s) :: c.statuses.filter fun x => x.1 ≠ id }

def setState (c : Connector) (id : SessionId) (state : SessionState) : Connector :=
  c.setStatus id { c.status id with state }

def setConnection (c : Connector) (id : SessionId) (connection : Option Connection) : Connector :=
  c.setStatus id { c.status id with connection }

def watcher? (c : Connector) (id : SessionId) : Option Watcher := c.watchers.lookup id

def dropWatcher (c : Connector) (id : SessionId) : Connector :=
  { c with watchers := c.watchers.filter fun x => x.1 ≠ id }

/-- Take the watcher of a session away and tell it to stop. -/
def stopWatcher (c : Connector) (id : SessionId) : Connector :=
  match c.watcher? id with
  | some w => { c.dropWatcher id with stopped := w.generation :: c.stopped }
  | none => c

/-- Watch a channel for a session in the place of whatever was watched before. -/
def putWatcher (c : Connector) (id : SessionId) (w : Watcher) : Connector :=
  let c := c.stopWatcher id
  { c with watchers := (id, w) :: c.watchers }

def isCancelled (c : Connector) (t : Token) : Bool := c.cancelled.contains t

def cancel (c : Connector) (t : Token) : Connector :=
  if c.isCancelled t then c else { c with cancelled := t :: c.cancelled }

def emit (c : Connector) (e : ConnectionEvent) : Connector := { c with events := c.events ++ [e] }

def emitAll (c : Connector) (es : List ReopenEvent) : Connector :=
  { c with events := c.events ++ es.map .reopening }

def newChannel (c : Connector) : ChannelId × Connector :=
  (⟨c.channels.length⟩, { c with channels := c.channels ++ [{}] })

def channel (c : Connector) (id : ChannelId) : Channel := c.channels.getD id.number {}

def setChannel (c : Connector) (id : ChannelId) (ch : Channel) : Connector :=
  { c with channels := c.channels.set id.number ch }

/-- Report the end of a connection into its channel. -/
def publish (c : Connector) (id : ChannelId) (d : Drop) : Connector :=
  c.setChannel id ((c.channel id).publish d)

end Connector

end Multiplexer
