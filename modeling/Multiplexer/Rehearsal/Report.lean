import Multiplexer.Forward.Rule
import Multiplexer.Json.Writer
import Multiplexer.Layout.Notice
import Multiplexer.Prompt.Broker
import Multiplexer.Rehearsal.Script
import Multiplexer.Rehearsal.World
import Multiplexer.Session.TargetJson

/-!
# Reports

What a rehearsal shows of its state, as JSON. Doubles are shown by their bits,
and times of the rehearsal itself as `now`.
-/

namespace Multiplexer.Rehearsal

namespace Report

def option {α : Type} (f : α → Json) : Option α → Json
  | some a => f a
  | none => .null

def texts (l : List String) : Json := .array (l.map .str)

def inOrder (l : List String) : List String := l.mergeSort fun a b => decide (a ≤ b)

def failure (kind message : String) : Json := .obj [("error", .str kind), ("message", .str message)]

/-- Something of which no more is told than its kind. -/
def plainFailure (kind : String) : Json := .obj [("error", .str kind)]

def hung : Json := plainFailure "Hung"

def layoutError (e : LayoutError) : Json := failure e.kind e.message

def fault : Fault → Json
  | .field name => failure "BadInput" name
  | .form => plainFailure "Json"
  | .vacant => .str "skip"
  | .layout e => layoutError e

/-- The error of an attempt that was asked for directly. -/
def connectError (e : ConnectError) : Json :=
  .obj [("error", .str e.kind), ("message", .str e.message), ("transport", .bool e.isTransport),
    ("wire", .str e.message)]

def registryError (e : RegistryError) : Json := failure e.kind e.message

def workspaceError (e : WorkspaceError) : Json := failure e.kind e.message

def attemptError : WorkspaceError → Json
  | .connect e => connectError e
  | e => workspaceError e

def trustError : TrustError → Json
  | .damaged => plainFailure TrustError.damaged.kind
  | e => failure e.kind e.message

/-- How an operation on a connection ended. -/
def outcome : Option ConnectError → Json
  | some e => connectError e
  | none => .str "ok"

def digits (x : Binary64) : String := String.ofList (SessionId.hexDigits x.bits.toNat 16)

def bits (x : Binary64) : Json := .str (if x.isNaN then "NaN" else digits x)

/-- A double inside settings. -/
def markedBits (x : Binary64) : Json := .str ("f64:" ++ digits x)

/-- A value with marks for all numbers that are no integer literals. -/
def marked : Json → Json
  | .number n => if n.isInteger then .number n else option markedBits n.float?
  | .array items => .array (markedAll items)
  | .object fields => .object (markedFields fields)
  | j => j
where
  markedAll : List Json → List Json
    | [] => []
    | j :: js => marked j :: markedAll js
  markedFields : List (Option String × Json) → List (Option String × Json)
    | [] => []
    | (k, j) :: fs => (k, marked j) :: markedFields fs

def session (id : SessionId) : Json := .str id.text

def pane (p : PaneId) : Json := .nat p.number

def panes (l : List PaneId) : Json := .array (l.map pane)

def notice : Notice → Json
  | .changed => .str "layout_changed"
  | .focus p => .obj [("focused", option pane p)]

/-- A letter for each flag that is set. -/
def flags (l : Leaf) : String :=
  (if l.focused then "f" else "") ++ (if l.primary then "p" else "") ++
    (if l.visible then "v" else "")

def node : Pane → Json
  | .leaf l =>
    .array [.str "leaf", pane l.id, option session l.session, .str (flags l), option pane l.parent]
  | .container c =>
    .array [.str "container", pane c.id, .str c.orientation.text, bits c.ratio, pane c.first,
      pane c.second, option pane c.parent]

def layout (s : Layout) : Json :=
  .obj [("root", option pane s.root), ("focused", option pane s.focused),
    ("tabbed", .bool s.tabbed),
    ("tabs", panes s.tabs), ("active", option pane s.activeTab), ("background", panes s.background),
    ("leaves", panes s.leafIds), ("visible", panes s.visibleLeaves),
    ("leaf_count", .nat s.leafCount), ("empty", .bool s.isEmpty),
    ("nodes", .array (s.panes.map node))]

def closedPane (c : ClosedPane) : Json :=
  .obj [("pane", pane c.pane), ("session", option session c.session),
    ("still_displayed", .bool c.stillDisplayed)]

def gain : Gain → Json
  | .nothing => .null
  | .pane p => pane p
  | .closed c => closedPane c

/-- First day of 2020. -/
def recent : Int := 18262

def time (t : Instant) : Json := .str (if t.day < recent then t.text else "now")

def record (r : KeyRecord) : Json :=
  .obj [("id", .str r.id), ("host", .str r.hostId), ("algorithm", .str r.algorithm),
    ("fingerprint", .str r.fingerprint), ("first_seen", time r.firstSeen),
    ("last_seen", time r.lastSeen), ("trusted", .bool r.trusted)]

def records (s : TrustStore) : Json := .array (s.sorted.map record)

def entry (e : HistoryEntry) : Json :=
  .array [.str e.hostId, .bool e.success, option .str e.error]

def sessionState : SessionState → Json
  | .failed e => .obj [("state", .str "failed"), ("error", .str e)]
  | s => .obj [("state", .str s.text)]

def reopenState : ReopenState → String
  | .idle => "Idle"
  | .waiting => "Waiting"
  | .attempting => "Attempting"
  | .reconnected => "Reconnected"
  | .failed => "Failed"
  | .cancelled => "Cancelled"

def reopenOutcome : ReopenOutcome → Json
  | .reconnected n => .array [.str "Reconnected", .nat n]
  | .gaveUp notify => .array [.str "GaveUp", .bool notify]
  | .alreadyReconnecting => texts ["AlreadyReconnecting"]
  | .cancelled => texts ["Cancelled"]
  | .notRegistered => texts ["NotRegistered"]

def answer : Answer → Json
  | .verdict accept => .bool accept
  | .answers l => option texts l

/-- A forward with its error; `shown` says how addresses are told. -/
def forward (shown : String → String) (h : ForwardHandle) : Json :=
  .obj [("rule", .str h.ruleId), ("session", session h.session), ("type", .str h.type.text),
    ("status", .str h.status.text), ("bound", option .str h.bound),
    ("error", option (fun e => .str (shown e)) h.error)]

def targetFields (t : SessionTarget) (s : SessionState) : List (String × Json) :=
  [("kind", .str t.kind.text), ("host", .str t.hostId), ("label", .str t.label),
    ("state", sessionState s), ("can_connect", .bool s.canConnect)]

/-- What a reopener knows about a session; `name` is that of the field for its state. -/
def reopenFields (r : Reopener) (id : SessionId) (name : String) : List (String × Json) :=
  [("registered", .bool (r.isRegistered id)), ("attempts", .nat (r.attempts id)),
    (name, .str (reopenState (r.state id))), ("reconnecting", .bool (r.isReconnecting id)),
    ("params", option SerialParams.toJson (r.params? id))]

def sessionOf (w : World) (s : Session) : Json :=
  let c := w.workspace.connector
  let status := c.status s.id
  let connection (x : Connection) : Json := .array [.str x.label, .bool (w.cast.isAlive x.terminal)]
  .obj (("id", session s.id) :: targetFields s.target status.state ++
    [("is_connected", .bool status.state.isConnected),
      ("connection", option connection status.connection),
      ("watched", .bool (c.watcher? s.id).isSome)] ++ reopenFields c.reopener s.id "reconnect")

/-- A world after a step, with what has happened since the last one. -/
def world (now : Nat) (result : Json) (w : World) : Json :=
  let c := w.workspace.connector
  let ends := w.ends.map fun (name, r) =>
    .array [.str name, match r with
      | .ok _ => .str "ok"
      | .error e => attemptError e]
  .obj ([("t", .nat now), ("result", result), ("journal", texts w.cast.journal),
    ("events", texts (c.events.map fun e => e.toJson.compact)), ("done", .array ends),
    ("layout", .array (w.workspace.notices.map notice)),
    ("sessions", .array (c.registry.sessions.map (sessionOf w)))] ++
    if w.workspace.layout.isEmpty then [] else [("tree", layout w.workspace.layout)])

def hops (l : List Hop) : Json :=
  .obj [("len", .nat l.length), ("empty", .bool l.isEmpty),
    ("target", option (fun h => .str h.label) l.getLast?),
    ("jumps", texts (l.dropLast.map Hop.address)),
    ("hops", .array (l.map fun h => .array [.str h.hostId, .str h.label, h.auth.toJson]))]

end Report

/-- A world whose happenings have been told. -/
def World.told (w : World) : World :=
  { w with
    ends := []
    cast := { w.cast with journal := [] }
    workspace := { w.workspace with
      notices := [], connector := { w.workspace.connector with events := [] } } }

end Multiplexer.Rehearsal
