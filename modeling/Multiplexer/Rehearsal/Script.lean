import Multiplexer.Disk.Basic
import Multiplexer.Json.Decode
import Multiplexer.Rehearsal.Labels
import Multiplexer.Rehearsal.ReopenTrial
import Multiplexer.Rehearsal.World
import Multiplexer.Session.TargetJson
import Multiplexer.Settings.Json

/-!
# Scripts

A script is JSON. A field that is missing or `null` has a default. A text may be
given by a part and how often that is repeated, bytes as a text or by their
hexadecimal digits, and a pane by its number or its place.
-/

namespace Multiplexer.Rehearsal

/-- Why a step of a script cannot be taken. -/
inductive Fault where
  /-- A field that cannot be used. -/
  | field (name : String)
  /-- A value that is not of the form of what it stands for. -/
  | form
  /-- A place where no pane is. -/
  | vacant
  /-- A layout that cannot be. -/
  | layout (e : LayoutError)
  deriving DecidableEq, Repr

abbrev ScriptM := ExceptT Fault Labelling

namespace Script

def field? (j : Json) (k : String) : Option Json := (j.field? k).filter fun v => !v.isNull

def text? : Json → Option String
  | .string s => s
  | j => do
    let [part, count] ← (← j.field? "repeat").items? | none
    return String.join (List.replicate (← count.nat?) (← part.text?))

def textAt? (j : Json) (k : String) : Option String := (field? j k).bind text?

def textAt (j : Json) (k : String) (d : String := "") : String := (textAt? j k).getD d

def natAt? (j : Json) (k : String) : Option Nat := (field? j k).bind Json.nat?

def natAt (j : Json) (k : String) (d : Nat := 0) : Nat := (natAt? j k).getD d

def flagAt (j : Json) (k : String) (d : Bool := false) : Bool :=
  ((field? j k).bind Json.bool?).getD d

def itemsAt (j : Json) (k : String) : List Json := ((field? j k).bind Json.items?).getD []

def textsAt (j : Json) (k : String) : List String := (itemsAt j k).filterMap text?

def membersAt (j : Json) (k : String) : List (String × Json) :=
  match field? j k with
  | some (.object fs) => fs.filterMap fun (k, v) => k.map (·, v)
  | _ => []

def float? : Json → Option Binary64
  | .string (some "NaN") => some Binary64.nan
  | .string (some "inf") => some Binary64.infinity
  | .string (some "-inf") => some Binary64.infinity.neg
  | j => j.float?

def unhex : List Char → List UInt8
  | a :: b :: rest =>
    let digit (c : Char) : Nat := (SessionId.hexValue? c).getD 0
    UInt8.ofNat (digit a * 16 + digit b) :: unhex rest
  | _ => []

/-- Bytes by their digits in one field, or else as a text in another. -/
def bytesAt (j : Json) (text hex : String) : List UInt8 :=
  match textAt? j hex with
  | some h => unhex h.toList
  | none => (textAt j text).toUTF8.toList

/-- A value of a known form. -/
def readAt {α : Type} (read : Json → Option α) (j : Json) (k : String) (d : Option α := none) :
    Except Fault α :=
  match field? j k, d with
  | none, some d => .ok d
  | v, _ => (v.bind read).elim (.error .form) .ok

def namedAt {α : Type} (names : List (String × α)) (j : Json) (k : String) : Except Fault α :=
  ((j.field? k).bind (Json.nameOf .text names)).elim (.error .form) .ok

def ratioAt (j : Json) (k : String) (d : Option Binary64 := none) : Except Fault Binary64 :=
  match field? j k, d with
  | none, some d => .ok d
  | v, _ => (v.bind float?).elim (.error (.field k)) .ok

/-- The pane that a field designates. A place counts on from the end to the beginning again. -/
def paneAt (s : Layout) (j : Json) (k : String := "pane") : Except Fault PaneId :=
  let found (p : Option PaneId) : Except Fault PaneId := p.elim (.error .vacant) .ok
  let places : List (String × List PaneId) :=
    [("pick", s.order), ("background", s.background), ("node", s.panes.map Pane.id),
      ("container", s.panes.filterMap fun p => p.container?.map Container.id)]
  match field? j k with
  | some (.number n) =>
    match n.nat? with
    | some i => if i < wordLimit then .ok ⟨i⟩ else .error (.field k)
    | none => .error (.field k)
  | some (.string (some "root")) => found s.root
  | some (.string (some "focused")) => found s.focused
  | some j =>
    match places.filterMap fun (name, ids) => (natAt? j name).map (·, ids) with
    | (n, ids) :: _ => found ids[n % ids.length]?
    | [] => .error (.field k)
  | none => .error (.field k)

def sessionAt (j : Json) (k : String := "session") : Labelling SessionId := Labels.idOf (textAt j k)

def sessionAt? (j : Json) (k : String := "session") : Labelling (Option SessionId) := do
  match textAt? j k with
  | some label => return some (← Labels.idOf label)
  | none => return none

def tokenAt? (j : Json) (k : String) : Labelling (Option Token) := do
  match textAt? j k with
  | some name => return some (← Labels.tokenOf name)
  | none => return none

/-- A token; without a name it is never cancelled. -/
def tokenAt (j : Json) (k : String) : Labelling Token := do return (← tokenAt? j k).getD ⟨0⟩

def errorAt? (j : Json) (k : String) : Option ConnectError :=
  (field? j k).map fun j =>
    let text := textAt j "text"
    match textAt j "kind" with
    | "ChainResolution" => .chainResolution text
    | "HostKeyRejected" => .hostKeyRejected text (textAt j "algorithm")
    | "AuthenticationCancelled" => .authenticationCancelled
    | "AuthenticationFailed" => .authenticationFailed text
    | "Timeout" => .timeout text
    | "Cancelled" => .cancelled
    | "TrustStore" => .trustStore text
    | "Io" => .disk text
    | "Protocol" => .protocol text
    | "Key" => .key text
    | _ => .transport text

def dropOf (j : Json) : Except Fault Drop :=
  let reason := textAt j "reason"
  match textAt j "source" with
  | "connection" => .ok ⟨.connection, reason⟩
  | "bridge" => .ok ⟨.bridge, reason⟩
  | "transport" => .ok ⟨.transport, reason⟩
  | _ => .error (.field "source")

def behaviourOf (j : Json) : Labelling Behaviour :=
  return {
    delayMs := natAt j "delay_ms"
    cancel := ← tokenAt? j "cancel"
    hang := flagAt j "hang"
    error := errorAt? j "error"
    failures := natAt? j "fail_times"
    key := (textAt? j "key").map fun s => s.toUTF8.toList
    algorithm := textAt j "algorithm" "ssh-ed25519"
    tunnelCancel := ← tokenAt? j "tunnel_cancel"
    tunnelError := errorAt? j "tunnel_error"
    terminalCancel := ← tokenAt? j "terminal_cancel"
    terminalError := errorAt? j "terminal_error"
    writeError := errorAt? j "write_error" }

def userAt (j : Json) (k : String) : User :=
  let j := (field? j k).getD (.object [])
  { delayMs := natAt j "delay_ms"
    rejects := textsAt j "reject"
    answers := (field? j "kbi").map fun _ => textsAt j "kbi" }

/-- Mark the operations that are out of order, named with commas between them. -/
def refuse {σ : Type} (s : Refusing σ) (words : String) : Refusing σ :=
  let ws := words.splitOn ","
  { s with read := ws.contains "read", write := ws.contains "write", touch := ws.contains "touch" }

def recordOf (j : Json) : Except Fault KeyRecord := do
  let time (k d : String) : Except Fault Instant :=
    (Instant.ofText? (textAt j k d)).elim (.error (.field k)) .ok
  return {
    id := textAt j "id"
    hostId := textAt j "host"
    algorithm := textAt j "algorithm" "ssh-ed25519"
    fingerprint := ((textAt? j "key").map fun k => fingerprint k.toUTF8.toList).getD
      (textAt j "fingerprint")
    firstSeen := ← time "first_seen" "2019-01-01T00:00:00Z"
    lastSeen := ← time "last_seen" "2019-01-02T00:00:00Z"
    trusted := flagAt j "trusted" true }

def storeAt (j : Json) (k : String) : Except Fault TrustStore := do
  return .ofRecords (← (itemsAt j k).mapM recordOf)

def profilesAt (j : Json) (k : String) : Except Fault Profiles :=
  (membersAt j k).mapM fun (name, v) =>
    ((Json.listOf JumpHost.ofJson? v).map (name, ·)).elim (.error .form) .ok

def bookAt (j : Json) (k : String) : Except Fault CredentialBook := do
  let entries ← (membersAt j k).mapM fun (host, v) =>
    ((AuthMethod.ofJson? .text 0 v).map (host, ·)).elim (.error .form) .ok
  return entries.foldl (fun b (host, auth) => b.insert host auth) {}

def castOf (j : Json) : ScriptM Cast := do
  let behaviours ← (membersAt j "behave").mapM fun (name, v) => do
    return (name, ← behaviourOf v)
  return {
    behaviours
    user := userAt j "prompt"
    profiles := ← ofExcept (profilesAt j "profiles")
    book := ← ofExcept (bookAt j "credentials")
    trust := refuse { store := ← ofExcept (storeAt j "trust") } (textAt j "trust_refuse")
    history := ((natAt? j "history_capacity").map History.ofCapacity).getD {} }

def worldOf (j : Json) : ScriptM WorldStage := do
  let settings ← ofExcept (readAt LayoutSettings.ofJson? j "layout" (some {}))
  let policy ← ofExcept (readAt ReopenPolicy.ofJson? j "reconnect" (some {}))
  let size ← ofExcept (readAt TerminalSize.ofJson? j "terminal" (some {}))
  let cast ← castOf j
  let connector : Connector :=
    { registry := { max := natAt j "max_sessions" 64 }, reopener := { policy }, size }
  match Workspace.ofSettings settings connector with
  | .ok workspace => return { state := { workspace, cast } }
  | .error e => throw (.layout e)

def attemptOf (j : Json) : ScriptedAttempt :=
  { delayMs := natAt j "delay_ms", cancel := flagAt j "cancel", error := errorAt? j "error" }

/-- A disk with what stands in the way of a file, and the path of the file. -/
def diskOf (j : Json) (name stem : String) (folders : Path) : Disk × Path :=
  let empty : Disk := {}
  let (disk, path) : Disk × Path := match textAt j "path" with
    | "nested" => (empty, folders ++ [name])
    | "under_file" => (empty.put ["f"] (.file ByteArray.empty), ["f", name])
    | "dir" => (empty.put [name] .folder, [name])
    | "no_extension" => (empty, [stem])
    | _ => (empty, [name])
  if (field? j "content").isSome || (field? j "content_hex").isSome then
    (disk.put path (.file ⟨(bytesAt j "content" "content_hex").toArray⟩), path)
  else (disk, path)

end Script

end Multiplexer.Rehearsal
