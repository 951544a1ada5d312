import Multiplexer.Hop.Handshake
import Multiplexer.Hop.Shell
import Multiplexer.Rehearsal.Report
import Multiplexer.Rehearsal.Server

/-!
# One hop with a scripted server

A hop is connected to a server that follows a script, and then shells and tunnels
are opened on it. Both sides leave their lines in one journal.
-/

namespace Multiplexer.Rehearsal

structure HopScene where
  settings : ConnectSettings
  hop : Hop
  server : ScriptedServer
  trust : TrustStore
  /-- Whether the user accepts a key. -/
  accept : Bool
  /-- The user's answers a round, of which the last is given again and again. -/
  answers : List (Option (List String))
  now : Nat := 0
  /-- Rounds that are not answered yet. -/
  rounds : List PromptRound := []
  linked : Bool := true
  /-- Whether a channel for a shell was ever asked for. -/
  requested : Bool := false
  shell : Option Shell := none
  journal : List String := []

abbrev HopM := StateM HopScene

namespace HopScene

def log (line : String) : HopM Unit := modify fun s => { s with journal := s.journal ++ [line] }

/-- The prompts to log. -/
def promptsText (p : PromptSet) : String :=
  let line (l : PromptLine) : Json := .obj [("echo", .bool l.echo), ("prompt", .str l.prompt)]
  (Json.obj [("instructions", .str p.instructions), ("name", .str p.name),
    ("prompts", .array (p.prompts.map line))]).compact

def takeAnswers : HopM (Option (List String)) := do
  match (← get).answers with
  | [] => return none
  | [a] => return a
  | a :: rest =>
    modify fun s => { s with answers := rest }
    return a

/-- Let server and user talk until the login has ended. -/
def loginWithin : Nat → Login × Option LoginRequest → HopM Login
  | 0, (l, _) => return l
  | n + 1, (l, some request) => do
    let s ← get
    let (lines, reply, rounds) := s.server.reply s.rounds request
    set { s with journal := s.journal ++ lines, rounds }
    loginWithin n (l.hear reply, none)
  | n + 1, (l, none) =>
    match l.stage with
    | .asking _ set => do
      log ("prompt kbi " ++ promptsText set)
      loginWithin n (l.answer (← takeAnswers))
    | _ => return l

def login : HopM (Except ConnectError Unit) := do
  let l ← loginWithin (2 * maxPromptRounds + 2) (Login.start keyFiles (← get).hop)
  match l.stage with
  | .ended r => return r
  | _ => return .ok ()

/-- The server shows its key, and the user decides about it where that is needed. -/
def present (h : Handshake) : HopM Handshake := do
  let s ← get
  let (h, trust) := h.hearKey serverAlgorithm serverKey (moment s.now) s.trust
  set { s with trust }
  match h.stage with
  | .asking inquiry =>
    log (Cast.questionText inquiry.question "")
    let (h, trust) := h.answer s.accept (moment s.now) (recordId 0) trust
    modify fun s => { s with trust }
    return h
  | _ => return h

def shake : HopM Handshake := do
  let s ← get
  let h := Handshake.begin s.settings s.hop s.now
  match s.server.mode with
  | .gone => return h.breakOff "broken pipe"
  | .unreachable => return h.breakOff "Network is unreachable (os error 101)"
  | .silent =>
    set { s with now := h.deadline }
    return h.expire h.deadline
  | .speaking => present (h.expire s.now)

/-- Connect the hop and log in. -/
def connect : HopM (Except ConnectError Unit) := do
  match (← shake).result? with
  | some (.ok _) => login
  | some (.error e) => return .error e
  | none => return .ok ()

/-- Note what a shell has sent. -/
def requestText : ShellRequest → Option String
  | .data [] => none
  | .data bytes => some ("data " ++ hexText bytes)
  | .window size => some ("window " ++ sizeText size)
  | .eof => some "eof"

/-- The shell has gone on. -/
def keep (shell : Shell) : HopM Unit :=
  modify fun s =>
    { s with
      journal := s.journal ++ shell.sent.filterMap requestText
      shell := some { shell with sent := [] } }

/-- Let something happen to the shell, if there is one. -/
def happen (e : ShellEvent) : HopM Unit := do
  if let some shell := (← get).shell then keep (shell.step e)

/-- Give the shell a command; there is no answer without a shell. -/
def command (e : ShellEvent) : HopM (Option (Except ConnectError Unit)) := do
  let s ← get
  match s.shell with
  | none => return none
  | some shell =>
    match shell.command s.hop.label e with
    | .error e => return some (.error e)
    | .ok shell =>
      keep shell
      return some (.ok ())

def refusal : String := "Failed to open channel (AdministrativelyProhibited)"

def brokenChannel : String := "Channel send error"

/-- Open a shell in the place of the one before. -/
def openShell (size : TerminalSize) : HopM (Except ConnectError Unit) := do
  if !(← get).linked then return .error (.protocol brokenChannel)
  log "open session"
  modify fun s => { s with requested := true }
  if (← get).server.refusesSessions then return .error (.protocol refusal)
  log ("pty " ++ Shell.terminalType ++ " " ++ sizeText size ++ " 0x0 modes=0")
  log "shell"
  happen .abandoned
  modify fun s => { s with shell := some {} }
  return .ok ()

def openTunnel (host : String) (port : Nat) : HopM (Except ConnectError Unit) := do
  let s ← get
  let refused (reason : String) : Except ConnectError Unit :=
    .error (tunnelRefused s.hop.label host port reason)
  if !s.linked then return refused brokenChannel
  log ("direct-tcpip " ++ host ++ ":" ++ toString port ++ " from 127.0.0.1:0")
  return if s.server.refusesTunnels then refused refusal else .ok ()

/-- Close the shell. Gives whether there is one. -/
def closeShell : HopM Bool := do
  happen .close
  return (← get).shell.isSome

/-- Let go of the shell. Gives whether there was one. -/
def dropShell : HopM Bool := do
  happen .abandoned
  let present := (← get).shell.isSome
  modify fun s => { s with shell := none }
  return present

/-- Cut the connection to the server. -/
def unlink : HopM Unit := do
  modify fun s => { s with linked := false }
  happen (.received .sessionEnded)

/-- What the server does by its own will. -/
inductive ServerDeed where
  | send (message : ChannelMessage)
  | disconnect
  deriving DecidableEq, Repr

/-- Let the server act. Gives whether a channel was asked for before. Of no bytes nothing
arrives. -/
def serve (deed : ServerDeed) : HopM Bool := do
  let requested := (← get).requested
  if requested then
    match deed with
    | .send (.data []) | .send (.extended _ []) => pure ()
    | .send m => happen (.received m)
    | .disconnect => unlink
  return requested

/-- A scene whose happenings have been told. -/
def told (s : HopScene) : HopScene := { s with journal := [], shell := s.shell.map Shell.told }

end HopScene

namespace Script

def hopSceneOf (j : Json) : Except Fault HopScene := do
  let settings ← readAt ConnectSettings.ofJson? j "settings" (some {})
  let hop ← hopAt j "hop"
  let answersOf (j : Json) : Option (List String) := j.items?.map fun l => l.filterMap text?
  return {
    settings, hop
    server := serverAt j "server"
    trust := .ofRecords (← (itemsAt j "trust").mapM recordOfServer)
    accept := flagAt j "accept"
    answers := (itemsAt j "answers").map answersOf }

/-- What the server does in a step. A channel that it closes is gone at once. -/
def deedOf? (j : Json) : Option HopScene.ServerDeed :=
  let bytes := unhex (textAt j "hex").toList
  match textAt j "do" with
  | "server_data" => some (.send (.data bytes))
  | "server_extended" => some (.send (.extended (natAt j "ext" 1) bytes))
  | "server_exit" => some (.send (.exitStatus (natAt j "status")))
  | "server_eof" => some (.send .eof)
  | "server_close" => some (.send .sessionEnded)
  | "server_disconnect" => some .disconnect
  | _ => none

end Script

namespace Report

/-- The error of a hop that is used by itself. -/
def hopError (e : ConnectError) : Json :=
  .obj [("error", .str e.kind), ("message", .str e.message), ("transport", .bool e.isTransport)]

def hopOutcome (done : Json) : Except ConnectError Unit → Json
  | .ok _ => done
  | .error e => hopError e

def drop (d : Drop) : Json := texts [d.source.text, d.reason]

/-- A shell after a step, with what has happened since the last one. -/
def shellFields (s : Option Shell) : List (String × Json) :=
  [("output", texts ((s.map Shell.output).getD [] |>.map hexText)),
    ("lifecycle", option drop ((s.map Shell.reports).getD []).head?),
    ("alive", option (fun s => .bool s.alive) s)]

/-- A hop after the attempt to connect it. Of a hop out of reach not even the time is told. -/
def hopFields (result : Except ConnectError Unit) (s : HopScene) : List (String × Json) :=
  [("connect", hopOutcome (.str s.hop.label) result), ("journal", texts s.journal)] ++
    if s.server.mode = .unreachable then []
    else [("t", .nat s.now), ("trust", records ⟨s.trust.forHost s.hop.hostId⟩)]

end Report

end Multiplexer.Rehearsal
