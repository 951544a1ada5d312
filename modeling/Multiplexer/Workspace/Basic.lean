import Multiplexer.Connector.Task
import Multiplexer.Layout.Edit

/-!
# Workspaces

A workspace binds a layout to a connector: a new pane gets a session of its own,
and a session is given up when no pane shows it any more. Requests that have to
wait are jobs: a task of the connector together with what is to be done in the
layout once it is over.
-/

namespace Multiplexer

inductive WorkspaceError where
  | layout (e : LayoutError)
  | connect (e : ConnectError)
  | registry (e : RegistryError)
  | noSession (pane : PaneId)
  deriving DecidableEq, Repr

def WorkspaceError.message : WorkspaceError → String
  | .layout e => e.message
  | .connect e => e.message
  | .registry e => e.message
  | .noSession p => "Pane " ++ p.text ++ " has no session"

/-- A word for the cause. -/
def WorkspaceError.kind : WorkspaceError → String
  | .layout e => e.kind
  | .connect e => e.kind
  | .registry e => e.kind
  | .noSession _ => "NoSession"

structure Workspace where
  layout : Layout := {}
  connector : Connector := {}
  settings : LayoutSettings := {}
  /-- Notices since the last time they were taken out, oldest first. -/
  notices : List Notice := []

/-- What a job is asked for. -/
inductive Gain where
  | nothing
  | pane (p : PaneId)
  | closed (c : ClosedPane)
  deriving DecidableEq, Repr

inductive Job where
  | task (t : Task)
  /-- Connecting a new pane, which is closed again if that fails. -/
  | opening (pane : PaneId) (t : Task)
  /-- Giving up a new session that found no place in the layout or could not be connected. -/
  | undoing (e : WorkspaceError) (t : Task)
  | closing (c : ClosedPane) (t : Task)
  | clearing (rest : List SessionId) (t : Task)
  | over (result : Except WorkspaceError Gain)

/-- A workspace in the course of a turn, with the tasks that the turn starts. -/
structure WorkspaceTurn where
  workspace : Workspace
  started : List Task := []

abbrev WorkspaceM := StateM WorkspaceTurn

namespace WorkspaceM

def workspace : WorkspaceM Workspace := do return (← get).workspace

/-- A turn of the connector. -/
def onConnector {α : Type} (m : TurnM α) : WorkspaceM α := do
  let t ← get
  let (a, u) := m.run { connector := t.workspace.connector, started := t.started }
  set ({ workspace := { t.workspace with connector := u.connector }, started := u.started } :
    WorkspaceTurn)
  return a

/-- An edit of the layout. -/
def edit {α : Type} (e : Edit α) : WorkspaceM (Except LayoutError α) := do
  let t ← get
  let w := t.workspace
  let (r, layout, notices) := w.layout.run e
  set ({ t with workspace := { w with layout, notices := w.notices ++ notices } } : WorkspaceTurn)
  return r

def create (target : SessionTarget) : WorkspaceM (Except RegistryError Session) := do
  onConnector do
    let c ← TurnM.connector
    match c.registry.create target with
    | .ok (s, registry) =>
      TurnM.update fun c => { c with registry }
      return .ok s
    | .error e => return .error e

end WorkspaceM

open WorkspaceM

namespace Job

def wait (w : Workspace) : Job → Wait
  | .task t | .opening _ t | .undoing _ t | .closing _ t | .clearing _ t =>
    t.wait w.connector.size
  | .over _ => .nothing

def ofResult : Except ConnectError Unit → Except WorkspaceError Gain
  | .ok _ => .ok .nothing
  | .error e => .error (.connect e)

def undo (e : WorkspaceError) : Task → Job
  | .over _ => .over (.error e)
  | t => .undoing e t

def close (c : ClosedPane) : Task → Job
  | .over _ => .over (.ok (.closed c))
  | t => .closing c t

/-- Give up the session of a closed pane, unless another pane shows it. -/
def giveUp (c : ClosedPane) : WorkspaceM Task := do
  match c.session with
  | some id =>
    if c.stillDisplayed then return .over (.ok ()) else onConnector (Connector.destroy id)
  | none => return .over (.ok ())

/-- Close a new pane again. -/
def retract (pane : PaneId) (e : WorkspaceError) : WorkspaceM Job := do
  match ← edit (Layout.close pane) with
  | .ok c => return undo e (← giveUp c)
  | .error _ => return .over (.error e)

/-- Go on once the connection of a new pane has been tried. -/
def opened (pane : PaneId) : Task → WorkspaceM Job
  | .over (.ok _) => return .over (.ok (.pane pane))
  | .over (.error e) => retract pane (.connect e)
  | t => return .opening pane t

/-- Give up one session after the other. -/
def clear (rest : List SessionId) : Task → WorkspaceM Job
  | .over _ => do
    match rest with
    | [] => return .over (.ok .nothing)
    | id :: rest => clear rest (← onConnector (Connector.destroy id))
  | t => return .clearing rest t
termination_by rest.length

def resume (s : Signal) : Job → WorkspaceM Job
  | .task t => do
    match ← onConnector (t.resume s) with
    | .over r => return .over (ofResult r)
    | t => return .task t
  | .opening pane t => do opened pane (← onConnector (t.resume s))
  | .undoing e t => do return undo e (← onConnector (t.resume s))
  | .closing c t => do return close c (← onConnector (t.resume s))
  | .clearing rest t => do clear rest (← onConnector (t.resume s))
  | .over r => return .over r

end Job

namespace Workspace

/-- An empty workspace whose panes split at the default ratio of its settings. -/
def ofSettings (settings : LayoutSettings) (connector : Connector) :
    Except LayoutError Workspace := do
  return { layout := ← Layout.withRatio settings.defaultSplitRatio, connector, settings }

/-- The session that a pane shows. -/
def sessionFor (w : Workspace) (pane : PaneId) : Except WorkspaceError Session :=
  match w.layout.leaf? pane with
  | none => .error (.layout (.paneNotFound pane))
  | some l =>
    match l.session with
    | none => .error (.noSession pane)
    | some id => (w.connector.registry.require id).mapError .registry

def focusedSession (w : Workspace) : Option Session := do
  let l ← w.layout.leaf? (← w.layout.focused)
  w.connector.registry.get? (← l.session)

/-- A session for a new pane, if it is to have one. -/
def newSession (target : Option SessionTarget) :
    WorkspaceM (Except WorkspaceError (Option Session)) := do
  match target with
  | none => return .ok none
  | some target =>
    match ← create target with
    | .ok s => return .ok (some s)
    | .error e => return .error (.registry e)

/-- Give a new session back. -/
def discardSession (session : Option Session) (e : WorkspaceError) : WorkspaceM Job := do
  match session with
  | some s => return Job.undo e (← onConnector (Connector.destroy s.id))
  | none => return .over (.error e)

/-- Put a new pane for a new session into the layout. -/
def place (target : Option SessionTarget) (e : Option SessionId → Edit PaneId) :
    WorkspaceM (Except Job PaneId) := do
  match ← newSession target with
  | .error e => return .error (.over (.error e))
  | .ok session =>
    match ← edit (e (session.map Session.id)) with
    | .ok pane => return .ok pane
    | .error x => return .error (← discardSession session (.layout x))

def placed (r : Except Job PaneId) : Job :=
  match r with
  | .ok pane => .over (.ok (.pane pane))
  | .error job => job

def createRoot (target : Option SessionTarget) : WorkspaceM Job := do
  return placed (← place target Layout.createRoot)

def split (pane : PaneId) (orientation : Orientation) (target : Option SessionTarget) :
    WorkspaceM Job := do
  return placed (← place target (Layout.split pane orientation))

/-- Start to connect the session that a pane shows. -/
def attempt (pane : PaneId) (token : Token) : WorkspaceM (Except WorkspaceError Task) := do
  match (← workspace).sessionFor pane with
  | .error e => return .error e
  | .ok session => return .ok (← onConnector (Connector.connect session token))

/-- Connect a new pane. -/
def connectNew (pane : PaneId) (token : Token) : WorkspaceM Job := do
  match ← attempt pane token with
  | .error e => Job.retract pane e
  | .ok t => Job.opened pane t

def splitAndConnect (pane : PaneId) (orientation : Orientation) (target : SessionTarget)
    (token : Token) : WorkspaceM Job := do
  match ← place (some target) (Layout.split pane orientation) with
  | .ok new => connectNew new token
  | .error job => return job

def mirror (pane : PaneId) (orientation : Orientation) : WorkspaceM Job := do
  match ← edit (Layout.mirror pane orientation) with
  | .ok new => return .over (.ok (.pane new))
  | .error e => return .over (.error (.layout e))

def close (pane : PaneId) : WorkspaceM Job := do
  match ← edit (Layout.close pane) with
  | .ok c => return Job.close c (← Job.giveUp c)
  | .error e => return .over (.error (.layout e))

/-- A new tab with a new session. -/
def addTab (target : SessionTarget) : WorkspaceM (Except Job PaneId) := do
  place (some target) fun
    | some id => Layout.createTab id
    | none => throw .emptyLayout

def openTab (target : SessionTarget) : WorkspaceM Job := do return placed (← addTab target)

def openTabAndConnect (target : SessionTarget) (token : Token) : WorkspaceM Job := do
  match ← addTab target with
  | .ok pane => connectNew pane token
  | .error job => return job

def activateTab (session : SessionId) : WorkspaceM Job := do
  match ← edit (Layout.activate session) with
  | .ok pane => return .over (.ok (.pane pane))
  | .error e => return .over (.error (.layout e))

def navigate (d : Direction) : WorkspaceM (Option PaneId) := do
  match ← edit (Layout.navigate d) with
  | .ok pane => return pane
  | .error _ => return none

def focus (pane : PaneId) : WorkspaceM Job := do
  match ← edit (Layout.setFocused pane) with
  | .ok _ => return .over (.ok .nothing)
  | .error e => return .over (.error (.layout e))

def connect (pane : PaneId) (token : Token) : WorkspaceM Job := do
  match ← attempt pane token with
  | .error e => return .over (.error e)
  | .ok (.over r) => return .over (Job.ofResult r)
  | .ok t => return .task t

/-- Move a divider; the ratio is kept within the bounds of the settings. -/
def resizeSplit (pane : PaneId) (ratio : Binary64) :
    WorkspaceM (Except WorkspaceError Binary64) := do
  let clamped := (← workspace).settings.clampRatio ratio
  match ← edit (Layout.setRatio pane clamped) with
  | .ok _ => return .ok clamped
  | .error e => return .error (.layout e)

/-- Clear the layout and give up every session it showed. -/
def reset : WorkspaceM Job := do
  let sessions := (← workspace).layout.sessions
  let _ ← edit Layout.reset
  Job.clear sessions (.over (.ok ()))

end Workspace

end Multiplexer
