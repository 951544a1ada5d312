import Multiplexer.Rehearsal.Cast
import Multiplexer.Rehearsal.Stage
import Multiplexer.Workspace.Basic

/-!
# A workspace with a cast

Jobs of a workspace take turns on a stage, and the cast answers their calls. A
job goes on as far as it can in one turn.
-/

namespace Multiplexer.Rehearsal

/-- A job with the call that it is in. A name is given to jobs whose end is to be told. -/
structure Engagement where
  name : Option String := none
  job : Job
  deed : Option Deed := none

structure World where
  workspace : Workspace := {}
  cast : Cast := {}
  /-- Ends of named jobs since the last time they were taken out. -/
  ends : List (String × Except WorkspaceError Gain) := []

abbrev WorldM := StateM World

namespace World

def onCast {α : Type} (m : CastM α) : WorldM α := do
  let w ← get
  let (a, cast) := m.run w.cast
  set { w with cast }
  return a

def onConnector (f : Connector → Connector) : WorldM Unit :=
  modify fun w => { w with workspace := { w.workspace with connector := f w.workspace.connector } }

/-- A turn of the workspace; gives the tasks that it starts. -/
def onWorkspace {α : Type} (m : WorkspaceM α) : WorldM (α × List Task) := do
  let w ← get
  let (a, t) := m.run { workspace := w.workspace }
  set { w with workspace := t.workspace }
  return (a, t.started)

def applyCancels : WorldM Unit := do
  for t in ← onCast Cast.takeCancels do
    onConnector (·.cancel t)

def isCancelled (w : World) (t : Token) : Bool := w.workspace.connector.isCancelled t

/-- What a job does at one point of its turn. -/
inductive Move where
  | signal (s : Signal)
  | pause (p : Pause) (deed : Option Deed)

/-- Take a call, or go on with it. -/
def attend (now : Nat) (rang : Bool) (call : Call) (deed : Option Deed) : WorldM Move := do
  let cancelled := (← get).isCancelled
  let progress ← match deed with
    | none => onCast (Cast.begin now cancelled call)
    | some d => if rang then onCast (Cast.resume now d) else pure .stuck
  applyCancels
  match progress with
  | .replied r => return .signal (.reply r)
  | .busy ms d => return .pause (.timed ms) (some d)
  | .stuck => return .pause .idle deed

def move (now : Nat) (rang : Bool) (e : Engagement) : WorldM Move := do
  let w ← get
  let c := w.workspace.connector
  match e.job.wait w.workspace with
  | .nothing => return .pause .over none
  | .call call token =>
    if token.any c.isCancelled then return .signal .cancelled else attend now rang call e.deed
  | .delay ms l =>
    if c.reopener.isCancelled l then return .signal .cancelled
    else if rang || ms = 0 then return .signal .elapsed
    else return .pause (.timed ms) none
  | .report channel generation =>
    if c.stopped.contains generation then return .signal .stopped
    else
      match (c.channel channel).next with
      | (.report d, ch) =>
        onConnector (·.setChannel channel ch)
        return .signal (.reported d)
      | (_, ch) =>
        onConnector (·.setChannel channel ch)
        return .pause .idle none

/-- Go on until the job has to wait. -/
def turnWithin (now : Nat) : Nat → Bool → Engagement → List Task →
    WorldM (Engagement × Pause × List Task)
  | 0, _, e, started => return (e, .over, started)
  | n + 1, rang, e, started => do
    match ← move now rang e with
    | .pause p deed => return ({ e with deed }, p, started)
    | .signal s =>
      let (job, more) ← onWorkspace (e.job.resume s)
      turnWithin now n false { e with job, deed := none } (started ++ more)

def finish (e : Engagement) : WorldM Unit := do
  match e.name, e.job with
  | some name, .over r => modify fun w => { w with ends := w.ends ++ [(name, r)] }
  | some name, .task (.over r) =>
    modify fun w => { w with ends := w.ends ++ [(name, Job.ofResult r)] }
  | _, _ => return ()

def turn (now : Nat) (rang : Bool) (e : Engagement) (w : World) : Turned World Engagement :=
  let run : WorldM (Engagement × Pause × List Task) := do
    let (e, pause, started) ← turnWithin now patience rang e []
    if pause = .over then finish e
    return (e, pause, started)
  let ((process, pause, started), state) := run.run w
  { state, process, pause, started := started.map fun t => { job := .task t } }

/-- Whether a waiting job can go on before its time. -/
def stirred (w : World) (e : Engagement) : Bool :=
  let c := w.workspace.connector
  match e.job.wait w.workspace with
  | .nothing => true
  | .call _ token => token.any c.isCancelled
  | .delay _ l => c.reopener.isCancelled l
  | .report channel generation =>
    c.stopped.contains generation || !(c.channel channel).queue.isEmpty

def play : Play World Engagement := ⟨turn, stirred⟩

end World

abbrev WorldStage := Stage World Engagement

namespace WorldStage

def change {α : Type} (s : WorldStage) (m : WorldM α) : α × WorldStage :=
  Stage.change World.play s m

def advance (s : WorldStage) (ms : Nat) : WorldStage := Stage.advance World.play s ms

/-- Ask the workspace for a job; the tasks that this starts come in after it. -/
def request (s : WorldStage) (name : String) (m : WorkspaceM Job) : WorldStage :=
  let ((job, started), state) := (World.onWorkspace m).run s.state
  let s := { s with state }.enter { name := some name, job }
  started.foldl (fun s t => s.enter { job := .task t }) s

/-- Ask for a job and let it go as far as it can now. -/
def start (s : WorldStage) (name : String) (m : WorkspaceM Job) : WorldStage :=
  (s.request name m).settle World.play

/-- Ask for a job and let time pass until it is over; there is no result if it never ends. -/
def perform (s : WorldStage) (m : WorkspaceM Job) :
    Option (Except WorkspaceError Gain) × WorldStage :=
  let number := s.nextActor
  let s := Stage.awaitWithin World.play number patience (s.start "" m)
  let mine := s.state.ends.lookup ""
  (mine, { s with
    state := { s.state with ends := s.state.ends.filter fun e => e.1 ≠ "" }
    waiting := s.waiting.filter fun a => a.number ≠ number })

end WorldStage

end Multiplexer.Rehearsal
