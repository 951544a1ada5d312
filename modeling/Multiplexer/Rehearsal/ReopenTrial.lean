import Multiplexer.Rehearsal.Stage
import Multiplexer.Reopen.Reopener

/-!
# Reopening with scripted attempts

The loops of one reopener on a stage. Each attempt of a loop ends as its script
says; the last line of a script is repeated.
-/

namespace Multiplexer.Rehearsal

/-- How an attempt ends. -/
structure ScriptedAttempt where
  delayMs : Nat := 0
  /-- The session is called off meanwhile. -/
  cancel : Bool := false
  error : Option ConnectError := none

structure ReopenScene where
  reopener : Reopener := {}
  /-- Since the last time they were taken out, like the calls and the ends. -/
  events : List ReopenEvent := []
  calls : List (SessionId × SerialParams) := []
  ends : List (SessionId × ReopenOutcome) := []

inductive TrialStage where
  | dropped
  | delayed (l : ReopenLoop)
  | trying (l : ReopenLoop) (a : ScriptedAttempt)

structure ReopenTrial where
  session : SessionId
  script : List ScriptedAttempt
  stage : TrialStage := .dropped

abbrev ReopenM := StateM ReopenScene

namespace ReopenScene

def onReopener (f : Reopener → Reopener) : ReopenM Unit :=
  modify fun s => { s with reopener := f s.reopener }

/-- Enter a step of a loop. The loop that it pauses at, if it has not ended. -/
def take (session : SessionId) (step : Reopener.Step) : ReopenM (Option ReopenLoop) := do
  let (reopener, events, pause) := step
  modify fun s => { s with reopener, events := s.events ++ events }
  match pause with
  | .delayed l => return some l
  | .ended o =>
    modify fun s => { s with ends := s.ends ++ [(session, o)] }
    return none

def attemptOver (l : ReopenLoop) (a : ScriptedAttempt) : ReopenM (Option ReopenLoop) := do
  if a.cancel then onReopener (·.cancel l.session)
  let r := (← get).reopener
  take l.session (match a.error with
    | some e => r.refused l e
    | none => r.succeeded l)

def turnWithin : Nat → Bool → ReopenTrial → ReopenM (ReopenTrial × Pause)
  | 0, _, t => return (t, .over)
  | n + 1, rang, t => do
    let goOn (t : ReopenTrial) : Option ReopenLoop → ReopenM (ReopenTrial × Pause)
      | some l => turnWithin n false { t with stage := .delayed l }
      | none => return (t, .over)
    let r := (← get).reopener
    match t.stage with
    | .dropped => goOn t (← take t.session (r.drop t.session))
    | .delayed l =>
      if r.isCancelled l then goOn t (← take t.session (r.calledOff l))
      else if rang || l.policy.delayMs = 0 then
        let (r, events, params) := r.attempt l
        let calls := params.toList.map fun p => (t.session, p)
        modify fun s =>
          { s with reopener := r, events := s.events ++ events, calls := s.calls ++ calls }
        let a := t.script.headD {}
        let t := { t with script := if t.script.length > 1 then t.script.tail else t.script }
        if a.delayMs = 0 then goOn t (← attemptOver l a)
        else return ({ t with stage := .trying l a }, .timed a.delayMs)
      else return (t, .timed l.policy.delayMs)
    | .trying l a =>
      if rang then goOn t (← attemptOver l a) else return (t, .timed a.delayMs)

def play : Play ReopenScene ReopenTrial where
  turn _ rang t s :=
    let ((process, pause), state) := (turnWithin patience rang t).run s
    { state, process, pause }
  stirred s t :=
    match t.stage with
    | .delayed l => s.reopener.isCancelled l
    | _ => false

end ReopenScene

end Multiplexer.Rehearsal
