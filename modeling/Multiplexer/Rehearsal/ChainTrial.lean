import Multiplexer.Chain.Run
import Multiplexer.Rehearsal.Cast
import Multiplexer.Rehearsal.Stage

/-!
# One chain with a cast

A single attempt to connect a chain, and what is then asked of the connection.
-/

namespace Multiplexer.Rehearsal

structure ChainScene where
  cast : Cast := {}
  cancelled : List Token := []
  finished : Option ChainRun := none

structure ChainAttempt where
  run : ChainRun
  token : Token
  size : TerminalSize
  deed : Option Deed := none

abbrev ChainM := StateM ChainScene

namespace ChainScene

def onCast {α : Type} (m : CastM α) : ChainM α := do
  let s ← get
  let (a, cast) := m.run s.cast
  let (cancels, cast) := Cast.takeCancels.run cast
  set { s with cast, cancelled := s.cancelled ++ cancels }
  return a

def turnWithin (now : Nat) : Nat → Bool → ChainAttempt → ChainM (ChainAttempt × Pause)
  | 0, _, a => return (a, .over)
  | n + 1, rang, a => do
    match a.run.call a.size ⟨0⟩ with
    | none =>
      modify fun s => { s with finished := some a.run }
      return (a, .over)
    | some call =>
      let cancelled := (← get).cancelled
      if a.run.cancellable && cancelled.contains a.token then
        turnWithin now n false { a with run := a.run.cancel, deed := none }
      else
        let progress ← match a.deed with
          | none => onCast (Cast.begin now cancelled.contains call)
          | some d => if rang then onCast (Cast.resume now d) else pure .stuck
        match progress with
        | .replied r => turnWithin now n false { a with run := a.run.answer r, deed := none }
        | .busy ms d => return ({ a with deed := some d }, .timed ms)
        | .stuck => return (a, .idle)

def play : Play ChainScene ChainAttempt where
  turn now rang a s :=
    let ((process, pause), state) := (turnWithin now patience rang a).run s
    { state, process, pause }
  stirred s a := a.run.cancellable && s.cancelled.contains a.token

/-- Connect a chain; there is no connection if that never ends. -/
def connect (s : ChainScene) (hops : List Hop) (token : Token) (size : TerminalSize) : ChainScene :=
  let stage : Stage ChainScene ChainAttempt := { state := s }
  (stage.perform play { run := .start hops, token, size }).state

/-- Make calls one after the other. -/
def callAll (calls : List Call) : CastM Unit := do
  for call in calls do
    let _ ← Cast.begin 0 (fun _ => false) call

/-- Open a tunnel from a connection; there is no answer if that never ends. -/
def openTunnel (c : Connection) (host : String) (port : Nat) : CastM (Option Reply) := do
  match c.tunnelCall host port with
  | .error e => return some (.failed e)
  | .ok call =>
    match ← Cast.begin 0 (fun _ => false) call with
    | .replied r => return some r
    | _ => return none

end ChainScene

end Multiplexer.Rehearsal
