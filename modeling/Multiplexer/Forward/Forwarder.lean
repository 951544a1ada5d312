import Multiplexer.Forward.Rule

/-!
# Forwards of a session

When a session connects, the rules of its host that start by themselves are
tried in order. Each gives a handle, and one that fails does not stop the next;
only being called off ends a start early, and what runs by then goes on running.
When the session ends, everything that runs for it is told to stop, one forward
after the other.

Binding a port and the end of a forward are up to others: a start is data between
two of its binds, and a stop between two of its waits.
-/

namespace Multiplexer

inductive ForwardError where
  | bind (address reason : String)
  | unsupported (type : ForwardType)
  | cancelled
  | io (reason : String)
  deriving DecidableEq, Repr

def ForwardType.shown : ForwardType → String
  | .localPort => "Local"
  | .remotePort => "Remote"
  | .dynamicPort => "Dynamic"

namespace ForwardError

def message : ForwardError → String
  | bind address reason => "Failed to bind " ++ address ++ ": " ++ reason
  | unsupported type => type.shown ++ " forwarding is not supported here"
  | cancelled => "Forwarding cancelled"
  | io reason => "IO error: " ++ reason

/-- A word for the cause. -/
def kind : ForwardError → String
  | bind _ _ => "Bind"
  | unsupported _ => "Unsupported"
  | cancelled => "Cancelled"
  | io _ => "Io"

end ForwardError

/-- Why there is no listener on an address. -/
inductive BindFault where
  | addressInUse
  | permissionDenied
  | other (reason : String)
  /-- The port was bound, but there is no telling to which address. -/
  | unaddressed (reason : String)
  deriving DecidableEq, Repr

def BindFault.error (rule : ForwardRule) : BindFault → ForwardError
  | .addressInUse => .bind rule.bindAddr "port already in use"
  | .permissionDenied => .bind rule.bindAddr "ports below 1024 require elevated privileges"
  | .other reason => .bind rule.bindAddr reason
  | .unaddressed reason => .io reason

structure RunningForward where
  number : Nat
  rule : ForwardRule
  handle : ForwardHandle
  deriving DecidableEq, Repr

structure Forwarder where
  /-- Rules with the host they are for, in the order in which they were added. -/
  rules : List (String × ForwardRule) := []
  running : List RunningForward := []
  nextNumber : Nat := 0
  deriving DecidableEq, Repr

/-- A start that has not come to its end. -/
structure ForwardStart where
  session : SessionId
  todo : List ForwardRule
  handles : List ForwardHandle := []
  deriving DecidableEq, Repr

/-- What a start waits for, or how it has ended. -/
inductive ForwardPause where
  | binding (rule : ForwardRule) (rest : ForwardStart)
  | ended (result : Except ForwardError (List ForwardHandle))

/-- How many rules a start has still to come to, with the one that it is at. -/
def ForwardPause.left : ForwardPause → Nat
  | .binding _ rest => rest.todo.length + 1
  | .ended _ => 0

/-- What a stop waits for: that the forward told last comes to its end, which it does within a
few seconds or not at all. -/
inductive StopPause where
  | waiting (rest : List RunningForward)
  | ended
  deriving DecidableEq, Repr

namespace ForwardHandle

def active (rule : ForwardRule) (session : SessionId) (bound : String) : ForwardHandle :=
  ⟨rule.id, session, .localPort, some bound, .active, none⟩

def failed (rule : ForwardRule) (session : SessionId) (e : ForwardError) : ForwardHandle :=
  ⟨rule.id, session, rule.type, none, .error, some e.message⟩

end ForwardHandle

namespace ForwardStart

/-- Go on to the next bind. Rules of the other types fail at once. -/
def next (cancelled : Bool) (session : SessionId) (handles : List ForwardHandle) :
    List ForwardRule → ForwardPause
  | [] => .ended (.ok handles)
  | rule :: rest =>
    if cancelled then .ended (.error .cancelled)
    else
      match rule.type with
      | .localPort => .binding rule { session, todo := rest, handles }
      | type => next cancelled session (handles ++ [.failed rule session (.unsupported type)]) rest

theorem left_next_le (cancelled : Bool) (session : SessionId) (handles : List ForwardHandle)
    (rules : List ForwardRule) : (next cancelled session handles rules).left ≤ rules.length := by
  induction rules generalizing handles with
  | nil => exact Nat.le_refl 0
  | cons rule rest ih =>
    simp only [next, List.length_cons]
    split
    · exact Nat.zero_le _
    · split
      · exact Nat.le_refl _
      · exact Nat.le_succ_of_le (ih _)

end ForwardStart

/-- Tell the next forward to stop, or all of them if the stop is called off: what is told, and
what the stop waits for then. -/
def StopPause.next (cancelled : Bool) : List RunningForward → List RunningForward × StopPause
  | [] => ([], .ended)
  | r :: rest => if cancelled then (r :: rest, .ended) else ([r], .waiting rest)

namespace Forwarder

def addRule (f : Forwarder) (hostId : String) (rule : ForwardRule) : Forwarder :=
  { f with rules := f.rules ++ [(hostId, rule)] }

def rulesFor (f : Forwarder) (hostId : String) : List ForwardRule :=
  (f.rules.filter fun r => r.1 == hostId).map (·.2)

def runningFor (f : Forwarder) (session : SessionId) : List RunningForward :=
  f.running.filter fun r => r.handle.session == session

def activeFor (f : Forwarder) (session : SessionId) : List ForwardHandle :=
  (f.runningFor session).map RunningForward.handle

/-- Begin to start the rules of a host. -/
def begin (f : Forwarder) (session : SessionId) (hostId : String) (cancelled : Bool) :
    ForwardPause :=
  ForwardStart.next cancelled session [] ((f.rulesFor hostId).filter ForwardRule.autoStart)

/-- A bind has succeeded with an address, or failed for a reason. -/
def bound (f : Forwarder) (rule : ForwardRule) (s : ForwardStart) (cancelled : Bool) :
    Except BindFault String → ForwardPause × Forwarder
  | .ok address =>
    let handle := ForwardHandle.active rule s.session address
    (ForwardStart.next cancelled s.session (s.handles ++ [handle]) s.todo,
      { f with
        running := f.running ++ [⟨f.nextNumber, rule, handle⟩]
        nextNumber := f.nextNumber + 1 })
  | .error fault =>
    let handle := ForwardHandle.failed rule s.session (fault.error rule)
    (ForwardStart.next cancelled s.session (s.handles ++ [handle]) s.todo, f)

/-- Stop what runs for a session; gives what was told to stop. -/
def stop (f : Forwarder) (session : SessionId) : List RunningForward × Forwarder :=
  (f.runningFor session,
    { f with running := f.running.filter fun r => r.handle.session ≠ session })

theorem left_bound_lt (f : Forwarder) (rule : ForwardRule) (s : ForwardStart) (cancelled : Bool)
    (answer : Except BindFault String) :
    (f.bound rule s cancelled answer).1.left < (ForwardPause.binding rule s).left := by
  cases answer <;> exact Nat.lt_succ_of_le (ForwardStart.left_next_le ..)

/-- Start the rules of a host where binds are answered at once. -/
def startWith (bind : Forwarder → ForwardRule → Except BindFault String) (cancelled : Bool)
    (f : Forwarder) : ForwardPause → Except ForwardError (List ForwardHandle) × Forwarder
  | .ended result => (result, f)
  | .binding rule s =>
    let p := f.bound rule s cancelled (bind f rule)
    startWith bind cancelled p.2 p.1
termination_by pause => pause.left
decreasing_by exact left_bound_lt ..

def start (f : Forwarder) (bind : Forwarder → ForwardRule → Except BindFault String)
    (session : SessionId) (hostId : String) (cancelled : Bool) :
    Except ForwardError (List ForwardHandle) × Forwarder :=
  startWith bind cancelled f (f.begin session hostId cancelled)

end Forwarder

end Multiplexer
