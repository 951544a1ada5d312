import Multiplexer.Connect.Error
import Multiplexer.Json.Value
import Multiplexer.Lifecycle.Latch
import Multiplexer.Settings.Basic

/-!
# Opening dropped serial lines again

Each serial session that has been connected has an entry with its parameters,
a count of attempts and a latch. A drop starts a loop: wait for the fixed delay,
try, and go on while attempts are left and only the transport fails. The count
outlives the loop, and once it is used up the drop is reported by exactly one
caller, until the entry is armed again.

A loop is data between two of its waits. It keeps to the entry it started with,
also when the session is registered anew meanwhile.
-/

namespace Multiplexer

inductive ReopenState where
  | idle
  | waiting
  | attempting
  | reconnected
  | failed
  | cancelled
  deriving DecidableEq, Repr

inductive ReopenEvent where
  | starting (session : SessionId)
  | waiting (session : SessionId) (delayMs attempt : Nat)
  | attempting (session : SessionId) (attempt maxAttempts : Nat)
  | success (session : SessionId) (attempt : Nat)
  | attemptFailed (session : SessionId) (attempt : Nat) (error : String)
  | failed (session : SessionId) (totalAttempts : Nat)
  | cancelled (session : SessionId)
  deriving DecidableEq, Repr

namespace ReopenEvent

def fields : ReopenEvent → List (String × Json)
  | .starting s => [("type", .str "starting"), ("session_id", .str s.text)]
  | .waiting s delay n =>
    [("type", .str "waiting"), ("session_id", .str s.text), ("delay_ms", .nat delay),
      ("attempt", .nat n)]
  | .attempting s n max =>
    [("type", .str "attempting"), ("session_id", .str s.text), ("attempt", .nat n),
      ("max_attempts", .nat max)]
  | .success s n => [("type", .str "success"), ("session_id", .str s.text), ("attempt", .nat n)]
  | .attemptFailed s n e =>
    [("type", .str "attempt_failed"), ("session_id", .str s.text), ("attempt", .nat n),
      ("error", .str e)]
  | .failed s n =>
    [("type", .str "failed"), ("session_id", .str s.text), ("total_attempts", .nat n)]
  | .cancelled s => [("type", .str "cancelled"), ("session_id", .str s.text)]

def toJson (e : ReopenEvent) : Json := .obj e.fields

end ReopenEvent

inductive ReopenOutcome where
  | reconnected (attempt : Nat)
  /-- No more attempts; the caller that is told to notify reports the drop. -/
  | gaveUp (notify : Bool)
  | alreadyReconnecting
  | cancelled
  | notRegistered
  deriving DecidableEq, Repr

structure ReopenEntry where
  number : Nat
  params : SerialParams
  attempts : Nat := 0
  state : ReopenState := .idle
  /-- Whether a loop is running. -/
  reconnecting : Bool := false
  latch : Latch := {}
  /-- The token in use, and whether it has been cancelled; earlier ones have been. -/
  token : Nat := 0
  cancelled : Bool := false
  deriving DecidableEq, Repr

structure Reopener where
  policy : ReopenPolicy := {}
  /-- Every entry ever registered, with those that a loop may still use. -/
  entries : List ReopenEntry := []
  registered : List (SessionId × Nat) := []
  nextNumber : Nat := 0
  deriving DecidableEq, Repr

/-- A running loop: its entry, the token and the policy that it started with, and the attempt
it is at. -/
structure ReopenLoop where
  session : SessionId
  entry : Nat
  token : Nat
  policy : ReopenPolicy
  attempt : Nat
  deriving DecidableEq, Repr

/-- Where a loop stops: for good, or until its delay is over. -/
inductive ReopenPause where
  | ended (outcome : ReopenOutcome)
  | delayed (loop : ReopenLoop)
  deriving DecidableEq, Repr

namespace Reopener

def entry? (r : Reopener) (session : SessionId) : Option ReopenEntry := do
  let n ← r.registered.lookup session
  r.entries.find? fun e => e.number == n

def update (r : Reopener) (number : Nat) (f : ReopenEntry → ReopenEntry) : Reopener :=
  { r with entries := r.entries.map fun e => if e.number = number then f e else e }

def onEntry (r : Reopener) (session : SessionId) (f : ReopenEntry → ReopenEntry) : Reopener :=
  match r.registered.lookup session with
  | some n => r.update n f
  | none => r

def cancel (r : Reopener) (session : SessionId) : Reopener :=
  r.onEntry session fun e => { e with cancelled := true }

def unregister (r : Reopener) (session : SessionId) : Reopener :=
  let r := r.cancel session
  { r with registered := r.registered.filter fun x => x.1 ≠ session }

/-- A fresh entry for a session; the loop of an earlier one is cancelled. -/
def register (r : Reopener) (session : SessionId) (params : SerialParams) : Reopener :=
  let r := r.unregister session
  { r with
    entries := r.entries ++ [{ number := r.nextNumber, params }]
    registered := (session, r.nextNumber) :: r.registered
    nextNumber := r.nextNumber + 1 }

/-- Allow all attempts again, and arm the latch and the token. -/
def reset (r : Reopener) (session : SessionId) : Reopener :=
  r.onEntry session fun e =>
    { e with
      attempts := 0
      latch := e.latch.rearm
      state := .idle
      token := if e.cancelled then e.token + 1 else e.token
      cancelled := false }

def setPolicy (r : Reopener) (policy : ReopenPolicy) : Reopener := { r with policy }

def isRegistered (r : Reopener) (session : SessionId) : Bool := (r.entry? session).isSome

def params? (r : Reopener) (session : SessionId) : Option SerialParams :=
  (r.entry? session).map ReopenEntry.params

def attempts (r : Reopener) (session : SessionId) : Nat :=
  ((r.entry? session).map ReopenEntry.attempts).getD 0

def state (r : Reopener) (session : SessionId) : ReopenState :=
  ((r.entry? session).map ReopenEntry.state).getD .idle

def isReconnecting (r : Reopener) (session : SessionId) : Bool :=
  (r.entry? session).any ReopenEntry.reconnecting

/-- Whether the token that a loop started with has been cancelled. -/
def isCancelled (r : Reopener) (l : ReopenLoop) : Bool :=
  match r.entries.find? fun e => e.number == l.entry with
  | some e => decide (l.token < e.token) || e.cancelled
  | none => true

/-- What a step of a loop does to the entries and tells. -/
abbrev Step := Reopener × List ReopenEvent × ReopenPause

/-- End a loop; the entry is free for another. -/
def finish (r : Reopener) (number : Nat) (events : List ReopenEvent) (o : ReopenOutcome) : Step :=
  (r.update number fun e => { e with reconnecting := false }, events, .ended o)

/-- Trip the latch of an entry. -/
def giveUp (r : Reopener) (number : Nat) : Bool × Reopener :=
  match r.entries.find? fun e => e.number == number with
  | some e =>
    let (first, latch) := e.latch.trip
    (first, r.update number fun e => { e with latch })
  | none => (false, r)

/-- All attempts are used up, or there is no point in another. -/
def fail (r : Reopener) (l : ReopenLoop) (events : List ReopenEvent) : Step :=
  let r := r.update l.entry fun e => { e with state := .failed }
  let total := ((r.entries.find? fun e => e.number == l.entry).map ReopenEntry.attempts).getD 0
  let (notify, r) := r.giveUp l.entry
  r.finish l.entry (if notify then events ++ [.failed l.session total] else events) (.gaveUp notify)

/-- Count the next attempt and wait for it, if one is left. -/
def next (r : Reopener) (l : ReopenLoop) (events : List ReopenEvent) : Step :=
  let used := ((r.entries.find? fun e => e.number == l.entry).map ReopenEntry.attempts).getD 0
  if used < l.policy.maxAttempts then
    let attempt := used + 1
    let r := r.update l.entry fun e => { e with attempts := attempt, state := .waiting }
    (r, events ++ [.waiting l.session l.policy.delayMs attempt], .delayed { l with attempt })
  else r.fail l events

/-- React to the drop of a session. -/
def drop (r : Reopener) (session : SessionId) : Step :=
  match r.entry? session with
  | none => (r, [], .ended .notRegistered)
  | some e =>
    if e.reconnecting then (r, [], .ended .alreadyReconnecting)
    else
      let r := r.update e.number fun e => { e with reconnecting := true }
      if r.policy.enabled then
        let l : ReopenLoop :=
          { session, entry := e.number, token := e.token, policy := r.policy, attempt := 0 }
        r.next l (if e.attempts < r.policy.maxAttempts then [.starting session] else [])
      else
        let (notify, r) := r.giveUp e.number
        r.finish e.number [] (.gaveUp notify)

/-- The loop was called off. -/
def calledOff (r : Reopener) (l : ReopenLoop) : Step :=
  let r := r.update l.entry fun e => { e with state := .cancelled }
  r.finish l.entry [.cancelled l.session] .cancelled

/-- The delay is over: the parameters to connect with. -/
def attempt (r : Reopener) (l : ReopenLoop) : Reopener × List ReopenEvent × Option SerialParams :=
  let r := r.update l.entry fun e => { e with state := .attempting }
  (r, [.attempting l.session l.attempt l.policy.maxAttempts],
    (r.entries.find? fun e => e.number == l.entry).map ReopenEntry.params)

/-- The attempt succeeded. -/
def succeeded (r : Reopener) (l : ReopenLoop) : Step :=
  let r := r.update l.entry fun e =>
    { e with attempts := 0, latch := e.latch.rearm, state := .reconnected }
  r.finish l.entry [.success l.session l.attempt] (.reconnected l.attempt)

/-- The attempt failed. -/
def refused (r : Reopener) (l : ReopenLoop) (error : ConnectError) : Step :=
  if r.isCancelled l || error == .cancelled then r.calledOff l
  else
    let events := [.attemptFailed l.session l.attempt error.message]
    if error.isTransport then r.next l events else r.fail l events

end Reopener

end Multiplexer
