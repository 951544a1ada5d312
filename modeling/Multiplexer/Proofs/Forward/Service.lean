import Mathlib.Data.List.Basic
import Mathlib.Data.List.Perm.Basic
import Multiplexer.Forward.Forwarder

/-!
# Calls on a forwarder

Any number of calls that start or stop the forwards of sessions, on one forwarder.
A start goes on when its bind is answered, and a stop when the forward that it told
last has come to its end or has taken too long. Between two such moments anything
else can happen, and a call can be cancelled at any time.
-/

namespace Multiplexer

structure StartCall where
  session : SessionId
  cancelled : Bool
  pause : ForwardPause

structure StopCall where
  session : SessionId
  cancelled : Bool
  /-- What ran for the session; the call returns how many. -/
  taken : List RunningForward
  /-- What has been told to stop, one after the other. -/
  told : List RunningForward
  pause : StopPause

namespace StopPause

def rest : StopPause → List RunningForward
  | .waiting rest => rest
  | .ended => []

/-- How often a stop has still to go on. -/
def left : StopPause → Nat
  | .waiting rest => rest.length + 1
  | .ended => 0

variable (cancelled : Bool) (rest : List RunningForward)

/-- What is told now and what is left make up what there was to tell. -/
theorem told_next : (next cancelled rest).1 ++ (next cancelled rest).2.rest = rest := by
  cases rest with
  | nil => rfl
  | cons r rest => cases cancelled <;> simp [next, StopPause.rest]

theorem left_next_le : (next cancelled rest).2.left ≤ rest.length := by
  cases rest with
  | nil => exact Nat.le_refl 0
  | cons r rest => cases cancelled <;> simp [next, left]

end StopPause

namespace StopCall

def goOn (c : StopCall) (rest : List RunningForward) : StopCall :=
  let p := StopPause.next c.cancelled rest
  { c with told := c.told ++ p.1, pause := p.2 }

def waited (c : StopCall) : StopCall :=
  match c.pause with
  | .waiting rest => c.goOn rest
  | .ended => c

/-- What a stop returns in the end. -/
def result? (c : StopCall) : Option Nat :=
  match c.pause with
  | .waiting _ => none
  | .ended => some c.taken.length

end StopCall

structure Service where
  forwarder : Forwarder := {}
  /-- All calls ever made, in order. -/
  starts : List StartCall := []
  stops : List StopCall := []

namespace Service

inductive Event where
  | addRule (hostId : String) (rule : ForwardRule)
  | start (session : SessionId) (hostId : String) (cancelled : Bool)
  | answer (call : Nat) (answer : Except BindFault String)
  | cancelStart (call : Nat)
  | stop (session : SessionId) (cancelled : Bool)
  | waited (call : Nat)
  | cancelStop (call : Nat)

/-- A start that waits for a bind, with the rule that it is at. -/
def binding? (s : Service) (n : Nat) : Option (StartCall × ForwardRule × ForwardStart) := do
  let c ← s.starts[n]?
  match c.pause with
  | .binding rule rest => some (c, rule, rest)
  | .ended _ => none

def step (s : Service) : Event → Service
  | .addRule hostId rule => { s with forwarder := s.forwarder.addRule hostId rule }
  | .start id hostId cancelled =>
    { s with starts := s.starts ++ [⟨id, cancelled, s.forwarder.begin id hostId cancelled⟩] }
  | .answer n a =>
    match s.binding? n with
    | some (c, rule, rest) =>
      let p := s.forwarder.bound rule rest c.cancelled a
      { s with forwarder := p.2, starts := s.starts.set n { c with pause := p.1 } }
    | none => s
  | .cancelStart n => { s with starts := s.starts.modify n fun c => { c with cancelled := true } }
  | .stop id cancelled =>
    let (taken, forwarder) := s.forwarder.stop id
    { s with
      forwarder
      stops := s.stops ++ [StopCall.goOn ⟨id, cancelled, taken, [], .waiting taken⟩ taken] }
  | .waited n => { s with stops := s.stops.modify n StopCall.waited }
  | .cancelStop n => { s with stops := s.stops.modify n fun c => { c with cancelled := true } }

def run (s : Service) (xs : List Event) : Service := xs.foldl step s

variable {s : Service} {n : Nat} {id : SessionId}

theorem run_cons (s : Service) (x : Event) (xs : List Event) :
    s.run (x :: xs) = (s.step x).run xs := rfl

/-- A start waits for a bind exactly when its pause says so. -/
theorem binding?_eq_some {c : StartCall} {rule : ForwardRule} {rest : ForwardStart} :
    s.binding? n = some (c, rule, rest) ↔ s.starts[n]? = some c ∧ c.pause = .binding rule rest := by
  unfold binding?
  cases hn : s.starts[n]? with
  | none => simp
  | some c' =>
    cases hpause : c'.pause with
    | binding rule' rest' =>
      simp only [Option.bind_eq_bind, Option.bind_some, hpause, Option.some.injEq, Prod.mk.injEq]
      constructor
      · rintro ⟨rfl, rfl, rfl⟩
        exact ⟨rfl, hpause⟩
      · rintro ⟨rfl, hsame⟩
        exact ⟨rfl, ForwardPause.binding.inj (hpause.symm.trans hsame)⟩
    | ended result =>
      simp only [Option.bind_eq_bind, Option.bind_some, hpause, reduceCtorEq, Option.some.injEq,
        false_iff, not_and]
      rintro rfl hsame
      cases hpause.symm.trans hsame

end Service

end Multiplexer
