/-!
# A stage with a clock

Several processes take turns over one state. A process that has had its turn
waits for the state to change, or for some time to pass, and time passes only
when no process can go on. Turns are given in the order in which processes
become ready, and alarms ring in the order of their times, at the same time in
the order in which they were set.
-/

namespace Multiplexer.Rehearsal

/-- What a process does after a turn. -/
inductive Pause where
  | over
  /-- Wait until it is stirred. -/
  | idle
  /-- Wait until it is stirred or the time has passed. -/
  | timed (ms : Nat)
  deriving DecidableEq, Repr

/-- What a turn leaves, with the processes that it starts. -/
structure Turned (σ π : Type) where
  state : σ
  process : π
  pause : Pause
  started : List π := []

/-- How processes go on. `turn` is told the time and whether the alarm of the process rang. -/
structure Play (σ π : Type) where
  turn : Nat → Bool → π → σ → Turned σ π
  /-- Whether a waiting process can go on. -/
  stirred : σ → π → Bool

structure Alarm where
  time : Nat
  order : Nat
  deriving DecidableEq, Repr

structure Actor (π : Type) where
  number : Nat
  process : π
  alarm : Option Alarm := none

structure Stage (σ π : Type) where
  now : Nat := 0
  state : σ
  waiting : List (Actor π) := []
  /-- Whose turn it is next, and whether by an alarm. -/
  ready : List (Bool × Actor π) := []
  nextActor : Nat := 0
  nextAlarm : Nat := 0

/-- Greatest number of turns that are given without a pause. -/
def patience : Nat := 100000

namespace Stage

variable {σ π : Type}

/-- Bring a process in; its first turn comes last. -/
def enter (s : Stage σ π) (process : π) : Stage σ π :=
  { s with
    ready := s.ready ++ [(false, { number := s.nextActor, process })]
    nextActor := s.nextActor + 1 }

/-- Let every process that was stirred have a turn. -/
def stir (play : Play σ π) (s : Stage σ π) : Stage σ π :=
  let (up, waiting) := s.waiting.partition fun a => play.stirred s.state a.process
  { s with waiting, ready := s.ready ++ up.map fun a => (false, a) }

/-- Put a process aside after its turn. -/
def rest (s : Stage σ π) (a : Actor π) (process : π) : Pause → Stage σ π
  | .over => s
  | .idle => { s with waiting := s.waiting ++ [{ a with process, alarm := none }] }
  | .timed ms =>
    { s with
      waiting := s.waiting ++ [{ a with process, alarm := some ⟨s.now + ms, s.nextAlarm⟩ }]
      nextAlarm := s.nextAlarm + 1 }

/-- Give the next turn, if it is anyone's. -/
def step (play : Play σ π) (s : Stage σ π) : Option (Stage σ π) :=
  match s.ready with
  | [] => none
  | (rang, a) :: ready =>
    let t := play.turn s.now rang a.process s.state
    let s := { s with state := t.state, ready }.rest a t.process t.pause
    some ((t.started.foldl enter s).stir play)

def settleWithin (play : Play σ π) : Nat → Stage σ π → Stage σ π
  | 0, s => s
  | n + 1, s =>
    match s.step play with
    | none => s
    | some s => settleWithin play n s

/-- Give turns until nobody can go on. -/
def settle (play : Play σ π) (s : Stage σ π) : Stage σ π :=
  settleWithin play patience (s.stir play)

/-- The time of the next alarm. -/
def nextTime? (s : Stage σ π) : Option Nat :=
  ((s.waiting.filterMap Actor.alarm).map Alarm.time).min?

/-- Let the alarms of a time ring. -/
def ring (s : Stage σ π) (time : Nat) : Stage σ π :=
  let (due, waiting) := s.waiting.partition fun a => a.alarm.any fun x => x.time = time
  let order (a : Actor π) : Nat := (a.alarm.map Alarm.order).getD 0
  let due := due.mergeSort fun a b => decide (order a ≤ order b)
  { s with now := max s.now time, waiting, ready := s.ready ++ due.map fun a => (true, a) }

def advanceWithin (play : Play σ π) (target : Nat) : Nat → Stage σ π → Stage σ π
  | 0, s => s
  | n + 1, s =>
    match s.nextTime?.filter (· ≤ target) with
    | none => s
    | some time => advanceWithin play target n ((s.ring time).settle play)

/-- Let time pass. -/
def advance (play : Play σ π) (s : Stage σ π) (ms : Nat) : Stage σ π :=
  let target := s.now + ms
  { advanceWithin play target patience s with now := target }

def awaitWithin (play : Play σ π) (number : Nat) : Nat → Stage σ π → Stage σ π
  | 0, s => s
  | n + 1, s =>
    if s.waiting.any fun a => a.number == number then
      match s.nextTime? with
      | none => s
      | some time => awaitWithin play number n ((s.ring time).settle play)
    else s

/-- Bring a process in and let time pass until it is over, or nothing more can happen. -/
def perform (play : Play σ π) (s : Stage σ π) (process : π) : Stage σ π :=
  awaitWithin play s.nextActor patience ((s.enter process).settle play)

/-- Bring a process in and let it go as far as it can now. -/
def start (play : Play σ π) (s : Stage σ π) (process : π) : Stage σ π :=
  (s.enter process).settle play

/-- Change the state from outside. -/
def change {α : Type} (play : Play σ π) (s : Stage σ π) (m : StateM σ α) : α × Stage σ π :=
  let (a, state) := m.run s.state
  (a, { s with state }.settle play)

end Stage

end Multiplexer.Rehearsal
