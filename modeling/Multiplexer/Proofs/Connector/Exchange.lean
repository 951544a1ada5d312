import Multiplexer.Proofs.Connector.Move

/-!
# Exchanges

A connector with all that acts on it. From outside come requests, reports into
any channel that was ever handed out, and the ends of calls and delays; a task
goes on when something comes that it waits for. A ledger tells which reports were
published, which connections were attached and which drops were handled.
-/

namespace Multiplexer

open TurnM

structure Attachment where
  session : Session
  generation : Nat
  channel : ChannelId
  connection : Connection
  deriving DecidableEq

/-- The handling of a drop: the connection is closed and what follows is up to the watch. -/
structure Handling where
  session : Session
  generation : Nat
  channel : ChannelId
  drop : Drop
  deriving DecidableEq

structure Ledger where
  published : List (ChannelId × Drop) := []
  attached : List Attachment := []
  handled : List Handling := []

/-- What the reopening of lines can be told from outside. -/
inductive Order where
  | register (params : SerialParams)
  | unregister
  | reset
  | cancel
  deriving DecidableEq

namespace Order

def carryOut (id : SessionId) (r : Reopener) : Order → Reopener
  | .register params => r.register id params
  | .unregister => r.unregister id
  | .reset => r.reset id
  | .cancel => r.cancel id

end Order

namespace Connector

def hears (c : Connector) (t : Task) (s : Signal) : Bool :=
  match t.wait c.size, s with
  | .call _ _, .reply _ => true
  | .call _ (some token), .cancelled => c.isCancelled token
  | .delay _ l, .cancelled => c.reopener.isCancelled l
  | .delay _ _, .elapsed => true
  | .report channel _, .reported d => (c.channel channel).next.1 == .report d
  | .report _ generation, .stopped => c.stopped.contains generation
  | _, _ => false

/-- A report is taken out of its channel before the turn. -/
def taking (c : Connector) (t : Task) (s : Signal) : Connector :=
  match t, s with
  | .watch _ (.watching _ channel), .reported _ =>
    c.setChannel channel (c.channel channel).next.2
  | _, _ => c

end Connector

/-- The connections that were attached in a turn. -/
def attachments (v : Turn) : List Attachment :=
  v.started.filterMap fun
    | .watch session (.watching generation channel) =>
      (v.connector.status session.id).connection.map fun connection =>
        ⟨session, generation, channel, connection⟩
    | _ => none

/-- The handling of a drop that a turn has begun. -/
def handling : Task → Task → Option Handling
  | .watch session (.watching generation channel), .watch _ (.closing drop _) =>
    some ⟨session, generation, channel, drop⟩
  | _, _ => none

structure Exchange where
  connector : Connector := {}
  tasks : List Task := []
  /-- The sessions that were ever registered. -/
  sessions : List Session := []
  ledger : Ledger := {}

namespace Exchange

inductive Event where
  | create (target : SessionTarget)
  | forget (id : SessionId)
  | limit (max : Nat)
  | connect (session : Session) (token : Token)
  | disconnect (id : SessionId)
  | destroy (id : SessionId)
  | cancel (token : Token)
  | publish (channel : ChannelId) (d : Drop)
  | order (id : SessionId) (o : Order)
  | policy (p : ReopenPolicy)
  | resume (n : Nat) (s : Signal)

def engage (s : Exchange) (m : TurnM Task) : Exchange :=
  let r := exec m ⟨s.connector, []⟩
  { s with
    connector := r.2.connector
    tasks := s.tasks ++ r.1 :: r.2.started
    ledger := { s.ledger with attached := s.ledger.attached ++ attachments r.2 } }

def resume (s : Exchange) (n : Nat) (t : Task) (signal : Signal) : Exchange :=
  let r := exec (t.resume signal) ⟨s.connector.taking t signal, []⟩
  { s with
    connector := r.2.connector
    tasks := s.tasks.set n r.1 ++ r.2.started
    ledger :=
      { s.ledger with
        attached := s.ledger.attached ++ attachments r.2
        handled := s.ledger.handled ++ (handling t r.1).toList } }

/-- What happens at an event; nothing does if it cannot come now. -/
def step (s : Exchange) : Event → Exchange
  | .create target =>
    match s.connector.registry.create target with
    | .ok (session, registry) =>
      { s with
        connector := { s.connector with registry }
        sessions := s.sessions ++ [session] }
    | .error _ => s
  | .forget id =>
    { s with
      connector := { s.connector with registry := (s.connector.registry.remove id).2 } }
  | .limit max =>
    { s with connector := { s.connector with registry := s.connector.registry.setMax max } }
  | .connect session token =>
    if session ∈ s.sessions then s.engage (Connector.connect session token) else s
  | .disconnect id => s.engage (Connector.disconnect id)
  | .destroy id => s.engage (Connector.destroy id)
  | .cancel token => { s with connector := s.connector.cancel token }
  | .publish channel d =>
    if channel.number < s.connector.channels.length then
      { s with
        connector := s.connector.publish channel d
        ledger := { s.ledger with published := s.ledger.published ++ [(channel, d)] } }
    else s
  | .order id o =>
    { s with connector := { s.connector with reopener := o.carryOut id s.connector.reopener } }
  | .policy p =>
    { s with connector := { s.connector with reopener := s.connector.reopener.setPolicy p } }
  | .resume n signal =>
    match s.tasks[n]? with
    | some t => if s.connector.hears t signal then s.resume n t signal else s
    | none => s

def run (s : Exchange) (es : List Event) : Exchange := es.foldl step s

section Turns

variable {s : Exchange} {t t' : Task} {c' : Connector} {new : List Task}

theorem engage_eq {m : TurnM Task} (h : exec m ⟨s.connector, []⟩ = (t', ⟨c', new⟩)) :
    s.engage m =
      { s with
        connector := c'
        tasks := s.tasks ++ t' :: new
        ledger :=
          { s.ledger with attached := s.ledger.attached ++ attachments ⟨c', new⟩ } } := by
  unfold engage
  rw [h]

theorem resume_eq {n : Nat} {signal : Signal}
    (h : exec (t.resume signal) ⟨s.connector.taking t signal, []⟩ = (t', ⟨c', new⟩)) :
    s.resume n t signal =
      { s with
        connector := c'
        tasks := s.tasks.set n t' ++ new
        ledger :=
          { s.ledger with
            attached := s.ledger.attached ++ attachments ⟨c', new⟩
            handled := s.ledger.handled ++ (handling t t').toList } } := by
  unfold resume
  rw [h]

end Turns

def Event.isTurnOf (n : Nat) : Event → Bool
  | .resume m _ => m = n
  | _ => false

def Event.answers (n : Nat) : Event → Bool
  | .resume m (.reply _) => m = n
  | _ => false

theorem Event.answers_of_isTurnOf {n : Nat} {e : Event} (h : e.isTurnOf n = false) :
    e.answers n = false := by
  cases e with
  | resume m signal => cases signal <;> first | rfl | exact h
  | _ => rfl

theorem Event.reply_of_answers {n : Nat} {signal : Signal}
    (h : Event.answers n (.resume n signal) = true) : ∃ r, signal = .reply r := by
  cases signal with
  | reply r => exact ⟨r, rfl⟩
  | _ => cases h

theorem Event.eq_of_isTurnOf {n : Nat} {e : Event} (h : e.isTurnOf n = true) :
    ∃ signal, e = .resume n signal := by
  cases e with
  | resume m signal => exact ⟨signal, by rw [show m = n by simpa [Event.isTurnOf] using h]⟩
  | _ => cases h

/-- What an event tells. -/
def tells (s : Exchange) (e : Event) : List ConnectionEvent :=
  (s.step e).connector.events.drop s.connector.events.length

def told (s : Exchange) (n : Nat) : List Event → List ConnectionEvent
  | [] => []
  | e :: es => (if e.isTurnOf n then s.tells e else []) ++ (s.step e).told n es

section Tasks

variable {s : Exchange} {n : Nat} {t : Task}

/-- A new task changes none of those that are there. -/
theorem task_engage (m : TurnM Task) (h : s.tasks[n]? = some t) :
    (s.engage m).tasks[n]? = some t := by
  obtain ⟨hn, -⟩ := List.getElem?_eq_some_iff.1 h
  rw [engage, List.getElem?_append_left hn, h]

/-- A task stays as it is while others have their turns. -/
theorem task_step {e : Event} (he : e.isTurnOf n = false) (h : s.tasks[n]? = some t) :
    (s.step e).tasks[n]? = some t := by
  cases e with
  | create target =>
    simp only [step]
    split <;> exact h
  | connect session token =>
    simp only [step]
    split
    · exact task_engage _ h
    · exact h
  | disconnect id => exact task_engage _ h
  | destroy id => exact task_engage _ h
  | publish channel d =>
    simp only [step]
    split <;> exact h
  | resume m signal =>
    obtain ⟨hn, -⟩ := List.getElem?_eq_some_iff.1 h
    have hm : m ≠ n := by simpa [Event.isTurnOf] using he
    simp only [step]
    split
    · split
      · rw [resume, List.getElem?_append_left (by simpa using hn), List.getElem?_set_ne hm, h]
      · exact h
    · exact h
  | _ => exact h

/-- A task that hears a signal has its turn with it. -/
theorem step_resume {signal : Signal} (h : s.tasks[n]? = some t)
    (hears : s.connector.hears t signal = true) :
    s.step (.resume n signal) = s.resume n t signal := by
  simp [step, h, hears]

/-- A signal that a task does not hear changes nothing. -/
theorem step_resume_unheard {signal : Signal} (h : s.tasks[n]? = some t)
    (hears : s.connector.hears t signal = false) : s.step (.resume n signal) = s := by
  simp [step, h, hears]

/-- A turn of a task as a move. -/
theorem step_moves {signal : Signal} (h : s.tasks[n]? = some t)
    (hears : s.connector.hears t signal = true) :
    ∃ t' c' new, Move (s.connector.taking t signal) t signal t' c' new ∧
      s.step (.resume n signal) =
        { s with
          connector := c'
          tasks := s.tasks.set n t' ++ new
          ledger :=
            { s.ledger with
              attached := s.ledger.attached ++ attachments ⟨c', new⟩
              handled := s.ledger.handled ++ (handling t t').toList } } := by
  obtain ⟨t', c', new, hexec, hmove⟩ :=
    Task.moves_resume t signal ⟨s.connector.taking t signal, []⟩
  exact ⟨t', c', new, hmove, (step_resume h hears).trans (resume_eq hexec)⟩

/-- A signal that a task does not hear tells nothing. -/
theorem tells_unheard {signal : Signal} (h : s.tasks[n]? = some t)
    (hears : s.connector.hears t signal = false) : s.tells (.resume n signal) = [] := by
  rw [tells, step_resume_unheard h hears, List.drop_length]

/-- A task that is over says nothing any more. -/
theorem told_over {result : Except ConnectError Unit} (h : s.tasks[n]? = some (.over result))
    (es : List Event) : s.told n es = [] := by
  induction es generalizing s with
  | nil => rfl
  | cons e es ih =>
    cases he : e.isTurnOf n with
    | false => simp [told, he, ih (task_step he h)]
    | true =>
      obtain ⟨signal, rfl⟩ := Event.eq_of_isTurnOf he
      have hears : s.connector.hears (.over result) signal = false := by cases signal <;> rfl
      simp [told, tells_unheard h hears, step_resume_unheard h hears, ih h]

theorem task_set {n : Nat} (h : s.tasks[n]? = some t) (t' : Task) (new : List Task) :
    (s.tasks.set n t' ++ new)[n]? = some t' := by
  obtain ⟨hn, -⟩ := List.getElem?_eq_some_iff.1 h
  rw [List.getElem?_append_left (by simpa using hn), List.getElem?_set_self hn]

end Tasks

end Exchange

end Multiplexer
