import Multiplexer.Proofs.Chain.Passage
import Multiplexer.Proofs.Connector.Move

/-!
# Errands

A task among others that share its connector with it, with the calls that it has
made. The task is looked after by polls. A poll looks at the token first and then
at the call that the task waits for; between two polls the others may do to the
connector what they like, but a token that was cancelled stays so.
-/

namespace Multiplexer

open TurnM

namespace Call

def fits : Call → Reply → Bool
  | .resolve .., .hops _ | .serial .., .terminal _ => true
  | .resolve .., r | .serial .., r => r.error?.isSome
  | .closeTerminal _, r | .note .., r | .startForwards .., r | .stopForwards _, r => r == .done
  | c, r => c.admits r

def hop? : Call → Option Hop
  | .hop h _ => some h
  | _ => none

def reaches : Call → Bool
  | .hop .. | .tunnel .. => true
  | _ => false

/-- Calls for a chain. -/
theorem admits_of_fits {run : ChainRun} {size : TerminalSize} {channel : ChannelId} {c : Call}
    {r : Reply} (hc : run.call size channel = some c) (hr : c.fits r = true) :
    c.admits r = true := by
  cases run with
  | closing links e =>
    cases links with
    | nil => cases hc
    | cons => cases hc; exact hr
  | failed | connected => cases hc
  | _ => cases hc; exact hr

end Call

/-- A task among others that share its connector, with the calls that it has made. -/
structure Errand where
  task : Task
  connector : Connector
  /-- Whether the call that the task waits for has been made. -/
  asked : Bool := false
  calls : List Call := []
  answers : List (Call × Reply) := []

namespace Errand

inductive Event where
  /-- Others have had their turns. -/
  | outside (c : Connector)
  /-- The task is looked after, and may find an answer. -/
  | poll (reply : Option Reply)

def turn (p : Errand) (s : Signal) : Errand :=
  let r := exec (p.task.resume s) ⟨p.connector, []⟩
  { p with task := r.1, connector := r.2.connector, asked := false }

def ask (p : Errand) (c : Call) : Errand :=
  if p.asked then p else { p with asked := true, calls := p.calls ++ [c] }

def answered (p : Errand) (c : Call) (r : Reply) : Errand :=
  { p with answers := p.answers ++ [(c, r)] }.turn (.reply r)

/-- The token is looked at before the call. -/
def poll (p : Errand) (reply : Option Reply) : Errand :=
  match p.task.wait p.connector.size with
  | .call c token =>
    if token.any p.connector.isCancelled then p.turn .cancelled
    else
      match reply with
      | none => p.ask c
      | some r => if c.fits r then (p.ask c).answered c r else p.ask c
  | _ => p

def step (p : Errand) : Event → Errand
  | .outside c =>
    { p with
      connector :=
        { c with cancelled := p.connector.cancelled ++ c.cancelled, size := p.connector.size } }
  | .poll reply => p.poll reply

def run (p : Errand) (es : List Event) : Errand := es.foldl step p

def Along (P : Errand → Event → Prop) : Errand → List Event → Prop
  | _, [] => True
  | p, e :: es => P p e ∧ (p.step e).Along P es

/-- What every event of a run preserves holds at its end. -/
theorem Along.preserves {P : Errand → Event → Prop} {I : Errand → Prop} {p : Errand}
    {es : List Event} (h : p.Along P es) (hstep : ∀ p e, I p → P p e → I (p.step e)) (hp : I p) :
    I (p.run es) := by
  induction es generalizing p with
  | nil => exact hp
  | cons e es ih => exact ih h.2 (hstep p e hp h.1)

theorem Along.mono {P Q : Errand → Event → Prop} {p : Errand} {es : List Event} (h : p.Along P es)
    (himp : ∀ p e, P p e → Q p e) : p.Along Q es := by
  induction es generalizing p with
  | nil => trivial
  | cons e es ih => exact ⟨himp p e h.1, ih h.2⟩

/-- What every event keeps. -/
theorem preserves_run {I : Errand → Prop} {p : Errand} (hstep : ∀ p e, I p → I (p.step e))
    (hp : I p) (es : List Event) : I (p.run es) := by
  induction es generalizing p with
  | nil => exact hp
  | cons e es ih => exact ih (hstep p e hp)

def hops (p : Errand) : List Hop := p.calls.filterMap Call.hop?

/-- A poll finds an answer of the call that the task waits for. -/
def Prompt (p : Errand) (e : Event) : Prop :=
  ∀ reply c token, e = .poll reply → p.task.wait p.connector.size = .call c token →
    ∃ r, reply = some r ∧ c.fits r = true

def polls (es : List Event) : Nat :=
  es.countP fun
    | .poll _ => true
    | .outside _ => false

section Projections

variable {p : Errand} {c : Call} {r : Reply} {s : Signal}

@[simp] theorem task_ask : (p.ask c).task = p.task := by
  unfold ask; split <;> rfl

@[simp] theorem connector_ask : (p.ask c).connector = p.connector := by
  unfold ask; split <;> rfl

@[simp] theorem answers_ask : (p.ask c).answers = p.answers := by
  unfold ask; split <;> rfl

@[simp] theorem asked_ask : (p.ask c).asked = true := by
  unfold ask
  split
  · assumption
  · rfl

/-- A call contacts its hop when it is made for the first time. -/
theorem hops_ask (p : Errand) (c : Call) :
    (p.ask c).hops = if p.asked then p.hops else p.hops ++ c.hop?.toList := by
  unfold ask
  split
  · rfl
  · cases h : c.hop? <;> simp [hops, List.filterMap_append, h]

theorem hops_ask_of_none (h : c.hop? = none) : (p.ask c).hops = p.hops := by
  simp [hops_ask, h]

@[simp] theorem hops_answered : (p.answered c r).hops = p.hops := rfl

@[simp] theorem task_answered :
    (p.answered c r).task = (exec (p.task.resume (.reply r)) ⟨p.connector, []⟩).1 := rfl

@[simp] theorem answers_answered : (p.answered c r).answers = p.answers ++ [(c, r)] := rfl

end Projections

inductive Polled (p : Errand) (reply : Option Reply) : Errand → Prop where
  /-- The task does not wait for a call. -/
  | idle : (∀ c token, p.task.wait p.connector.size ≠ .call c token) → Polled p reply p
  | calledOff (c : Call) (token : Token) : p.task.wait p.connector.size = .call c (some token) →
    p.connector.isCancelled token = true → Polled p reply (p.turn .cancelled)
  | asked (c : Call) (token : Option Token) : p.task.wait p.connector.size = .call c token →
    (∀ t, token = some t → p.connector.isCancelled t = false) →
    (∀ r, reply = some r → c.fits r = false) → Polled p reply (p.ask c)
  | answered (c : Call) (token : Option Token) (r : Reply) :
    p.task.wait p.connector.size = .call c token →
    (∀ t, token = some t → p.connector.isCancelled t = false) → reply = some r →
    c.fits r = true → Polled p reply ((p.ask c).answered c r)

/-- A poll leaves the task alone, calls it off, makes its call, or brings the answer as well. -/
theorem polled (p : Errand) (reply : Option Reply) : p.Polled reply (p.poll reply) := by
  unfold poll
  cases hwait : p.task.wait p.connector.size with
  | call c token =>
    by_cases hcancelled : token.any p.connector.isCancelled = true
    · obtain ⟨t, rfl, ht⟩ := (Option.any_eq_true _ _).mp hcancelled
      simp only [if_pos hcancelled]
      exact .calledOff c t hwait ht
    · simp only [if_neg hcancelled]
      have hlive : ∀ t, token = some t → p.connector.isCancelled t = false := by
        rintro t rfl
        simpa using hcancelled
      cases reply with
      | none => exact .asked c token hwait hlive (by simp)
      | some r =>
        by_cases hfits : c.fits r = true
        · simp only [if_pos hfits]
          exact .answered c token r hwait hlive rfl hfits
        · simp only [if_neg hfits]
          exact .asked c token hwait hlive (by simpa using hfits)
  | _ => exact .idle (by simp [hwait])

end Errand

namespace Connector

/-- No token was cancelled, and the size of the terminals is the same. -/
def SameTerms (c d : Connector) : Prop := d.cancelled = c.cancelled ∧ d.size = c.size

variable {c d : Connector}

/-- Terms that two turns leave alone they leave alone together. -/
theorem SameTerms.trans {e : Connector} (h : c.SameTerms d) (h' : d.SameTerms e) : c.SameTerms e :=
  ⟨h'.1.trans h.1, h'.2.trans h.2⟩

theorem sameTerms_stopWatcher (c : Connector) (id : SessionId) : c.SameTerms (c.stopWatcher id) := by
  unfold stopWatcher
  split <;> exact ⟨rfl, rfl⟩

theorem sameTerms_released (c : Connector) (id : SessionId) : c.SameTerms (c.released id) := by
  unfold released
  split <;> exact c.sameTerms_stopWatcher id

theorem sameTerms_begun (c : Connector) (id : SessionId) : c.SameTerms (c.begun id) :=
  (c.setState id .connecting).sameTerms_released id

theorem sameTerms_joined (c : Connector) (session : Session) (connection : Connection)
    (channel : ChannelId) : c.SameTerms (c.joined session connection channel) :=
  sameTerms_stopWatcher (c.setStatus session.id ⟨.connected, some connection⟩) session.id

theorem sameTerms_paused (c : Connector) (session : Session) (drop : Drop) (step : Reopener.Step) :
    c.SameTerms (c.paused session drop step) := by
  unfold paused
  split <;> exact ⟨rfl, rfl⟩

end Connector

theorem Pauses.sameTerms {session : Session} {c d : Connector} {stage : WatchStage} {s : Signal}
    {drop : Drop} {step : Reopener.Step} (h : Pauses session c stage s drop d step) :
    c.SameTerms d := by
  cases h <;> exact ⟨rfl, rfl⟩

/-- A move cancels no token and resizes no terminal. -/
theorem Move.sameTerms {c d : Connector} {t t' : Task} {s : Signal} {new : List Task}
    (h : Move c t s t' d new) : c.SameTerms d := by
  cases h with
  | connect a _ _ connection => exact c.sameTerms_joined a.session connection a.channel
  | «open» a params terminal => exact (c.rearmed a.session.id params).sameTerms_joined _ _ _
  | reopen session _ _ _ channel terminal => exact c.sameTerms_joined session _ channel
  | pause session _ _ drop c₁ step hpauses =>
    exact hpauses.sameTerms.trans (c₁.sameTerms_paused session drop step)
  | _ => exact ⟨rfl, rfl⟩

/-- No turn of a task cancels a token or resizes a terminal. -/
theorem Task.sameTerms_resume (t : Task) (s : Signal) (u : Turn) :
    u.connector.SameTerms (exec (t.resume s) u).2.connector := by
  obtain ⟨t', d, new, hresume, hmove⟩ := t.moves_resume s u
  rw [hresume]
  exact hmove.sameTerms

namespace Errand

structure Later (p q : Errand) : Prop where
  answers : ∀ x ∈ p.answers, x ∈ q.answers
  cancelled : ∀ t, p.connector.isCancelled t = true → q.connector.isCancelled t = true

namespace Later

variable {p q : Errand}

theorem refl (p : Errand) : Later p p := ⟨fun _ h => h, fun _ h => h⟩

theorem turn (p : Errand) (s : Signal) : Later p (p.turn s) where
  answers := fun _ h => h
  cancelled := fun t h => by
    have hsame := p.task.sameTerms_resume s ⟨p.connector, []⟩
    unfold Connector.isCancelled at h ⊢
    exact hsame.1.symm ▸ h

theorem answered (p : Errand) (c : Call) (r : Reply) : Later p ((p.ask c).answered c r) where
  answers := fun x h => by simp [h]
  cancelled := fun t h => by
    refine (turn { p.ask c with answers := p.answers ++ [(c, r)] } (.reply r)).cancelled t ?_
    simpa using h

/-- Every event leads to a later errand. -/
theorem step (p : Errand) (e : Event) : Later p (p.step e) := by
  cases e with
  | outside c =>
    refine ⟨fun _ h => h, fun t h => ?_⟩
    simp only [Connector.isCancelled, List.contains_eq_mem, decide_eq_true_eq] at h
    simp [Errand.step, Connector.isCancelled, h]
  | poll reply =>
    change Later p (p.poll reply)
    have hpolled := p.polled reply
    generalize p.poll reply = q at hpolled ⊢
    cases hpolled with
    | idle => exact refl p
    | calledOff => exact turn p .cancelled
    | asked c => exact ⟨fun x h => by simpa using h, fun t h => by simpa using h⟩
    | answered c token r => exact answered p c r

end Later

end Errand

end Multiplexer
