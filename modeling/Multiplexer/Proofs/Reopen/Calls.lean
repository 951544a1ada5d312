import Multiplexer.Proofs.Connector.Effects

/-!
# Calls for dropped sessions

Any number of calls that react to drops, at any time and for any sessions, on one
reopener. A call goes on in rounds: at its arrival, when its delay is over or it
sees that it was called off, and when an attempt is answered. Between two rounds
anything else can happen. Time stands still while a call has a round to do that
it need not wait for.
-/

namespace Multiplexer

open Reopener

inductive CallStage where
  | delayed (loop : ReopenLoop) (due : Nat)
  | trying (loop : ReopenLoop)
  | ended (outcome : ReopenOutcome)

def CallStage.loop? : CallStage → Option ReopenLoop
  | .delayed l _ | .trying l => some l
  | .ended _ => none

def ReopenPause.stage (now : Nat) : ReopenPause → CallStage
  | .delayed l => .delayed l (now + l.policy.delayMs)
  | .ended o => .ended o

structure Supervision where
  reopener : Reopener := {}
  now : Nat := 0
  /-- All calls ever made, in order of arrival. -/
  calls : List CallStage := []

/-- What a call does at once: its number, session and entry, and what comes of it. -/
structure Round where
  call : Nat
  session : SessionId
  entry : Option Nat
  reopener : Reopener
  told : List ReopenEvent
  stage : CallStage

namespace Supervision

inductive Event where
  | order (session : SessionId) (o : Order)
  | policy (p : ReopenPolicy)
  | call (session : SessionId)
  | elapse (call : Nat)
  | callOff (call : Nat)
  | answer (call : Nat) (error : Option ConnectError)
  | pass (ms : Nat)

def roundOf (s : Supervision) (call : Nat) (session : SessionId) (entry : Option Nat)
    (step : Reopener.Step) : Round :=
  ⟨call, session, entry, step.1, step.2.1, step.2.2.stage s.now⟩

/-- The round that an event brings about, if any. -/
def round? (s : Supervision) : Event → Option Round
  | .call id =>
    some (s.roundOf s.calls.length id (s.reopener.registered.lookup id) (s.reopener.drop id))
  | .elapse n =>
    match s.calls[n]? with
    | some (.delayed l due) =>
      if due ≤ s.now then
        let (r, told, _) := s.reopener.attempt l
        some ⟨n, l.session, some l.entry, r, told, .trying l⟩
      else none
    | _ => none
  | .callOff n =>
    match s.calls[n]? with
    | some (.delayed l _) =>
      if s.reopener.isCancelled l then
        some (s.roundOf n l.session (some l.entry) (s.reopener.calledOff l))
      else none
    | _ => none
  | .answer n error =>
    match s.calls[n]? with
    | some (.trying l) =>
      some (s.roundOf n l.session (some l.entry) (match error with
        | none => s.reopener.succeeded l
        | some e => s.reopener.refused l e))
    | _ => none
  | .order _ _ | .policy _ | .pass _ => none

/-- The calls with one of them at a new stage, or with a new one at the end. -/
def put (calls : List CallStage) (n : Nat) (stage : CallStage) : List CallStage :=
  if n < calls.length then calls.set n stage else calls ++ [stage]

/-- Whether a call lets some time pass. -/
def idles (s : Supervision) (ms : Nat) : CallStage → Bool
  | .delayed l due => !s.reopener.isCancelled l && decide (s.now + ms ≤ due)
  | _ => true

def step (s : Supervision) (e : Event) : Supervision :=
  match s.round? e with
  | some q => { s with reopener := q.reopener, calls := put s.calls q.call q.stage }
  | none =>
    match e with
    | .order id o => { s with reopener := o.carryOut id s.reopener }
    | .policy p => { s with reopener := s.reopener.setPolicy p }
    | .pass ms => if s.calls.all (s.idles ms) then { s with now := s.now + ms } else s
    | _ => s

def run (s : Supervision) (es : List Event) : Supervision := es.foldl step s

def start (p : ReopenPolicy) : Supervision := { reopener := { policy := p } }

variable {s : Supervision} {e : Event} {q : Round}

theorem run_cons (s : Supervision) (e : Event) (es : List Event) :
    s.run (e :: es) = (s.step e).run es := rfl

/-- An event that brings about a round does what the round does. -/
theorem step_round (hq : s.round? e = some q) :
    s.step e = { s with reopener := q.reopener, calls := put s.calls q.call q.stage } := by
  simp only [step, hq]

inductive Rounds (s : Supervision) : Event → Round → Prop where
  | arrives (id : SessionId) : Rounds s (.call id)
    (s.roundOf s.calls.length id (s.reopener.registered.lookup id) (s.reopener.drop id))
  | tries (n : Nat) (l : ReopenLoop) (due : Nat) : s.calls[n]? = some (.delayed l due) →
    due ≤ s.now → Rounds s (.elapse n)
      ⟨n, l.session, some l.entry, (s.reopener.attempt l).1, (s.reopener.attempt l).2.1, .trying l⟩
  | calledOff (n : Nat) (l : ReopenLoop) (due : Nat) : s.calls[n]? = some (.delayed l due) →
    s.reopener.isCancelled l = true → Rounds s (.callOff n)
      (s.roundOf n l.session (some l.entry) (s.reopener.calledOff l))
  | succeeds (n : Nat) (l : ReopenLoop) : s.calls[n]? = some (.trying l) →
    Rounds s (.answer n none)
      (s.roundOf n l.session (some l.entry) (s.reopener.succeeded l))
  | refused (n : Nat) (l : ReopenLoop) (e : ConnectError) : s.calls[n]? = some (.trying l) →
    Rounds s (.answer n (some e))
      (s.roundOf n l.session (some l.entry) (s.reopener.refused l e))

theorem rounds_of_round? (hq : s.round? e = some q) : s.Rounds e q := by
  cases e with
  | order | policy | pass => simp [round?] at hq
  | call id =>
    obtain rfl := Option.some.inj hq
    exact .arrives id
  | elapse n =>
    simp only [round?] at hq
    split at hq
    · next l due hn =>
      split at hq
      · next hdue =>
        obtain rfl := Option.some.inj hq
        exact .tries n l due hn hdue
      · simp at hq
    · simp at hq
  | callOff n =>
    simp only [round?] at hq
    split at hq
    · next l due hn =>
      split at hq
      · next hoff =>
        obtain rfl := Option.some.inj hq
        exact .calledOff n l due hn hoff
      · simp at hq
    · simp at hq
  | answer n error =>
    simp only [round?] at hq
    split at hq
    · next l hn =>
      obtain rfl := Option.some.inj hq
      cases error with
      | none => exact .succeeds n l hn
      | some e => exact .refused n l e hn
    · simp at hq

def loops (s : Supervision) : List ReopenLoop := s.calls.filterMap CallStage.loop?

section Numbers

/-! The calls by their numbers. -/

variable {calls : List CallStage} {n : Nat} {stage : CallStage}

/-- A call at a new stage is there, and the others are where they were. -/
theorem getElem?_put (hn : n ≤ calls.length) (stage : CallStage) (m : Nat) :
    (put calls n stage)[m]? = if m = n then some stage else calls[m]? := by
  unfold put
  split
  · next hlt =>
    rw [List.getElem?_set]
    by_cases hm : n = m
    · subst hm
      simp [hlt]
    · simp [hm, Ne.symm hm]
  · next hlt =>
    obtain rfl : n = calls.length := by omega
    by_cases hm : m = calls.length
    · simp [hm]
    · rw [if_neg hm, List.getElem?_append]
      split
      · rfl
      · have hnone : calls[m]? = none := by simp; omega
        rw [hnone]
        simp
        omega

theorem le_length_put : calls.length ≤ (put calls n stage).length := by
  unfold put
  split <;> simp

/-- The calls with one of them at a new stage are that stage and the other calls. -/
theorem perm_put (hn : n ≤ calls.length) :
    (put calls n stage).Perm (stage :: calls.eraseIdx n) := by
  unfold put
  split
  · next hlt => exact List.set_perm_cons_eraseIdx hlt stage
  · next hlt =>
    rw [List.eraseIdx_of_length_le (by omega)]
    exact List.perm_append_singleton stage calls

theorem mem_put {c : CallStage} (h : c ∈ put calls n stage) : c = stage ∨ c ∈ calls := by
  unfold put at h
  split at h
  · exact (List.mem_or_eq_of_mem_set h).symm
  · rw [List.mem_append, List.mem_singleton] at h
    exact h.symm

theorem perm_calls (calls : List CallStage) (n : Nat) :
    calls.Perm (calls[n]?.toList ++ calls.eraseIdx n) := by
  cases hn : calls[n]? with
  | none => rw [List.eraseIdx_of_length_le (by simpa using hn)]; exact .refl _
  | some c =>
    obtain ⟨hlt, rfl⟩ := List.getElem?_eq_some_iff.1 hn
    exact (List.getElem_cons_eraseIdx_perm hlt).symm

end Numbers

def loopOf (s : Supervision) (n : Nat) : Option ReopenLoop := s.calls[n]?.bind CallStage.loop?

/-- The loop of a call is that of its stage. -/
theorem loopOf_eq {n : Nat} {stage : CallStage} (hn : s.calls[n]? = some stage) :
    s.loopOf n = stage.loop? := by rw [loopOf, hn, Option.bind_some]

/-- The loop of a call is one of those that run. -/
theorem mem_loops {n : Nat} {l : ReopenLoop} (hl : s.loopOf n = some l) : l ∈ s.loops := by
  obtain ⟨stage, hn, hl⟩ := Option.bind_eq_some_iff.1 hl
  exact List.mem_filterMap.2 ⟨stage, List.mem_of_getElem? hn, hl⟩

@[simp] theorem loop?_stage (pause : ReopenPause) (now : Nat) :
    (pause.stage now).loop? = pause.loop? := by
  cases pause <;> rfl

/-- A round is that of a call that has arrived, or of one that now does. -/
theorem Rounds.call_le (h : s.Rounds e q) : q.call ≤ s.calls.length := by
  cases h with
  | arrives => exact Nat.le_refl _
  | tries n l due hn | calledOff n l due hn | succeeds n l hn | refused n l e hn =>
    obtain ⟨hlt, -⟩ := List.getElem?_eq_some_iff.1 hn
    exact Nat.le_of_lt hlt

theorem due_stage {pause : ReopenPause} {now due : Nat} {l : ReopenLoop}
    (h : pause.stage now = .delayed l due) : now ≤ due := by
  cases pause with
  | ended o => cases h
  | delayed l =>
    cases h
    exact Nat.le_add_right _ _

/-- No round leaves a delay that is overdue. -/
theorem Rounds.due_le (h : s.Rounds e q) {l : ReopenLoop} {due : Nat}
    (hstage : q.stage = .delayed l due) : s.now ≤ due := by
  cases h with
  | tries => cases hstage
  | arrives | calledOff | succeeds | refused =>
    simp only [roundOf] at hstage
    exact due_stage hstage

/-- The calls are in order: at most one loop on an entry, and no delay is overdue. -/
structure Tidy (s : Supervision) : Prop where
  sound : s.reopener.Sound s.loops
  ahead : ∀ l due, .delayed l due ∈ s.calls → s.now ≤ due

namespace Tidy

theorem start (p : ReopenPolicy) : (start p).Tidy where
  sound :=
    { bound := by simp [Supervision.start, Reopener.standing, Reopener.entryAt]
      known := by simp [Supervision.start]
      injective := by simp [Supervision.start]
      orphan := by simp [Supervision.start, Reopener.standing, Reopener.entryAt]
      running := by simp [Supervision.start, loops]
      apart := by simp [Supervision.start, loops]
      busy := by simp [Supervision.start, Reopener.standing, Reopener.entryAt]
      owner := by simp [Supervision.start, loops] }
  ahead := by simp [Supervision.start]

/-- A round is one of the loop of its call. -/
theorem runs (h : s.Tidy) (hq : s.Rounds e q) :
    s.reopener.Runs q.session (s.loopOf q.call) q.reopener q.stage.loop? ∧
      ∀ l ∈ s.loopOf q.call, l.session = q.session := by
  cases hq with
  | arrives id =>
    have hown : s.loopOf s.calls.length = none := by simp [loopOf]
    simp only [roundOf, loop?_stage, hown]
    exact ⟨s.reopener.drop_runs id, by simp⟩
  | tries n l due hn =>
    have hown : s.loopOf n = some l := loopOf_eq hn
    simp only [hown]
    exact ⟨.goesOn l l _ (attempt_altered l) rfl rfl rfl, by simp⟩
  | calledOff n l due hn =>
    have hown : s.loopOf n = some l := loopOf_eq hn
    simp only [roundOf, hown]
    exact ⟨calledOff_runs .refl _, by simp⟩
  | succeeds n l hn =>
    have hown : s.loopOf n = some l := loopOf_eq hn
    simp only [roundOf, hown]
    exact ⟨.ends l _ _ (succeeded_altered l) fun _ => ⟨rfl, rfl, rfl⟩, by simp⟩
  | refused n l e hn =>
    have hown : s.loopOf n = some l := loopOf_eq hn
    obtain ⟨k, hk, -⟩ := h.sound.running l (mem_loops hown)
    simp only [roundOf, loop?_stage, hown]
    exact ⟨refused_runs .refl hk e _, by simp⟩

/-- A round leaves the calls in order. -/
theorem round (h : s.Tidy) (hq : s.Rounds e q) :
    ({ s with reopener := q.reopener, calls := put s.calls q.call q.stage } : Supervision).Tidy := by
  obtain ⟨hruns, hown⟩ := h.runs hq
  let others := (s.calls.eraseIdx q.call).filterMap CallStage.loop?
  have hbefore : s.loops.Perm ((s.loopOf q.call).toList ++ others) := by
    have hperm := (perm_calls s.calls q.call).filterMap CallStage.loop?
    rw [List.filterMap_append] at hperm
    refine hperm.trans ?_
    unfold loopOf
    cases hn : s.calls[q.call]? with
    | none => exact .refl _
    | some stage => cases hl : stage.loop? <;> simp [hl, others]
  have hafter : ((put s.calls q.call q.stage).filterMap CallStage.loop?).Perm
      (q.stage.loop?.toList ++ others) := by
    refine ((perm_put hq.call_le).filterMap CallStage.loop?).trans ?_
    cases hl : q.stage.loop? <;> simp [hl, others]
  refine ⟨((h.sound.perm hbefore).runs hruns hown).perm hafter.symm, fun l due hmem => ?_⟩
  obtain hnew | hold := mem_put hmem
  · exact hq.due_le hnew.symm
  · exact h.ahead l due hold

/-- Every event leaves the calls in order. -/
theorem step (h : s.Tidy) (e : Event) : (s.step e).Tidy := by
  unfold Supervision.step
  split
  · next q hq => exact h.round (rounds_of_round? hq)
  · split
    · next id o _ => exact ⟨h.sound.ordered (Exchange.ordered_carryOut h.sound id o), h.ahead⟩
    · next p _ => exact ⟨h.sound.ordered (i := ⟨0⟩) (.setPolicy p), h.ahead⟩
    · next ms _ =>
      split
      · next hidle =>
        refine ⟨h.sound, fun l due hmem => ?_⟩
        have hcall := List.all_eq_true.1 hidle _ hmem
        simp only [idles, Bool.and_eq_true, decide_eq_true_eq] at hcall
        exact hcall.2
      · exact h
    · exact h

/-- The calls are in order at all times. -/
theorem run (h : s.Tidy) (es : List Event) : (s.run es).Tidy := by
  induction es generalizing s with
  | nil => exact h
  | cons e es ih => exact ih (h.step e)

end Tidy

end Supervision

end Multiplexer
