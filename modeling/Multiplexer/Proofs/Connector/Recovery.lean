import Multiplexer.Proofs.Connector.Due

/-!
# What becomes of a dropped serial line

In a prompt run no drop of a serial line is lost, and none is told twice. The
watch that handles the drop goes on until its loop has one of four outcomes; it
recovers the session, tells the drop, or was called off by a request for the
session that came while the loop ran.
-/

namespace Multiplexer

open TurnM Reopener

def WatchStage.drop? : WatchStage → Option Drop
  | .watching .. => none
  | .closing d _ | .delayed d _ | .reopening d _ _ _ | .notingReopening d _ => some d

def ConnectionEvent.isDisconnected : ConnectionEvent → Bool
  | .disconnected _ _ => true
  | _ => false

namespace Exchange

/-- Whether an event is a request that takes a session out of the hands of a loop. -/
def Event.supersedes (id : SessionId) : Event → Bool
  | .connect session _ => session.id = id
  | .disconnect i | .destroy i => i = id
  | .order _ .reset => false
  | .order i _ => i = id
  | _ => false

variable {s : Exchange} {n : Nat} {e : Event} {es : List Event}

def notices (s : Exchange) (n : Nat) (es : List Event) : List ConnectionEvent :=
  (s.told n es).filter ConnectionEvent.isDisconnected

theorem told_concat (s : Exchange) (n : Nat) (es : List Event) (e : Event) :
    s.told n (es ++ [e]) = s.told n es ++ if e.isTurnOf n then (s.run es).tells e else [] := by
  induction es generalizing s with
  | nil => simp [told, run]
  | cons e' es ih => simp [told, ih, run]

/-- The turn of a watch with which the loop for its drop ends, or none is started. -/
inductive Ends (n : Nat) (o : ReopenOutcome) (s : Exchange) : Event → Prop where
  | pause (session : Session) (stage : WatchStage) (signal : Signal) (d : Drop) (c : Connector)
    (step : Reopener.Step) : s.tasks[n]? = some (.watch session stage) →
    s.connector.hears (.watch session stage) signal = true →
    Pauses session s.connector stage signal d c step → step.2.2 = .ended o →
    Ends n o s (.resume n signal)

/-- The turn of a watch that gives its session the connection which was opened for it. -/
def Recovers (n : Nat) (id : SessionId) (s : Exchange) (e : Event) : Prop :=
  ∃ terminal channel, e = .resume n (.reply (.terminal terminal)) ∧
    (s.step e).connector.slot id =
      ⟨.connected, some (.bare terminal), some ⟨s.connector.nextGeneration, channel⟩⟩

/-- A request for the session that calls off the loop which a watch runs. -/
def CallsOff (n : Nat) (id : SessionId) (s : Exchange) (e : Event) : Prop :=
  e.supersedes id = true ∧ ∃ t l, s.tasks[n]? = some t ∧ t.loop? = some l ∧
    s.connector.reopener.isCancelled l = false ∧ (s.step e).connector.reopener.isCancelled l = true

/-- How an outcome is answered for: a recovery by a new connection, the end of all attempts by
telling the drop once, and a loop that was called off by the request that called it off. -/
def Answered (s : Exchange) (n : Nat) (id : SessionId) (d : Drop) (es : List Event) :
    ReopenOutcome → Prop
  | .reconnected _ => s.notices n es = [] ∧ s.Happens es (Recovers n id)
  | .gaveUp true | .notRegistered => s.notices n es = [.disconnected id d.reason]
  | .cancelled => s.notices n es = [] ∧ s.Happens es (CallsOff n id)
  | .gaveUp false | .alreadyReconnecting => False

/-- What has become of a drop: it is still being handled, or there has been an outcome. -/
def Fate (s : Exchange) (n : Nat) (session : Session) (d : Drop) (es : List Event) :
    Option ReopenOutcome → Prop
  | none => (∃ stage, (s.run es).tasks[n]? = some (.watch session stage) ∧ stage.drop? = some d) ∧
    s.notices n es = [] ∧ ∀ o, ¬s.Happens es (Ends n o)
  | some o => (s.run es).tasks[n]? = some (.over (.ok ())) ∧
    (∀ o', s.Happens es (Ends n o') ↔ o' = o) ∧ s.Answered n session.id d es o

/-- A drop is still being handled; if its loop was called off, a request has done so. -/
structure Pending (s : Exchange) (n : Nat) (session : Session) (d : Drop) (es : List Event)
    (stage : WatchStage) : Prop where
  task : (s.run es).tasks[n]? = some (.watch session stage)
  drop : stage.drop? = some d
  untold : s.notices n es = []
  unended : ∀ o, ¬s.Happens es (Ends n o)
  recovered : ∀ l, stage = .notingReopening d l → s.Happens es (Recovers n session.id)
  calledOff : ∀ l ∈ (Task.watch session stage).loop?,
    (s.run es).connector.reopener.isCancelled l = true → s.Happens es (CallsOff n session.id)

section Ends

variable {o o' : ReopenOutcome}

/-- A loop ends in a turn of its watch. -/
theorem Ends.isTurnOf (h : Ends n o s e) : e.isTurnOf n = true := by
  cases h
  simp [Event.isTurnOf]

theorem Ends.watch (h : Ends n o s e) : ∃ session stage, s.tasks[n]? = some (.watch session stage) := by
  cases h with
  | pause session stage _ _ _ _ ht => exact ⟨session, stage, ht⟩

end Ends

end Exchange

/-- To allow all attempts again calls no loop off. -/
theorem Reopener.isCancelled_reset {r : Reopener} {l : ReopenLoop} (h : r.isCancelled l = false)
    (id : SessionId) : (r.reset id).isCancelled l = false := by
  rw [isCancelled_eq] at h ⊢
  cases hk : r.standing l.entry with
  | none => simp [hk] at h
  | some k =>
    obtain ⟨htoken, hcancelled⟩ : k.token ≤ l.token ∧ k.cancelled = false := by simpa [hk] using h
    rw [Ordered.standing_reset, hk]
    by_cases hlookup : r.registered.lookup id = some l.entry <;>
      simp [hlookup, Standing.reset, htoken, hcancelled]

/-- The entry of a loop stays as it is when the loop makes an attempt. -/
theorem Connector.standing_trying (c : Connector) (l : ReopenLoop) :
    (c.trying l).reopener.standing l.entry = c.reopener.standing l.entry := by
  have ha : Altered l.entry (fun k => k) c.reopener (c.trying l).reopener := attempt_altered l
  simp [ha.standing]

@[simp] theorem Connector.events_joined (c : Connector) (session : Session)
    (connection : Connection) (channel : ChannelId) :
    (c.joined session connection channel).events = c.events := by
  unfold joined attached putWatcher stopWatcher
  split <;> rfl

namespace Reopener

variable {r r₁ : Reopener} {l l' : ReopenLoop} {k : Standing}

theorem isCancelled_congr (hl : l'.entry = l.entry) (htoken : l'.token = l.token)
    (hstanding : r₁.standing l.entry = r.standing l.entry) :
    r₁.isCancelled l' = r.isCancelled l := by
  rw [isCancelled_eq, isCancelled_eq, hl, htoken, hstanding]

/-- After an attempt that failed, a loop that was not called off waits or tells that it gave up. -/
theorem Stepped.verdict {step : Reopener.Step} (h : Stepped r l k step)
    (hk : r.standing l.entry = some k) (huntripped : r.Untripped l) (hlive : r.isCancelled l = false) :
    (∃ l', step.2.2 = .delayed l' ∧ step.1.isCancelled l' = false) ∨
      step.2.2 = .ended (.gaveUp true) := by
  cases h with
  | waits r' events l' ha hsession hentry htoken =>
    refine .inl ⟨l', rfl, ?_⟩
    have hsame : r'.standing l.entry = r.standing l.entry := by simp [ha.standing]
    rwa [isCancelled_congr hentry htoken hsame]
  | gaveUp => exact .inr (by rw [huntripped k hk]; rfl)

end Reopener

inductive Grounds (session : Session) (c : Connector) : WatchStage → ReopenOutcome → Prop where
  | gaveUp (stage : WatchStage) : Grounds session c stage (.gaveUp true)
  | notRegistered (stage : WatchStage) : Grounds session c stage .notRegistered
  | reconnected (d : Drop) (l : ReopenLoop) :
    Grounds session c (.notingReopening d l) (.reconnected l.attempt)
  | cancelled (stage : WatchStage) (l : ReopenLoop) : l ∈ (Task.watch session stage).loop? →
    c.reopener.isCancelled l = true → Grounds session c stage .cancelled

/-- A pause is a delay of a loop that was not called off, or there are grounds for its end. -/
theorem Pauses.verdict {session : Session} {c c₁ : Connector} {stage : WatchStage} {s : Signal}
    {d : Drop} {step : Reopener.Step} {ts : List Task} (h : Pauses session c stage s d c₁ step)
    (hkept : Kept session.id c (.watch session stage :: ts))
    (ho : Exchange.Orderly c (.watch session stage :: ts))
    (hears : c.hears (.watch session stage) s = true)
    (hlive : stage.hurried = false → s.inward = false → ∀ d l, stage = .delayed d l →
      c.reopener.isCancelled l = false)
    (hfail : (Task.watch session stage).dials = true → s ≠ .reply (.failed .cancelled)) :
    (∃ l, step.2.2 = .delayed l ∧ step.1.isCancelled l = false) ∨
      ∃ o, step.2.2 = .ended o ∧ Grounds session c stage o := by
  have hsuits := hkept.suits _ List.mem_cons_self rfl
  have hstepped : ((∃ l, step.2.2 = .delayed l ∧ step.1.isCancelled l = false) ∨
      step.2.2 = .ended (.gaveUp true)) →
      (∃ l, step.2.2 = .delayed l ∧ step.1.isCancelled l = false) ∨
        ∃ o, step.2.2 = .ended o ∧ Grounds session c stage o :=
    fun hstep => hstep.imp_right fun hended => ⟨_, hended, .gaveUp stage⟩
  cases h with
  | dropped d todo r params hserial htodo =>
    obtain ⟨-, -, harmed, hfree⟩ := hsuits
    obtain ⟨-, h⟩ | ⟨n, k, hlookup, hk, hcase⟩ := c.reopener.drop_cases session.id
    · exact .inr ⟨.notRegistered, by rw [h], .notRegistered _⟩
    · have hcurrent : c.reopener.current session.id = some k := by
        rw [current, hlookup, Option.bind_some, hk]
      obtain ⟨hreconnecting, -⟩ | ⟨-, h | h⟩ := hcase
      · rw [hfree k hcurrent] at hreconnecting
        cases hreconnecting
      · obtain ⟨r', events, l, h, ha, -, hentry, htoken⟩ := h
        refine .inl ⟨l, by rw [h], ?_⟩
        have hstanding : r'.standing l.entry = some k.start := by
          rw [hentry, ha.standing, if_pos rfl, hk]
          rfl
        rw [h, isCancelled_eq, hstanding, htoken]
        simp [Standing.start, (harmed k hcurrent).2]
      · obtain ⟨r', events, h, -⟩ := h
        refine hstepped (.inr ?_)
        rw [h, (harmed k hcurrent).1]
        rfl
  | calledOff d l => exact .inr ⟨.cancelled, rfl, .cancelled _ l rfl hears⟩
  | forgotten d l hregistered =>
    have hl := hlive rfl rfl d l rfl
    obtain ⟨k, hk, -⟩ := ho.sound_cons.running l (by simp [Task.loop?])
    have hsame := c.standing_trying l
    have hl' : (c.trying l).reopener.isCancelled l = false :=
      (isCancelled_congr rfl rfl hsame).trans hl
    obtain ⟨hcancelled | hcancelled, -⟩ | ⟨-, h⟩ :=
      refused_cases l (hsame.trans hk) (.sessionNotFound session.id)
    · cases hl'.symm.trans hcancelled
    · cases hcancelled
    · exact hstepped (h.verdict (hsame.trans hk)
        (fun k hk => hsuits.2.1 k (hsame.symm.trans hk)) hl')
  | overtaken d l hregistered hstate => exact absurd (hsuits.2.2 (hlive rfl rfl d l rfl)) hstate
  | refused d l params channel e =>
    obtain ⟨k, hk, -⟩ := ho.sound_cons.running l (by simp [Task.loop?])
    obtain ⟨hcancelled, h⟩ | ⟨hl, h⟩ := refused_cases l hk e
    · obtain hcancelled | rfl := hcancelled
      · exact .inr ⟨.cancelled, by rw [h]; rfl, .cancelled _ l rfl hcancelled⟩
      · exact absurd rfl (hfail rfl)
    · exact hstepped (h.verdict hk hsuits.2 hl)
  | succeeded d l r => exact .inr ⟨_, rfl, .reconnected d l⟩

theorem Pauses.drop? {session : Session} {c c₁ : Connector} {stage : WatchStage} {s : Signal}
    {d : Drop} {step : Reopener.Step} (h : Pauses session c stage s d c₁ step) :
    stage.drop? = some d := by
  cases h <;> rfl

theorem Pauses.awaits {session : Session} {c c₁ : Connector} {stage : WatchStage} {s : Signal}
    {d : Drop} {step : Reopener.Step} (h : Pauses session c stage s d c₁ step) :
    (Task.watch session stage).awaits s = true := by
  cases h <;> rfl

theorem Connector.events_paused (c : Connector) (session : Session) (d : Drop)
    (step : Reopener.Step) : (c.paused session d step).events = c.events ++
      (step.2.1.map .reopening ++
        if step.2.2.reports then [.disconnected session.id d.reason] else []) := by
  unfold paused
  dsimp only
  split <;> simp [emitAll, emit]

/-- What is told at a pause. -/
theorem Pauses.events {session : Session} {c c₁ : Connector} {stage : WatchStage} {s : Signal}
    {d : Drop} {step : Reopener.Step} (h : Pauses session c stage s d c₁ step) :
    ∃ told : List ReopenEvent, (c₁.paused session d step).events = c.events ++
      (told.map .reopening ++ if step.2.2.reports then [.disconnected session.id d.reason] else []) := by
  have hbefore : ∃ told : List ReopenEvent, c₁.events = c.events ++ told.map .reopening := by
    cases h with
    | forgotten d l | overtaken d l => exact ⟨(c.reopener.attempt l).2.1, rfl⟩
    | _ => exact ⟨[], (List.append_nil _).symm⟩
  obtain ⟨told, htold⟩ := hbefore
  refine ⟨told ++ step.2.1, ?_⟩
  rw [Connector.events_paused, htold, List.map_append]
  simp only [List.append_assoc]

/-- A turn comes to one pause only. -/
theorem Pauses.unique {session : Session} {c c₁ c₂ : Connector} {stage : WatchStage} {s : Signal}
    {d d' : Drop} {step step' : Reopener.Step} (h : Pauses session c stage s d c₁ step)
    (h' : Pauses session c stage s d' c₂ step') : step = step' := by
  cases h with
  | forgotten _ _ hregistered =>
    cases h' with
    | forgotten => rfl
    | overtaken _ _ hregistered' => cases hregistered.symm.trans hregistered'
  | overtaken _ _ hregistered =>
    cases h' with
    | forgotten _ _ hregistered' => cases hregistered.symm.trans hregistered'
    | overtaken => rfl
  | _ => cases h'; rfl

namespace Exchange

variable {o o' : ReopenOutcome} {s : Exchange} {n : Nat} {e : Event} {es : List Event}
  {session : Session} {stage : WatchStage} {d : Drop}

/-- A loop has one outcome only. -/
theorem Ends.unique (h : Ends n o s e) (h' : Ends n o' s e) : o = o' := by
  cases h with
  | pause session stage signal d c step ht hears hpauses hstep =>
    cases h' with
    | pause session' stage' _ d' c' step' ht' hears' hpauses' hstep' =>
      obtain ⟨rfl, rfl⟩ : session = session' ∧ stage = stage' := by
        have heq := ht.symm.trans ht'
        simp at heq
        exact heq
      rw [hpauses.unique hpauses', hstep'] at hstep
      exact (ReopenPause.ended.inj hstep).symm

/-- While others have their turns nothing is told of the drop, and only a request for the session
calls its loop off. -/
theorem Pending.other (h : s.Pending n session d es stage) (he : e.isTurnOf n = false)
    (hcalled : ∀ l ∈ (Task.watch session stage).loop?,
      (s.run es).connector.reopener.isCancelled l = false →
      ((s.run es).step e).connector.reopener.isCancelled l = true →
        e.supersedes session.id = true) :
    s.Pending n session d (es ++ [e]) stage where
  task := by
    rw [run_concat]
    exact task_step he h.task
  drop := h.drop
  untold := by
    rw [notices, told_concat, he, if_neg (by simp), List.append_nil]
    exact h.untold
  unended o := by
    rw [happens_concat]
    rintro (hends | hends)
    · exact h.unended o hends
    · cases he.symm.trans hends.isTurnOf
  recovered l hl := (h.recovered l hl).concat e
  calledOff l hl hcancelled := by
    rw [run_concat] at hcancelled
    rw [happens_concat]
    cases hlive : (s.run es).connector.reopener.isCancelled l with
    | true => exact .inl (h.calledOff l hl hlive)
    | false => exact .inr ⟨hcalled l hl hlive hcancelled, _, l, h.task, hl, hlive, hcancelled⟩

theorem notices_turn {told : List ConnectionEvent} (he : e.isTurnOf n = true)
    (hevents : ((s.run es).step e).connector.events = (s.run es).connector.events ++ told) :
    s.notices n (es ++ [e]) = s.notices n es ++ told.filter ConnectionEvent.isDisconnected := by
  rw [notices, told_concat, if_pos he, tells, hevents, List.drop_left, List.filter_append]
  rfl

theorem filter_reopening (told : List ReopenEvent) :
    (told.map ConnectionEvent.reopening).filter ConnectionEvent.isDisconnected = [] := by
  simp [ConnectionEvent.isDisconnected]

/-- The watch goes on with the drop after a turn of its own. -/
theorem Pending.turn {stage' : WatchStage} (h : s.Pending n session d es stage)
    (told : List ConnectionEvent) (he : e.isTurnOf n = true)
    (htask : ((s.run es).step e).tasks[n]? = some (.watch session stage'))
    (hdrop : stage'.drop? = some d)
    (hevents : ((s.run es).step e).connector.events = (s.run es).connector.events ++ told)
    (htold : told.filter ConnectionEvent.isDisconnected = [])
    (hends : ∀ o, ¬Ends n o (s.run es) e)
    (hrecovered : ∀ l, stage' = .notingReopening d l →
      stage = .notingReopening d l ∨ Recovers n session.id (s.run es) e)
    (hcalled : ∀ l ∈ (Task.watch session stage').loop?,
      ((s.run es).step e).connector.reopener.isCancelled l = true →
        l ∈ (Task.watch session stage).loop? ∧
          (s.run es).connector.reopener.isCancelled l = true) :
    s.Pending n session d (es ++ [e]) stage' where
  task := by rw [run_concat, htask]
  drop := hdrop
  untold := by rw [notices_turn he hevents, htold, h.untold, List.append_nil]
  unended o := by
    rw [happens_concat]
    exact not_or.2 ⟨h.unended o, hends o⟩
  recovered l hl := by
    obtain hold | hnow := hrecovered l hl
    · exact (h.recovered l hold).concat e
    · exact happens_concat.2 (.inr hnow)
  calledOff l hl hcancelled := by
    rw [run_concat] at hcancelled
    obtain ⟨hold, hcancelled'⟩ := hcalled l hl hcancelled
    exact (h.calledOff l hold hcancelled').concat e

/-- There has been an outcome, and nothing follows. -/
theorem Fate.closed (h : s.Fate n session d es (some o)) :
    s.Fate n session d (es ++ [e]) (some o) := by
  obtain ⟨htask, hends, hanswered⟩ := h
  have hstep : ((s.run es).step e).tasks[n]? = some (.over (.ok ())) ∧
      s.notices n (es ++ [e]) = s.notices n es := by
    cases he : e.isTurnOf n with
    | false =>
      refine ⟨task_step he htask, ?_⟩
      rw [notices, told_concat, he, if_neg (by simp), List.append_nil]
      rfl
    | true =>
      obtain ⟨signal, rfl⟩ := Event.eq_of_isTurnOf he
      have hears : (s.run es).connector.hears (.over (.ok ())) signal = false := by
        cases signal <;> rfl
      rw [notices, told_concat, if_pos he, tells_unheard htask hears, List.append_nil,
        step_resume_unheard htask hears]
      exact ⟨htask, rfl⟩
  refine ⟨by rw [run_concat]; exact hstep.1, fun o' => ?_, ?_⟩
  · rw [happens_concat, hends]
    refine or_iff_left fun hnow => ?_
    obtain ⟨session', stage', hwatch⟩ := hnow.watch
    cases htask.symm.trans hwatch
  · unfold Answered at hanswered ⊢
    rw [hstep.2]
    split at hanswered
    · exact ⟨hanswered.1, hanswered.2.concat e⟩
    · exact hanswered
    · exact hanswered
    · exact ⟨hanswered.1, hanswered.2.concat e⟩
    · exact hanswered
    · exact hanswered

/-- A loop ends with a pause. -/
theorem Ends.pauses {o : ReopenOutcome} {signal : Signal}
    (ht : s.tasks[n]? = some (.watch session stage)) (h : Ends n o s (.resume n signal)) :
    ∃ d c step, Pauses session s.connector stage signal d c step ∧ step.2.2 = .ended o := by
  cases h with
  | pause session' stage' _ d c step ht' _ hpauses hstep =>
    obtain ⟨rfl, rfl⟩ : session = session' ∧ stage = stage' := by
      have heq := ht.symm.trans ht'
      simp at heq
      exact heq
    exact ⟨d, c, step, hpauses, hstep⟩

/-- A turn of the watch that comes to a delay or to an end. -/
theorem Pending.pause {signal : Signal} {c₁ : Connector} {step : Reopener.Step}
    (h : s.Pending n session d es stage)
    (hears : (s.run es).connector.hears (.watch session stage) signal = true)
    (hpauses : Pauses session (s.run es).connector stage signal d c₁ step)
    (htask : ((s.run es).step (.resume n signal)).tasks[n]? = some (step.2.2.task session d))
    (hconnector : ((s.run es).step (.resume n signal)).connector = c₁.paused session d step)
    (hverdict : (∃ l, step.2.2 = .delayed l ∧ step.1.isCancelled l = false) ∨
      ∃ o, step.2.2 = .ended o ∧ Grounds session (s.run es).connector stage o) :
    (∃ stage', s.Pending n session d (es ++ [.resume n signal]) stage') ∨
      ∃ o, s.Fate n session d (es ++ [.resume n signal]) (some o) := by
  have he : (Event.resume n signal).isTurnOf n = true := by simp [Event.isTurnOf]
  obtain ⟨told, htold⟩ := hpauses.events
  rw [← hconnector] at htold
  have hreopener : (c₁.paused session d step).reopener = step.1 := Connector.reopener_paused ..
  obtain ⟨l, hpause, hl⟩ | ⟨o, hpause, hgrounds⟩ := hverdict
  · rw [hpause] at htask htold
    refine .inl ⟨_, h.turn _ he htask rfl htold ?_ (fun o hends => ?_) (by simp)
      fun l' hl' hcancelled => ?_⟩
    · rw [List.filter_append, filter_reopening]
      rfl
    · obtain ⟨d, c, step', hpauses', hended⟩ := hends.pauses h.task
      rw [← hpauses.unique hpauses', hpause] at hended
      cases hended
    · obtain rfl : l = l' := Option.some.inj hl'
      rw [hconnector, hreopener, hl] at hcancelled
      cases hcancelled
  · rw [hpause] at htask
    have hends : Ends n o (s.run es) (.resume n signal) :=
      .pause _ _ _ _ _ _ h.task hears hpauses hpause
    have hnotices := notices_turn he htold
    rw [h.untold, List.nil_append, List.filter_append, filter_reopening, List.nil_append,
      hpause] at hnotices
    refine .inr ⟨o, by rw [run_concat, htask]; rfl, fun o' => ?_, ?_⟩
    · rw [happens_concat]
      exact ⟨fun h' => h'.elim (fun h' => absurd h' (h.unended o')) fun h' => h'.unique hends,
        fun heq => .inr (heq ▸ hends)⟩
    · cases hgrounds with
      | gaveUp | notRegistered => exact hnotices
      | reconnected d' l =>
        obtain rfl : d' = d := Option.some.inj h.drop
        exact ⟨hnotices, (h.recovered l rfl).concat _⟩
      | cancelled _ l hl hcancelled => exact ⟨hnotices, (h.calledOff l hl hcancelled).concat _⟩

/-- A turn of the watch leaves the drop pending or brings the outcome. -/
theorem Pending.own {signal : Signal} {params : SerialParams}
    (h : s.Pending n session d es stage) (htidy : (s.run es).Tidy session.id)
    (htarget : session.target = .serial params)
    (hprompt : (s.run es).prompt (.resume n signal) = true)
    (hadmits : (s.run es).admits session.id (.resume n signal) = true) :
    (∃ stage', s.Pending n session d (es ++ [.resume n signal]) stage') ∨
      ∃ o, s.Fate n session d (es ++ [.resume n signal]) (some o) := by
  have he : (Event.resume n signal).isTurnOf n = true := by simp [Event.isTurnOf]
  have ht := h.task
  cases hears : (s.run es).connector.hears (.watch session stage) signal with
  | false =>
    have hstep := step_resume_unheard ht hears
    refine .inl ⟨stage, h.turn [] he (by rw [hstep, ht]) h.drop (by rw [hstep]; simp) rfl
      (fun o hends => ?_) (fun l hl => .inl hl)
      fun l hl hcancelled => ⟨hl, by rwa [hstep] at hcancelled⟩⟩
    cases hends with
    | pause session' stage' _ d c step ht' hears' =>
      rw [Option.some.inj (ht.symm.trans ht'), hears'] at hears
      cases hears
  | true =>
    have htaking : (s.run es).connector.taking (.watch session stage) signal =
        (s.run es).connector := by
      cases stage with
      | watching => cases h.drop
      | _ => rfl
    obtain ⟨t', c', new, hmove, hstep⟩ := step_moves ht hears
    rw [htaking] at hmove
    have htask : ((s.run es).step (.resume n signal)).tasks[n]? = some t' := by
      rw [hstep]
      exact task_set ht t' new
    have hconnector : ((s.run es).step (.resume n signal)).connector = c' := by rw [hstep]
    have hperm := perm_eraseIdx ht
    have ho := htidy.regular.orderly.perm hperm
    cases hmove with
    | stop | ignore | drop => cases h.drop
    | stay _ _ hawaits =>
      refine .inl ⟨stage, h.turn [] he htask h.drop (by simp [hconnector]) rfl
        (fun o hends => ?_) (fun l hl => .inl hl)
        fun l hl hcancelled => ⟨hl, hconnector ▸ hcancelled⟩⟩
      obtain ⟨d, c, step, hpauses, -⟩ := hends.pauses ht
      cases hawaits.symm.trans hpauses.awaits
    | close session d' todo r htodo =>
      refine .inl ⟨_, h.turn [] he htask h.drop (by simp [hconnector]) rfl
        (fun o hends => ?_) (by simp) (by simp [Task.loop?])⟩
      obtain ⟨d, c, step, hpauses, -⟩ := hends.pauses ht
      cases hpauses with
      | dropped _ _ _ _ _ htodo' => exact htodo htodo'
    | report session d' todo r target hssh => cases htarget.symm.trans hssh
    | lose session d' l hparams =>
      obtain ⟨k, hk, -⟩ := ho.sound_cons.running l (by simp [Task.loop?])
      exact absurd hparams (attempt_params l hk)
    | claim session d' l params' hparams hregistered hstate =>
      refine .inl ⟨_, h.turn
        (((s.run es).connector.reopener.attempt l).2.1.map ConnectionEvent.reopening) he htask
        h.drop (by rw [hconnector]; rfl) (filter_reopening _) (fun o hends => ?_) (by simp)
        fun l' hl' hcancelled => ?_⟩
      · obtain ⟨d, c, step, hpauses, -⟩ := hends.pauses ht
        cases hpauses with
        | forgotten _ _ hregistered' => cases hregistered.symm.trans hregistered'
        | overtaken _ _ _ hstate' => exact hstate' hstate
      · obtain rfl : l = l' := Option.some.inj hl'
        rw [hconnector] at hcancelled
        exact ⟨rfl, (isCancelled_congr rfl rfl (Connector.standing_trying _ l)).symm.trans hcancelled⟩
    | reopen session d' l params' channel terminal =>
      refine .inl ⟨_, h.turn [] he htask h.drop ?_ rfl (fun o hends => ?_)
        (fun l' _ => .inr ⟨terminal, channel, rfl, ?_⟩) fun l' hl' hcancelled => ⟨hl', ?_⟩⟩
      · rw [hconnector, Connector.events_joined, List.append_nil]
      · obtain ⟨d, c, step, hpauses, -⟩ := hends.pauses ht
        cases hpauses
      · rw [hconnector]
        exact (Connector.slot_joined ..).trans (if_pos rfl)
      · rwa [hconnector, Connector.reopener_joined] at hcancelled
    | pause session stage signal d' c₁ step hpauses =>
      obtain rfl : d' = d := Option.some.inj (hpauses.drop?.symm.trans h.drop)
      refine h.pause hears hpauses htask hconnector (hpauses.verdict
        ((htidy.kept_of_watch ht htarget).perm hperm) ho hears ?_ ?_)
      · rintro hstage hinward d l rfl
        exact live_of_rouses (rouses_of_prompt hprompt ((hurries_resume ht).trans hstage)
          (by simp [within, hinward, ht]) _ (List.mem_of_getElem? ht))
      · rintro hdials rfl
        simp [admits, ht, hdials] at hadmits

/-- The turn of another task leaves a loop of a watch over the session alone. -/
theorem standing_of_turn {signal : Signal} {l : ReopenLoop} {t t' : Task}
    {others new : List Task} {c : Connector} (hkept : Kept session.id s.connector (t :: others))
    (ho : Orderly s.connector (t :: others)) (hcalm : ∀ u ∈ others, u.hurried = false)
    (hwatch : Task.watch session stage ∈ others) (hl : l ∈ (Task.watch session stage).loop?)
    (hlive : s.connector.reopener.isCancelled l = false)
    (hmove : Move (s.connector.taking t signal) t signal t' c new) :
    c.reopener.standing l.entry = s.connector.reopener.standing l.entry := by
  have hsession : l.session = session.id :=
    (Option.some.inj (ho.owned _ (List.mem_cons_of_mem _ hwatch) l hl)).symm
  have ho' := ho.taking t signal
  obtain ⟨i, hi⟩ := t.exists_serves
  rw [← s.connector.reopener_taking t signal]
  obtain hruns | ⟨hmode, hord, -⟩ := hmove.runs ho'.sound_cons hi
  · exact hruns.others ho'.sound_cons (List.mem_filterMap.2 ⟨_, hwatch, hl⟩)
  · by_cases hid : session.id = i
    · subst hid
      -- an attempt for the session is in flight, so that no loop of it can be live
      obtain ⟨hstate, hothers⟩ := hkept.alone hmode
      cases stage with
      | delayed d l' =>
        obtain rfl : l' = l := Option.some.inj hl
        cases hstate.symm.trans ((hkept.delayed (List.mem_cons_of_mem _ hwatch) rfl).2.2 hlive)
      | reopening => exact absurd (if_pos rfl) (hothers _ hwatch)
      | notingReopening => cases hcalm _ hwatch
      | _ => cases hl
    · exact hord.standing_of_ne ho'.sound
        (List.mem_filterMap.2 ⟨_, List.mem_cons_of_mem _ hwatch, hl⟩) (hsession.trans_ne hid)

/-- Only a request for the session calls off the loop of a watch over it. -/
theorem supersedes_of_called {l : ReopenLoop} {params : SerialParams} (htidy : s.Tidy session.id)
    (htarget : session.target = .serial params)
    (ht : s.tasks[n]? = some (.watch session stage)) (hl : l ∈ (Task.watch session stage).loop?)
    (he : e.isTurnOf n = false) (hprompt : s.prompt e = true)
    (hlive : s.connector.reopener.isCancelled l = false)
    (hcalled : (s.step e).connector.reopener.isCancelled l = true) :
    e.supersedes session.id = true := by
  have hmem := List.mem_of_getElem? ht
  have hloop : l ∈ s.tasks.filterMap Task.loop? := List.mem_filterMap.2 ⟨_, hmem, hl⟩
  have ho := htidy.regular.orderly
  have hsession : l.session = session.id := (Option.some.inj (ho.owned _ hmem l hl)).symm
  obtain ⟨ts, heffect, -⟩ := s.effect e
  generalize (s.step e).connector = c at heffect hcalled
  by_contra hnot
  have hdiffer : c.reopener.standing l.entry ≠ s.connector.reopener.standing l.entry := by
    intro hsame
    cases hlive.symm.trans ((isCancelled_congr rfl rfl hsame).symm.trans hcalled)
  cases heffect with
  | nothing | refused | create | forget | limit | publish | policy => exact hdiffer rfl
  | cancel token =>
    refine hdiffer ?_
    unfold Connector.cancel
    split <;> rfl
  | order i o =>
    by_cases hi : i = session.id
    · cases o with
      | reset => cases (isCancelled_reset hlive i).symm.trans hcalled
      | _ => exact hnot (by simp [Event.supersedes, hi])
    · exact hdiffer ((ordered_carryOut ho.sound i o).standing_of_ne ho.sound hloop
        (hsession.trans_ne (Ne.symm hi)))
  | begin _ t c₀ t' _ new hbegins hmove =>
    obtain ⟨i, hserves, hord⟩ := hbegins.ordered
    by_cases hi : i = session.id
    · refine hnot ?_
      cases hbegins <;> simp_all [Event.supersedes, Task.serves]
    · have hne : l.session ≠ i := hsession.trans_ne (Ne.symm hi)
      have ho₀ : Orderly c₀ (t :: s.tasks) := (ho.ordered hord).idle hbegins.loop?
      obtain ⟨hstir, -⟩ :=
        ho₀.stir hmove (i := i) fun j hj => Option.some.inj (hj.symm.trans hserves)
      exact hdiffer ((hstir.standing_of_ne ho₀.sound_cons hloop hne).trans
        (hord.standing_of_ne ho.sound hloop hne))
  | turn m signal t others t' _ new htm hothers hrest hears hmove =>
    have hm : m ≠ n := by simpa [Event.isTurnOf] using he
    exact hdiffer (standing_of_turn ((htidy.kept_of_watch ht htarget).perm hothers)
      (ho.perm hothers) (calm_of_prompt hprompt htidy.single htm hothers)
      (hrest n _ (Ne.symm hm) ht) hl hlive hmove)

/-- After every event a drop is still pending, or its outcome has come. -/
theorem pending_step {params : SerialParams} (h : s.Pending n session d es stage)
    (htidy : (s.run es).Tidy session.id)
    (htarget : session.target = .serial params) (hprompt : (s.run es).prompt e = true)
    (hadmits : (s.run es).admits session.id e = true) :
    (∃ stage', s.Pending n session d (es ++ [e]) stage') ∨
      ∃ o, s.Fate n session d (es ++ [e]) (some o) := by
  cases he : e.isTurnOf n with
  | true =>
    obtain ⟨signal, rfl⟩ := Event.eq_of_isTurnOf he
    exact h.own htidy htarget hprompt hadmits
  | false =>
    refine .inl ⟨stage, h.other he fun l hl hlive hcalled => ?_⟩
    exact supersedes_of_called htidy htarget h.task hl he hprompt hlive hcalled

/-- In a prompt run a drop stays pending until its outcome comes. -/
theorem pending_or_closed {params : SerialParams} {todo : List Call} (htidy : s.Tidy session.id)
    (htarget : session.target = .serial params)
    (ht : s.tasks[n]? = some (.watch session (.closing d todo)))
    (hsmooth : s.smooth session.id es = true) :
    (∃ stage, s.Pending n session d es stage) ∨ ∃ o, s.Fate n session d es (some o) := by
  induction es using List.reverseRecOn with
  | nil =>
    exact .inl ⟨_, ht, rfl, rfl, fun _ => not_happens_nil, nofun, nofun⟩
  | append_singleton es e ih =>
    obtain ⟨hbefore, hlast⟩ := smooth_append.1 hsmooth
    obtain ⟨hprompt, hadmits, -⟩ := smooth_cons.1 hlast
    obtain ⟨stage, hpending⟩ | ⟨o, hfate⟩ := ih hbefore
    · exact pending_step hpending (tidy_run htidy hbefore) htarget hprompt hadmits
    · exact .inr ⟨o, hfate.closed⟩

/-- A drop of a serial line whose connection is being closed has exactly one fate in a prompt run. -/
theorem fate_of_closing {params : SerialParams} {todo : List Call} (htidy : s.Tidy session.id)
    (htarget : session.target = .serial params)
    (ht : s.tasks[n]? = some (.watch session (.closing d todo)))
    (hsmooth : s.smooth session.id es = true) :
    ∃! o, s.Fate n session d es o := by
  obtain ⟨stage, hpending⟩ | ⟨o, hfate⟩ := pending_or_closed htidy htarget ht hsmooth
  · refine ⟨none, ⟨⟨stage, hpending.task, hpending.drop⟩, hpending.untold, hpending.unended⟩, ?_⟩
    rintro (_ | o) h
    · rfl
    · cases hpending.task.symm.trans h.1
  · refine ⟨some o, hfate, ?_⟩
    rintro (_ | o') h
    · obtain ⟨⟨stage, hwatch, -⟩, -⟩ := h
      cases hfate.1.symm.trans hwatch
    · rw [(hfate.2.1 o').1 ((h.2.1 o').2 rfl)]

/-- No drop of a serial line is lost, and none is told twice. The first report about the connection
that a session holds is handled before anything comes from outside, and then it has exactly one
fate: it is still being handled, or the session got a new connection and nothing was told of it, or
it was told once, or its loop was called off by a request for the session. -/
theorem every_drop_settled {before : List Event} {session : Session} {params : SerialParams}
    {w : Watcher} {d : Drop} (hsmooth : smooth session.id {} before = true)
    (hsession : session ∈ (run {} before).sessions) (htarget : session.target = .serial params)
    (hw : ((run {} before).connector.slot session.id).watcher = some w)
    (hreport : ((run {} before).connector.channel w.channel).next.1 = .report d) :
    let s := run {} before
    ∃ n a, a.session = session ∧ s.Due n a d ∧ ∀ later, s.smooth session.id later = true →
      ((s.run later).Due n a d ∧ ¬s.Happens later Outward) ∨
      ∃ mid after, later = mid ++ .resume n (.reported d) :: after ∧ (s.run mid).Due n a d ∧
        ¬s.Happens mid Outward ∧
        let s' := (s.run mid).step (.resume n (.reported d))
        s'.ledger.handled =
          (s.run mid).ledger.handled ++ [⟨session, a.generation, a.channel, d⟩] ∧
        s'.connector.events = (s.run mid).connector.events ∧
        ∃! o, s'.Fate n session d after o := by
  intro s
  have htidy : s.Tidy session.id := tidy_run (tidy_start _) hsmooth
  obtain ⟨n, a, rfl, hdue⟩ := due_of_report htidy.regular hsession hw hreport
  refine ⟨n, a, rfl, hdue, fun later hlater => ?_⟩
  obtain hwaits | ⟨mid, after, rfl, hread, hinside⟩ := hdue.due_or_read htidy htarget hlater
  · exact .inl hwaits
  · obtain ⟨hmid, hrest⟩ := smooth_append.1 hlater
    obtain ⟨hprompt, hadmits, hafter⟩ := smooth_cons.1 hrest
    obtain ⟨hhandled, hevents, htask⟩ := step_current hread.current hread.hears
    refine .inr ⟨mid, after, rfl, hread, hinside, hhandled, hevents, ?_⟩
    exact fate_of_closing (tidy_step (tidy_run htidy hmid) hprompt hadmits) htarget htask hafter

def line : Session := ⟨⟨1⟩, .serial { device := "/dev/ttyUSB0", baudRate := 9600 }⟩

def lostLine : List Event :=
  [.create line.target, .policy { maxAttempts := 1 }, .connect line ⟨0⟩,
    .resume 0 (.reply (.terminal ⟨0, "line"⟩)), .resume 0 (.reply .done),
    .resume 0 (.reply .done), .publish ⟨0⟩ eof]

def lastAttempt : List Event :=
  [.resume 1 (.reply .done), .resume 1 (.reply .done), .resume 1 .elapsed,
    .resume 1 (.reply (.failed (.transport "gone")))]

/-- The drop of the lost line is told once, after the attempt has failed. -/
theorem lost_line_given_up :
    let s := (run {} lostLine).step (.resume 1 (.reported eof))
    s.notices 1 lastAttempt = [.disconnected line.id "eof"] ∧
      ∃! o, s.Fate 1 line eof lastAttempt o := by
  have hwatcher : ((run {} lostLine).connector.slot line.id).watcher = some ⟨1, ⟨0⟩⟩ := by decide
  have hreport : ((run {} lostLine).connector.channel ⟨0⟩).next.1 = .report eof := by decide
  obtain ⟨n, a, hsession, hdue, hlater⟩ :=
    every_drop_settled (by decide) (by decide) rfl hwatcher hreport
  have htask := hdue.current.task
  obtain rfl : n = 1 := by
    rcases n with _ | _ | n
    · cases htask
    · rfl
    · cases htask
  refine ⟨by decide, ?_⟩
  obtain ⟨hwaits, -⟩ | ⟨mid, after, hsplit, -, -, -, -, hfate⟩ :=
    hlater (.resume 1 (.reported eof) :: lastAttempt) (by decide)
  · cases hwaits.current.task
  · rcases mid with _ | ⟨e, mid⟩
    · cases hsplit
      exact hfate
    · have hmem : Event.resume 1 (.reported eof) ∈ lastAttempt := by
        rw [(List.cons.inj hsplit).2]
        exact List.mem_append_right _ List.mem_cons_self
      simp [lastAttempt] at hmem

end Exchange

end Multiplexer
