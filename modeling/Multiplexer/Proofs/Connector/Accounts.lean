import Multiplexer.Proofs.Connector.Asks

/-!
# Accounts

Each call for a connection that is let through gives one account of how it ended, in
the history and to whoever listens, and both agree with what it returned. A call that
is refused gives none and leaves everything as it is. A watch that opens a line again
by itself notes each success, and nothing else.
-/

namespace Multiplexer

open TurnM Reopener

/-- The text of the error that a call returned, if any. -/
def errorText : Except ConnectError Unit → Option String
  | .ok _ => none
  | .error e => some e.message

/-- What is noted of a call that has returned. -/
def Note.of (session : Session) (r : Except ConnectError Unit) : Note :=
  ⟨session.target.hostId, (errorText r).map (truncate · errorLimit)⟩

theorem Note.entry_of (time : Instant) (session : Session) (r : Except ConnectError Unit) :
    (Note.of session r).entry time =
      ⟨session.target.hostId, (errorText r).isNone, (errorText r).map (truncate · errorLimit),
        time⟩ := by
  cases r with
  | ok => rfl
  | error e => simp [Note.of, errorText, Note.entry, HistoryEntry.failed, truncate_truncate]

def ReopenEvent.isSuccess : ReopenEvent → Bool
  | .success _ _ => true
  | _ => false

namespace ConnectionEvent

def isCompleted : ConnectionEvent → Bool
  | .completed _ _ => true
  | _ => false

/-- Whether an event tells that a line was opened again. -/
def isSuccess : ConnectionEvent → Bool
  | .reopening e => e.isSuccess
  | _ => false

def Silent (told : List ConnectionEvent) : Prop :=
  ∀ e ∈ told, e.isCompleted = false ∧ e.isSuccess = false

/-- One silence after the other is silence. -/
theorem Silent.append {told told' : List ConnectionEvent} (h : Silent told) (h' : Silent told') :
    Silent (told ++ told') :=
  fun e he => (List.mem_append.1 he).elim (h e) (h' e)

end ConnectionEvent

open ConnectionEvent (Silent)

namespace Reopener

def Unsuccessful (events : List ReopenEvent) : Prop := ∀ e ∈ events, e.isSuccess = false

/-- Of attempts that failed no success is announced. -/
theorem Unsuccessful.silent {events : List ReopenEvent} (h : Unsuccessful events) :
    Silent (events.map .reopening) := by
  intro e he
  obtain ⟨x, hx, rfl⟩ := List.mem_map.1 he
  exact ⟨rfl, h x hx⟩

theorem Unsuccessful.concat {events : List ReopenEvent} {e : ReopenEvent}
    (h : Unsuccessful events) (he : e.isSuccess = false) : Unsuccessful (events ++ [e]) := by
  intro x hx
  obtain hx | hx := List.mem_append.1 hx
  · exact h x hx
  · rwa [List.mem_singleton.1 hx]

variable (r : Reopener) (l : ReopenLoop) {events : List ReopenEvent}

theorem unsuccessful_nil : Unsuccessful [] := by simp [Unsuccessful]

theorem unsuccessful_fail (h : Unsuccessful events) : Unsuccessful (r.fail l events).2.1 := by
  unfold fail finish
  dsimp only
  split
  · exact h.concat rfl
  · exact h

/-- A delay before the next attempt tells of no success. -/
theorem unsuccessful_next (h : Unsuccessful events) : Unsuccessful (r.next l events).2.1 := by
  unfold next
  dsimp only
  split
  · exact h.concat rfl
  · exact unsuccessful_fail r l h

theorem unsuccessful_calledOff : Unsuccessful (r.calledOff l).2.1 := unsuccessful_nil.concat rfl

theorem unsuccessful_refused (e : ConnectError) : Unsuccessful (r.refused l e).2.1 := by
  unfold refused
  dsimp only
  split_ifs
  · exact unsuccessful_calledOff r l
  · exact unsuccessful_next r l (unsuccessful_nil.concat rfl)
  · exact unsuccessful_fail r l (unsuccessful_nil.concat rfl)

theorem unsuccessful_drop (i : SessionId) : Unsuccessful (r.drop i).2.1 := by
  unfold drop
  cases r.entry? i with
  | none => exact unsuccessful_nil
  | some e =>
    dsimp only
    split_ifs
    · exact unsuccessful_nil
    · exact unsuccessful_next _ ⟨i, e.number, e.token, _, 0⟩ (unsuccessful_nil.concat rfl)
    · exact unsuccessful_next _ ⟨i, e.number, e.token, _, 0⟩ unsuccessful_nil
    · exact unsuccessful_nil

end Reopener

namespace Connector

variable (c : Connector) (session : Session) (d : Drop)

theorem silent_paused {step : Reopener.Step} (h : Unsuccessful step.2.1) :
    ∃ told, (c.paused session d step).events = c.events ++ told ∧ Silent told := by
  refine ⟨_, c.events_paused session d step, h.silent.append ?_⟩
  intro e he
  split at he
  · rw [List.mem_singleton.1 he]
    exact ⟨rfl, rfl⟩
  · cases he

/-- An attempt to open a line begins in silence. -/
theorem silent_trying (l : ReopenLoop) :
    ∃ told, (c.trying l).events = c.events ++ told ∧ Silent told :=
  ⟨_, rfl, (unsuccessful_nil.concat rfl : Unsuccessful (c.reopener.attempt l).2.1).silent⟩

end Connector

/-- The pause after a success tells of it, and no other tells of any. -/
theorem Pauses.told {session : Session} {c c₁ : Connector} {stage : WatchStage} {s : Signal}
    {d : Drop} {step : Reopener.Step} (h : Pauses session c stage s d c₁ step) :
    (∃ l r, stage = .notingReopening d l ∧ s = .reply r ∧ step = c.reopener.succeeded l ∧
      (c₁.paused session d step).events =
        c.events ++ [.reopening (.success l.session l.attempt)]) ∨
    (∀ d l, stage ≠ .notingReopening d l) ∧
      ∃ told, (c₁.paused session d step).events = c.events ++ told ∧ Silent told := by
  cases h with
  | succeeded d l r =>
    refine .inl ⟨l, r, rfl, rfl, rfl, ?_⟩
    rw [Connector.events_paused]
    rfl
  | dropped d todo r params =>
    exact .inr ⟨by simp, Connector.silent_paused _ session d (unsuccessful_drop _ _)⟩
  | calledOff d l =>
    exact .inr ⟨by simp, Connector.silent_paused _ session d (unsuccessful_calledOff _ l)⟩
  | refused d l params channel e =>
    exact .inr ⟨by simp, Connector.silent_paused _ session d (unsuccessful_refused _ l e)⟩
  | forgotten d l | overtaken d l =>
    obtain ⟨told, htold, hsilent⟩ := c.silent_trying l
    obtain ⟨told', htold', hsilent'⟩ :=
      Connector.silent_paused (c.trying l) session d
        (unsuccessful_refused (c.trying l).reopener l _)
    exact .inr ⟨by simp, told ++ told', by rw [htold', htold, List.append_assoc],
      hsilent.append hsilent'⟩

/-- The account of an attempt for a session: none while it is under way, and one at its end. -/
inductive Account (session : Session) : Task → List Note → List ConnectionEvent → Prop where
  | underway (a : Attempt) (stage : AttemptStage) : a.session = session →
    (∀ connection, stage ≠ .startingForwards connection) →
    Account session (.attempt a stage) [] []
  | connected (a : Attempt) (connection : Connection) : a.session = session →
    Account session (.attempt a (.startingForwards connection)) [.of session (.ok ())] []
  | returned (r : Except ConnectError Unit) :
    Account session (.over r) [.of session r] [.completed session.id (errorText r)]

theorem AttemptStage.not_startingForwards_of_flying {stage : AttemptStage}
    (h : stage.mode = .flying) (connection : Connection) : stage ≠ .startingForwards connection := by
  rintro rfl
  cases h

theorem Task.files_of_flying {stage : AttemptStage} (h : stage.mode = .flying) (a : Attempt)
    (s : Signal) : (Task.attempt a stage).files s = [] := by
  cases s with
  | reply r => cases stage <;> first | rfl | cases h
  | _ => rfl

/-- Every turn of an attempt keeps its account. -/
theorem account_lasting (session : Session) : Lasting (Account session) := by
  intro c c' t t' signal new notes events hmove h
  cases h with
  | underway a stage hsession hstage =>
    cases hmove with
    | stay _ _ hawaits => exact lasting_stay hawaits (.underway a stage hsession hstage)
    | release | dial => exact lasting_mute rfl rfl (.underway a _ hsession (by simp))
    | goOn _ _ stage' _ _ hflying hrouted =>
      exact lasting_mute (Task.files_of_flying hflying a _) rfl (.underway a stage' hsession
        (AttemptStage.not_startingForwards_of_flying (AttemptStage.flying_of_routed hrouted)))
    | fail _ _ _ e hflying =>
      exact lasting_mute (Task.files_of_flying hflying a _) rfl
        (.underway a _ hsession (by simp))
    | connect | «open» =>
      exact lasting_mute (Task.files_of_flying rfl a _) (Connector.events_joined _ _ _ _)
        (.underway a _ hsession (by simp))
    | note _ connection r =>
      subst hsession
      exact ⟨[], (List.append_nil _).symm, .connected a connection rfl⟩
    | complete _ connection => exact absurd rfl (hstage connection)
    | giveUp _ e r =>
      subst hsession
      exact ⟨_, rfl, .returned (.error e)⟩
  | connected a connection hsession =>
    cases hmove with
    | stay _ _ hawaits => exact lasting_stay hawaits (.connected a connection hsession)
    | goOn _ _ _ _ _ hflying => cases hflying
    | fail _ _ _ _ hflying => cases hflying
    | complete =>
      subst hsession
      exact ⟨_, rfl, .returned (.ok ())⟩
  | returned r =>
    cases hmove with
    | stay _ _ hawaits => exact lasting_stay hawaits (.returned r)

inductive Granted : Task → Prop where
  | noting (a : Attempt) (connection : Connection) : Granted (.attempt a (.notingSuccess connection))
  | starting (a : Attempt) (connection : Connection) :
    Granted (.attempt a (.startingForwards connection))
  | returned : Granted (.over (.ok ()))

/-- An attempt that has its connection succeeds, whatever comes for it. -/
theorem granted_lasting : Lasting fun t _ _ => Granted t := by
  intro c c' t t' signal new notes events hmove h
  cases h with
  | noting a connection =>
    cases hmove with
    | stay => exact ⟨[], (List.append_nil _).symm, .noting a connection⟩
    | goOn _ _ _ _ _ hflying => cases hflying
    | fail _ _ _ _ hflying => cases hflying
    | note => exact ⟨[], (List.append_nil _).symm, .starting a connection⟩
  | starting a connection =>
    cases hmove with
    | stay => exact ⟨[], (List.append_nil _).symm, .starting a connection⟩
    | goOn _ _ _ _ _ hflying => cases hflying
    | fail _ _ _ _ hflying => cases hflying
    | complete => exact ⟨_, rfl, .returned⟩
  | returned =>
    cases hmove with
    | stay => exact ⟨[], (List.append_nil _).symm, .returned⟩

/-- A watch notes nothing until it has opened the line again, and then one success, which it
announces. -/
inductive Upkeep (session : Session) : Task → List Note → List ConnectionEvent → Prop where
  | underway (stage : WatchStage) (told : List ConnectionEvent) : Silent told →
    Upkeep session (.watch session stage) [] told
  | ended (told : List ConnectionEvent) : Silent told → Upkeep session (.over (.ok ())) [] told
  | recovered (told : List ConnectionEvent) (l : ReopenLoop) : Silent told →
    Upkeep session (.over (.ok ())) [.of session (.ok ())]
      (told ++ [.reopening (.success l.session l.attempt)])

theorem Upkeep.of_pause {session : Session} {d : Drop} {told : List ConnectionEvent}
    (h : Silent told) (pause : ReopenPause) : Upkeep session (pause.task session d) [] told := by
  cases pause with
  | delayed l => exact .underway _ _ h
  | ended o => exact .ended _ h

theorem Task.files_of_not_noting {session : Session} {stage : WatchStage}
    (h : ∀ d l, stage ≠ .notingReopening d l) (s : Signal) :
    (Task.watch session stage).files s = [] := by
  cases s with
  | reply r => cases stage <;> first | rfl | exact absurd rfl (h _ _)
  | _ => rfl

/-- Every turn of a watch notes nothing, or one success that it announces. -/
theorem upkeep_lasting (session : Session) : Lasting (Upkeep session) := by
  intro c c' t t' signal new notes events hmove h
  cases h with
  | underway stage _ hsilent =>
    cases hmove with
    | stay _ _ hawaits => exact lasting_stay hawaits (.underway stage _ hsilent)
    | stop | ignore => exact lasting_mute rfl rfl (.ended _ hsilent)
    | drop | close => exact lasting_mute rfl rfl (.underway _ _ hsilent)
    | reopen => exact lasting_mute rfl (Connector.events_joined _ _ _ _) (.underway _ _ hsilent)
    | report _ d =>
      refine ⟨_, rfl, .ended _ (hsilent.append ?_)⟩
      intro e he
      rw [List.mem_singleton.1 he]
      exact ⟨rfl, rfl⟩
    | lose _ d l =>
      obtain ⟨told, htold, hsilent'⟩ := c.silent_trying l
      exact ⟨told, htold, .ended _ (hsilent.append hsilent')⟩
    | claim _ d l =>
      obtain ⟨told, htold, hsilent'⟩ := c.silent_trying l
      exact ⟨told, htold, .underway _ _ (hsilent.append hsilent')⟩
    | pause _ _ _ d c₁ step hpauses =>
      obtain ⟨l, r, rfl, rfl, rfl, htold⟩ | ⟨hstage, told, htold, hsilent'⟩ := hpauses.told
      · exact ⟨_, htold, .recovered _ l hsilent⟩
      · rw [Task.files_of_not_noting hstage]
        exact ⟨told, htold, .of_pause (hsilent.append hsilent') _⟩
  | ended _ hsilent =>
    cases hmove with
    | stay _ _ hawaits => exact lasting_stay hawaits (.ended _ hsilent)
  | recovered told l hsilent =>
    cases hmove with
    | stay _ _ hawaits => exact lasting_stay hawaits (.recovered told l hsilent)

inductive Restored (session : Session) (l : ReopenLoop) :
    Task → List Note → List ConnectionEvent → Prop where
  | noting (d : Drop) : Restored session l (.watch session (.notingReopening d l)) [] []
  | ended : Restored session l (.over (.ok ())) [.of session (.ok ())]
    [.reopening (.success l.session l.attempt)]

/-- A watch whose line is open again notes that success and no other. -/
theorem restored_lasting (session : Session) (l : ReopenLoop) : Lasting (Restored session l) := by
  intro c c' t t' signal new notes events hmove h
  cases h with
  | noting d =>
    cases hmove with
    | stay _ _ hawaits => exact lasting_stay hawaits (.noting d)
    | pause _ _ _ _ _ _ hpauses =>
      obtain ⟨l, r, heq, rfl, rfl, htold⟩ | ⟨hstage, -⟩ := hpauses.told
      · cases heq
        exact ⟨_, htold, .ended⟩
      · exact absurd rfl (hstage d l)
  | ended =>
    cases hmove with
    | stay _ _ hawaits => exact lasting_stay hawaits .ended

/-- A task that is over has nothing to note and announces nothing. -/
theorem over_lasting (r : Except ConnectError Unit) :
    Lasting fun t notes events => t = .over r ∧ notes = [] ∧ events = [] := by
  rintro c c' t t' signal new notes events hmove ⟨rfl, rfl, rfl⟩
  cases hmove with
  | stay _ _ hawaits =>
    rw [Task.files_of_not_awaits hawaits]
    exact ⟨[], (List.append_nil _).symm, rfl, rfl, rfl⟩

namespace Exchange

variable {s : Exchange} {n : Nat} {t : Task} {a : Ask}

/-- An ask is refused: nothing changes, and nothing is ever noted or announced of it. -/
structure Refuses (s : Exchange) (a : Ask) (e : ConnectError) : Prop where
  connector : (s.ask a).connector = s.connector
  tasks : (s.ask a).tasks = s.tasks ++ [.over (.error e)]
  noted : ∀ as, s.noted s.tasks.length (a :: as) = []
  announced : ∀ as, s.announced s.tasks.length (a :: as) = []

structure Settled (s : Exchange) (n : Nat) (session : Session) (as : List Ask)
    (r : Except ConnectError Unit) : Prop where
  noted : ∀ time, (s.noted n as).map (Note.entry time) =
    [{ hostId := session.target.hostId
       success := (errorText r).isNone
       error := (errorText r).map fun e => .ofList (e.toList.take 1000)
       time }]
  announced : s.announced n as = [.completed session.id (errorText r)]

/-- Who notes and announces what, from a state on, whatever else goes on. -/
structure Accounted (s : Exchange) : Prop where
  misdirected : ∀ kind session token, session.target.sessionKind ≠ kind →
    s.Refuses (.connect kind session token) (.wrongSessionKind session.id kind.text)
  overlapping : ∀ session token, (s.connector.status session.id).state = .connecting →
    s.Refuses (.connect session.target.sessionKind session token) (.alreadyConnecting session.id)
  returned : ∀ session token as r, (s.connector.status session.id).state ≠ .connecting →
    let as' : List Ask := .connect session.target.sessionKind session token :: as
    (s.asked as').tasks[s.tasks.length]? = some (.over r) →
      s.Settled s.tasks.length session as' r
  underway : ∀ session token as a stage, (s.connector.status session.id).state ≠ .connecting →
    let as' := .connect session.target.sessionKind session token :: as
    (s.asked as').tasks[s.tasks.length]? = some (.attempt a stage) →
      a.session = session ∧ (s.noted s.tasks.length as').length ≤ 1 ∧
        s.announced s.tasks.length as' = []
  /-- Neither the history nor the forwards can fail a call that has its connection. -/
  granted : ∀ (n : Nat) t as r, s.tasks[n]? = some t → Granted t →
    (s.asked as).tasks[n]? = some (.over r) → r = .ok ()
  forwarded : ∀ (n : Nat) a connection r,
    s.tasks[n]? = some (.attempt a (.startingForwards connection)) →
    (s.ask (.event (.resume n (.reply r)))).tasks[n]? = some (.over (.ok ()))
  /-- A watch notes each line that it says to be open again, and ends no attempt. -/
  watched : ∀ n session stage as, s.tasks[n]? = some (.watch session stage) →
    (∀ e ∈ s.announced n as, e.isCompleted = false) ∧
      s.noted n as = ((s.announced n as).filter ConnectionEvent.isSuccess).map
        fun _ => .of session (.ok ())
  reopened : ∀ n session d l params channel terminal as r,
    s.tasks[n]? = some (.watch session (.reopening d l params channel)) →
    let as' := .event (.resume n (.reply (.terminal terminal))) :: as
    (s.asked as').tasks[n]? = some (.over r) →
      s.noted n as' = [.of session (.ok ())] ∧
        s.announced n as' = [.reopening (.success l.session l.attempt)]
  failed : ∀ n session d l params channel e,
    s.tasks[n]? = some (.watch session (.reopening d l params channel)) →
    let a : Ask := .event (.resume n (.reply (.failed e)))
    s.notes a = [] ∧ Silent (s.announces a) ∧
      ((s.ask a).tasks[n]? = some (.over (.ok ())) ∨
        ∃ l', (s.ask a).tasks[n]? = some (.watch session (.delayed d l')))
  /-- Requests and all other tasks leave the history alone. -/
  elsewhere : ∀ a, (∀ n signal t, a = .event (.resume n signal) → s.tasks[n]? = some t →
    t.speaks = false) → s.notes a = [] ∧ s.announces a = []

/-- A modest request announces nothing. -/
theorem Modest.announces (h : Modest s (s.ask a)) : s.announces a = [] :=
  announces_of_events (by rw [h.events, List.append_nil])

/-- Only the turn of a task notes anything. -/
theorem notes_of_not_resume (h : ∀ m signal, a ≠ .event (.resume m signal)) : s.notes a = [] := by
  cases a with
  | connect => rfl
  | event e =>
    cases e with
    | resume m signal => exact absurd rfl (h m signal)
    | _ => rfl

/-- The first turn of a call notes and announces nothing. -/
theorem noted_connect (kind : SessionKind) (session : Session) (token : Token) (as : List Ask) :
    s.noted n (.connect kind session token :: as) =
      (s.ask (.connect kind session token)).noted n as := by
  simp [noted, notes]

theorem announced_connect (kind : SessionKind) (session : Session) (token : Token)
    (as : List Ask) : s.announced n (.connect kind session token :: as) =
      (s.ask (.connect kind session token)).announced n as := by
  rw [announced, (modest_ask (by simp)).announces]
  simp

theorem noted_resume (n : Nat) (signal : Signal) (as : List Ask) :
    s.noted n (.event (.resume n signal) :: as) =
      s.notes (.event (.resume n signal)) ++ (s.ask (.event (.resume n signal))).noted n as := by
  simp [noted, turn?]

theorem announced_resume (n : Nat) (signal : Signal) (as : List Ask) :
    s.announced n (.event (.resume n signal) :: as) =
      s.announces (.event (.resume n signal)) ++
        (s.ask (.event (.resume n signal))).announced n as := by
  simp [announced, turn?]

/-- An ask whose task is over at once, with nothing changed, is refused. -/
theorem refuses_of_exec {kind : SessionKind} {session : Session} {token : Token} {e : ConnectError}
    (hexec : exec (Connector.connectAs kind session token) ⟨s.connector, []⟩ =
      (.over (.error e), ⟨s.connector, []⟩)) : s.Refuses (.connect kind session token) e := by
  have hask : s.ask (.connect kind session token) = _ := engage_eq hexec
  have htasks : (s.ask (.connect kind session token)).tasks = s.tasks ++ [.over (.error e)] := by
    rw [hask]
  have hover : ∀ as, (s.ask (.connect kind session token)).noted s.tasks.length as = [] ∧
      (s.ask (.connect kind session token)).announced s.tasks.length as = [] := by
    intro as
    obtain ⟨t, -, -, hnoted, hannounced⟩ := lasting_asked (over_lasting (.error e)) as
      (n := s.tasks.length) (s := s.ask (.connect kind session token)) (by simp [htasks])
      (Task.plain_of_todo rfl) ⟨rfl, rfl, rfl⟩
    exact ⟨hnoted, hannounced⟩
  exact {
    connector := by rw [hask]
    tasks := htasks
    noted := fun as => by rw [noted_connect, (hover as).1]
    announced := fun as => by rw [announced_connect, (hover as).2] }

/-- A call that is let through begins an account. -/
theorem account_connect {session : Session} (token : Token)
    (hstate : (s.connector.status session.id).state ≠ .connecting) :
    ∃ t, (s.ask (.connect session.target.sessionKind session token)).tasks[s.tasks.length]? = some t ∧
      t.Plain ∧ Account session t [] [] := by
  obtain ⟨t', c', new, hexec, hmove⟩ :=
    Connector.moves_connect session token ⟨s.connector, []⟩ hstate
  have hask : s.ask (.connect session.target.sessionKind session token) =
      s.engage (Connector.connect session token) := by
    rw [ask, Connector.connectAs_eq_connect rfl]
  rw [engage_eq hexec] at hask
  obtain ⟨told, htold, haccount⟩ := account_lasting session hmove
    (.underway _ _ rfl (by simp))
  have hnothing : told = [] :=
    List.self_eq_append_right.1 ((hmove.events_of_not_speaks rfl).symm.trans htold)
  refine ⟨t', by rw [hask]; simp, (hmove.plain (plain_stopping _ _)).1, ?_⟩
  rw [hnothing] at haccount
  exact haccount

/-- The account of a call that was let through is kept by whatever is asked afterwards. -/
theorem account_asked {session : Session} (token : Token) (as : List Ask)
    (hstate : (s.connector.status session.id).state ≠ .connecting) :
    let as' := .connect session.target.sessionKind session token :: as
    ∃ t, (s.asked as').tasks[s.tasks.length]? = some t ∧
      Account session t (s.noted s.tasks.length as') (s.announced s.tasks.length as') := by
  intro as'
  obtain ⟨t, ht, hplain, haccount⟩ := account_connect token hstate
  rw [noted_connect, announced_connect]
  exact lasting_asked (account_lasting session) as ht hplain haccount

/-- A call whose account is closed has settled. -/
theorem Settled.of_account {session : Session} {as : List Ask} {r : Except ConnectError Unit}
    (h : Account session (.over r) (s.noted n as) (s.announced n as)) :
    s.Settled n session as r := by
  generalize hnoted : s.noted n as = notes at h
  generalize hannounced : s.announced n as = events at h
  cases h with
  | returned r =>
    refine ⟨fun time => ?_, hannounced⟩
    rw [hnoted, List.map_singleton, Note.entry_of]
    rfl

/-- The turn of a watch whose attempt to open the line again has failed. -/
theorem failed_attempt {session : Session} {d : Drop} {l : ReopenLoop} {params : SerialParams}
    {channel : ChannelId} (e : ConnectError)
    (ht : s.tasks[n]? = some (.watch session (.reopening d l params channel))) :
    let a : Ask := .event (.resume n (.reply (.failed e)))
    s.notes a = [] ∧ Silent (s.announces a) ∧
      ((s.ask a).tasks[n]? = some (.over (.ok ())) ∨
        ∃ l', (s.ask a).tasks[n]? = some (.watch session (.delayed d l'))) := by
  intro a
  have hplain : (Task.watch session (.reopening d l params channel)).Plain :=
    Task.plain_of_todo rfl
  have hears : s.connector.hears (.watch session (.reopening d l params channel))
      (.reply (.failed e)) = true := rfl
  obtain ⟨t', c', new, hmove, hstep⟩ := step_moves ht hears
  have hask : s.ask a = _ := hstep
  have htask : (s.ask a).tasks[n]? = some t' := by
    rw [hask]
    exact task_set ht t' new
  refine ⟨notes_resume ht hplain _, ?_⟩
  cases hmove with
  | stay _ _ hawaits => cases hawaits
  | pause _ _ _ d' c₁ step hpauses =>
    obtain ⟨l', r, hstage, -⟩ | ⟨-, told, htold, hsilent⟩ := hpauses.told
    · cases hstage
    · have hannounces : s.announces a = told := by
        refine announces_of_events ?_
        rw [hask]
        exact htold
      rw [hannounces, htask]
      refine ⟨hsilent, ?_⟩
      obtain rfl : d = d' := Option.some.inj hpauses.drop?
      cases step.2.2 with
      | ended => exact .inl rfl
      | delayed l' => exact .inr ⟨l', rfl⟩

/-- The turn of a watch whose line is open again, and what follows. -/
theorem restored_attempt {session : Session} {d : Drop} {l : ReopenLoop} {params : SerialParams}
    {channel : ChannelId} (terminal : Terminal) (as : List Ask)
    (ht : s.tasks[n]? = some (.watch session (.reopening d l params channel))) :
    let as' : List Ask := .event (.resume n (.reply (.terminal terminal))) :: as
    ∃ t, (s.asked as').tasks[n]? = some t ∧
      Restored session l t (s.noted n as') (s.announced n as') := by
  intro as'
  have hplain : (Task.watch session (.reopening d l params channel)).Plain :=
    Task.plain_of_todo rfl
  have hears : s.connector.hears (.watch session (.reopening d l params channel))
      (.reply (.terminal terminal)) = true := rfl
  obtain ⟨t', c', new, hmove, hstep⟩ := step_moves ht hears
  have hask : s.ask (.event (.resume n (.reply (.terminal terminal)))) = _ := hstep
  rw [asked_cons, noted_resume, announced_resume, notes_resume ht hplain]
  cases hmove with
  | stay _ _ hawaits => cases hawaits
  | pause _ _ _ _ _ _ hpauses => cases hpauses
  | reopen =>
    have hannounces : s.announces (.event (.resume n (.reply (.terminal terminal)))) = [] := by
      refine announces_of_events ?_
      rw [hask, List.append_nil]
      exact Connector.events_joined _ _ _ _
    rw [hannounces]
    refine lasting_asked (restored_lasting session l) as ?_ (Task.plain_of_todo rfl) (.noting d)
    rw [hask]
    exact task_set ht _ _

/-- The turn of a task that does not speak. -/
theorem resume_of_not_speaks (ht : s.tasks[n]? = some t) (hplain : t.Plain)
    (hspeaks : t.speaks = false) (signal : Signal) :
    s.notes (.event (.resume n signal)) = [] ∧ s.announces (.event (.resume n signal)) = [] := by
  constructor
  · rw [notes_resume ht hplain]
    cases signal <;> simp [Task.files, Task.due_of_not_speaks hspeaks]
  · cases hears : s.connector.hears t signal with
    | false => exact tells_unheard ht hears
    | true =>
      obtain ⟨t', c', new, hmove, hstep⟩ := step_moves ht hears
      refine announces_of_events ?_
      rw [ask, hstep, List.append_nil]
      exact (hmove.events_of_not_speaks hspeaks).trans (Connector.events_taking _ _ _)

/-- Where nothing is noted while something is given up, all notes and announcements are accounted for. -/
theorem accounted_of_plain (hs : ∀ t ∈ s.tasks, t.Plain) : s.Accounted where
  misdirected kind session token hkind :=
    refuses_of_exec (by rw [Connector.connectAs_other_kind hkind]; rfl)
  overlapping session token hstate := by
    refine refuses_of_exec ?_
    rw [Connector.connectAs_eq_connect rfl]
    exact Connector.exec_connect_overlapping session token ⟨s.connector, []⟩ hstate
  returned session token as r hstate := by
    intro as' hover
    obtain ⟨t, ht, haccount⟩ := account_asked token as hstate
    obtain rfl : t = .over r := Option.some.inj (ht.symm.trans hover)
    exact .of_account haccount
  underway session token as a stage hstate := by
    intro as' hattempt
    obtain ⟨t, ht, haccount⟩ := account_asked token as hstate
    obtain rfl : t = .attempt a stage := Option.some.inj (ht.symm.trans hattempt)
    generalize s.noted s.tasks.length as' = notes at haccount ⊢
    generalize s.announced s.tasks.length as' = events at haccount ⊢
    cases haccount with
    | underway _ _ hsession => exact ⟨hsession, by simp, rfl⟩
    | connected _ _ hsession => exact ⟨hsession, by simp, rfl⟩
  granted n t as r ht hgranted hover := by
    obtain ⟨t', ht', hgranted'⟩ := @lasting_asked s n t _ granted_lasting [] [] as ht
      (hs t (List.mem_of_getElem? ht)) hgranted
    obtain rfl : t' = .over r := Option.some.inj (ht'.symm.trans hover)
    cases hgranted'
    rfl
  forwarded n a connection r ht := by
    have hears : s.connector.hears (.attempt a (.startingForwards connection)) (.reply r) = true :=
      rfl
    obtain ⟨t', c', new, hmove, hstep⟩ := step_moves ht hears
    have htask : (s.ask (.event (.resume n (.reply r)))).tasks[n]? = some t' := by
      rw [ask, hstep]
      exact task_set ht t' new
    cases hmove with
    | stay _ _ hawaits => cases hawaits
    | goOn _ _ _ _ _ hflying => cases hflying
    | fail _ _ _ _ hflying => cases hflying
    | complete => exact htask
  watched n session stage as ht := by
    obtain ⟨t, -, hupkeep⟩ := lasting_asked (upkeep_lasting session) as ht
      (hs _ (List.mem_of_getElem? ht)) (.underway stage [] (by simp [Silent]))
    rw [List.nil_append, List.nil_append] at hupkeep
    have hquiet : ∀ {told : List ConnectionEvent}, Silent told →
        told.filter ConnectionEvent.isSuccess = [] :=
      fun hsilent => List.filter_eq_nil_iff.2 fun e he => by simp [(hsilent e he).2]
    generalize s.noted n as = notes at hupkeep ⊢
    generalize s.announced n as = events at hupkeep ⊢
    cases hupkeep with
    | underway _ _ hsilent => exact ⟨fun e he => (hsilent e he).1, by simp [hquiet hsilent]⟩
    | ended _ hsilent => exact ⟨fun e he => (hsilent e he).1, by simp [hquiet hsilent]⟩
    | recovered told l hsilent =>
      refine ⟨fun e he => ?_, ?_⟩
      · obtain he | he := List.mem_append.1 he
        · exact (hsilent e he).1
        · rw [List.mem_singleton.1 he]
          rfl
      · rw [List.filter_append, hquiet hsilent]
        rfl
  reopened n session d l params channel terminal as r ht := by
    intro as' hover
    obtain ⟨t, htask, hrestored⟩ := restored_attempt terminal as ht
    obtain rfl : t = .over r := Option.some.inj (htask.symm.trans hover)
    generalize s.noted n as' = notes at hrestored ⊢
    generalize s.announced n as' = events at hrestored ⊢
    cases hrestored
    exact ⟨rfl, rfl⟩
  failed n session d l params channel e ht := failed_attempt e ht
  elsewhere a ha := by
    by_cases hresume : ∃ m signal, a = .event (.resume m signal)
    · obtain ⟨m, signal, rfl⟩ := hresume
      cases ht : s.tasks[m]? with
      | none =>
        have hask : s.ask (.event (.resume m signal)) = s := by simp [ask, step, ht]
        refine ⟨?_, by rw [announces, hask, List.drop_length]⟩
        cases signal <;> simp [notes, ht]
      | some t =>
        exact resume_of_not_speaks ht (hs t (List.mem_of_getElem? ht)) (ha m signal t rfl ht) signal
    · have hother : ∀ m signal, a ≠ .event (.resume m signal) :=
        fun m signal h => hresume ⟨m, signal, h⟩
      exact ⟨notes_of_not_resume hother, (modest_ask hother).announces⟩

/-- Whatever goes on, the calls for connections are accounted for. -/
theorem accounted_after_asks (before : List Ask) : (asked {} before).Accounted :=
  accounted_of_plain (plain_asked before)

def busyLine : List Ask :=
  [.connect .serial line ⟨0⟩, .event (.disconnect line.id),
    .event (.resume 0 (.reply (.failed (.transport "busy")))), .event (.resume 0 (.reply .done))]

/-- The failure of the busy line is noted once and announced once. -/
theorem busy_line_settled :
    let s := asked {} [.event (.create line.target)]
    (s.connector.status line.id).state ≠ .connecting ∧
      s.Settled 0 line busyLine (.error (.transport "busy")) := by
  intro s
  have hidle : (s.connector.status line.id).state ≠ .connecting := by decide
  exact ⟨hidle,
    (accounted_after_asks [.event (.create line.target)]).returned line ⟨0⟩ busyLine.tail _ hidle rfl⟩

end Exchange

end Multiplexer
