import Multiplexer.Proofs.Connector.Request

/-!
# Moves

All that a turn of a task can do, one case for each kind of turn. A case gives
the connector after the turn in full, the task that goes on and the tasks that
were started.
-/

namespace Multiplexer

open TurnM

/-- The stages in which a chain is looked for and connected. -/
def AttemptStage.routed : AttemptStage → Bool
  | .resolving _ | .chaining _ => true
  | _ => false

theorem AttemptStage.flying_of_routed {stage : AttemptStage} (h : stage.routed = true) :
    stage.mode = .flying := by
  cases stage <;> first | rfl | simp [routed] at h

theorem AttemptStage.not_hurried_of_routed {stage : AttemptStage} (h : stage.routed = true) :
    stage.hurried = false := by
  cases stage <;> first | rfl | simp [routed] at h

/-- Whether a task does something when a signal comes. -/
def Task.awaits : Task → Signal → Bool
  | .attempt _ (.resolving _), .reply (.hops _) => true
  | .attempt _ (.resolving _), .reply (.failed _) => true
  | .attempt _ (.resolving _), _ => false
  | .attempt _ (.opening _), .reply (.terminal _) => true
  | .attempt _ (.opening _), .reply (.failed _) => true
  | .attempt _ (.opening _), .reply _ => false
  | .attempt _ (.chaining _), .cancelled => true
  | .attempt _ (.opening _), .cancelled => true
  | .watch _ (.watching ..), .reported _ => true
  | .watch _ (.watching ..), .stopped => true
  | .watch _ (.watching ..), _ => false
  | .watch _ (.delayed ..), .elapsed => true
  | .watch _ (.delayed ..), .cancelled => true
  | .watch _ (.delayed ..), _ => false
  | .watch _ (.reopening ..), .reply (.terminal _) => true
  | .watch _ (.reopening ..), .reply (.failed _) => true
  | .watch _ (.reopening ..), _ => false
  | .over _, _ => false
  | _, .reply _ => true
  | _, _ => false

namespace ReopenPause

def reports : ReopenPause → Bool
  | .ended (.gaveUp true) | .ended .notRegistered => true
  | _ => false

def task (session : Session) (drop : Drop) : ReopenPause → Task
  | .delayed l => .watch session (.delayed drop l)
  | .ended _ => .over (.ok ())

end ReopenPause

namespace Connector

variable (c : Connector)

/-- The task that closes the connection which a session still has. -/
def superseded (id : SessionId) : List Task :=
  match (c.status id).connection with
  | some stale => [.closing stale.closing]
  | none => []

/-- The tasks that are started when a session gets a connection. -/
def starting (session : Session) (channel : ChannelId) : List Task :=
  c.superseded session.id ++ [.watch session (.watching c.nextGeneration channel)]

/-- A session gets a connection, with a watcher of a new generation. -/
def joined (session : Session) (connection : Connection) (channel : ChannelId) : Connector :=
  c.attached session.id connection ⟨c.nextGeneration, channel⟩

def rearmed (id : SessionId) (params : SerialParams) : Connector :=
  { c with
    reopener :=
      if c.reopener.params? id = some params then c.reopener.reset id
      else c.reopener.register id params }

def paused (session : Session) (drop : Drop) (step : Reopener.Step) : Connector :=
  let c := { c with reopener := step.1 }.emitAll step.2.1
  if step.2.2.reports then c.emit (.disconnected session.id drop.reason) else c

def trying (l : ReopenLoop) : Connector :=
  { c with reopener := (c.reopener.attempt l).1 }.emitAll (c.reopener.attempt l).2.1

def burden (id : SessionId) : List Call :=
  match (c.status id).connection with
  | some connection => connection.closing ++ [.stopForwards id]
  | none => []

def released (id : SessionId) : Connector :=
  match (c.status id).connection with
  | some _ => (c.stopWatcher id).setConnection id none
  | none => c.stopWatcher id

def unread (channel : ChannelId) : Connector :=
  c.setChannel channel (c.channel channel).dropReader

def severed (id : SessionId) : Connector := (c.dropWatcher id).setConnection id none

/-- A session is claimed for an attempt, which gets a channel. -/
def begun (id : SessionId) : Connector :=
  ((c.setState id .connecting).released id).newChannel.2

@[simp] theorem burden_setState (id : SessionId) (state : SessionState) :
    (c.setState id state).burden id = c.burden id := by
  simp [burden, setState]

@[simp] theorem channels_stopWatcher (id : SessionId) :
    (c.stopWatcher id).channels = c.channels := by
  unfold stopWatcher; split <;> rfl

@[simp] theorem channels_released (id : SessionId) : (c.released id).channels = c.channels := by
  unfold released; split <;> exact c.channels_stopWatcher id

end Connector

/-- The pause of a loop that a turn of a watch comes to: the connector before it, and its step. -/
inductive Pauses (session : Session) (c : Connector) :
    WatchStage → Signal → Drop → Connector → Reopener.Step → Prop where
  | dropped (drop : Drop) (todo : List Call) (r : Reply) (params : SerialParams) :
    session.target = .serial params → todo.tail = [] →
    Pauses session c (.closing drop todo) (.reply r) drop (c.setState session.id .disconnected)
      (c.reopener.drop session.id)
  | calledOff (drop : Drop) (l : ReopenLoop) :
    Pauses session c (.delayed drop l) .cancelled drop c (c.reopener.calledOff l)
  | forgotten (drop : Drop) (l : ReopenLoop) : c.registry.contains session.id = false →
    Pauses session c (.delayed drop l) .elapsed drop (c.trying l)
      ((c.trying l).reopener.refused l (.sessionNotFound session.id))
  | overtaken (drop : Drop) (l : ReopenLoop) : c.registry.contains session.id = true →
    (c.status session.id).state ≠ .disconnected →
    Pauses session c (.delayed drop l) .elapsed drop (c.trying l)
      ((c.trying l).reopener.refused l .cancelled)
  | refused (drop : Drop) (l : ReopenLoop) (params : SerialParams) (channel : ChannelId)
    (e : ConnectError) :
    Pauses session c (.reopening drop l params channel) (.reply (.failed e)) drop
      (c.setState session.id .disconnected) (c.reopener.refused l e)
  | succeeded (drop : Drop) (l : ReopenLoop) (r : Reply) :
    Pauses session c (.notingReopening drop l) (.reply r) drop c (c.reopener.succeeded l)

/-- What a turn of a task does when a signal comes. -/
inductive Move (c : Connector) : Task → Signal → Task → Connector → List Task → Prop where
  /-- The signal is not one that the task waits for. -/
  | stay (t : Task) (s : Signal) : t.awaits s = false → Move c t s t c []
  | release (a : Attempt) (todo : List Call) (r : Reply) : todo.tail ≠ [] →
    Move c (.attempt a (.releasing todo)) (.reply r) (.attempt a (.releasing todo.tail)) c []
  /-- An attempt over a chain of hops makes its next call. -/
  | goOn (a : Attempt) (stage stage' : AttemptStage) (s : Signal) :
    (∃ target, a.session.target = .ssh target) ∨ stage.routed = true → stage.mode = .flying →
    stage'.routed = true → Move c (.attempt a stage) s (.attempt a stage') c []
  | dial (a : Attempt) (todo : List Call) (r : Reply) (params : SerialParams) :
    a.session.target = .serial params → todo.tail = [] →
    Move c (.attempt a (.releasing todo)) (.reply r) (.attempt a (.opening params))
      { c with reopener := c.reopener.cancel a.session.id } []
  | fail (a : Attempt) (stage : AttemptStage) (s : Signal) (e : ConnectError) :
    stage.mode = .flying → (stage.hurried = true → ∃ target, a.session.target = .ssh target) →
    Move c (.attempt a stage) s (.attempt a (.notingFailure e))
      (c.setState a.session.id (.failed e.message)) []
  | connect (a : Attempt) (run : ChainRun) (s : Signal) (connection : Connection) :
    Move c (.attempt a (.chaining run)) s (.attempt a (.notingSuccess connection))
      (c.joined a.session connection a.channel) (c.starting a.session a.channel)
  | «open» (a : Attempt) (params : SerialParams) (terminal : Terminal) :
    Move c (.attempt a (.opening params)) (.reply (.terminal terminal))
      (.attempt a (.notingSuccess (.bare terminal)))
      ((c.rearmed a.session.id params).joined a.session (.bare terminal) a.channel)
      (c.starting a.session a.channel)
  | note (a : Attempt) (connection : Connection) (r : Reply) :
    Move c (.attempt a (.notingSuccess connection)) (.reply r)
      (.attempt a (.startingForwards connection)) c []
  | complete (a : Attempt) (connection : Connection) (r : Reply) :
    Move c (.attempt a (.startingForwards connection)) (.reply r) (.over (.ok ()))
      (c.emit (.completed a.session.id none)) []
  | giveUp (a : Attempt) (e : ConnectError) (r : Reply) :
    Move c (.attempt a (.notingFailure e)) (.reply r) (.over (.error e))
      (c.emit (.completed a.session.id (some e.message))) []
  | stop (session : Session) (generation : Nat) (channel : ChannelId) :
    Move c (.watch session (.watching generation channel)) .stopped (.over (.ok ())) c []
  /-- A report comes for a connection that is not in use any more. -/
  | ignore (session : Session) (generation : Nat) (channel : ChannelId) (drop : Drop) :
    (∀ w, c.watcher? session.id = some w → w.generation ≠ generation) →
    Move c (.watch session (.watching generation channel)) (.reported drop) (.over (.ok ()))
      (c.unread channel) []
  /-- A report comes for the connection that is in use. -/
  | drop (session : Session) (channel : ChannelId) (drop : Drop) (w : Watcher) :
    c.watcher? session.id = some w →
    Move c (.watch session (.watching w.generation channel)) (.reported drop)
      (.watch session (.closing drop (((c.status session.id).connection.map
        Connection.closing).getD [] ++ [.stopForwards session.id])))
      ((c.unread channel).severed session.id) []
  | close (session : Session) (drop : Drop) (todo : List Call) (r : Reply) : todo.tail ≠ [] →
    Move c (.watch session (.closing drop todo)) (.reply r) (.watch session (.closing drop todo.tail))
      c []
  | report (session : Session) (drop : Drop) (todo : List Call) (r : Reply) (target : SshTarget) :
    session.target = .ssh target → todo.tail = [] →
    Move c (.watch session (.closing drop todo)) (.reply r) (.over (.ok ()))
      ((c.setState session.id .disconnected).emit (.disconnected session.id drop.reason)) []
  | pause (session : Session) (stage : WatchStage) (s : Signal) (drop : Drop) (c₁ : Connector)
    (step : Reopener.Step) : Pauses session c stage s drop c₁ step →
    Move c (.watch session stage) s (step.2.2.task session drop) (c₁.paused session drop step) []
  /-- The entry of the loop is gone. -/
  | lose (session : Session) (drop : Drop) (l : ReopenLoop) :
    (c.reopener.attempt l).2.2 = none →
    Move c (.watch session (.delayed drop l)) .elapsed (.over (.ok ())) (c.trying l) []
  | claim (session : Session) (drop : Drop) (l : ReopenLoop) (params : SerialParams) :
    (c.reopener.attempt l).2.2 = some params → c.registry.contains session.id = true →
    (c.status session.id).state = .disconnected →
    Move c (.watch session (.delayed drop l)) .elapsed
      (.watch session (.reopening drop l params ⟨c.channels.length⟩))
      ((c.trying l).setState session.id .connecting).newChannel.2 []
  | reopen (session : Session) (drop : Drop) (l : ReopenLoop) (params : SerialParams)
    (channel : ChannelId) (terminal : Terminal) :
    Move c (.watch session (.reopening drop l params channel)) (.reply (.terminal terminal))
      (.watch session (.notingReopening drop l))
      (c.joined session (.bare terminal) channel) (c.starting session channel)
  | discard (todo : List Call) (r : Reply) (t : Task) :
    t = .closing todo.tail ∨ t = .over (.ok ()) → Move c (.closing todo) (.reply r) t c []
  | disconnecting (id : SessionId) (todo : List Call) (r : Reply) : todo.tail ≠ [] →
    Move c (.disconnecting id todo) (.reply r) (.disconnecting id todo.tail) c []
  | disconnected (id : SessionId) (todo : List Call) (r : Reply) : todo.tail = [] →
    Move c (.disconnecting id todo) (.reply r) (.over (.ok ())) (c.setState id .disconnected) []
  | destroying (id : SessionId) (todo : List Call) (r : Reply) : todo.tail ≠ [] →
    Move c (.destroying id todo) (.reply r) (.destroying id todo.tail) c []
  | destroyed (id : SessionId) (todo : List Call) (r : Reply) : todo.tail = [] →
    Move c (.destroying id todo) (.reply r) (.over (.ok ()))
      { c with registry := (c.registry.remove id).2 } []

def Moves (t : Task) (s : Signal) (u : Turn) (r : Task × Turn) : Prop :=
  ∃ t' c' new, r = (t', ⟨c', u.started ++ new⟩) ∧ Move u.connector t s t' c' new

namespace Moves

variable {t t' : Task} {s : Signal} {u : Turn} {c' : Connector}

theorem of (h : Move u.connector t s t' c' []) : Moves t s u (t', { u with connector := c' }) :=
  ⟨t', c', [], by simp, h⟩

/-- A signal that a task does not wait for leaves all as it is. -/
theorem stay (h : t.awaits s = false) (u : Turn) : Moves t s u (t, u) := of (.stay t s h)

end Moves

/-- To attach a connection joins it to the session and starts its watch. -/
theorem exec_attach_joined (session : Session) (connection : Connection) (channel : ChannelId)
    (u : Turn) : exec (attach session connection channel) u =
      ((), ⟨u.connector.joined session connection channel,
        u.started ++ u.connector.starting session channel⟩) := by
  unfold Connector.starting Connector.superseded
  cases hstale : (u.connector.status session.id).connection with
  | none =>
    simp only [attach, exec_bind, exec_connector, hstale]
    rfl
  | some stale =>
    simp only [attach, exec_bind, exec_connector, hstale, exec_start, exec_update, List.append_assoc]
    rfl

/-- To release a session takes its connection and its watcher. -/
theorem exec_release_released (id : SessionId) (u : Turn) :
    exec (release id) u =
      (u.connector.burden id, { u with connector := u.connector.released id }) := by
  have hstatus : (u.connector.stopWatcher id).status id = u.connector.status id := by simp
  unfold Connector.burden Connector.released
  simp only [release, exec_bind, exec_update, exec_connector, hstatus]
  cases (u.connector.status id).connection <;> rfl

namespace Watch

variable (session : Session) (drop : Drop) (u : Turn)

theorem exec_pause_paused (step : Reopener.Step) :
    exec (pause session drop step) u =
      (step.2.2.task session drop, { u with connector := u.connector.paused session drop step }) := by
  obtain ⟨r, events, pause⟩ := step
  cases pause with
  | delayed l => rfl
  | ended o =>
    cases o with
    | gaveUp notify => cases notify <;> rfl
    | _ => rfl

theorem moves_pause {stage : WatchStage} {s : Signal} {c : Connector} {step : Reopener.Step}
    (h : Pauses session u.connector stage s drop c step) :
    Moves (.watch session stage) s u (exec (pause session drop step) { u with connector := c }) := by
  rw [exec_pause_paused]
  exact .of (.pause session stage s drop c step h)

end Watch

namespace Attempt

variable (a : Attempt) (u : Turn)

theorem moves_fail {stage : AttemptStage} (h : stage.mode = .flying)
    (hssh : stage.hurried = true → ∃ target, a.session.target = .ssh target) (s : Signal)
    (e : ConnectError) : Moves (.attempt a stage) s u (exec (a.fail e) u) :=
  .of (.fail a stage s e h hssh)

/-- Whatever a chain comes to is a move of the attempt. -/
theorem moves_chain {stage : AttemptStage} (h : stage.mode = .flying) (s : Signal)
    (hssh : (∃ target, a.session.target = .ssh target) ∨ stage.routed = true) {run : ChainRun}
    (hrun : run.isConnected = true → ∃ before, stage = .chaining before) :
    Moves (.attempt a stage) s u (exec (a.chain run) u) := by
  cases run with
  | failed e =>
    refine a.moves_fail u h (fun hhurried => hssh.resolve_right fun hrouted => ?_) s e
    simp [AttemptStage.not_hurried_of_routed hrouted] at hhurried
  | connected connection =>
    obtain ⟨before, rfl⟩ := hrun rfl
    refine ⟨_, _, _, ?_, .connect a before s connection⟩
    simp only [chain, succeed, exec_bind, exec_attach_joined, exec_pure]
  | tunnelling | connecting | opening | closing =>
    exact .of (.goOn a stage _ s hssh h rfl)

/-- What the resolver has found leads to a move of the attempt. -/
theorem moves_route {stage : AttemptStage} (h : stage.routed = true) (s : Signal)
    (target : SshTarget) (found : Except ConnectError (List Hop)) :
    Moves (.attempt a stage) s u (exec (a.route target found) u) := by
  unfold route
  cases routeOf target found with
  | error e =>
    exact a.moves_fail u (AttemptStage.flying_of_routed h)
      (by simp [AttemptStage.not_hurried_of_routed h]) s e
  | ok hops =>
    exact a.moves_chain u (AttemptStage.flying_of_routed h) s (.inr h)
      (by simp [not_isConnected_start])

theorem moves_establish (todo : List Call) (htodo : todo.tail = []) (r : Reply) :
    Moves (.attempt a (.releasing todo)) (.reply r) u (exec a.establish u) := by
  unfold establish
  cases htarget : a.session.target with
  | ssh target =>
    change Moves _ _ _ (exec (if u.connector.isCancelled a.token then a.fail .cancelled
      else if target.proxyJump.isSome then pure (.attempt a (.resolving target))
      else a.chain (ChainRun.start [target.host])) u)
    by_cases hcancelled : u.connector.isCancelled a.token = true
    · rw [if_pos hcancelled]
      exact a.moves_fail u rfl (fun _ => ⟨target, htarget⟩) _ .cancelled
    · rw [if_neg hcancelled]
      by_cases hjump : target.proxyJump.isSome = true
      · rw [if_pos hjump]
        exact .of (.goOn a _ _ _ (.inl ⟨target, htarget⟩) rfl rfl)
      · rw [if_neg hjump]
        exact a.moves_chain u rfl _ (.inl ⟨target, htarget⟩) (by simp [not_isConnected_start])
  | serial params => exact .of (.dial a todo r params htarget htodo)

theorem moves_release (todo : List Call) (r : Reply) :
    Moves (.attempt a (.releasing todo)) (.reply r) u (exec (a.release todo.tail) u) := by
  cases htail : todo.tail with
  | nil => exact a.moves_establish u todo htail r
  | cons call rest =>
    have hmove := Move.release (c := u.connector) a todo r (by simp [htail])
    rw [htail] at hmove
    exact .of hmove

theorem moves_resume (stage : AttemptStage) (s : Signal) :
    Moves (.attempt a stage) s u (exec (a.resume stage s) u) := by
  cases stage with
  | releasing todo =>
    cases s with
    | reply r => exact a.moves_release u todo r
    | cancelled | elapsed | reported | stopped => exact .stay rfl u
  | resolving target =>
    cases s with
    | reply r =>
      cases r with
      | hops hops => exact a.moves_route u rfl _ target (.ok hops)
      | failed e => exact a.moves_route u rfl _ target (.error e)
      | _ => exact .stay rfl u
    | cancelled | elapsed | reported | stopped => exact .stay rfl u
  | chaining run =>
    cases s with
    | reply r => exact a.moves_chain u rfl _ (.inr rfl) fun _ => ⟨run, rfl⟩
    | cancelled => exact a.moves_chain u rfl _ (.inr rfl) fun _ => ⟨run, rfl⟩
    | elapsed | reported | stopped => exact .stay rfl u
  | opening params =>
    cases s with
    | reply r =>
      cases r with
      | terminal t =>
        refine ⟨_, _, _, ?_, .open a params t⟩
        simp only [resume, opened, succeed, exec_bind, exec_update, exec_attach_joined, exec_pure]
        rfl
      | failed e => exact a.moves_fail u rfl (by simp [AttemptStage.hurried]) _ e
      | _ => exact .stay rfl u
    | cancelled => exact a.moves_fail u rfl (by simp [AttemptStage.hurried]) _ .cancelled
    | elapsed | reported | stopped => exact .stay rfl u
  | notingSuccess connection =>
    cases s with
    | reply r => exact .of (.note a connection r)
    | cancelled | elapsed | reported | stopped => exact .stay rfl u
  | startingForwards connection =>
    cases s with
    | reply r => exact .of (.complete a connection r)
    | cancelled | elapsed | reported | stopped => exact .stay rfl u
  | notingFailure e =>
    cases s with
    | reply r => exact .of (.giveUp a e r)
    | cancelled | elapsed | reported | stopped => exact .stay rfl u

end Attempt

namespace Watch

variable (session : Session) (drop : Drop) (u : Turn)

/-- A report that a watch takes leads to one of its moves. -/
theorem moves_dropped (generation : Nat) (channel : ChannelId) :
    Moves (.watch session (.watching generation channel)) (.reported drop) u
      (exec (dropped session generation drop)
        { u with connector := u.connector.unread channel }) := by
  rw [exec_dropped]
  split
  · rename_i hcurrent
    obtain ⟨w, hw⟩ := Option.isSome_iff_exists.1 (Option.isSome_of_any hcurrent)
    have hw' : u.connector.watcher? session.id = some w := hw
    obtain rfl : w.generation = generation := by simpa [hw] using hcurrent
    obtain ⟨call, todo, htodo⟩ : ∃ call todo,
        (((u.connector.status session.id).connection.map Connection.closing).getD []) ++
          [.stopForwards session.id] = call :: todo :=
      List.exists_cons_of_ne_nil (by simp)
    have hmove := Move.drop (c := u.connector) session channel drop w hw'
    change Moves _ _ _ (exec (closeAll session drop ((((u.connector.status session.id).connection.map
      Connection.closing).getD []) ++ [.stopForwards session.id])) _)
    rw [htodo] at hmove ⊢
    exact .of hmove
  · rename_i hstale
    refine .of (.ignore session generation channel drop fun w hw heq => hstale ?_)
    have hw' : (u.connector.unread channel).watcher? session.id = some w := hw
    simp [hw', heq]

theorem moves_closeAll (todo : List Call) (r : Reply) :
    Moves (.watch session (.closing drop todo)) (.reply r) u
      (exec (closeAll session drop todo.tail) u) := by
  cases htail : todo.tail with
  | cons call rest =>
    have hmove := Move.close (c := u.connector) session drop todo r (by simp [htail])
    rw [htail] at hmove
    exact .of hmove
  | nil =>
    change Moves _ _ _ (exec (closed session drop) u)
    unfold closed
    rw [exec_bind, exec_update]
    cases htarget : session.target with
    | ssh target => exact .of (.report session drop todo r target htarget htail)
    | serial params => exact moves_pause session drop u (.dropped drop todo r params htarget htail)

theorem moves_reopen (l : ReopenLoop) :
    Moves (.watch session (.delayed drop l)) .elapsed u (exec (reopen session drop l) u) := by
  obtain ⟨r, events, params?, hattempt⟩ :
      ∃ r events params?, u.connector.reopener.attempt l = (r, events, params?) := ⟨_, _, _, rfl⟩
  have htrying : { u.connector with reopener := r }.emitAll events = u.connector.trying l := by
    simp [Connector.trying, hattempt]
  have hregistry : (u.connector.trying l).registry = u.connector.registry := rfl
  have hslot : (u.connector.trying l).status = u.connector.status := rfl
  unfold reopen
  rw [exec_bind, exec_connector]
  simp only [hattempt]
  rw [exec_bind, exec_update, exec_bind, exec_connector, htrying, hregistry, hslot]
  by_cases hregistered : u.connector.registry.contains session.id = true
  · rw [if_neg (by simp [hregistered])]
    by_cases hstate : (u.connector.status session.id).state = .disconnected
    · rw [if_neg (not_not_intro hstate)]
      have hparams : (u.connector.reopener.attempt l).2.2 = params? := by rw [hattempt]
      cases params? with
      | none => exact .of (.lose session drop l hparams)
      | some params => exact .of (.claim session drop l params hparams hregistered hstate)
    · rw [if_pos hstate]
      exact moves_pause session drop u (.overtaken drop l hregistered hstate)
  · rw [if_pos (by simpa using hregistered)]
    exact moves_pause session drop u (.forgotten drop l (by simpa using hregistered))

theorem moves_resume (stage : WatchStage) (s : Signal) :
    Moves (.watch session stage) s u (exec (resume session stage s) u) := by
  cases stage with
  | watching generation channel =>
    cases s with
    | stopped => exact .of (.stop session generation channel)
    | reported d => exact moves_dropped session d u generation channel
    | reply | cancelled | elapsed => exact .stay rfl u
  | closing d todo =>
    cases s with
    | reply r => exact moves_closeAll session d u todo r
    | cancelled | elapsed | reported | stopped => exact .stay rfl u
  | delayed d l =>
    cases s with
    | elapsed => exact moves_reopen session d u l
    | cancelled => exact moves_pause session d u (.calledOff d l)
    | reply | reported | stopped => exact .stay rfl u
  | reopening d l params channel =>
    cases s with
    | reply r =>
      cases r with
      | terminal t =>
        refine ⟨_, _, _, ?_, .reopen session d l params channel t⟩
        simp only [resume, exec_bind, exec_attach_joined, exec_pure]
      | failed e => exact moves_pause session d u (.refused d l params channel e)
      | _ => exact .stay rfl u
    | cancelled | elapsed | reported | stopped => exact .stay rfl u
  | notingReopening d l =>
    cases s with
    | reply r => exact moves_pause session d u (.succeeded d l r)
    | cancelled | elapsed | reported | stopped => exact .stay rfl u

end Watch

/-- A turn of a task is one of the moves. -/
theorem Task.moves_resume (t : Task) (s : Signal) (u : Turn) :
    Moves t s u (exec (t.resume s) u) := by
  cases t with
  | attempt a stage => exact a.moves_resume u stage s
  | watch session stage => exact Watch.moves_resume session u stage s
  | closing todo =>
    cases s with
    | reply r =>
      change Moves _ _ _ (exec (closeAll todo.tail) u)
      cases htail : todo.tail with
      | nil => exact .of (.discard todo r _ (.inr rfl))
      | cons call rest => exact .of (.discard todo r _ (.inl (by rw [htail])))
    | cancelled | elapsed | reported | stopped => exact .stay rfl u
  | disconnecting id todo =>
    cases s with
    | reply r =>
      change Moves _ _ _ (exec (disconnectAll id todo.tail) u)
      cases htail : todo.tail with
      | nil => exact .of (.disconnected id todo r htail)
      | cons call rest =>
        have hmove := Move.disconnecting (c := u.connector) id todo r (by simp [htail])
        rw [htail] at hmove
        exact .of hmove
    | cancelled | elapsed | reported | stopped => exact .stay rfl u
  | destroying id todo =>
    cases s with
    | reply r =>
      change Moves _ _ _ (exec (destroyAll id todo.tail) u)
      cases htail : todo.tail with
      | nil => exact .of (.destroyed id todo r htail)
      | cons call rest =>
        have hmove := Move.destroying (c := u.connector) id todo r (by simp [htail])
        rw [htail] at hmove
        exact .of hmove
    | cancelled | elapsed | reported | stopped => exact .stay rfl u
  | «over» r => exact .stay rfl u

namespace Connector

variable (id : SessionId) (session : Session) (token : Token) (u : Turn)

/-- An attempt begins by giving up what the session holds. -/
theorem exec_connect_begun (h : (u.connector.slot session.id).state ≠ .connecting) :
    exec (connect session token) u =
      exec (Attempt.release ⟨session, token, ⟨u.connector.channels.length⟩⟩
        (u.connector.burden session.id)) { u with connector := u.connector.begun session.id } := by
  have hexec : exec (connect session token) u =
      exec (Attempt.release ⟨session, token,
          ((u.connector.setState session.id .connecting).released session.id).newChannel.1⟩
        (u.connector.burden session.id)) { u with connector := u.connector.begun session.id } := by
    change exec (if (u.connector.slot session.id).state = .connecting then _ else _) u = _
    rw [if_neg h, exec_bind, exec_update, exec_bind, exec_release_released]
    simp only [burden_setState]
    rfl
  have hchannel : ((u.connector.setState session.id .connecting).released session.id).newChannel.1 =
      ⟨u.connector.channels.length⟩ := by
    simp only [newChannel, channels_released]
    rfl
  rw [hexec, hchannel]

/-- The beginning of an attempt is like a turn in which a first call has been answered. -/
theorem moves_connect (h : (u.connector.slot session.id).state ≠ .connecting) :
    Moves (.attempt ⟨session, token, ⟨u.connector.channels.length⟩⟩
        (.releasing (.stopForwards session.id :: u.connector.burden session.id)))
      (.reply .done) { u with connector := u.connector.begun session.id }
      (exec (connect session token) u) := by
  rw [exec_connect_begun session token u h]
  exact Attempt.moves_release _ _ (.stopForwards session.id :: u.connector.burden session.id) .done

/-- A call to disconnect begins like a turn in which a first call has been answered. -/
theorem moves_disconnect (h : u.connector.registry.contains id = true) :
    Moves (.disconnecting id (.stopForwards id :: u.connector.burden id)) (.reply .done)
      { u with connector := { u.connector with reopener := u.connector.reopener.cancel id }.released id }
      (exec (disconnect id) u) := by
  have hexec : exec (disconnect id) u = exec (Task.disconnectAll id (u.connector.burden id))
      { u with connector :=
          { u.connector with reopener := u.connector.reopener.cancel id }.released id } := by
    change exec (if u.connector.registry.contains id = true then _ else _) u = _
    rw [if_pos h, exec_bind, exec_update, exec_bind, exec_release_released]
    rfl
  rw [hexec]
  exact Task.moves_resume (.disconnecting id (.stopForwards id :: u.connector.burden id))
    (.reply .done) _

theorem moves_destroy (h : u.connector.registry.contains id = true) :
    Moves (.destroying id (.stopForwards id :: u.connector.burden id)) (.reply .done)
      { u with connector :=
          { u.connector with reopener := u.connector.reopener.unregister id }.released id }
      (exec (destroy id) u) := by
  have hexec : exec (destroy id) u = exec (Task.destroyAll id (u.connector.burden id))
      { u with connector :=
          { u.connector with reopener := u.connector.reopener.unregister id }.released id } := by
    change exec (if u.connector.registry.contains id = true then _ else _) u = _
    rw [if_pos h, exec_bind, exec_update, exec_bind, exec_release_released]
    rfl
  rw [hexec]
  exact Task.moves_resume (.destroying id (.stopForwards id :: u.connector.burden id))
    (.reply .done) _

end Connector

end Multiplexer
