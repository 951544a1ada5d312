import Multiplexer.Connector.Task
import Multiplexer.Proofs.Connector.Slot

/-!
# Turns

What one turn of a task can do, said once for all tasks. A task is in some mode
for the session that it serves and idle for all others. In a turn the slot of
that session and the mode change together in one of a few ways.
-/

namespace Multiplexer

/-- What a task is about to do to a session. -/
inductive Mode where
  | idle
  /-- An attempt is in flight. -/
  | flying
  /-- A dropped connection is being closed. -/
  | dropping
  | disconnecting
  | destroying
  deriving DecidableEq

def AttemptStage.mode : AttemptStage → Mode
  | .releasing _ | .resolving _ | .chaining _ | .opening _ => .flying
  | .notingSuccess _ | .startingForwards _ | .notingFailure _ => .idle

def WatchStage.mode : WatchStage → Mode
  | .reopening .. => .flying
  | .closing .. => .dropping
  | .watching .. | .delayed .. | .notingReopening .. => .idle

def ChainRun.isConnected : ChainRun → Bool
  | .connected _ => true
  | _ => false

namespace Task

def mode (t : Task) (id : SessionId) : Mode :=
  match t with
  | .attempt a stage => if a.session.id = id then stage.mode else .idle
  | .watch session stage => if session.id = id then stage.mode else .idle
  | .disconnecting i _ => if i = id then .disconnecting else .idle
  | .destroying i _ => if i = id then .destroying else .idle
  | .closing _ | .over _ => .idle

@[simp] theorem mode_attempt (a : Attempt) (stage : AttemptStage) (id : SessionId) :
    (Task.attempt a stage).mode id = if a.session.id = id then stage.mode else .idle := rfl

@[simp] theorem mode_watch (session : Session) (stage : WatchStage) (id : SessionId) :
    (Task.watch session stage).mode id = if session.id = id then stage.mode else .idle := rfl

@[simp] theorem mode_closing (todo : List Call) (id : SessionId) :
    (Task.closing todo).mode id = .idle := rfl

@[simp] theorem mode_disconnecting (i : SessionId) (todo : List Call) (id : SessionId) :
    (Task.disconnecting i todo).mode id = if i = id then .disconnecting else .idle := rfl

@[simp] theorem mode_destroying (i : SessionId) (todo : List Call) (id : SessionId) :
    (Task.destroying i todo).mode id = if i = id then .destroying else .idle := rfl

@[simp] theorem mode_over (r : Except ConnectError Unit) (id : SessionId) :
    (Task.over r).mode id = .idle := rfl

/-- Whether a signal is the success that an attempt in flight waits for. -/
def lands : Task → Signal → Bool
  | .attempt _ (.chaining run), .reply r => (run.answer r).isConnected
  | .attempt _ (.chaining run), .cancelled => run.cancel.isConnected
  | .attempt _ (.opening _), .reply (.terminal _) => true
  | .watch _ (.reopening ..), .reply (.terminal _) => true
  | _, _ => false

end Task

/-- How the mode of a task and the slot of its session change in a turn. -/
inductive Change (registered : Bool) : Bool → Mode → Slot → Mode → Slot → Prop where
  | same (m : Mode) (x : Slot) : Change registered false m x m x
  | failed (x : Slot) (e : String) :
    Change registered false .flying x .idle { x with state := .failed e }
  | attached (x : Slot) (connection : Connection) (w : Watcher) :
    Change registered true .flying x .idle ⟨.connected, some connection, some w⟩
  | dropped (x : Slot) (w : Watcher) : x.watcher = some w →
    Change registered false .idle x .dropping { x with connection := none, watcher := none }
  | closed (x : Slot) : Change registered false .dropping x .idle { x with state := .disconnected }
  | claimed (x : Slot) : registered = true → x.state = .disconnected →
    Change registered false .idle x .flying { x with state := .connecting }
  | refused (x : Slot) : Change registered false .flying x .idle { x with state := .disconnected }
  | disconnected (x : Slot) :
    Change registered false .disconnecting x .idle { x with state := .disconnected }
  | destroyed (x : Slot) : Change registered false .destroying x .idle x

namespace TurnM

variable {α β : Type}

def exec (m : TurnM α) (u : Turn) : α × Turn := StateT.run m u

@[simp] theorem exec_pure (a : α) (u : Turn) : exec (pure a) u = (a, u) := rfl

@[simp] theorem exec_bind (m : TurnM α) (f : α → TurnM β) (u : Turn) :
    exec (m >>= f) u = exec (f (exec m u).1) (exec m u).2 := rfl

@[simp] theorem exec_map (f : α → β) (m : TurnM α) (u : Turn) :
    exec (f <$> m) u = (f (exec m u).1, (exec m u).2) := rfl

@[simp] theorem exec_ite (p : Prop) [Decidable p] (m₁ m₂ : TurnM α) (u : Turn) :
    exec (if p then m₁ else m₂) u = if p then exec m₁ u else exec m₂ u := by
  split <;> rfl

@[simp] theorem exec_connector (u : Turn) : exec connector u = (u.connector, u) := rfl

@[simp] theorem exec_update (f : Connector → Connector) (u : Turn) :
    exec (update f) u = ((), { u with connector := f u.connector }) := rfl

@[simp] theorem exec_start (t : Task) (u : Turn) :
    exec (start t) u = ((), { u with started := u.started ++ [t] }) := rfl

@[simp] theorem exec_newChannel (u : Turn) :
    exec newChannel u = (u.connector.newChannel.1,
      { u with connector := u.connector.newChannel.2 }) := rfl

end TurnM

open TurnM

/-- A task as others start it: a watch, or the closing of a superseded connection. -/
def Task.Fresh : Task → Prop
  | .watch _ (.watching ..) | .closing _ => True
  | _ => False

/-- A task as others start it is idle. -/
theorem Task.Fresh.mode {t : Task} (h : t.Fresh) (id : SessionId) : t.mode id = .idle := by
  cases t with
  | watch session stage =>
    cases stage with
    | watching generation channel => simp [WatchStage.mode]
    | _ => cases h
  | closing => rfl
  | _ => cases h

def Enlists (before after : List Task) : Prop := ∃ new, after = before ++ new ∧ ∀ t ∈ new, t.Fresh

theorem Enlists.refl (ts : List Task) : Enlists ts ts := ⟨[], by simp, by simp⟩

/-- Tasks may be added in several steps. -/
theorem Enlists.trans {ts us vs : List Task} (h : Enlists ts us) (h' : Enlists us vs) :
    Enlists ts vs := by
  obtain ⟨new, rfl, hnew⟩ := h
  obtain ⟨more, rfl, hmore⟩ := h'
  refine ⟨new ++ more, List.append_assoc .., fun t ht => ?_⟩
  exact (List.mem_append.1 ht).elim (hnew t) (hmore t)

/-- A turn for a session that leaves all other sessions and the registry alone. It began in some
mode; `lands` tells whether a success came in. -/
structure Outcome (i : SessionId) (lands : Bool) (before : Mode) (u : Turn) (r : Task × Turn) :
    Prop where
  change : Change (u.connector.registry.contains i) lands before (u.connector.slot i) (r.1.mode i)
    (r.2.connector.slot i)
  frame : ∀ id, id ≠ i → r.2.connector.slot id = u.connector.slot id
  elsewhere : ∀ id, id ≠ i → r.1.mode id = .idle
  registry : r.2.connector.registry = u.connector.registry
  started : Enlists u.started r.2.started

structure Turn.Alike (u v : Turn) : Prop where
  slot : v.connector.slot = u.connector.slot
  registry : v.connector.registry = u.connector.registry
  started : v.started = u.started

theorem Outcome.ofAlike {i : SessionId} {lands : Bool} {m : Mode} {u v : Turn} {r : Task × Turn}
    (h : Outcome i lands m v r) (huv : u.Alike v) : Outcome i lands m u r where
  change := by
    have hchange := h.change
    rwa [huv.slot, huv.registry] at hchange
  frame id hid := by rw [h.frame id hid, huv.slot]
  elsewhere := h.elsewhere
  registry := h.registry.trans huv.registry
  started := huv.started ▸ h.started

/-- A turn that ends with a task of the given session and touches its slot only. -/
theorem Outcome.ofSlot {i : SessionId} {lands : Bool} {m : Mode} {u : Turn} {t : Task}
    {c : Connector} (helsewhere : ∀ id, id ≠ i → t.mode id = .idle)
    (hslot : ∀ id, id ≠ i → c.slot id = u.connector.slot id)
    (hregistry : c.registry = u.connector.registry)
    (hchange : Change (u.connector.registry.contains i) lands m (u.connector.slot i) (t.mode i)
      (c.slot i)) :
    Outcome i lands m u (t, { u with connector := c }) :=
  ⟨hchange, hslot, helsewhere, hregistry, .refl _⟩

theorem mode_attempt_other {a : Attempt} {stage : AttemptStage} {id : SessionId}
    (h : id ≠ a.session.id) : (Task.attempt a stage).mode id = .idle := by
  simp [h.symm]

theorem mode_watch_other {session : Session} {stage : WatchStage} {id : SessionId}
    (h : id ≠ session.id) : (Task.watch session stage).mode id = .idle := by
  simp [h.symm]

/-- Nothing happens to any slot. -/
theorem Outcome.stay {i : SessionId} {m : Mode} {u : Turn} {t : Task}
    (helsewhere : ∀ id, id ≠ i → t.mode id = .idle) (hmode : t.mode i = m) :
    Outcome i false m u (t, u) := by
  subst hmode
  exact ⟨.same _ _, fun _ _ => rfl, helsewhere, rfl, .refl _⟩

/-- The connector changes, and no slot does. -/
theorem Outcome.keep {i : SessionId} {m : Mode} {u : Turn} {t : Task} {c : Connector}
    (helsewhere : ∀ id, id ≠ i → t.mode id = .idle) (hmode : t.mode i = m)
    (hslot : c.slot = u.connector.slot) (hregistry : c.registry = u.connector.registry) :
    Outcome i false m u (t, { u with connector := c }) := by
  have halike : u.Alike { u with connector := c } := ⟨hslot, hregistry, rfl⟩
  exact (Outcome.stay helsewhere hmode).ofAlike halike

/-- To attach a connection gives it to the session and starts tasks that serve nobody yet. -/
theorem exec_attach (session : Session) (connection : Connection) (channel : ChannelId) (u : Turn) :
    ∃ new : List Task, (∀ t ∈ new, t.Fresh) ∧
      exec (attach session connection channel) u =
        ((), ⟨u.connector.attached session.id connection ⟨u.connector.nextGeneration, channel⟩,
          u.started ++ new⟩) := by
  let t : Task := .watch session (.watching u.connector.nextGeneration channel)
  cases hstale : (u.connector.status session.id).connection with
  | none =>
    refine ⟨[t], by simp [t, Task.Fresh], ?_⟩
    simp only [attach, exec_bind, exec_connector, hstale]
    rfl
  | some stale =>
    refine ⟨[.closing stale.closing, t], by simp [t, Task.Fresh], ?_⟩
    simp only [attach, exec_bind, exec_connector, hstale, exec_start, exec_update,
      List.append_assoc, List.singleton_append]
    rfl

/-- An attempt that attaches its connection lands. -/
theorem attach_outcome (session : Session) (connection : Connection) (channel : ChannelId)
    (u : Turn) {t : Task} (ht : ∀ id, t.mode id = .idle) :
    Outcome session.id true .flying u
      (exec (do attach session connection channel; return t) u) := by
  obtain ⟨new, hfresh, hrun⟩ := exec_attach session connection channel u
  rw [exec_bind, hrun, exec_pure]
  refine ⟨?_, ?_, fun id _ => ht id, ?_, ⟨new, rfl, hfresh⟩⟩
  · rw [ht]
    simpa using Change.attached (u.connector.slot session.id) connection
      ⟨u.connector.nextGeneration, channel⟩
  · intro id h
    simp [h]
  · simp

namespace Attempt

variable (a : Attempt) (u : Turn)

theorem fail_outcome (e : ConnectError) :
    Outcome a.session.id false .flying u (exec (a.fail e) u) := by
  refine .ofSlot (fun id h => mode_attempt_other h) ?_ rfl ?_
  · intro id h
    simp [h]
  · simpa [AttemptStage.mode] using Change.failed (u.connector.slot a.session.id) e.message

theorem succeed_outcome (connection : Connection) :
    Outcome a.session.id true .flying u (exec (a.succeed connection) u) :=
  attach_outcome a.session connection a.channel u
    fun id => by simp [AttemptStage.mode]

/-- A chain that has only been started is not connected yet. -/
theorem not_isConnected_start (hops : List Hop) : (ChainRun.start hops).isConnected = false := by
  cases hops <;> rfl

/-- An attempt lands if its chain is connected. -/
theorem chain_outcome (run : ChainRun) :
    Outcome a.session.id run.isConnected .flying u (exec (a.chain run) u) := by
  cases run with
  | failed e => exact a.fail_outcome u e
  | connected connection => exact a.succeed_outcome u connection
  | tunnelling | connecting | opening | closing =>
    exact .stay (fun id h => mode_attempt_other h) (by simp [AttemptStage.mode])

theorem route_outcome (target : SshTarget) (found : Except ConnectError (List Hop)) :
    Outcome a.session.id false .flying u (exec (a.route target found) u) := by
  unfold route
  cases routeOf target found with
  | error e => exact a.fail_outcome u e
  | ok hops =>
    have h := a.chain_outcome u (ChainRun.start hops)
    rwa [not_isConnected_start] at h

theorem establish_outcome : Outcome a.session.id false .flying u (exec a.establish u) := by
  unfold establish
  cases a.session.target with
  | ssh target =>
    show Outcome _ _ _ _ (exec (if u.connector.isCancelled a.token then a.fail .cancelled
      else if target.proxyJump.isSome then pure (.attempt a (.resolving target))
      else a.chain (ChainRun.start [target.host])) u)
    by_cases hcancelled : u.connector.isCancelled a.token = true
    · rw [if_pos hcancelled]
      exact a.fail_outcome u .cancelled
    · rw [if_neg hcancelled]
      by_cases hjump : target.proxyJump.isSome = true
      · rw [if_pos hjump]
        exact .stay (fun id h => mode_attempt_other h) (by simp [AttemptStage.mode])
      · rw [if_neg hjump]
        have h := a.chain_outcome u (ChainRun.start [target.host])
        rwa [not_isConnected_start] at h
  | serial params =>
    exact .keep (fun id h => mode_attempt_other h) (by simp [AttemptStage.mode]) rfl rfl

theorem opened_outcome (params : SerialParams) (terminal : Terminal) :
    Outcome a.session.id true .flying u (exec (a.opened params terminal) u) := by
  unfold opened
  exact (a.succeed_outcome _ _).ofAlike ⟨rfl, rfl, rfl⟩

theorem release_outcome (todo : List Call) :
    Outcome a.session.id false .flying u (exec (a.release todo) u) := by
  cases todo with
  | nil => exact a.establish_outcome u
  | cons call todo =>
    exact .stay (fun id h => mode_attempt_other h) (by simp [AttemptStage.mode])

/-- A signal that nobody waits for changes nothing. -/
theorem wait_outcome (stage : AttemptStage) :
    Outcome a.session.id false stage.mode u (exec (pure (Task.attempt a stage)) u) :=
  .stay (fun id h => mode_attempt_other h) (by simp)

/-- A turn of an attempt lands exactly if the success that it waits for comes in. -/
theorem resume_outcome (stage : AttemptStage) (s : Signal) :
    Outcome a.session.id ((Task.attempt a stage).lands s) stage.mode u
      (exec (a.resume stage s) u) := by
  cases stage with
  | releasing todo =>
    cases s with
    | reply r => exact a.release_outcome u todo.tail
    | cancelled | elapsed | reported | stopped => exact a.wait_outcome u _
  | resolving target =>
    cases s with
    | reply r =>
      cases r with
      | hops hops => exact a.route_outcome u target (.ok hops)
      | failed e => exact a.route_outcome u target (.error e)
      | _ => exact a.wait_outcome u _
    | cancelled | elapsed | reported | stopped => exact a.wait_outcome u _
  | chaining run =>
    cases s with
    | reply r => exact a.chain_outcome u (run.answer r)
    | cancelled => exact a.chain_outcome u run.cancel
    | elapsed | reported | stopped => exact a.wait_outcome u _
  | opening params =>
    cases s with
    | reply r =>
      cases r with
      | terminal t => exact a.opened_outcome u params t
      | failed e => exact a.fail_outcome u e
      | _ => exact a.wait_outcome u _
    | cancelled => exact a.fail_outcome u .cancelled
    | elapsed | reported | stopped => exact a.wait_outcome u _
  | notingSuccess connection =>
    cases s with
    | reply r => exact .stay (fun id h => mode_attempt_other h) (by simp [AttemptStage.mode])
    | cancelled | elapsed | reported | stopped => exact a.wait_outcome u _
  | startingForwards connection =>
    cases s with
    | reply r => exact .keep (fun _ _ => rfl) rfl rfl rfl
    | cancelled | elapsed | reported | stopped => exact a.wait_outcome u _
  | notingFailure e =>
    cases s with
    | reply r => exact .keep (fun _ _ => rfl) rfl rfl rfl
    | cancelled | elapsed | reported | stopped => exact a.wait_outcome u _

end Attempt

def AttemptStage.hurried : AttemptStage → Bool
  | .releasing _ | .notingSuccess _ | .startingForwards _ | .notingFailure _ => true
  | .resolving _ | .chaining _ | .opening _ => false

def WatchStage.hurried : WatchStage → Bool
  | .closing .. | .notingReopening .. => true
  | .watching .. | .delayed .. | .reopening .. => false

/-- Whether a task is only closing a connection, noting a result or starting forwards. -/
def Task.hurried : Task → Bool
  | .attempt _ stage => stage.hurried
  | .watch _ stage => stage.hurried
  | .disconnecting .. | .destroying .. => true
  | .closing _ | .over _ => false

/-- A task that is in no hurry is idle, or it dials. -/
theorem Task.mode_of_not_hurried {t : Task} (h : t.hurried = false) (id : SessionId) :
    t.mode id = .idle ∨ t.mode id = .flying := by
  cases t with
  | attempt a stage =>
    rw [mode_attempt]
    split
    · cases stage <;> simp [AttemptStage.mode]
    · exact .inl rfl
  | watch session stage =>
    rw [mode_watch]
    split
    · cases stage <;> simp_all [hurried, WatchStage.hurried, WatchStage.mode]
    · exact .inl rfl
  | closing | «over» => exact .inl rfl
  | disconnecting | destroying => cases h

theorem Task.Fresh.not_hurried {t : Task} (h : t.Fresh) : t.hurried = false := by
  cases t with
  | watch session stage =>
    cases stage with
    | watching => rfl
    | _ => cases h
  | closing => rfl
  | _ => cases h

end Multiplexer
