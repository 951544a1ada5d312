import Multiplexer.Proofs.Connector.Registry
import Multiplexer.Proofs.Connector.Watch

/-!
# Requests and tasks

One law for a turn of any task, and what the requests to connect, to disconnect
and to destroy do before their first turn.
-/

namespace Multiplexer

open TurnM

/-- A turn of any task. `lands` tells for whom a success came in. -/
structure Turned (lands : SessionId → Bool) (before : SessionId → Mode) (u : Turn)
    (r : Task × Turn) : Prop where
  change : ∀ id, Change (u.connector.registry.contains id) (lands id) (before id)
    (u.connector.slot id) (r.1.mode id) (r.2.connector.slot id)
  /-- Only a session that was being destroyed leaves the registry. -/
  registry : ((∀ id, r.1.mode id = .destroying ↔ before id = .destroying) ∧
      r.2.connector.registry = u.connector.registry) ∨
    ∃ id, (∀ i, before i = .destroying ↔ i = id) ∧ (∀ i, r.1.mode i = .idle) ∧
      r.2.connector.registry = (u.connector.registry.remove id).2
  started : Enlists u.started r.2.started

/-- A turn does not make a task destroy a session. -/
theorem Change.not_destroying {registered lands : Bool} {m m' : Mode} {x x' : Slot}
    (h : Change registered lands m x m' x') : m' = .destroying → m = .destroying := by
  cases h <;> simp

/-- A turn for one session keeps the law for turns of any task. -/
theorem Outcome.turned {i : SessionId} {lands : Bool} {before : SessionId → Mode} {u : Turn}
    {r : Task × Turn} (h : Outcome i lands (before i) u r) (hm : before i ≠ .destroying)
    (hidle : ∀ id, id ≠ i → before id = .idle) (l : SessionId → Bool) (hi : l i = lands)
    (hother : ∀ id, id ≠ i → l id = false) : Turned l before u r := by
  refine ⟨fun id => ?_, .inl ⟨fun id => ?_, h.registry⟩, h.started⟩
  · by_cases hid : id = i
    · subst hid
      rw [hi]
      exact h.change
    · rw [hother id hid, h.elsewhere id hid, h.frame id hid, hidle id hid]
      exact .same _ _
  · by_cases hid : id = i
    · subst hid
      exact iff_of_false (fun hmode => hm (h.change.not_destroying hmode)) hm
    · simp [h.elsewhere id hid, hidle id hid]

/-- The first turn of an attempt. -/
theorem Attempt.release_turned (a : Attempt) (todo : List Call) (u : Turn) :
    Turned (fun _ => false) (Task.attempt a (.releasing todo)).mode u
      (exec (a.release todo) u) := by
  refine Outcome.turned (i := a.session.id) ?_ ?_ (fun id h => mode_attempt_other h) _ rfl
    fun _ _ => rfl
  · rw [Task.mode_attempt, if_pos rfl]
    exact a.release_outcome u todo
  · simp [AttemptStage.mode]

namespace Task

def landsFor (t : Task) (s : Signal) (id : SessionId) : Bool :=
  t.lands s && decide (t.mode id = .flying)

theorem mode_flying_of_lands {t : Task} {s : Signal} (h : t.lands s = true) :
    ∃ id, t.mode id = .flying := by
  cases t with
  | attempt a stage =>
    refine ⟨a.session.id, ?_⟩
    cases stage <;> simp_all [lands, mode, AttemptStage.mode]
  | watch session stage =>
    refine ⟨session.id, ?_⟩
    cases stage <;> simp_all [lands, mode, WatchStage.mode]
  | closing | disconnecting | destroying | «over» => simp [lands] at h

/-- A turn for the one session that a task serves. -/
theorem turned_of_outcome {t : Task} {s : Signal} {i : SessionId} {u : Turn} {r : Task × Turn}
    (h : Outcome i (t.lands s) (t.mode i) u r) (hm : t.mode i ≠ .destroying)
    (hidle : ∀ id, id ≠ i → t.mode id = .idle) : Turned (t.landsFor s) t.mode u r := by
  refine h.turned hm hidle _ ?_ fun id hid => by simp [landsFor, hidle id hid]
  cases hlands : t.lands s with
  | false => simp [landsFor, hlands]
  | true =>
    obtain ⟨id, hid⟩ := mode_flying_of_lands hlands
    by_cases hi : id = i
    · simp [landsFor, hlands, ← hi, hid]
    · simp [hidle id hi] at hid

/-- A task that is left as it is. -/
theorem turned_stay (t : Task) (u : Turn) (l : SessionId → Bool) (hl : ∀ id, l id = false) :
    Turned l t.mode u (t, u) :=
  ⟨fun id => by rw [hl]; exact .same _ _, .inl ⟨fun _ => .rfl, rfl⟩, .refl _⟩

variable (id : SessionId) (todo : List Call) (u : Turn)

theorem closeAll_turned :
    Turned (fun _ => false) (fun _ => .idle) u (exec (closeAll todo) u) := by
  cases todo with
  | nil => exact turned_stay (.over (.ok ())) u _ fun _ => rfl
  | cons call todo => exact turned_stay (.closing (call :: todo)) u _ fun _ => rfl

theorem disconnectAll_outcome :
    Outcome id false .disconnecting u (exec (disconnectAll id todo) u) := by
  cases todo with
  | nil =>
    refine .ofSlot (fun _ _ => rfl) (fun i h => by simp [h]) rfl ?_
    simpa using Change.disconnected (u.connector.slot id)
  | cons call todo =>
    exact .stay (fun i h => by simp [h.symm]) (by simp)

theorem disconnectAll_turned :
    Turned (fun _ => false) (Task.disconnecting id todo).mode u
      (exec (disconnectAll id todo) u) := by
  refine Outcome.turned (i := id) ?_ (by simp) (fun i h => by simp [h.symm]) _ rfl fun _ _ => rfl
  rw [mode_disconnecting, if_pos rfl]
  exact disconnectAll_outcome id todo u

theorem destroyAll_turned :
    Turned (fun _ => false) (Task.destroying id todo).mode u (exec (destroyAll id todo) u) := by
  cases todo with
  | nil =>
    refine ⟨fun i => ?_, .inr ⟨id, by simp [eq_comm], fun _ => rfl, rfl⟩, .refl _⟩
    by_cases hi : id = i
    · subst hi
      rw [mode_destroying, if_pos rfl]
      exact .destroyed _
    · rw [mode_destroying, if_neg hi]
      exact .same _ _
  | cons call todo => exact turned_stay (.destroying id (call :: todo)) u _ fun _ => rfl

/-- What a turn of a task can do. -/
theorem resume_turned (t : Task) (s : Signal) :
    Turned (t.landsFor s) t.mode u (exec (t.resume s) u) := by
  cases t with
  | attempt a stage =>
    refine turned_of_outcome (i := a.session.id) ?_ ?_ fun id h => mode_attempt_other h
    · rw [mode_attempt, if_pos rfl]
      exact a.resume_outcome u stage s
    · cases stage <;> simp [AttemptStage.mode]
  | watch session stage =>
    refine turned_of_outcome (i := session.id) ?_ ?_ fun id h => mode_watch_other h
    · rw [mode_watch, if_pos rfl]
      exact Watch.resume_outcome session u stage s
    · cases stage <;> simp [WatchStage.mode]
  | closing todo =>
    cases s with
    | reply r => exact closeAll_turned todo.tail u
    | cancelled | elapsed | reported | stopped => exact turned_stay _ u _ fun _ => rfl
  | disconnecting id todo =>
    cases s with
    | reply r => exact disconnectAll_turned id todo.tail u
    | cancelled | elapsed | reported | stopped => exact turned_stay _ u _ fun _ => rfl
  | destroying id todo =>
    cases s with
    | reply r => exact destroyAll_turned id todo.tail u
    | cancelled | elapsed | reported | stopped => exact turned_stay _ u _ fun _ => rfl
  | «over» r => exact turned_stay _ u _ fun _ => rfl

end Task

structure Turn.Released (id : SessionId) (u v : Turn) : Prop where
  slot : ∀ i, v.connector.slot i =
    if i = id then { u.connector.slot id with connection := none, watcher := none }
    else u.connector.slot i
  registry : v.connector.registry = u.connector.registry
  started : v.started = u.started

namespace Connector

variable (id : SessionId) (session : Session) (token : Token) (u : Turn)

theorem exec_release : ∃ todo v, exec (release id) u = (todo, v) ∧ u.Released id v := by
  let c := u.connector.stopWatcher id
  cases hconnection : (c.status id).connection with
  | none =>
    refine ⟨[], { u with connector := c }, ?_, fun i => ?_,
      u.connector.registry_stopWatcher id, rfl⟩
    · simp only [release, exec_bind, exec_update, exec_connector]
      rw [show (((u.connector.stopWatcher id).status id).connection = none) from hconnection]
      rfl
    · have hnone : (u.connector.slot id).connection = none := by
        simpa [c, slot] using hconnection
      by_cases hi : i = id <;> simp [c, hi, hnone]
  | some connection =>
    refine ⟨connection.closing ++ [.stopForwards id],
      { u with connector := c.setConnection id none }, ?_, fun i => ?_,
      u.connector.registry_stopWatcher id, rfl⟩
    · simp only [release, exec_bind, exec_update, exec_connector]
      rw [show (((u.connector.stopWatcher id).status id).connection = some connection)
        from hconnection]
      rfl
    · by_cases hi : i = id <;> simp [c, hi]

/-- A release that comes after the loop that reopens the line was told of it. -/
theorem exec_release_after (tell : Reopener → Reopener) (finish : List Call → TurnM Task) :
    ∃ todo v, u.Released id v ∧
      exec (do
        update fun c => { c with reopener := tell c.reopener }
        finish (← release id)) u = exec (finish todo) v := by
  let told : Turn :=
    { u with connector := { u.connector with reopener := tell u.connector.reopener } }
  obtain ⟨todo, v, hrun, hreleased⟩ := exec_release id told
  refine ⟨todo, v, ⟨hreleased.slot, hreleased.registry, hreleased.started⟩, ?_⟩
  rw [exec_bind, exec_update, exec_bind]
  exact congrArg (fun r : List Call × Turn => exec (finish r.1) r.2) hrun

/-- To disconnect a session releases it and closes what it held. -/
theorem exec_disconnect (h : u.connector.registry.contains id = true) :
    ∃ todo v, u.Released id v ∧ exec (disconnect id) u = exec (Task.disconnectAll id todo) v := by
  obtain ⟨todo, v, hreleased, hrun⟩ :=
    exec_release_after id u (·.cancel id) (Task.disconnectAll id)
  refine ⟨todo, v, hreleased, ?_⟩
  show exec (if u.connector.registry.contains id = true then _ else _) u = _
  rw [if_pos h]
  exact hrun

/-- To destroy a session releases it and closes what it held. -/
theorem exec_destroy (h : u.connector.registry.contains id = true) :
    ∃ todo v, u.Released id v ∧ exec (destroy id) u = exec (Task.destroyAll id todo) v := by
  obtain ⟨todo, v, hreleased, hrun⟩ :=
    exec_release_after id u (·.unregister id) (Task.destroyAll id)
  refine ⟨todo, v, hreleased, ?_⟩
  show exec (if u.connector.registry.contains id = true then _ else _) u = _
  rw [if_pos h]
  exact hrun

/-- A session that is not registered cannot be disconnected. -/
theorem exec_disconnect_unknown (h : u.connector.registry.contains id = false) :
    exec (disconnect id) u = (.over (.error (.sessionNotFound id)), u) := by
  show exec (if u.connector.registry.contains id = true then _ else _) u = _
  rw [if_neg (by simp [h])]
  rfl

/-- To destroy a session that is not registered does nothing, and is no error. -/
theorem exec_destroy_unknown (h : u.connector.registry.contains id = false) :
    exec (destroy id) u = (.over (.ok ()), u) := by
  show exec (if u.connector.registry.contains id = true then _ else _) u = _
  rw [if_neg (by simp [h])]
  rfl

/-- A session that is connecting is not connected again. -/
theorem exec_connect_overlapping (h : (u.connector.slot session.id).state = .connecting) :
    exec (connect session token) u = (.over (.error (.alreadyConnecting session.id)), u) := by
  show exec (if (u.connector.slot session.id).state = .connecting then _ else _) u = _
  rw [if_pos h]
  rfl

/-- Any other session is claimed for a new attempt, and loses what it held. -/
theorem exec_connect (h : (u.connector.slot session.id).state ≠ .connecting) :
    ∃ (a : Attempt) (todo : List Call) (v : Turn), a.session = session ∧
      (∀ i, v.connector.slot i =
        if i = session.id then ⟨.connecting, none, none⟩ else u.connector.slot i) ∧
      v.connector.registry = u.connector.registry ∧ v.started = u.started ∧
      exec (connect session token) u = exec (a.release todo) v := by
  let claimed : Turn :=
    { u with connector := u.connector.setState session.id .connecting }
  obtain ⟨todo, v, hrun, hreleased⟩ := exec_release session.id claimed
  let channel := v.connector.newChannel
  refine ⟨⟨session, token, channel.1⟩, todo, { v with connector := channel.2 }, rfl, ?_,
    hreleased.registry, hreleased.started, ?_⟩
  · intro i
    rw [show Connector.slot channel.2 = v.connector.slot from slot_congr rfl rfl, hreleased.slot]
    by_cases hi : i = session.id <;> simp [claimed, hi]
  · show exec (if (u.connector.slot session.id).state = .connecting then _ else _) u = _
    rw [if_neg h, exec_bind, exec_update, exec_bind]
    exact congrArg (fun r : List Call × Turn => exec (do
      let channel ← TurnM.newChannel
      Attempt.release { session, token, channel } r.1) r.2) hrun

end Connector

end Multiplexer
