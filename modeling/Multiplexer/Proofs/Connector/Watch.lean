import Multiplexer.Proofs.Connector.Turn

/-!
# Turns of a watch

What follows a drop, one turn after the other: the dropped connection is taken
and closed, and a serial line is claimed and opened again.
-/

namespace Multiplexer

open TurnM

/-- A change of the slot of a session, followed by what no slot shows. -/
theorem Outcome.ofQuiet {i : SessionId} {lands : Bool} {m : Mode} {u v : Turn} {c : Connector}
    {t : Task} (hidle : ∀ id, t.mode id = .idle)
    (hquiet : Turn.Alike { u with connector := c } v)
    (hslot : ∀ id, id ≠ i → c.slot id = u.connector.slot id)
    (hregistry : c.registry = u.connector.registry)
    (hchange : Change (u.connector.registry.contains i) lands m (u.connector.slot i) .idle
      (c.slot i)) :
    Outcome i lands m u (t, v) where
  change := by rwa [hidle i, hquiet.slot]
  frame id h := by rw [hquiet.slot]; exact hslot id h
  elsewhere id _ := hidle id
  registry := hquiet.registry.trans hregistry
  started := hquiet.started ▸ .refl _

namespace Watch

variable (session : Session) (drop : Drop) (u : Turn)

/-- A pause shows in no slot. -/
theorem exec_pause (step : Reopener.Step) :
    ∃ (t : Task) (v : Turn), exec (pause session drop step) u = (t, v) ∧ u.Alike v ∧
      ∀ id, t.mode id = .idle := by
  obtain ⟨r, events, pause⟩ := step
  cases pause with
  | delayed l =>
    exact ⟨_, _, rfl, ⟨rfl, rfl, rfl⟩, fun id => by simp [WatchStage.mode]⟩
  | ended o =>
    cases o with
    | gaveUp notify => cases notify <;> exact ⟨_, _, rfl, ⟨rfl, rfl, rfl⟩, fun _ => rfl⟩
    | _ => exact ⟨_, _, rfl, ⟨rfl, rfl, rfl⟩, fun _ => rfl⟩

/-- A slot may change before a pause; the pause hides nothing of it. -/
theorem pause_outcome {lands : Bool} {m : Mode} (c : Connector) (step : Reopener.Step)
    (hslot : ∀ id, id ≠ session.id → c.slot id = u.connector.slot id)
    (hregistry : c.registry = u.connector.registry)
    (hchange : Change (u.connector.registry.contains session.id) lands m
      (u.connector.slot session.id) .idle (c.slot session.id)) :
    Outcome session.id lands m u (exec (pause session drop step) { u with connector := c }) := by
  obtain ⟨t, v, hrun, hquiet, hidle⟩ := exec_pause session drop { u with connector := c } step
  rw [hrun]
  exact .ofQuiet hidle hquiet hslot hregistry hchange

/-- What follows the last call that closes a dropped connection concerns its session alone. -/
theorem closed_outcome : Outcome session.id false .dropping u (exec (closed session drop) u) := by
  have hslot : ∀ id, id ≠ session.id →
      (u.connector.setState session.id .disconnected).slot id = u.connector.slot id :=
    fun id h => by simp [h]
  have hchange : Change (u.connector.registry.contains session.id) false .dropping
      (u.connector.slot session.id) .idle
      ((u.connector.setState session.id .disconnected).slot session.id) := by
    simpa using Change.closed (u.connector.slot session.id)
  unfold closed
  rw [exec_bind, exec_update]
  cases session.target with
  | ssh target =>
    exact .ofQuiet (fun _ => rfl) ⟨rfl, rfl, rfl⟩ hslot rfl hchange
  | serial params => exact pause_outcome session drop u _ _ hslot rfl hchange

theorem closeAll_outcome (todo : List Call) :
    Outcome session.id false .dropping u (exec (closeAll session drop todo) u) := by
  cases todo with
  | nil => exact closed_outcome session drop u
  | cons call todo =>
    exact .stay (fun id h => mode_watch_other h) (by simp [WatchStage.mode])

/-- A watch closes the connection of its session, if that is still its own. -/
theorem exec_dropped (generation : Nat) :
    exec (dropped session generation drop) u =
      if ((u.connector.watcher? session.id).any fun w => w.generation == generation) = true then
        exec (closeAll session drop
          ((((u.connector.status session.id).connection.map Connection.closing).getD []) ++
            [.stopForwards session.id]))
          { u with connector :=
              (u.connector.dropWatcher session.id).setConnection session.id none }
      else (.over (.ok ()), u) :=
  exec_ite _ _ _ u

/-- A watch takes the connection that was dropped from its session. -/
theorem dropped_outcome (generation : Nat) :
    Outcome session.id false .idle u (exec (dropped session generation drop) u) := by
  rw [exec_dropped]
  split
  · rename_i hcurrent
    obtain ⟨w, hw⟩ := Option.isSome_iff_exists.1 (Option.isSome_of_any hcurrent)
    let c := (u.connector.dropWatcher session.id).setConnection session.id none
    obtain ⟨call, todo, htodo⟩ : ∃ call todo,
        (((u.connector.status session.id).connection.map Connection.closing).getD []) ++
          [.stopForwards session.id] = call :: todo :=
      List.exists_cons_of_ne_nil (by simp)
    rw [htodo]
    have hmode :
        (Task.watch session (.closing drop (call :: todo))).mode session.id = .dropping := by
      simp [WatchStage.mode]
    refine .ofSlot (c := c) (fun id h => mode_watch_other h) (fun id h => by simp [c, h]) rfl ?_
    rw [hmode]
    simpa [c] using Change.dropped (u.connector.slot session.id) w hw
  · exact .stay (fun _ _ => rfl) rfl

/-- The session is claimed for an attempt, and the line is being opened. -/
theorem claim_outcome (l : ReopenLoop) (params : SerialParams)
    (hregistered : u.connector.registry.contains session.id = true)
    (hstate : (u.connector.status session.id).state = .disconnected) :
    Outcome session.id false .idle u (exec (do
      update (·.setState session.id .connecting)
      return .watch session (.reopening drop l params (← newChannel))) u) := by
  have hslot : ∀ id, ((u.connector.setState session.id .connecting).newChannel.2).slot id =
      (u.connector.setState session.id .connecting).slot id :=
    congrFun (Connector.slot_congr rfl rfl)
  rw [exec_bind, exec_update, exec_bind, exec_newChannel, exec_pure]
  refine .ofSlot (fun id h => mode_watch_other h) (fun id h => by simp [hslot, h]) rfl ?_
  have hmode : ∀ channel, (Task.watch session (.reopening drop l params channel)).mode session.id =
      .flying := fun _ => by simp [WatchStage.mode]
  rw [hmode, hslot]
  simpa using Change.claimed (u.connector.slot session.id) hregistered hstate

/-- A loop that makes its attempt claims the session. -/
theorem reopen_outcome (l : ReopenLoop) :
    Outcome session.id false .idle u (exec (reopen session drop l) u) := by
  obtain ⟨r, events, params?, hattempt⟩ :
      ∃ r events params?, u.connector.reopener.attempt l = (r, events, params?) := ⟨_, _, _, rfl⟩
  let c := { u.connector with reopener := r }.emitAll events
  let v : Turn := { u with connector := c }
  have halike : u.Alike v := ⟨rfl, rfl, rfl⟩
  have hsame : ∀ step, Outcome session.id false .idle v (exec (pause session drop step) v) :=
    fun step => pause_outcome session drop v c step (fun _ _ => rfl) rfl (.same _ _)
  refine Outcome.ofAlike ?_ halike
  unfold reopen
  rw [exec_bind, exec_connector]
  simp only [hattempt]
  rw [exec_bind, exec_update, exec_bind, exec_connector]
  change Outcome _ _ _ _ (exec (if (!c.registry.contains session.id) = true then _ else _) v)
  by_cases hregistered : c.registry.contains session.id = true
  · rw [if_neg (by simp [hregistered])]
    by_cases hstate : (c.status session.id).state = .disconnected
    · rw [if_neg (not_not_intro hstate)]
      cases params? with
      | none => exact .stay (fun _ _ => rfl) rfl
      | some params => exact claim_outcome session drop v l params hregistered hstate
    · rw [if_pos hstate]
      exact hsame _
  · rw [if_pos (by simpa using hregistered)]
    exact hsame _

theorem wait_outcome (stage : WatchStage) :
    Outcome session.id false stage.mode u (exec (pure (Task.watch session stage)) u) :=
  .stay (fun id h => mode_watch_other h) (by simp)

/-- An attempt to open the line again has failed. -/
theorem refused_outcome (l : ReopenLoop) (e : ConnectError) :
    Outcome session.id false .flying u (exec (do
      update (·.setState session.id .disconnected)
      pause session drop ((← connector).reopener.refused l e)) u) := by
  refine pause_outcome session drop u (u.connector.setState session.id .disconnected)
    (u.connector.reopener.refused l e) (fun id h => by simp [h]) rfl ?_
  simpa using Change.refused (u.connector.slot session.id)

/-- A turn of a watch lands exactly if the line is open again. -/
theorem resume_outcome (stage : WatchStage) (s : Signal) :
    Outcome session.id ((Task.watch session stage).lands s) stage.mode u
      (exec (resume session stage s) u) := by
  cases stage with
  | watching generation channel =>
    cases s with
    | stopped => exact .stay (fun _ _ => rfl) rfl
    | reported d =>
      exact (dropped_outcome session d { u with connector := _ } generation).ofAlike ⟨rfl, rfl, rfl⟩
    | reply | cancelled | elapsed => exact wait_outcome session u _
  | closing d todo =>
    cases s with
    | reply r => exact closeAll_outcome session d u todo.tail
    | cancelled | elapsed | reported | stopped => exact wait_outcome session u _
  | delayed d l =>
    cases s with
    | elapsed => exact reopen_outcome session d u l
    | cancelled =>
      exact pause_outcome session d u u.connector (u.connector.reopener.calledOff l)
        (fun _ _ => rfl) rfl (.same _ _)
    | reply | reported | stopped => exact wait_outcome session u _
  | reopening d l params channel =>
    cases s with
    | reply r =>
      cases r with
      | terminal t =>
        exact attach_outcome session (.bare t) channel u
          fun id => by simp [WatchStage.mode]
      | failed e => exact refused_outcome session d u l e
      | _ => exact wait_outcome session u _
    | cancelled | elapsed | reported | stopped => exact wait_outcome session u _
  | notingReopening d l =>
    cases s with
    | reply r =>
      exact pause_outcome session d u u.connector (u.connector.reopener.succeeded l)
        (fun _ _ => rfl) rfl (.same _ _)
    | cancelled | elapsed | reported | stopped => exact wait_outcome session u _

end Watch

end Multiplexer
