import Multiplexer.Proofs.Workspace.Balance

/-!
# Sessions and panes

Every request and every turn keeps the balance of sessions, so that the sessions
that are registered are those that some leaf shows.
-/

namespace Multiplexer

open WorkspaceM

/-- A turn of a task keeps the balance of what it and the others give up. -/
theorem Workspace.Balanced.turned {w : Workspace} {t : Task} {owed : List SessionId}
    {lands : SessionId → Bool} {u : Turn} {r : Task × Turn} (hw : w.Balanced (t.givesUp ++ owed))
    (h : Turned lands t.mode u r) (hu : u.connector.registry = w.connector.registry) :
    Workspace.Balanced { w with connector := r.2.connector } (r.1.givesUp ++ owed) := by
  rcases h.registry with ⟨hmode, hregistry⟩ | ⟨id, hid, hidle, hregistry⟩
  · rw [Task.givesUp_congr hmode]
    exact hw.reconnector (hregistry.trans hu)
  · rw [Task.givesUp_of_mode ((hid id).2 rfl)] at hw
    rw [Task.givesUp_of_idle hidle]
    exact hw.removed (hregistry.trans (by rw [hu]))

/-- A task that gives up no session does not begin to. -/
theorem Turned.givesUp_nil {t : Task} {lands : SessionId → Bool} {u : Turn} {r : Task × Turn}
    (h : Turned lands t.mode u r) (ht : t.givesUp = []) : r.1.givesUp = [] := by
  refine Task.givesUp_of_not fun id hid => ?_
  have hmode := (h.change id).not_destroying hid
  simp [Task.givesUp_of_mode hmode] at ht

namespace ClosedPane

variable {c : ClosedPane}

/-- The session of a closed pane is an orphan exactly if no leaf shows it any more. -/
theorem mem_orphans_iff {s : Layout}
    (hstill : c.stillDisplayed = true ↔ ∃ x, c.session = some x ∧ x ∈ s.sessions) (x : SessionId) :
    x ∈ c.orphans ↔ c.session = some x ∧ x ∉ s.sessions := by
  unfold orphans
  by_cases hshown : c.stillDisplayed = true
  · obtain ⟨y, hy, hys⟩ := hstill.1 hshown
    simp only [hshown, hy, if_true, List.not_mem_nil, Option.some.injEq, false_iff]
    rintro ⟨rfl, hx⟩
    exact hx hys
  · simp only [hshown, if_false, Option.mem_toList, Bool.false_eq_true]
    exact ⟨fun hx => ⟨hx, fun hxs => hshown (hstill.2 ⟨x, hx, hxs⟩)⟩, And.left⟩

theorem nodup_orphans : c.orphans.Nodup := by
  unfold orphans
  split
  · exact List.nodup_nil
  · cases c.session <;> simp

end ClosedPane

section Connector

variable (owed : List SessionId)

/-- To give up a session that is owed keeps the balance. -/
theorem destroy_leads (id : SessionId) :
    Leads (·.Balanced (id :: owed)) (onConnector (Connector.destroy id))
      fun t w => w.Balanced (t.givesUp ++ owed) := by
  refine .onConnector fun w u hw hu => ?_
  have hregistered : u.connector.registry.contains id = true := by
    rw [hu, hw.registered]
    simp
  obtain ⟨todo, v, hreleased, hrun⟩ := Connector.exec_destroy id u hregistered
  have hturned := Task.destroyAll_turned id todo v
  rw [hrun]
  refine ⟨Workspace.Balanced.turned (t := .destroying id todo) hw hturned ?_, ?_⟩
  · rw [hreleased.registry, hu]
  · rw [← hreleased.started]
    exact hturned.started

theorem connect_leads (session : Session) (token : Token) :
    Leads (·.Balanced owed) (onConnector (Connector.connect session token))
      fun t w => t.givesUp = [] ∧ w.Balanced owed := by
  refine .onConnector fun w u hw hu => ?_
  by_cases hbusy : (u.connector.slot session.id).state = .connecting
  · rw [Connector.exec_connect_overlapping session token u hbusy]
    exact ⟨⟨rfl, hw.reconnector (by rw [hu])⟩, .refl _⟩
  · obtain ⟨a, todo, v, -, -, hregistry, hstarted, hrun⟩ :=
      Connector.exec_connect session token u hbusy
    have hturned := a.release_turned todo v
    have hnone := hturned.givesUp_nil rfl
    have hbalanced := Workspace.Balanced.turned (t := .attempt a (.releasing todo)) hw hturned
      (by rw [hregistry, hu])
    rw [hnone] at hbalanced
    rw [hrun]
    exact ⟨⟨hnone, hbalanced⟩, hstarted ▸ hturned.started⟩

/-- A turn of a task keeps the balance and gives up no session anew. -/
theorem resume_leads (t : Task) (s : Signal) :
    Leads (·.Balanced (t.givesUp ++ owed)) (onConnector (t.resume s))
      fun t' w => (t.givesUp = [] → t'.givesUp = []) ∧ w.Balanced (t'.givesUp ++ owed) := by
  refine .onConnector fun w u hw hu => ?_
  have hturned := t.resume_turned u s
  exact ⟨⟨hturned.givesUp_nil, hw.turned hturned (by rw [hu])⟩, hturned.started⟩

end Connector

/-- The sessions that a task, a job and all other jobs give up are owed. -/
def balance (owed : List SessionId) : Discipline where
  rest ids w := w.Balanced (ids ++ owed)
  giving t ids w := w.Balanced (t.givesUp ++ ids ++ owed)
  serving t w := t.givesUp = [] ∧ w.Balanced owed

section Lawful

variable {owed : List SessionId}

/-- What a closed pane shows no more is owed until it is given up. -/
theorem edit_close_leads (pane : PaneId) :
    Leads (·.Balanced owed) (edit (Layout.close pane)) fun r w =>
      match r with
      | .ok c => w.Balanced (c.orphans ++ owed)
      | .error _ => w.Balanced owed := by
  refine .edit (fun w hw => Layout.close_transacts hw.planned pane) ?_ fun w x hw => hw
  rintro w c s ns hw ⟨hplanned, -, hstill, hsessions⟩
  have horphan := ClosedPane.mem_orphans_iff hstill
  have hwas : ∀ x ∈ c.orphans, x ∈ w.layout.sessions := fun x hx =>
    (hsessions x).2 (.inr ((horphan x).1 hx).1)
  refine hw.relayout hplanned (fun x => ?_) ?_ fun x hx => ?_
  · rw [List.mem_append, hsessions, horphan]
    tauto
  · refine List.nodup_append.2 ⟨ClosedPane.nodup_orphans, hw.once, ?_⟩
    rintro x hx _ hy rfl
    exact hw.apart x hy (hwas x hx)
  · rcases List.mem_append.1 hx with hx | hx
    · exact ((horphan x).1 hx).2
    · exact fun hxs => hw.apart x hx ((hsessions x).2 (.inl hxs))

/-- A new session is owed until a pane shows it, also where the pane is refused. -/
theorem edit_shows_leads {e : Option SessionId → Edit PaneId} (he : Shows e)
    (session : Option SessionId) :
    Leads (·.Balanced (session.toList ++ owed)) (edit (e session)) fun r w =>
      match r with
      | .ok _ => w.Balanced owed
      | .error _ => w.Balanced (session.toList ++ owed) := by
  refine .edit (fun w hw => he w.layout _ hw.planned) ?_ fun w x hw => hw
  rintro w pane s ns hw ⟨hplanned, hsessions⟩
  obtain ⟨-, honce, hdistinct⟩ := List.nodup_append.1 hw.once
  refine hw.relayout hplanned (fun x => ?_) honce fun x hx => ?_
  · rw [hsessions, List.mem_append, Option.mem_toList, or_assoc]
  · rw [hsessions, not_or]
    refine ⟨hw.apart x (List.mem_append_right _ hx), fun hsession => ?_⟩
    exact hdistinct x (by simp [hsession]) x hx rfl

theorem balanced_reset {w : Workspace} (hw : w.Balanced owed) (notices : List Notice) :
    Workspace.Balanced { w with
      layout := { splitRatio := w.layout.splitRatio, nextId := w.layout.nextId }, notices }
      (w.layout.sessions ++ owed) := by
  refine hw.relayout (Layout.planned_empty _ _) (fun x => ?_) ?_ fun _ _ => List.not_mem_nil
  · have hnone : x ∉ ({ splitRatio := w.layout.splitRatio, nextId := w.layout.nextId } :
        Layout).sessions := List.not_mem_nil
    simp only [List.mem_append, hnone, false_or]
  · refine List.nodup_append.2 ⟨nodup_eraseDups _, hw.once, ?_⟩
    rintro x hx _ hy rfl
    exact hw.apart x hy hx

/-- Requests and jobs keep the balance. -/
theorem balance_lawful : (balance owed).Lawful where
  destroy id ids := (destroy_leads (ids ++ owed) id).mono fun t w hw => by
    rwa [← List.append_assoc] at hw
  connect session token := (connect_leads owed session token).of fun _ => And.left
  create target := .create (fun w s r hw hr => hw.created hr) fun w e hw => hw
  giving_resume t ids s := by
    simpa only [balance, List.append_assoc] using
      (resume_leads (ids ++ owed) t s).mono fun _ _ hw => hw.2
  serving_resume t s u hu := by
    obtain ⟨⟨hnone, hw⟩, hstarted⟩ := resume_leads owed t s u (by rw [hu.1]; exact hu.2)
    rw [hnone hu.1] at hw
    exact ⟨⟨hnone hu.1, hw⟩, hstarted⟩
  giving_over r ids w := .rfl
  serving_over r w hw := hw.2
  close pane := (edit_close_leads pane).mono fun r _ hw => by cases r <;> exact hw
  shows he session := (edit_shows_leads he session).mono fun r _ hw => by cases r <;> exact hw
  spares he :=
    .edit (fun w hw => he w.layout hw.planned) (fun _ _ _ _ hw hs => hw.sameSessions hs)
      fun _ _ hw => hw
  reset w notices hw := balanced_reset hw notices

theorem balance_holds {job : Job} {w : Workspace} :
    (balance owed).holds job w ↔ job.Tame ∧ w.Balanced (job.givesUp ++ owed) := by
  have hserving : ∀ t : Task, t.givesUp = [] ∧ w.Balanced owed ↔
      t.givesUp = [] ∧ w.Balanced (t.givesUp ++ owed) :=
    fun t => and_congr_right fun ht => by rw [ht, List.nil_append]
  cases job with
  | task t => exact hserving t
  | opening pane t => exact hserving t
  | undoing | closing | clearing | «over» =>
    simp [balance, Discipline.holds, Job.givesUp, Job.Tame]

end Lawful

namespace System

/-- Sessions that are registered and shown no more, until the jobs that give them up are over. -/
def owed (jobs : List Job) : List SessionId := jobs.flatMap Job.givesUp

theorem owed_tasks {ts : List Task} (h : ∀ t ∈ ts, t.Fresh) :
    owed (ts.map .task) = [] := by
  simp only [owed, List.flatMap_map, List.flatMap_eq_nil_iff]
  exact fun t ht => Task.givesUp_of_idle (h t ht).mode

/-- The balance is kept whatever happens. -/
theorem balanced_invariant : Invariant (fun _ => True) fun w jobs =>
    w.Balanced (owed jobs) ∧ ∀ j ∈ jobs, j.Tame where
  perm hperm hw := ⟨hw.1.perm (hperm.flatMap_right _), fun j hj => hw.2 j (hperm.mem_iff.2 hj)⟩
  started hfresh hw := by
    refine ⟨?_, fun j hj => ?_⟩
    · rw [owed, List.flatMap_append, ← owed, ← owed, owed_tasks hfresh]
      exact hw.1
    · rcases List.mem_append.1 hj with hj | hj
      · obtain ⟨t, ht, rfl⟩ := List.mem_map.1 hj
        exact Task.givesUp_of_idle (hfresh t ht).mode
      · exact hw.2 j hj
  request r others _ t ht := by
    obtain ⟨hkept, hstarted⟩ := (balance_lawful.request r) t ht.1
    obtain ⟨htame, hw⟩ := balance_holds.1 hkept
    exact ⟨⟨hw, List.forall_mem_cons.2 ⟨htame, ht.2⟩⟩, hstarted⟩
  resume job signal others _ t ht := by
    obtain ⟨htame, hothers⟩ := List.forall_mem_cons.1 ht.2
    obtain ⟨hkept, hstarted⟩ := balance_lawful.resume signal job t (balance_holds.2 ⟨htame, ht.1⟩)
    obtain ⟨htame, hw⟩ := balance_holds.1 hkept
    exact ⟨⟨hw, List.forall_mem_cons.2 ⟨htame, hothers⟩⟩, hstarted⟩
  outside c hw := ⟨hw.1.amid c, hw.2⟩

/-- No session is owed once every job is settled. -/
theorem owed_of_settled {jobs : List Job} (h : ∀ j ∈ jobs, j.Settled) (ht : ∀ j ∈ jobs, j.Tame) :
    owed jobs = [] :=
  List.flatMap_eq_nil_iff.2 fun j hj => (h j hj).givesUp (ht j hj)

section Refused

variable (w : Workspace) {target : SessionTarget}
  (h : w.connector.registry.max ≤ w.connector.registry.size)

def refusal (r : Registry) : Job := .over (.error (.registry (.limitReached r.size r.max)))

include h

theorem exec_place_refused (e : Option SessionId → Edit PaneId) :
    exec (Workspace.place (some target) e) ⟨w, []⟩ =
      (.error (refusal w.connector.registry), ⟨w, []⟩) := by
  have hcreate : w.connector.registry.create target =
      .error (.limitReached w.connector.registry.size w.connector.registry.max) := by
    rw [Registry.create, if_neg (Nat.not_lt.2 h)]
  simp only [Workspace.place, Workspace.newSession, create, exec_bind, exec_onConnector,
    TurnM.exec_bind, TurnM.exec_connector, hcreate]
  rfl

/-- A request that the registry refuses is over at once and changes nothing. -/
theorem exec_run_refused {r : Request} (hr : r.target? = some target) :
    exec r.run ⟨w, []⟩ = (refusal w.connector.registry, ⟨w, []⟩) := by
  cases r with
  | createRoot target =>
    cases hr
    simp only [Request.run, Workspace.createRoot, exec_bind, exec_place_refused w h]
    rfl
  | split pane o target =>
    cases hr
    simp only [Request.run, Workspace.split, exec_bind, exec_place_refused w h]
    rfl
  | splitAndConnect pane o target token =>
    simp only [Request.run, Workspace.splitAndConnect, exec_bind, exec_place_refused w h]
    rfl
  | openTab target =>
    simp only [Request.run, Workspace.openTab, Workspace.addTab, exec_bind, exec_place_refused w h]
    rfl
  | openTabAndConnect target token =>
    simp only [Request.run, Workspace.openTabAndConnect, Workspace.addTab, exec_bind,
      exec_place_refused w h]
    rfl
  | _ => cases hr

end Refused

/-- The sessions that are registered are those that some leaf shows, once no job has a session to
give up; until then one that is shown no more is owed by exactly one job. A request that the
registry refuses changes nothing. -/
theorem registered_iff_shown (splitRatio : Binary64) (nextId : Nat) (settings : LayoutSettings)
    (es : List Event) :
    let s := (start splitRatio nextId settings).run es
    let registry := s.workspace.connector.registry
    let shown := s.workspace.layout.sessions
    ((∀ j ∈ s.jobs, j.Settled) → ∀ id, registry.contains id = true ↔ id ∈ shown) ∧
      (∀ id, registry.contains id = true ↔ id ∈ shown ∨ id ∈ owed s.jobs) ∧
      (∀ id ∈ owed s.jobs, id ∉ shown) ∧ (owed s.jobs).Nodup ∧
      ∀ r target, r.target? = some target → registry.max ≤ registry.size →
        s.step (.request r) = { s with jobs := s.jobs ++ [refusal registry] } := by
  intro s registry shown
  have hstart : (start splitRatio nextId settings).workspace.Balanced (owed []) :=
    ⟨Layout.planned_empty _ _, by simp [start, Registry.contains_iff],
      by simp [start, Registry.contains_iff, owed, Layout.sessions], List.nodup_nil, by simp [owed]⟩
  obtain ⟨hbalanced, htame⟩ :=
    balanced_invariant.run (fun _ => trivial) ⟨hstart, by simp [start]⟩ es
  refine ⟨fun hsettled id => ?_, hbalanced.registered, hbalanced.apart, hbalanced.once, ?_⟩
  · rw [hbalanced.registered, owed_of_settled hsettled htame]
    simp [shown, s]
  · intro r target hr hfull
    simp only [step, exec_run_refused s.workspace hfull hr]
    simp [turned, registry]

end System

end Multiplexer
