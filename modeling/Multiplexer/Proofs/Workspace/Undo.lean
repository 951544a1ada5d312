import Multiplexer.Proofs.Layout.Retraction
import Multiplexer.Proofs.Workspace.Edits
import Multiplexer.Proofs.Workspace.Reserved
import Multiplexer.Proofs.Workspace.Sessions

/-!
# Calls that are undone

A call opens a pane for a new session and connects it. While it is under way
nothing else is asked of the workspace, but the tasks of the connector go on and
others use it. A call that fails to connect its session leaves no trace: not of
the pane, not of the session, and not in what is kept for any other session.
-/

namespace Multiplexer

open WorkspaceM

def Request.connects : Request → Bool
  | .splitAndConnect .. | .openTabAndConnect .. => true
  | _ => false

/-- A registered session is found. -/
theorem Registry.require_of_contains {r : Registry} {id : SessionId} (h : r.contains id = true) :
    ∃ session, r.require id = .ok session ∧ session.id = id := by
  obtain ⟨session, hsession⟩ := Option.isSome_iff_exists.1 h
  refine ⟨session, ?_, by simpa using List.find?_some hsession⟩
  unfold require
  rw [hsession]

/-- A job that is no failure to connect, and will not come to one. -/
def Job.Spared : Job → Prop
  | .opening _ (.attempt _ stage) => stage.unmade = false
  | .undoing (.connect _) _ | .over (.error (.connect _)) => False
  | .undoing _ _ | .over _ => True
  | _ => False

theorem Job.spared_undo {e : WorkspaceError} (he : ∀ x, e ≠ .connect x) (t : Task) :
    (Job.undo e t).Spared := by
  cases e with
  | connect x => exact absurd rfl (he x)
  | _ => cases t <;> exact trivial

/-- A call that cannot fail to connect never comes to it. -/
theorem Job.Spared.resume {job : Job} (h : job.Spared) (s : Signal) (w : Workspace) :
    (exec (job.resume s) ⟨w, []⟩).1.Spared := by
  cases job with
  | opening pane t =>
    cases t with
    | attempt a stage =>
      obtain ⟨t', c', new, hexec, hmove⟩ :=
        (Task.attempt a stage).moves_resume s ⟨w.connector, []⟩
      simp only [Job.resume, exec_bind, exec_onConnector, hexec]
      rcases hmove.made h with ⟨stage', rfl, hstage'⟩ | rfl
      · exact hstage'
      · exact trivial
    | _ => cases h
  | undoing e t =>
    refine Job.spared_undo (fun x he => ?_) _
    subst he
    cases h
  | «over» r => exact h
  | _ => cases h

namespace Workspace

structure Lacks (w : Workspace) (id : SessionId) : Prop where
  planned : w.layout.Planned
  hidden : id ∉ w.layout.sessions
  unknown : w.connector.registry.contains id = false

structure Opened (w₀ : Workspace) (pane : PaneId) (id : SessionId) (w : Workspace) : Prop where
  layout : w₀.layout.Opens pane id w.layout
  registered : ∀ i, w.connector.registry.contains i = true ↔
    w₀.connector.registry.contains i = true ∨ i = id
  bare : w.connector.Bare id

structure Undone (w₀ : Workspace) (pane : PaneId) (id : SessionId) (w : Workspace) : Prop where
  layout : w₀.layout.Restores pane w.layout
  registered : ∀ i, w.connector.registry.contains i = true ↔
    w₀.connector.registry.contains i = true
  bare : w.connector.Bare id

/-- How far a call has come that has made no connection. -/
inductive Calls (w₀ : Workspace) (pane : PaneId) (id : SessionId) (w : Workspace) : Job → Prop where
  | trying (a : Attempt) (stage : AttemptStage) : a.session.id = id → stage.unmade = true →
    w₀.Opened pane id w → Calls w₀ pane id w (.opening pane (.attempt a stage))
  | undone (e : ConnectError) : w₀.Undone pane id w →
    Calls w₀ pane id w (.over (.error (.connect e)))

/-- What a turn of such a call comes to: it starts nothing, and nothing has changed that is kept for
other sessions. -/
structure Proceeds (w₀ : Workspace) (pane : PaneId) (id : SessionId) (w : Workspace)
    (x : Job × WorkspaceTurn) : Prop where
  calls : w₀.Calls pane id x.2.workspace x.1
  same : w.connector.SameBut id x.2.workspace.connector
  started : x.2.started = []

variable {w₀ w w' : Workspace} {pane : PaneId} {id : SessionId}

/-- The connector works on for other sessions while a pane is open. -/
theorem Opened.reconnector (h : w₀.Opened pane id w) {c : Connector}
    (hregistry : ∀ i, c.registry.contains i = w.connector.registry.contains i)
    (hbare : c.Bare id) : w₀.Opened pane id { w with connector := c } :=
  ⟨h.layout, fun i => by rw [hregistry, h.registered], hbare⟩

theorem Calls.reconnector {job : Job} (h : w₀.Calls pane id w job) {c : Connector}
    (hregistry : ∀ i, c.registry.contains i = w.connector.registry.contains i)
    (hbare : c.Bare id) : w₀.Calls pane id { w with connector := c } job := by
  cases h with
  | trying a stage ha hstage hopened =>
    exact .trying a stage ha hstage (hopened.reconnector hregistry hbare)
  | undone e h =>
    exact .undone e ⟨h.layout, fun i => by rw [hregistry, h.registered], hbare⟩

/-- The session of such a call holds nothing. -/
theorem Calls.bare {job : Job} (h : w₀.Calls pane id w job) : w.connector.Bare id := by
  cases h with
  | trying _ _ _ _ h => exact h.bare
  | undone _ h => exact h.bare

section Turn

variable (hnew : w₀.Lacks id)

include hnew

/-- When the pane is closed again the session is forgotten in the same turn. -/
theorem Opened.exec_retract (h : w₀.Opened pane id w) (e : WorkspaceError) :
    ∃ w', exec (Job.retract pane e) ⟨w, []⟩ = (.over (.error e), ⟨w', []⟩) ∧
      w₀.Undone pane id w' ∧ w.connector.SameBut id w'.connector := by
  obtain ⟨layout, told, hrun, hrestores⟩ := h.layout.close_restores hnew.planned hnew.hidden
  have hregistered : w.connector.registry.contains id = true := (h.registered id).2 (.inr rfl)
  have hdestroy := Connector.Bare.exec_destroy (u := ⟨w.connector, []⟩) h.bare hregistered
  let c : Connector := { w.connector with registry := (w.connector.registry.remove id).2 }
  refine ⟨{ w with layout, connector := c, notices := w.notices ++ told }, ?_,
    ⟨hrestores, fun i => ?_, h.bare.of_slot rfl h.bare.entry⟩, fun _ _ => rfl, rfl⟩
  · simp only [Job.retract, exec_bind, exec_edit, hrun, Job.giveUp, Bool.false_eq_true, if_false,
      exec_onConnector, hdestroy]
    rfl
  · show (w.connector.registry.remove id).2.contains i = true ↔ _
    rw [Registry.contains_remove, h.registered]
    constructor
    · rintro ⟨hi | hi, hne⟩
      · exact hi
      · exact absurd hi hne
    · rintro hi
      refine ⟨.inl hi, ?_⟩
      rintro rfl
      rw [hnew.unknown] at hi
      cases hi

/-- A turn of the attempt that a call makes. -/
theorem Opened.proceeds (h : w₀.Opened pane id w) {a : Attempt} {stage : AttemptStage}
    (ha : a.session.id = id) (hstage : stage.unmade = true) {s : Signal} {t' : Task}
    {c' : Connector} {new : List Task} (hmove : Move w.connector (.attempt a stage) s t' c' new) :
    let x := exec (Job.opened pane t') ⟨{ w with connector := c' }, new⟩
    x.1.Spared ∨ w₀.Proceeds pane id w x ∧
      ((∀ e, stage ≠ .notingFailure e) → w₀.Opened pane id x.2.workspace) := by
  subst ha
  rcases hmove.unmade hstage h.bare with
    ⟨connection, rfl⟩ | ⟨hbare, hsame, hregistry, rfl, ⟨stage', rfl, hstage'⟩ | ⟨e, rfl, rfl⟩⟩
  · exact .inl rfl
  · have hopened := h.reconnector (c := c') (fun i => by rw [hregistry]) hbare
    exact .inr ⟨⟨.trying a stage' rfl hstage' hopened, hsame, rfl⟩, fun _ => hopened⟩
  · have hopened := h.reconnector (c := c') (fun i => by rw [hregistry]) hbare
    obtain ⟨w', hexec, hundone, hsame'⟩ :=
      hopened.exec_retract hnew (.connect e)
    have hover : exec (Job.opened pane (.over (.error e))) ⟨{ w with connector := c' }, []⟩ =
        (.over (.error (.connect e)), ⟨w', []⟩) := hexec
    rw [hover]
    exact .inr ⟨⟨.undone e hundone, hsame.trans hsame', rfl⟩, fun hnot => absurd rfl (hnot e)⟩

/-- A turn of a call that has made no connection. -/
theorem Calls.resume {job : Job} (h : w₀.Calls pane id w job) (s : Signal) :
    let x := exec (job.resume s) ⟨w, []⟩
    x.1.Spared ∨ w₀.Proceeds pane id w x := by
  cases h with
  | trying a stage ha hstage h =>
    obtain ⟨t', c', new, hexec, hmove⟩ :=
      (Task.attempt a stage).moves_resume s ⟨w.connector, []⟩
    simp only [Job.resume, exec_bind, exec_onConnector, hexec, List.nil_append]
    exact (h.proceeds hnew ha hstage hmove).imp_right And.left
  | undone e h => exact .inr ⟨.undone e h, .refl _ _, rfl⟩

end Turn

section Request

variable {target : SessionTarget} {session : Session} {r : Registry}

/-- A session that has just been created begins its attempt. -/
theorem connectNew_proceeds (hreserved : w.connector.Reserved) (hnew : w.Lacks session.id)
    (hcreate : w.connector.registry.create target = .ok (session, r)) {layout : Layout}
    {notices : List Notice} (hopens : w.layout.Opens pane session.id layout) (token : Token) :
    let w' : Workspace :=
      { w with layout, connector := { w.connector with registry := r }, notices }
    let x := exec (connectNew pane token) ⟨w', []⟩
    x.1.Spared ∨ w.Proceeds pane session.id w x ∧ w.Opened pane session.id x.2.workspace := by
  intro w'
  obtain ⟨hid, -, hcontains⟩ := w.connector.registry.create_ok hcreate
  have hle : w.connector.registry.nextId ≤ session.id.value := Nat.le_of_eq (by rw [hid])
  obtain ⟨found, hfound, hsame⟩ := Registry.require_of_contains ((hcontains _).2 (.inr hid))
  obtain ⟨l, hl, hsession⟩ := hopens.shown
  have hfor : w'.sessionFor pane = .ok found := by
    simp only [sessionFor, w', hl, hsession, hfound]
    rfl
  have hidle : (w'.connector.slot found.id).state ≠ .connecting := by
    have hslot : w'.connector.slot session.id = {} := hreserved.slot session.id hle
    rw [hsame, hslot]
    exact SessionState.noConfusion
  obtain ⟨t', c', new, hexec, hmove⟩ :=
    Connector.moves_connect found token ⟨w'.connector, []⟩ hidle
  have hrun : exec (connectNew pane token) ⟨w', []⟩ =
      exec (Job.opened pane t') ⟨{ w' with connector := c' }, new⟩ := by
    simp only [connectNew, attempt, exec_bind, exec_workspace, hfor, exec_onConnector, hexec,
      exec_pure, List.nil_append]
  obtain ⟨hbare, hbegun⟩ :=
    Connector.Bare.begun (c := w'.connector) (hreserved.entry session.id hle)
  have hregistry : (w'.connector.begun session.id).registry = r :=
    (w'.connector.setState session.id .connecting).registry_released session.id
  have hopened : w.Opened pane session.id
      { w' with connector := w'.connector.begun session.id } := by
    refine ⟨hopens, fun i => ?_, hbare⟩
    show (w'.connector.begun session.id).registry.contains i = true ↔ _
    rw [hregistry, hcontains, hid]
  rw [hsame] at hmove
  rw [hrun]
  refine (hopened.proceeds hnew hsame rfl hmove).imp_right ?_
  rintro ⟨h, hstill⟩
  have hkept : w.connector.SameBut session.id w'.connector := ⟨fun _ _ => rfl, rfl⟩
  exact ⟨⟨h.calls, (hkept.trans hbegun).trans h.same, h.started⟩, hstill fun _ he => by cases he⟩

/-- What comes of a pane that is to show a new session. -/
theorem exec_place (target : SessionTarget) (e : Option SessionId → Edit PaneId) :
    let x := exec (place (some target) e) ⟨w, []⟩
    (∃ job, x.1 = .error job ∧ job.Spared) ∨
      ∃ session r pane layout told, w.connector.registry.create target = .ok (session, r) ∧
        w.layout.run (e (some session.id)) = (.ok pane, layout, told) ∧
        x = (.ok pane, ⟨{ w with
          layout, connector := { w.connector with registry := r }, notices := w.notices ++ told },
          []⟩) := by
  cases hcreate : w.connector.registry.create target with
  | error x =>
    refine .inl ⟨.over (.error (.registry x)), ?_, trivial⟩
    simp only [place, newSession, create, exec_bind, exec_onConnector, TurnM.exec_bind,
      TurnM.exec_connector, hcreate]
    rfl
  | ok made =>
    obtain ⟨session, r⟩ := made
    cases hrun : w.layout.run (e (some session.id)) with
    | mk result edited =>
      obtain ⟨layout, told⟩ := edited
      cases result with
      | error x =>
        refine .inl ⟨_, ?_, Job.spared_undo (e := .layout x) (fun _ he => by cases he)
          (TurnM.exec (Connector.destroy session.id)
            ⟨{ w.connector with registry := r }, []⟩).1⟩
        simp only [place, newSession, create, exec_bind, exec_onConnector, TurnM.exec_bind,
          TurnM.exec_connector, hcreate, TurnM.exec_update, TurnM.exec_pure, exec_pure, exec_edit,
          Option.map_some, hrun, discardSession]
      | ok pane =>
        refine .inr ⟨session, r, pane, layout, told, rfl, hrun, ?_⟩
        simp only [place, newSession, create, exec_bind, exec_onConnector, TurnM.exec_bind,
          TurnM.exec_connector, hcreate, TurnM.exec_update, TurnM.exec_pure, exec_pure, exec_edit,
          Option.map_some, hrun]

/-- A pane has been placed for a session that was just created, or there is nothing to be connected.
-/
def Places (w : Workspace) (x : Except Job PaneId × WorkspaceTurn) : Prop :=
  (∃ job, x.1 = .error job ∧ job.Spared) ∨
    ∃ target session r pane layout notices,
      w.connector.registry.create target = .ok (session, r) ∧
      w.layout.Opens pane session.id layout ∧
      x = (.ok pane,
        ⟨{ w with layout, connector := { w.connector with registry := r }, notices }, []⟩)

theorem places_place (target : SessionTarget) (e : Option SessionId → Edit PaneId)
    (hopens : ∀ session pane layout told,
      w.layout.run (e (some session)) = (.ok pane, layout, told) →
        w.layout.Opens pane session layout) :
    w.Places (exec (place (some target) e) ⟨w, []⟩) := by
  rcases exec_place (w := w) target e with hspared |
    ⟨session, r, pane, layout, told, hcreate, hrun, hplace⟩
  · exact .inl hspared
  · exact .inr ⟨target, session, r, pane, layout, w.notices ++ told, hcreate,
      hopens _ _ _ _ hrun, hplace⟩

/-- What has been placed is connected. -/
theorem Places.proceeds {m : WorkspaceM (Except Job PaneId)} (h : w.Places (exec m ⟨w, []⟩))
    (hreserved : w.connector.Reserved) (hnew : w.Lacks ⟨w.connector.registry.nextId⟩)
    (token : Token) :
    let x := exec (do
      match ← m with
      | .ok pane => connectNew pane token
      | .error job => return job) ⟨w, []⟩
    let id : SessionId := ⟨w.connector.registry.nextId⟩
    x.1.Spared ∨ ∃ pane, w.Proceeds pane id w x ∧ w.Opened pane id x.2.workspace := by
  rcases h with ⟨job, hplace, hspared⟩ |
    ⟨target, session, r, pane, layout, notices, hcreate, hopens, hplace⟩
  · simp only [exec_bind, hplace]
    exact .inl hspared
  · obtain ⟨hid, -⟩ := w.connector.registry.create_ok hcreate
    simp only [exec_bind, hplace]
    rw [← hid] at hnew ⊢
    exact (connectNew_proceeds hreserved hnew hcreate hopens token).imp_right fun h => ⟨pane, h⟩

/-- The turn in which a call is asked for. -/
theorem request_proceeds (hreserved : w.connector.Reserved) {σ : Scene}
    (hpresents : w.layout.Presents σ) (hheaded : σ.plan.Headed)
    (hnew : w.Lacks ⟨w.connector.registry.nextId⟩) {request : Request}
    (hconnects : request.connects = true) :
    let x := exec request.run ⟨w, []⟩
    let id : SessionId := ⟨w.connector.registry.nextId⟩
    x.1.Spared ∨ ∃ pane, w.Proceeds pane id w x ∧ w.Opened pane id x.2.workspace := by
  cases request with
  | splitAndConnect pane o target token =>
    have hplaces : w.Places (exec (place (some target) (Layout.split pane o)) ⟨w, []⟩) :=
      places_place target _ fun _ _ _ _ hrun => Layout.split_opens hpresents hrun
    exact hplaces.proceeds hreserved hnew token
  | openTabAndConnect target token =>
    have hplaces : w.Places (exec (addTab target) ⟨w, []⟩) :=
      places_place target _ fun _ _ _ _ hrun => Layout.createTab_opens hpresents hheaded hrun
    exact hplaces.proceeds hreserved hnew token
  | _ => cases hconnects

end Request

end Workspace

/-- A task that gives up no session, and does nothing for a given one as long as that holds
nothing. -/
structure Task.Apart (t : Task) (id : SessionId) : Prop where
  keeps : t.givesUp = []
  serves : t.serves = some id → t.Fresh

/-- A task as others start it is apart from every session. -/
theorem Task.Fresh.apart {t : Task} (h : t.Fresh) (id : SessionId) : t.Apart id :=
  ⟨givesUp_of_idle h.mode, fun _ => h⟩

/-- The turn of a task that is apart from a session. -/
theorem Task.Apart.resume {t : Task} {id : SessionId} (h : t.Apart id) {w : Workspace}
    (hbare : w.connector.Bare id) (s : Signal) :
    let x := exec ((Job.task t).resume s) ⟨w, []⟩
    ∃ c new, x.2 = ⟨{ w with connector := c }, new⟩ ∧ c.Bare id ∧
      c.registry = w.connector.registry ∧ (∀ u, x.1 = .task u → u.Apart id) ∧
      ∀ u ∈ new, u.Apart id := by
  have hturned := t.resume_turned ⟨w.connector, []⟩ s
  obtain ⟨t', c', new, hexec, hmove⟩ := t.moves_resume s ⟨w.connector, []⟩
  rw [hexec] at hturned
  have hregistry : c'.registry = w.connector.registry := by
    rcases hturned.registry with ⟨-, hregistry⟩ | ⟨i, hi, -⟩
    · exact hregistry
    · have hgives := Task.givesUp_of_mode ((hi i).2 rfl)
      rw [h.keeps] at hgives
      cases hgives
  obtain ⟨hbare', hserves⟩ := hmove.bare h.serves hbare
  have hapart : t'.Apart id := ⟨hturned.givesUp_nil h.keeps, hserves⟩
  simp only [Job.resume, exec_bind, exec_onConnector, hexec, List.nil_append]
  refine ⟨c', new, ?_, hbare', hregistry, fun u hu => ?_, fun u hu => (hmove.fresh u hu).apart id⟩
  · cases t' <;> rfl
  · cases t' with
    | «over» r => cases hu
    | _ => exact Job.task.inj hu ▸ hapart

namespace System

/-- What may happen while the `k`-th job is a call that has created a session. The call has the
workspace to itself, but the connector works on for other sessions, and others may use it. -/
def During (k : Nat) (id : SessionId) (s : System) : Event → Prop
  | .request _ => False
  | .resume n _ => n = k ∨ ∀ job, s.jobs[n]? = some job → ∃ t, job = .task t
  | .outside c => c.reopener.registered.lookup id = none

theorem step_resume {s : System} {n : Nat} {job : Job} (h : s.jobs[n]? = some job)
    (signal : Signal) :
    let x := exec (job.resume signal) ⟨s.workspace, []⟩
    s.step (.resume n signal) =
      ⟨x.2.workspace, s.jobs.set n x.1 ++ x.2.started.map .task⟩ := by
  have hn : n < s.jobs.length := (List.getElem?_eq_some_iff.1 h).1
  simp only [step, h, turned, List.set_eq_take_append_cons_drop, if_pos hn]

/-- Jobs keep their places. -/
theorem job_at {s : System} {k : Nat} {job : Job} (h : s.jobs[k]? = some job) (n : Nat) (x : Job)
    (new : List Job) : (s.jobs.set n x ++ new)[k]? = some (if n = k then x else job) := by
  have hk : k < s.jobs.length := (List.getElem?_eq_some_iff.1 h).1
  rw [List.getElem?_append_left (by simpa using hk)]
  by_cases hn : n = k
  · rw [if_pos hn, hn, List.getElem?_set_self hk]
  · rw [if_neg hn, List.getElem?_set_ne hn, h]

/-- The `k`-th job is a call that has made no connection, and no task interferes with it. -/
structure Calling (w₀ : Workspace) (pane : PaneId) (id : SessionId) (k : Nat) (s : System) :
    Prop where
  call : ∃ job, s.jobs[k]? = some job ∧ w₀.Calls pane id s.workspace job
  others : ∀ t : Task, .task t ∈ s.jobs → t.Apart id

def Spared (k : Nat) (s : System) : Prop := ∃ job, s.jobs[k]? = some job ∧ job.Spared

section During

variable {w₀ : Workspace} {pane : PaneId} {id : SessionId} {k : Nat} {s : System}

/-- A call that cannot fail to connect never comes to it, whatever happens. -/
theorem Spared.step (h : s.Spared k) {e : Event} (he : During k id s e) : (s.step e).Spared k := by
  obtain ⟨job, hjob, hspared⟩ := h
  cases e with
  | request => cases he
  | outside c => exact ⟨job, hjob, hspared⟩
  | resume n signal =>
    cases hn : s.jobs[n]? with
    | none =>
      simp only [System.step, hn]
      exact ⟨job, hjob, hspared⟩
    | some other =>
      rw [step_resume hn]
      refine ⟨_, job_at hjob n _ _, ?_⟩
      split
      · rename_i hnk
        subst hnk
        obtain rfl := Option.some.inj (hn.symm.trans hjob)
        exact hspared.resume signal s.workspace
      · exact hspared

theorem Spared.run (h : s.Spared k) {es : List Event} (hes : s.Along (During k id) es) :
    (s.run es).Spared k :=
  hes.preserves (fun _ _ hs he => hs.step he) h

/-- Tasks that are apart from a session stay so, and so do those that are started. -/
theorem apart_resume (h : ∀ t : Task, .task t ∈ s.jobs → t.Apart id) {n : Nat} {job : Job}
    {new : List Task} (hjob : ∀ t, job = .task t → t.Apart id) (hnew : ∀ t ∈ new, t.Apart id)
    (t : Task) (ht : .task t ∈ s.jobs.set n job ++ new.map .task) : t.Apart id := by
  rcases List.mem_append.1 ht with hmem | hmem
  · rcases List.mem_or_eq_of_mem_set hmem with hmem | heq
    · exact h t hmem
    · exact hjob t heq.symm
  · obtain ⟨u, hu, heq⟩ := List.mem_map.1 hmem
    exact Job.task.inj heq ▸ hnew u hu

/-- A turn of a task that goes on beside the call. -/
theorem Calling.beside (h : s.Calling w₀ pane id k) {n : Nat} (hn : n ≠ k) {t : Task}
    (ht : s.jobs[n]? = some (.task t)) (signal : Signal) :
    (s.step (.resume n signal)).Calling w₀ pane id k := by
  obtain ⟨⟨job, hjob, hcalls⟩, hothers⟩ := h
  obtain ⟨c, new, hleft, hbare, hregistry, hgoes, hnew⟩ :=
    (hothers t (List.mem_of_getElem? ht)).resume hcalls.bare signal
  rw [step_resume ht, hleft]
  exact ⟨⟨job, (job_at hjob n _ _).trans (congrArg some (if_neg hn)),
    hcalls.reconnector (fun i => by rw [hregistry]) hbare⟩, apart_resume hothers hgoes hnew⟩

section Calling

variable (hnew : w₀.Lacks id)

include hnew

/-- A turn of the call itself. -/
theorem Calling.resume (h : s.Calling w₀ pane id k) (signal : Signal) :
    let s' := s.step (.resume k signal)
    s'.Spared k ∨ s'.Calling w₀ pane id k ∧
      s.workspace.connector.SameBut id s'.workspace.connector ∧
      s'.jobs.length = s.jobs.length := by
  obtain ⟨⟨job, hjob, hcalls⟩, hothers⟩ := h
  rw [step_resume hjob]
  have hself := fun x new => (job_at hjob k x new).trans (congrArg some (if_pos rfl))
  rcases hcalls.resume hnew signal with hspared | hproceeds
  · exact .inl ⟨_, hself _ _, hspared⟩
  · refine .inr ⟨⟨⟨_, hself _ _, hproceeds.calls⟩, ?_⟩, hproceeds.same, ?_⟩
    · refine apart_resume hothers (fun t ht => ?_) (by simp [hproceeds.started])
      have hcall := hproceeds.calls
      rw [ht] at hcall
      cases hcall
    · simp [hproceeds.started]

/-- After every event a call can fail to connect no more, or it has made no connection yet. -/
theorem Calling.step (h : s.Calling w₀ pane id k) {e : Event} (he : During k id s e) :
    (s.step e).Spared k ∨ (s.step e).Calling w₀ pane id k := by
  cases e with
  | request => cases he
  | outside c =>
    obtain ⟨⟨job, hjob, hcalls⟩, hothers⟩ := h
    have hbare : (s.workspace.connector.amid c).Bare id :=
      hcalls.bare.of_slot (s.workspace.connector.slot_amid id c) he
    exact .inr ⟨⟨job, hjob, hcalls.reconnector (fun _ => rfl) hbare⟩, hothers⟩
  | resume n signal =>
    cases hjob : s.jobs[n]? with
    | none =>
      simp only [System.step, hjob]
      exact .inr h
    | some job =>
      by_cases hn : n = k
      · subst hn
        exact (h.resume hnew signal).imp_right And.left
      · obtain ⟨t, rfl⟩ := he.resolve_left hn job hjob
        exact .inr (h.beside hn hjob signal)

/-- Whatever happens during a call, either it can fail to connect no more, or it has made no
connection yet. -/
theorem Calling.run (h : s.Calling w₀ pane id k) {es : List Event} (hes : s.Along (During k id) es) :
    (s.run es).Spared k ∨ (s.run es).Calling w₀ pane id k :=
  hes.preserves (I := fun s => s.Spared k ∨ s.Calling w₀ pane id k) (fun s e hs he => by
    rcases hs with hs | hs
    · exact .inl (hs.step he)
    · exact hs.step hnew he) (.inr h)

end Calling

end During

/-- A layout that a workspace comes to is a scene where every session has one primary leaf. -/
theorem presents_of_run (splitRatio : Binary64) (nextId : Nat) (settings : LayoutSettings)
    (es : List Event) :
    ∃ σ, ((start splitRatio nextId settings).run es).workspace.layout.Presents σ ∧
      σ.plan.Headed := by
  obtain ⟨ops, hops⟩ := (start splitRatio nextId settings).layout_run es
  rw [hops]
  exact Layout.presents_of_operations (P := fun σ => σ.plan.Headed) Plan.headed_empty
    (fun _ _ _ _ hheaded hstep => hstep.headed hheaded) splitRatio nextId ops

/-- The balance holds after every run. -/
theorem balanced_run (splitRatio : Binary64) (nextId : Nat) (settings : LayoutSettings)
    (es : List Event) :
    let s := (start splitRatio nextId settings).run es
    s.workspace.Balanced (owed s.jobs) ∧ ∀ j ∈ s.jobs, j.Tame := by
  have hempty : (start splitRatio nextId settings).workspace.Balanced (owed []) :=
    ⟨Layout.planned_empty _ _, by simp [start, Registry.contains_iff],
      by simp [start, Registry.contains_iff, owed, Layout.sessions], List.nodup_nil, by simp [owed]⟩
  exact balanced_invariant.run (fun _ => trivial) ⟨hempty, by simp [start]⟩ es

/-- No task has to do with a session that is still to come. -/
theorem Reserved.apart {s : System} (h : s.Reserved) (htame : ∀ j ∈ s.jobs, j.Tame) (t : Task)
    (ht : .task t ∈ s.jobs) : t.Apart ⟨s.workspace.connector.registry.nextId⟩ :=
  ⟨htame _ ht, fun hserves => (h.jobs _ ht _ hserves).resolve_left (Nat.lt_irrefl _)⟩

/-- A call that fails to connect its session, however it fails and whatever goes on meanwhile, leaves
the sessions that are shown and those that are registered as they were. Its pane is gone, its
session holds nothing, and each other leaf of before is there, but for redundant views of sessions
that are shown still. None of the turns of the call starts a task or changes what is kept for any
other session. -/
theorem failed_call_undone (splitRatio : Binary64) (nextId : Nat) (settings : LayoutSettings)
    (es : List Event) (hfair : (start splitRatio nextId settings).Along Fair es) (r : Request)
    (hconnects : r.connects = true) (meanwhile : List Event) (e : ConnectError) :
    let s := (start splitRatio nextId settings).run es
    let k := s.jobs.length
    let new : SessionId := ⟨s.workspace.connector.registry.nextId⟩
    let asked := s.step (.request r)
    let ended := asked.run meanwhile
    asked.Along (During k new) meanwhile →
    ended.jobs[k]? = some (.over (.error (.connect e))) →
    (∃ pane, s.workspace.layout.Opens pane new asked.workspace.layout ∧
      s.workspace.Undone pane new ended.workspace) ∧
    (s.workspace.connector.SameBut new asked.workspace.connector ∧
      asked.jobs.length = s.jobs.length + 1) ∧
    ∀ before signal after, meanwhile = before ++ .resume k signal :: after →
      let u := asked.run before
      let v := u.step (.resume k signal)
      u.workspace.connector.SameBut new v.workspace.connector ∧ v.jobs.length = u.jobs.length := by
  intro s k new asked ended hduring hended
  obtain ⟨σ, hpresents, hheaded⟩ := presents_of_run splitRatio nextId settings es
  have hreserved : s.Reserved := (start_reserved splitRatio nextId settings).run hfair
  obtain ⟨hbalanced, htame⟩ := balanced_run splitRatio nextId settings es
  have hlacks : s.workspace.Lacks new := by
    have hunknown : s.workspace.connector.registry.contains new ≠ true := fun hcontains =>
      Nat.lt_irrefl _ (hbalanced.issued new hcontains)
    exact ⟨hbalanced.planned, fun hshown => hunknown ((hbalanced.registered new).2 (.inl hshown)),
      by simpa using hunknown⟩
  have hnever : ¬ended.Spared k := by
    rintro ⟨job, hjob, hspared⟩
    obtain rfl := Option.some.inj (hended.symm.trans hjob)
    exact hspared
  have hself : asked.jobs[k]? = some (exec r.run ⟨s.workspace, []⟩).1 := by
    simp [asked, System.step, turned, k]
  rcases Workspace.request_proceeds hreserved.connector hpresents hheaded hlacks hconnects with
    hspared | ⟨pane, hproceeds, hopened⟩
  · exact absurd (Spared.run ⟨_, hself, hspared⟩ hduring) hnever
  have hjobs : asked.jobs = s.jobs ++ [(exec r.run ⟨s.workspace, []⟩).1] := by
    simp [asked, System.step, turned, hproceeds.started]
  have hcalling : asked.Calling s.workspace pane new k := by
    refine ⟨⟨_, hself, hproceeds.calls⟩, fun t ht => ?_⟩
    rw [hjobs] at ht
    rcases List.mem_append.1 ht with hmem | hmem
    · exact hreserved.apart htame t hmem
    · have hcalls := hproceeds.calls
      rw [← List.mem_singleton.1 hmem] at hcalls
      cases hcalls
  refine ⟨⟨pane, hopened.layout, ?_⟩, ⟨hproceeds.same, by simp [hjobs]⟩, ?_⟩
  · obtain ⟨⟨job, hjob, hcalls⟩, -⟩ :=
      (hcalling.run hlacks hduring).resolve_left hnever
    obtain rfl := Option.some.inj (hended.symm.trans hjob)
    cases hcalls with
    | undone _ hundone => exact hundone
  · rintro before signal after rfl u v
    obtain ⟨hbefore, hrest⟩ := along_append.1 hduring
    have hend : ended = u.run (.resume k signal :: after) := run_append _ _ _
    rw [hend] at hnever
    have hat : u.Calling s.workspace pane new k :=
      (hcalling.run hlacks hbefore).resolve_left fun h => hnever (h.run hrest)
    exact ((hat.resume hlacks signal).resolve_left fun h =>
      hnever (h.run hrest.2)).2

def deadLine : SessionTarget := .serial { device := "/dev/ttyUSB0", baudRate := 9600 }

def mirrored : List Event :=
  [.request (.createRoot (some deadLine)), .request (.mirror ⟨1⟩ .horizontal)]

/-- A tab is opened for a line that cannot be opened. The tree turns into tabs, and the second view
of the other session is gone for good. -/
theorem dead_line_undone :
    let s := (start .half 1 {}).run mirrored
    let asked := s.step (.request (.openTabAndConnect deadLine ⟨0⟩))
    let refused : ConnectError := .transport "No such file or directory"
    let ended := asked.run [.resume 2 (.reply (.failed refused)), .resume 2 (.reply .done)]
    ended.jobs[2]? = some (.over (.error (.connect refused))) ∧
      (∃ pane, s.workspace.layout.Opens pane ⟨2⟩ asked.workspace.layout ∧
        s.workspace.Undone pane ⟨2⟩ ended.workspace) ∧
      s.workspace.layout.Has ⟨3⟩ (some ⟨1⟩) ∧ ended.workspace.layout.pane? ⟨3⟩ = none := by
  have hfair : (start .half 1 {}).Along Fair mirrored := ⟨trivial, trivial, trivial⟩
  have hundone := failed_call_undone .half 1 {} mirrored hfair (.openTabAndConnect deadLine ⟨0⟩) rfl
    [.resume 2 (.reply (.failed (.transport "No such file or directory"))),
      .resume 2 (.reply .done)] (.transport "No such file or directory")
  exact ⟨rfl, (hundone ⟨.inl rfl, .inl rfl, trivial⟩ rfl).1, ⟨_, rfl, rfl⟩, rfl⟩

end System

end Multiplexer
