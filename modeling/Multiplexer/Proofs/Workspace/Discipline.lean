import Multiplexer.Proofs.Workspace.Run

/-!
# Disciplines

What a workspace may rely on and has to keep up, whatever it is asked for. A
discipline is given by what the connector and the layout do to it; requests and
jobs are put together of these steps, and keep to every lawful discipline.
-/

namespace Multiplexer

open WorkspaceM

/-- The session that has lost its last pane. -/
def ClosedPane.orphans (c : ClosedPane) : List SessionId :=
  if c.stillDisplayed then [] else c.session.toList

/-- The session that is found for a pane is registered. -/
theorem Workspace.registered_of_sessionFor {w : Workspace} {pane : PaneId} {session : Session}
    (h : w.sessionFor pane = .ok session) :
    w.connector.registry.contains session.id = true := by
  unfold Workspace.sessionFor at h
  split at h
  · cases h
  · split at h
    · cases h
    · rename_i id _
      cases hget : w.connector.registry.get? id with
      | none =>
        rw [Registry.require, hget] at h
        cases h
      | some found =>
        rw [Registry.require, hget] at h
        obtain rfl : found = session := by injection h
        have hid : found.id = id := by simpa using List.find?_some hget
        rw [Registry.contains, hid, hget]
        rfl

def Shows (e : Option SessionId → Edit PaneId) : Prop :=
  ∀ (s : Layout) (session : Option SessionId), s.Planned →
    s.Transacts (e session) fun _ s' _ =>
      s'.Planned ∧ ∀ x, x ∈ s'.sessions ↔ x ∈ s.sessions ∨ session = some x

theorem shows_createTab : Shows fun
    | some id => Layout.createTab id
    | none => throw .emptyLayout := by
  rintro s (- | session) hs
  · exact .ofError (x := .emptyLayout) rfl
  · exact Layout.createTab_transacts hs session

def Spares {α : Type} (e : Edit α) : Prop :=
  ∀ s : Layout, s.Planned → s.Transacts e fun _ s' _ => s.SameSessions s'

structure Discipline where
  /-- No task is at work, and some sessions are still to be given up. -/
  rest : List SessionId → Workspace → Prop
  /-- A task gives up a session, and some others are to follow. -/
  giving : Task → List SessionId → Workspace → Prop
  /-- A task is at work that gives up no session. -/
  serving : Task → Workspace → Prop

namespace Discipline

structure Lawful (d : Discipline) : Prop where
  destroy : ∀ id ids, Leads (d.rest (id :: ids)) (onConnector (Connector.destroy id))
    fun t => d.giving t ids
  connect : ∀ session token,
    Leads (fun w => d.rest [] w ∧ w.connector.registry.contains session.id = true)
      (onConnector (Connector.connect session token)) d.serving
  create : ∀ target, Leads (d.rest []) (create target) fun r =>
    match r with
    | .ok s => d.rest [s.id]
    | .error _ => d.rest []
  giving_resume : ∀ t ids s, Leads (d.giving t ids) (onConnector (t.resume s))
    fun t => d.giving t ids
  serving_resume : ∀ t s, Leads (d.serving t) (onConnector (t.resume s)) d.serving
  giving_over : ∀ r ids w, d.giving (.over r) ids w ↔ d.rest ids w
  serving_over : ∀ r w, d.serving (.over r) w → d.rest [] w
  close : ∀ pane, Leads (d.rest []) (edit (Layout.close pane)) fun r =>
    match r with
    | .ok c => d.rest c.orphans
    | .error _ => d.rest []
  shows : ∀ {e}, Shows e → ∀ session, Leads (d.rest session.toList) (edit (e session)) fun r =>
    match r with
    | .ok _ => d.rest []
    | .error _ => d.rest session.toList
  spares : ∀ {α} {e : Edit α}, Spares e → Leads (d.rest []) (edit e) fun _ => d.rest []
  reset : ∀ (w : Workspace) notices, d.rest [] w → d.rest w.layout.sessions { w with
    layout := { splitRatio := w.layout.splitRatio, nextId := w.layout.nextId }, notices }

def holds (d : Discipline) : Job → Workspace → Prop
  | .task t | .opening _ t => d.serving t
  | .undoing _ t | .closing _ t => d.giving t []
  | .clearing rest t => d.giving t rest
  | .over _ => d.rest []

namespace Lawful

variable {d : Discipline} (h : d.Lawful)

include h

section Job

/-- A job that undoes a call keeps to a discipline. -/
theorem holds_undo (e : WorkspaceError) {t : Task} {w : Workspace} (hw : d.giving t [] w) :
    d.holds (Job.undo e t) w := by
  cases t with
  | «over» r => exact (h.giving_over r [] w).1 hw
  | _ => exact hw

theorem holds_close (c : ClosedPane) {t : Task} {w : Workspace} (hw : d.giving t [] w) :
    d.holds (Job.close c t) w := by
  cases t with
  | «over» r => exact (h.giving_over r [] w).1 hw
  | _ => exact hw

theorem giveUp (c : ClosedPane) :
    Leads (d.rest c.orphans) (Job.giveUp c) fun t => d.giving t [] := by
  unfold Job.giveUp ClosedPane.orphans
  cases c.session with
  | none =>
    rw [Option.toList_none, ite_self]
    exact .pure fun w hw => (h.giving_over _ [] w).2 hw
  | some id =>
    by_cases hstill : c.stillDisplayed = true
    · simp only [hstill, if_true]
      exact .pure fun w hw => (h.giving_over _ [] w).2 hw
    · simp only [hstill]
      exact h.destroy id []

/-- To close a pane again and give up its session keeps to a discipline. -/
theorem retract (pane : PaneId) (e : WorkspaceError) :
    Leads (d.rest []) (Job.retract pane e) d.holds := by
  refine (h.close pane).bind fun r => ?_
  cases r with
  | error x => exact .pure fun w hw => hw
  | ok c => exact (h.giveUp c).bind fun t => .pure fun w hw => h.holds_undo e hw

theorem opened (pane : PaneId) (t : Task) : Leads (d.serving t) (Job.opened pane t) d.holds := by
  cases t with
  | «over» r =>
    cases r with
    | ok u => exact .pure fun w hw => h.serving_over (.ok u) w hw
    | error e => exact (h.retract pane (.connect e)).of (h.serving_over (.error e))
  | _ => exact .pure fun w hw => hw

theorem clear (rest : List SessionId) (t : Task) :
    Leads (d.giving t rest) (Job.clear rest t) d.holds := by
  induction rest generalizing t with
  | nil =>
    unfold Job.clear
    cases t with
    | «over» r => exact .pure fun w hw => (h.giving_over r [] w).1 hw
    | _ => exact .pure fun w hw => hw
  | cons id rest ih =>
    unfold Job.clear
    cases t with
    | «over» r => exact ((h.destroy id rest).bind ih).of fun w hw => (h.giving_over r _ w).1 hw
    | _ => exact .pure fun w hw => hw

/-- A job keeps to a discipline, whatever ends its wait. -/
theorem resume (s : Signal) (job : Job) : Leads (d.holds job) (job.resume s) d.holds := by
  cases job with
  | task t =>
    refine (h.serving_resume t s).bind fun t => ?_
    cases t with
    | «over» r => exact .pure fun w hw => h.serving_over r w hw
    | _ => exact .pure fun w hw => hw
  | opening pane t => exact (h.serving_resume t s).bind fun t => h.opened pane t
  | undoing e t =>
    exact (h.giving_resume t [] s).bind fun t => .pure fun w hw => h.holds_undo e hw
  | closing c t =>
    exact (h.giving_resume t [] s).bind fun t => .pure fun w hw => h.holds_close c hw
  | clearing rest t => exact (h.giving_resume t rest s).bind fun t => h.clear rest t
  | «over» r => exact .pure fun w hw => hw

end Job

section Request

theorem newSession (target : Option SessionTarget) :
    Leads (d.rest []) (Workspace.newSession target) fun r =>
      match r with
      | .ok session => d.rest (session.map Session.id).toList
      | .error _ => d.rest [] := by
  cases target with
  | none => exact .pure fun w hw => hw
  | some target =>
    refine (h.create target).bind fun r => ?_
    cases r <;> exact .pure fun w hw => hw

theorem discardSession (session : Option Session) (e : WorkspaceError) :
    Leads (d.rest (session.map Session.id).toList) (Workspace.discardSession session e)
      d.holds := by
  cases session with
  | none => exact .pure fun w hw => hw
  | some s => exact (h.destroy s.id []).bind fun t => .pure fun w hw => h.holds_undo e hw

/-- A pane for a new session is placed in keeping with a discipline, or the call is over. -/
theorem place (target : Option SessionTarget) {e : Option SessionId → Edit PaneId}
    (he : Shows e) :
    Leads (d.rest []) (Workspace.place target e) fun r =>
      match r with
      | .ok _ => d.rest []
      | .error job => d.holds job := by
  refine (h.newSession target).bind fun r => ?_
  cases r with
  | error e => exact .pure fun w hw => hw
  | ok session =>
    refine (h.shows he (session.map Session.id)).bind fun r => ?_
    cases r with
    | ok pane => exact .pure fun w hw => hw
    | error x => exact (h.discardSession session (.layout x)).bind fun job => .pure fun w hw => hw

theorem placed (target : Option SessionTarget) {e : Option SessionId → Edit PaneId}
    (he : Shows e) :
    Leads (d.rest []) (do return Workspace.placed (← Workspace.place target e)) d.holds := by
  refine (h.place target he).bind fun r => ?_
  cases r <;> exact .pure fun w hw => hw

theorem attempt (pane : PaneId) (token : Token) :
    Leads (d.rest []) (Workspace.attempt pane token) fun r =>
      match r with
      | .ok t => d.serving t
      | .error _ => d.rest [] := by
  refine Leads.bind (Q := fun v w => v = w ∧ d.rest [] w) (fun _ hw => ⟨⟨rfl, hw⟩, .refl _⟩)
    fun v => ?_
  cases hsession : v.sessionFor pane with
  | error e => exact .pure fun w hw => hw.2
  | ok session =>
    have hconnect : Leads (fun w => v = w ∧ d.rest [] w)
        (onConnector (Connector.connect session token)) d.serving :=
      (h.connect session token).of fun w hw =>
        ⟨hw.2, hw.1 ▸ Workspace.registered_of_sessionFor hsession⟩
    exact hconnect.bind fun t => .pure fun w hw => hw

/-- The first attempt of a new pane keeps to a discipline. -/
theorem connectNew (pane : PaneId) (token : Token) :
    Leads (d.rest []) (Workspace.connectNew pane token) d.holds := by
  refine (h.attempt pane token).bind fun r => ?_
  cases r with
  | error e => exact h.retract pane e
  | ok t => exact h.opened pane t

theorem connectPane (pane : PaneId) (token : Token) :
    Leads (d.rest []) (Workspace.connect pane token) d.holds := by
  refine (h.attempt pane token).bind fun r => ?_
  cases r with
  | error e => exact .pure fun w hw => hw
  | ok t =>
    cases t with
    | «over» r => exact .pure fun w hw => h.serving_over r w hw
    | _ => exact .pure fun w hw => hw

theorem closePane (pane : PaneId) : Leads (d.rest []) (Workspace.close pane) d.holds := by
  refine (h.close pane).bind fun r => ?_
  cases r with
  | error x => exact .pure fun w hw => hw
  | ok c => exact (h.giveUp c).bind fun t => .pure fun w hw => h.holds_close c hw

theorem resetAll : Leads (d.rest []) Workspace.reset d.holds := by
  intro t ht
  let w := t.workspace
  have hrun := w.layout.run_reset
  let cleared : Workspace :=
    { w with
      layout := { splitRatio := w.layout.splitRatio, nextId := w.layout.nextId }
      notices := w.notices ++
        if w.layout.focused = none then [.changed] else [.changed, .focus none] }
  have hreset : exec Workspace.reset t =
      exec (Job.clear w.layout.sessions (.over (.ok ()))) ⟨cleared, t.started⟩ := by
    simp only [Workspace.reset, exec_bind, exec_workspace, exec_edit, hrun, w, cleared]
  rw [hreset]
  exact h.clear _ _ ⟨cleared, t.started⟩ ((h.giving_over _ _ _).2 (h.reset w _ ht))

/-- Every request keeps to a discipline. -/
theorem request (r : Request) : Leads (d.rest []) r.run d.holds := by
  cases r with
  | createRoot target =>
    exact h.placed target fun _ session hs => Layout.createRoot_transacts hs session
  | split pane o target =>
    exact h.placed target fun _ session hs => Layout.split_transacts hs pane o session
  | splitAndConnect pane o target token =>
    refine (h.place (some target) fun _ session hs =>
      Layout.split_transacts hs pane o session).bind fun r => ?_
    cases r with
    | ok new => exact h.connectNew new token
    | error job => exact .pure fun w hw => hw
  | mirror pane o =>
    refine (h.spares fun s hs => Layout.mirror_transacts hs pane o).bind fun r => ?_
    cases r <;> exact .pure fun w hw => hw
  | close pane => exact h.closePane pane
  | openTab target => exact h.placed (some target) shows_createTab
  | openTabAndConnect target token =>
    refine (h.place (some target) shows_createTab).bind fun r => ?_
    cases r with
    | ok pane => exact h.connectNew pane token
    | error job => exact .pure fun w hw => hw
  | activateTab session =>
    refine (h.spares fun s hs => Layout.activate_transacts hs session).bind fun r => ?_
    cases r <;> exact .pure fun w hw => hw
  | navigate d =>
    refine Leads.bind ((h.spares fun s hs => Layout.navigate_transacts hs d).bind fun r => ?_)
      fun _ => .pure fun w hw => hw
    cases r <;> exact .pure fun w hw => hw
  | focus pane =>
    refine (h.spares fun s hs => Layout.setFocused_transacts hs pane).bind fun r => ?_
    cases r <;> exact .pure fun w hw => hw
  | connect pane token => exact h.connectPane pane token
  | resizeSplit pane ratio =>
    refine Leads.bind (Q := fun _ => d.rest []) ?_ fun _ => .pure fun w hw => hw
    refine Leads.bind (Q := fun _ => d.rest []) (fun _ hw => ⟨hw, .refl _⟩) fun w => ?_
    refine (h.spares fun s hs => Layout.setRatio_transacts hs pane _).bind fun r => ?_
    cases r <;> exact .pure fun w hw => hw
  | reset => exact h.resetAll

end Request

end Lawful

end Discipline

end Multiplexer
