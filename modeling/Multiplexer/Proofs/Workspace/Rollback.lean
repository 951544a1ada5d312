import Multiplexer.Proofs.Layout.Leftover
import Multiplexer.Proofs.Workspace.Undo

/-!
# What failed calls leave of the layout

A call that opens a pane and fails to connect it closes the pane again, and does
no more than that: it does not bring back the layout that it found. What is left
follows from that layout and from the request alone, whatever the tasks of the
connector do meanwhile.
-/

namespace Multiplexer

open WorkspaceM

/-- What a call leaves of a layout if it fails to connect. -/
def Request.leftover : Request → Layout → Layout
  | .splitAndConnect pane .., s => s.unsplit pane
  | .openTabAndConnect .., s => s.untabbed
  | _, s => s

def Request.Leaves : Request → Layout → Layout → Prop
  | .splitAndConnect pane .., s, s' => s.Unsplit pane s'
  | .openTabAndConnect .., s, s' => s.Untabbed s'
  | _, s, s' => s' = s

/-- How far a call has come, by the layout that it leaves if it fails and the present one. -/
inductive Job.Stands (left : Layout) : Layout → Job → Prop where
  | trying {pane : PaneId} {s : Layout} {c : ClosedPane} {told : List Notice} (t : Task) :
    s.run (Layout.close pane) = (.ok c, left, told) → Stands left s (.opening pane t)
  | undoing (e : ConnectError) (t : Task) : Stands left left (.undoing (.connect e) t)
  | failed (e : ConnectError) : Stands left left (.over (.error (.connect e)))
  | spared (s : Layout) (job : Job) : job.Spared → Stands left s job

theorem exec_giveUp_layout (c : ClosedPane) (u : WorkspaceTurn) :
    (exec (Job.giveUp c) u).2.workspace.layout = u.workspace.layout := by
  unfold Job.giveUp
  cases c.session with
  | none => rfl
  | some id => cases c.stillDisplayed <;> rfl

/-- A session that a pane shows is missing for other reasons than a connection. -/
theorem Workspace.sessionFor_error {w : Workspace} {pane : PaneId} {e : WorkspaceError}
    (h : w.sessionFor pane = .error e) (x : ConnectError) : e ≠ .connect x := by
  rintro rfl
  unfold sessionFor at h
  cases hleaf : w.layout.leaf? pane with
  | none => simp [hleaf] at h
  | some l =>
    cases hsession : l.session with
    | none => simp [hleaf, hsession] at h
    | some id =>
      cases hget : w.connector.registry.require id <;>
        simp [hleaf, hsession, hget, Except.mapError] at h

namespace Job.Stands

variable {pane : PaneId} {left : Layout} {job : Job} {w : Workspace} {c : ClosedPane}
  {told : List Notice}

/-- A call that undoes itself will leave the layout that it has now. -/
theorem undo (e : ConnectError) (t : Task) : Job.Stands left left (Job.undo (.connect e) t) := by
  cases t <;> first | exact .failed e | exact .undoing e _

/-- The pane is closed as soon as its connection has failed. -/
theorem go {u : WorkspaceTurn}
    (hclose : u.workspace.layout.run (Layout.close pane) = (.ok c, left, told)) (t : Task) :
    let x := exec (Job.opened pane t) u
    Job.Stands left x.2.workspace.layout x.1 := by
  cases t with
  | «over» r =>
    cases r with
    | ok => exact .spared _ _ trivial
    | error e =>
      simp only [Job.opened, Job.retract, exec_bind, exec_edit, hclose, exec_pure,
        exec_giveUp_layout]
      exact undo e _
  | _ => exact .trying _ hclose

/-- A turn of a call does not change what it leaves if it fails. -/
theorem resume (h : Job.Stands left w.layout job) (signal : Signal) :
    let x := exec (job.resume signal) ⟨w, []⟩
    Job.Stands left x.2.workspace.layout x.1 := by
  generalize hw : w.layout = s at h
  cases h with
  | trying t hclose =>
    simp only [Job.resume, exec_bind, exec_onConnector]
    exact go (by rwa [← hw] at hclose) _
  | undoing e t =>
    simp only [Job.resume, exec_bind, exec_onConnector, exec_pure, hw]
    exact undo e _
  | failed e => exact hw ▸ .failed e
  | spared s job hspared => exact .spared _ _ (hspared.resume signal w)

/-- The turn in which a new pane begins to be connected. -/
theorem connectNew (hclose : w.layout.run (Layout.close pane) = (.ok c, left, told))
    (token : Token) :
    let x := exec (Workspace.connectNew pane token) ⟨w, []⟩
    Job.Stands left x.2.workspace.layout x.1 := by
  simp only [Workspace.connectNew, Workspace.attempt, exec_bind, exec_workspace]
  cases hsession : w.sessionFor pane with
  | ok session =>
    simp only [exec_bind, exec_onConnector, exec_pure]
    exact go (by exact hclose) _
  | error e =>
    simp only [exec_pure, Job.retract, exec_bind, exec_edit, hclose]
    exact .spared _ _ (Job.spared_undo (Workspace.sessionFor_error hsession) _)

end Job.Stands

namespace Workspace

variable {w : Workspace}

/-- A pane is placed for a new session, which ends the call or can be undone by closing the pane. -/
theorem exec_place_closing {m : WorkspaceM (Except Job PaneId)} {target : SessionTarget}
    {e : Option SessionId → Edit PaneId} (hm : m = place (some target) e) {left : Layout}
    (hclose : ∀ session pane layout told, w.layout.run (e (some session)) = (.ok pane, layout, told) →
      ∃ c told', layout.run (Layout.close pane) = (.ok c, left, told')) :
    let x := exec m ⟨w, []⟩
    (∃ job, x.1 = .error job ∧ job.Spared) ∨
      ∃ pane w' c told, x = (.ok pane, ⟨w', []⟩) ∧
        w'.layout.run (Layout.close pane) = (.ok c, left, told) := by
  subst hm
  refine (exec_place (w := w) target e).imp_right ?_
  rintro ⟨session, r, pane, layout, told, -, hrun, hx⟩
  obtain ⟨c, told', hclosed⟩ := hclose _ _ _ _ hrun
  exact ⟨pane, _, c, told', hx, hclosed⟩

/-- The turn in which a call is asked for. -/
theorem stands_request {σ : Scene} (h : w.layout.Regular σ) {request : Request}
    (hconnects : request.connects = true) :
    let x := exec request.run ⟨w, []⟩
    Job.Stands (request.leftover w.layout) x.2.workspace.layout x.1 := by
  cases request with
  | splitAndConnect pane o target token =>
    rcases exec_place_closing (m := place (some target) (Layout.split pane o)) rfl
      fun _ _ _ _ hrun => h.run_split_close hrun with
      ⟨job, hx, hspared⟩ | ⟨new, w', c, told, hx, hclose⟩
    · simp only [Request.run, splitAndConnect, exec_bind, hx]
      exact .spared _ _ hspared
    · simp only [Request.run, splitAndConnect, exec_bind, hx]
      exact Job.Stands.connectNew hclose token
  | openTabAndConnect target token =>
    rcases exec_place_closing (m := addTab target) rfl
      fun _ _ _ _ hrun => h.run_createTab_close hrun with
      ⟨job, hx, hspared⟩ | ⟨new, w', c, told, hx, hclose⟩
    · simp only [Request.run, openTabAndConnect, exec_bind, hx]
      exact .spared _ _ hspared
    · simp only [Request.run, openTabAndConnect, exec_bind, hx]
      exact Job.Stands.connectNew hclose token
  | _ => cases hconnects

end Workspace

namespace System

/-- A task of the connector does not touch the layout. -/
theorem exec_task_layout (t : Task) (signal : Signal) (w : Workspace) :
    (exec ((Job.task t).resume signal) ⟨w, []⟩).2.workspace.layout = w.layout := by
  simp only [Job.resume, exec_bind, exec_onConnector]
  generalize ((t.resume signal).exec ⟨w.connector, []⟩).1 = t'
  cases t' <;> rfl

/-- What may happen while the `k`-th job is a call: the call goes on, and the tasks of the connector
take their turns. -/
def Amid (k : Nat) (s : System) : Event → Prop
  | .request _ => False
  | .resume n _ => n = k ∨ ∀ job, s.jobs[n]? = some job → ∃ t, job = .task t
  | .outside _ => True

def Stands (left : Layout) (k : Nat) (s : System) : Prop :=
  ∃ job, s.jobs[k]? = some job ∧ job.Stands left s.workspace.layout

/-- Whatever happens meanwhile, the call leaves the same layout if it fails. -/
theorem Stands.step {left : Layout} {k : Nat} {s : System} (h : s.Stands left k) {e : Event}
    (he : Amid k s e) : (s.step e).Stands left k := by
  obtain ⟨job, hjob, hstands⟩ := h
  cases e with
  | request => cases he
  | outside c => exact ⟨job, hjob, hstands⟩
  | resume n signal =>
    cases hn : s.jobs[n]? with
    | none =>
      simp only [System.step, hn]
      exact ⟨job, hjob, hstands⟩
    | some other =>
      rw [step_resume hn]
      refine ⟨_, job_at hjob n _ _, ?_⟩
      by_cases hnk : n = k
      · subst hnk
        obtain rfl := Option.some.inj (hn.symm.trans hjob)
        rw [if_pos rfl]
        exact hstands.resume signal
      · obtain ⟨t, rfl⟩ := he.resolve_left hnk other hn
        rw [if_neg hnk, exec_task_layout]
        exact hstands

/-- Whatever happens until the call is over, it leaves the same layout if it fails. -/
theorem Stands.run {left : Layout} {k : Nat} {s : System} (h : s.Stands left k) {es : List Event}
    (hes : s.Along (Amid k) es) : (s.run es).Stands left k :=
  hes.preserves (fun _ _ hs he => hs.step he) h

/-- The layout of a workspace is regular whatever it was asked for. -/
theorem regular_of_run (splitRatio : Binary64) (nextId : Nat) (settings : LayoutSettings)
    (es : List Event) :
    ∃ σ, ((start splitRatio nextId settings).run es).workspace.layout.Regular σ := by
  obtain ⟨ops, hops⟩ := (start splitRatio nextId settings).layout_run es
  rw [hops]
  exact Layout.regular_of_operations splitRatio nextId ops

/-- What a failed call leaves is the layout with the new pane opened and closed again. -/
theorem leaves_leftover {s : Layout} {σ : Scene} (h : s.Regular σ) (r : Request) :
    r.Leaves s (r.leftover s) := by
  cases r with
  | splitAndConnect pane => exact h.leaves_unsplit pane
  | openTabAndConnect => exact h.leaves_untabbed
  | _ => rfl

/-- A call that fails to connect leaves the layout without the pane that it opened, but else as that
pane has made it. A leaf that was split has the focus, and if it was a tab it is a tree now, with the
other tabs in the background. Where a tab was opened all the leaves are tabs now, one for each
session, and the last of them is in front and has the focus. So the layout is the one that was there
only if the leaf to be split was in the tree and had the focus, or the tab was opened where there was
no tree and the last tab was in front. -/
theorem failed_connect_leaves (splitRatio : Binary64) (nextId : Nat) (settings : LayoutSettings)
    (es : List Event) (r : Request) (hconnects : r.connects = true) (meanwhile : List Event)
    (e : ConnectError) :
    let s := (start splitRatio nextId settings).run es
    let k := s.jobs.length
    let asked := s.step (.request r)
    let ended := asked.run meanwhile
    asked.Along (Amid k) meanwhile →
    ended.jobs[k]? = some (.over (.error (.connect e))) →
    r.Leaves s.workspace.layout ended.workspace.layout := by
  intro s k asked ended hamid hended
  obtain ⟨σ, hregular⟩ := regular_of_run splitRatio nextId settings es
  have hself : asked.jobs[k]? = some (exec r.run ⟨s.workspace, []⟩).1 := by
    simp [asked, System.step, turned, k]
  have hasked : asked.Stands (r.leftover s.workspace.layout) k :=
    ⟨_, hself, Workspace.stands_request hregular hconnects⟩
  obtain ⟨job, hjob, hstands⟩ := hasked.run hamid
  obtain rfl := Option.some.inj (hended.symm.trans hjob)
  generalize ended.workspace.layout = layout at hstands
  cases hstands with
  | failed => exact leaves_leftover hregular r
  | spared _ _ hspared => cases hspared

def failing (k : Nat) : List Event :=
  [.resume k (.reply (.failed (.transport "No such file or directory"))), .resume k (.reply .done)]

def firstInFront : List Event :=
  [.request (.openTab deadLine), .request (.openTab deadLine), .request (.activateTab ⟨1⟩)]

/-- A third tab that fails to connect leaves the second one in front. -/
theorem failed_tab_brings_last_forward :
    let s := (start .half 1 {}).run firstInFront
    let ended := (s.step (.request (.openTabAndConnect deadLine ⟨0⟩))).run (failing 3)
    s.workspace.layout.activeTab = some ⟨1⟩ ∧ ended.workspace.layout.activeTab = some ⟨2⟩ ∧
      s.workspace.layout.Untabbed ended.workspace.layout := by
  have hleaves := failed_connect_leaves .half 1 {} firstInFront (.openTabAndConnect deadLine ⟨0⟩)
    rfl (failing 3) (.transport "No such file or directory") ⟨.inl rfl, .inl rfl, trivial⟩ rfl
  exact ⟨rfl, rfl, hleaves⟩

/-- So a failed call need not bring back what was there: not with a tab beside the one in front, and
not where a tab was to be split. -/
theorem failed_connect_not_rolled_back :
    let s := (start .half 1 {}).run firstInFront
    let tab := (s.step (.request (.openTabAndConnect deadLine ⟨0⟩))).run (failing 3)
    let tree := (s.step (.request (.splitAndConnect ⟨1⟩ .vertical deadLine ⟨0⟩))).run (failing 3)
    let refused : WorkspaceError := .connect (.transport "No such file or directory")
    (tab.jobs[3]? = some (.over (.error refused)) ∧
      ¬s.workspace.layout.Alike tab.workspace.layout) ∧
    tree.jobs[3]? = some (.over (.error refused)) ∧
      ¬s.workspace.layout.Alike tree.workspace.layout := by
  have hactive : ∀ s s' : Layout, s.activeTab = some ⟨1⟩ → s'.activeTab = some ⟨2⟩ →
      ¬s.Alike s' := by
    intro s s' hs hs' halike
    rw [halike.activeTab, hs] at hs'
    simp at hs'
  have htabs : ∀ s s' : Layout, s.tabs = [⟨1⟩, ⟨2⟩] → s'.tabs = [] → ¬s.Alike s' := by
    intro s s' hs hs' halike
    rw [halike.tabs, hs] at hs'
    simp at hs'
  exact ⟨⟨rfl, hactive _ _ rfl rfl⟩, rfl, htabs _ _ rfl rfl⟩

end System

end Multiplexer
