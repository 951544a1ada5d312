import Multiplexer.Proofs.Workspace.Run

/-!
# The layout of a workspace

Requests and jobs change the layout by operations only, so that whatever holds
of all layouts that operations make holds of the layout of every workspace.
-/

namespace Multiplexer

open WorkspaceM

/-- A turn that changes the layout by operations only. -/
def Edits {α : Type} (m : WorkspaceM α) : Prop :=
  ∀ t, ∃ ops : List Layout.Operation,
    (exec m t).2.workspace.layout = ops.foldl Layout.apply t.workspace.layout

namespace Edits

variable {α β : Type}

theorem pure (a : α) : Edits (pure a : WorkspaceM α) := fun _ => ⟨[], rfl⟩

/-- One such turn after the other changes the layout by operations only. -/
theorem bind {m : WorkspaceM α} {f : α → WorkspaceM β} (hm : Edits m) (hf : ∀ a, Edits (f a)) :
    Edits (m >>= f) := by
  intro t
  obtain ⟨ops, h⟩ := hm t
  obtain ⟨more, h'⟩ := hf (exec m t).1 (exec m t).2
  exact ⟨ops ++ more, by rw [exec_bind, h', h, List.foldl_append]⟩

theorem onConnector (m : TurnM α) : Edits (onConnector m) := fun _ => ⟨[], rfl⟩

theorem workspace : Edits workspace := fun _ => ⟨[], rfl⟩

/-- An edit that is an operation is one step of the layout. -/
theorem edit {e : Edit α} (op : Layout.Operation) (h : ∀ s : Layout, (s.run e).2.1 = s.apply op) :
    Edits (edit e) := fun t => ⟨[op], h t.workspace.layout⟩

end Edits

namespace Job

theorem edits_giveUp (c : ClosedPane) : Edits (giveUp c) := by
  unfold giveUp
  split
  · split
    · exact .pure _
    · exact .onConnector _
  · exact .pure _

theorem edits_retract (pane : PaneId) (e : WorkspaceError) : Edits (retract pane e) := by
  refine (Edits.edit (.close pane) fun _ => rfl).bind fun r => ?_
  cases r with
  | ok c => exact (edits_giveUp c).bind fun _ => .pure _
  | error x => exact .pure _

theorem edits_opened (pane : PaneId) (t : Task) : Edits (opened pane t) := by
  unfold opened
  split
  · exact .pure _
  · exact edits_retract pane _
  · exact .pure _

theorem edits_clear (rest : List SessionId) (t : Task) : Edits (clear rest t) := by
  induction rest generalizing t with
  | nil =>
    unfold clear
    split <;> exact .pure _
  | cons id rest ih =>
    unfold clear
    split
    · exact (Edits.onConnector _).bind ih
    · exact .pure _

/-- Every turn of a job changes the layout by operations only. -/
theorem edits_resume (s : Signal) (job : Job) : Edits (job.resume s) := by
  cases job with
  | task t =>
    refine (Edits.onConnector _).bind fun t => ?_
    cases t <;> exact .pure _
  | opening pane t => exact (Edits.onConnector _).bind fun t => edits_opened pane t
  | undoing e t => exact (Edits.onConnector _).bind fun _ => .pure _
  | closing c t => exact (Edits.onConnector _).bind fun _ => .pure _
  | clearing rest t => exact (Edits.onConnector _).bind fun t => edits_clear rest t
  | «over» r => exact .pure _

end Job

namespace Workspace

/-- An edit that is an operation, whatever session it is for. -/
theorem edits_place (target : Option SessionTarget) {e : Option SessionId → Edit PaneId}
    (he : ∀ session, Edits (edit (e session))) : Edits (place target e) := by
  have hnew : Edits (newSession target) := by
    cases target with
    | none => exact .pure _
    | some target =>
      refine (Edits.onConnector _).bind fun r => ?_
      cases r <;> exact .pure _
  refine hnew.bind fun r => ?_
  cases r with
  | error e => exact .pure _
  | ok session =>
    refine (he _).bind fun r => ?_
    cases r with
    | ok pane => exact .pure _
    | error x =>
      refine Edits.bind ?_ fun _ => .pure _
      cases session with
      | some s => exact (Edits.onConnector _).bind fun _ => .pure _
      | none => exact .pure _

theorem edits_attempt (pane : PaneId) (token : Token) : Edits (attempt pane token) := by
  refine Edits.workspace.bind fun w => ?_
  cases w.sessionFor pane with
  | error e => exact .pure _
  | ok session => exact (Edits.onConnector _).bind fun _ => .pure _

theorem edits_connectNew (pane : PaneId) (token : Token) : Edits (connectNew pane token) := by
  refine (edits_attempt pane token).bind fun r => ?_
  cases r with
  | error e => exact Job.edits_retract pane e
  | ok t => exact Job.edits_opened pane t

theorem edits_addTab (target : SessionTarget) : Edits (addTab target) := by
  refine edits_place _ fun session => ?_
  cases session with
  | none => exact fun _ => ⟨[], rfl⟩
  | some id => exact .edit (.createTab id) fun _ => rfl

theorem edits_split (pane : PaneId) (o : Orientation) (target : Option SessionTarget) :
    Edits (place target (Layout.split pane o)) :=
  edits_place target fun session => .edit (.split pane o session) fun _ => rfl

end Workspace

open Workspace

/-- Every request changes the layout by operations only. -/
theorem Request.edits_run (r : Request) : Edits r.run := by
  cases r with
  | createRoot target =>
    exact (edits_place target fun session => .edit (.createRoot session) fun _ => rfl).bind
      fun _ => .pure _
  | split pane o target => exact (edits_split pane o target).bind fun _ => .pure _
  | splitAndConnect pane o target token =>
    refine (edits_split pane o (some target)).bind fun r => ?_
    cases r with
    | ok new => exact edits_connectNew new token
    | error job => exact .pure _
  | mirror pane o =>
    refine (Edits.edit (.mirror pane o) fun _ => rfl).bind fun r => ?_
    cases r <;> exact .pure _
  | close pane =>
    refine (Edits.edit (.close pane) fun _ => rfl).bind fun r => ?_
    cases r with
    | ok c => exact (Job.edits_giveUp c).bind fun _ => .pure _
    | error x => exact .pure _
  | openTab target => exact (edits_addTab target).bind fun _ => .pure _
  | openTabAndConnect target token =>
    refine (edits_addTab target).bind fun r => ?_
    cases r with
    | ok pane => exact edits_connectNew pane token
    | error job => exact .pure _
  | activateTab session =>
    refine (Edits.edit (.activate session) fun _ => rfl).bind fun r => ?_
    cases r <;> exact .pure _
  | navigate d =>
    refine Edits.bind ((Edits.edit (.navigate d) fun _ => rfl).bind fun r => ?_) fun _ => .pure _
    cases r <;> exact .pure _
  | focus pane =>
    refine (Edits.edit (.setFocused pane) fun _ => rfl).bind fun r => ?_
    cases r <;> exact .pure _
  | connect pane token =>
    refine (edits_attempt pane token).bind fun r => ?_
    cases r with
    | error e => exact .pure _
    | ok t => cases t <;> exact .pure _
  | resizeSplit pane ratio =>
    refine Edits.bind (Edits.workspace.bind fun w => ?_) fun _ => .pure _
    refine (Edits.edit (.setRatio pane (w.settings.clampRatio ratio)) fun _ => rfl).bind fun r => ?_
    cases r <;> exact .pure _
  | reset =>
    refine Edits.workspace.bind fun w => ?_
    exact (Edits.edit .reset fun _ => rfl).bind fun _ => Job.edits_clear _ _

namespace System

/-- Every event changes the layout by operations only. -/
theorem layout_step (s : System) (e : Event) :
    ∃ ops : List Layout.Operation,
      (s.step e).workspace.layout = ops.foldl Layout.apply s.workspace.layout := by
  cases e with
  | request r => exact r.edits_run ⟨s.workspace, []⟩
  | resume n signal =>
    cases hjob : s.jobs[n]? with
    | none => exact ⟨[], by simp only [step, hjob]; rfl⟩
    | some job =>
      obtain ⟨ops, h⟩ := job.edits_resume signal ⟨s.workspace, []⟩
      exact ⟨ops, by simp only [step, hjob]; exact h⟩
  | outside c => exact ⟨[], rfl⟩

/-- Whatever a workspace is asked for, its layout is one that operations make. -/
theorem layout_run (s : System) (es : List Event) :
    ∃ ops : List Layout.Operation,
      (s.run es).workspace.layout = ops.foldl Layout.apply s.workspace.layout := by
  induction es generalizing s with
  | nil => exact ⟨[], rfl⟩
  | cons e es ih =>
    obtain ⟨ops, h⟩ := s.layout_step e
    obtain ⟨more, h'⟩ := ih (s.step e)
    exact ⟨ops ++ more, by rw [List.foldl_append, ← h]; exact h'⟩

end System

end Multiplexer
