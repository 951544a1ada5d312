import Multiplexer.Proofs.Connector.Request
import Multiplexer.Proofs.Layout.Operations
import Multiplexer.Workspace.Basic

/-!
# Runs of a workspace

A system is a workspace with the jobs that it was asked for. A run is a list of
events: a request comes, a job goes on, or somebody else uses the connector. A
job may go on at any time and with any signal; this is more than its wait allows.
-/

namespace Multiplexer

namespace WorkspaceM

variable {α β : Type}

def exec (m : WorkspaceM α) (t : WorkspaceTurn) : α × WorkspaceTurn := StateT.run m t

@[simp] theorem exec_pure (a : α) (t : WorkspaceTurn) : exec (pure a) t = (a, t) := rfl

@[simp] theorem exec_bind (m : WorkspaceM α) (f : α → WorkspaceM β) (t : WorkspaceTurn) :
    exec (m >>= f) t = exec (f (exec m t).1) (exec m t).2 := rfl

@[simp] theorem exec_workspace (t : WorkspaceTurn) : exec workspace t = (t.workspace, t) := rfl

/-- A turn of the connector within a turn of the workspace. -/
@[simp] theorem exec_onConnector (m : TurnM α) (t : WorkspaceTurn) :
    exec (onConnector m) t =
      let u := TurnM.exec m ⟨t.workspace.connector, t.started⟩
      (u.1, ⟨{ t.workspace with connector := u.2.connector }, u.2.started⟩) := rfl

@[simp] theorem exec_edit (e : Edit α) (t : WorkspaceTurn) :
    exec (edit e) t =
      let r := t.workspace.layout.run e
      (r.1, { t with workspace := { t.workspace with
        layout := r.2.1, notices := t.workspace.notices ++ r.2.2 } }) := rfl

def Leads (P : Workspace → Prop) (m : WorkspaceM α) (Q : α → Workspace → Prop) : Prop :=
  ∀ t, P t.workspace →
    Q (exec m t).1 (exec m t).2.workspace ∧ Enlists t.started (exec m t).2.started

namespace Leads

variable {P R : Workspace → Prop} {Q : α → Workspace → Prop}

theorem pure {a : α} (h : ∀ w, P w → Q a w) : Leads P (pure a) Q :=
  fun _ ht => ⟨h _ ht, .refl _⟩

/-- What one turn leads to the next one may start from. -/
theorem bind {m : WorkspaceM α} {f : α → WorkspaceM β} {S : β → Workspace → Prop}
    (hm : Leads P m Q) (hf : ∀ a, Leads (Q a) (f a) S) : Leads P (m >>= f) S := by
  intro t ht
  obtain ⟨ha, hstart⟩ := hm t ht
  obtain ⟨hb, hmore⟩ := hf _ _ ha
  exact ⟨hb, hstart.trans hmore⟩

theorem of {m : WorkspaceM α} (h : Leads R m Q) (hPR : ∀ w, P w → R w) : Leads P m Q :=
  fun t ht => h t (hPR _ ht)

theorem mono {m : WorkspaceM α} {Q' : α → Workspace → Prop} (h : Leads P m Q)
    (hQ : ∀ a w, Q a w → Q' a w) : Leads P m Q' :=
  fun t ht => ⟨hQ _ _ (h t ht).1, (h t ht).2⟩

/-- A turn of the connector leads to what it does to the connector. -/
theorem onConnector {m : TurnM α}
    (h : ∀ w u, P w → u.connector = w.connector →
      Q (TurnM.exec m u).1 { w with connector := (TurnM.exec m u).2.connector } ∧
        Enlists u.started (TurnM.exec m u).2.started) :
    Leads P (onConnector m) Q :=
  fun t ht => h t.workspace ⟨t.workspace.connector, t.started⟩ ht rfl

theorem create {target : SessionTarget} {Q : Except RegistryError Session → Workspace → Prop}
    (hok : ∀ w s r, P w → w.connector.registry.create target = .ok (s, r) →
      Q (.ok s) { w with connector := { w.connector with registry := r } })
    (herror : ∀ w e, P w → Q (.error e) w) : Leads P (create target) Q := by
  refine .onConnector fun w u hw hu => ?_
  rw [TurnM.exec_bind, TurnM.exec_connector]
  cases hcreate : u.connector.registry.create target with
  | error e =>
    refine ⟨?_, .refl _⟩
    have hsame : { w with connector := u.connector } = w := by rw [hu]
    exact hsame ▸ herror w e hw
  | ok made =>
    obtain ⟨s, r⟩ := made
    refine ⟨?_, .refl _⟩
    rw [hu] at hcreate
    have h := hok w s r hw hcreate
    rwa [← hu] at h

/-- What an edit cannot touch. -/
theorem anyEdit {e : Edit α} {Q : Except LayoutError α → Workspace → Prop}
    (h : ∀ w r layout notices, P w → Q r { w with layout, notices }) : Leads P (edit e) Q :=
  fun t ht => ⟨h t.workspace _ _ _ ht, .refl _⟩

/-- An edit leads on from where it has succeeded, or from where nothing has changed. -/
theorem edit {e : Edit α} {Q : Except LayoutError α → Workspace → Prop}
    {post : Workspace → α → Layout → List Notice → Prop}
    (he : ∀ w, P w → w.layout.Transacts e (post w))
    (hok : ∀ w a s ns, P w → post w a s ns →
      Q (.ok a) { w with layout := s, notices := w.notices ++ ns })
    (herror : ∀ w x, P w → Q (.error x) w) : Leads P (edit e) Q := by
  intro t ht
  refine ⟨?_, .refl _⟩
  have htransacts := he _ ht
  rw [exec_edit]
  unfold Layout.Transacts at htransacts
  generalize t.workspace.layout.run e = r at htransacts
  obtain ⟨r, s, ns⟩ := r
  cases r with
  | ok a => exact hok _ a s ns ht htransacts
  | error x =>
    obtain ⟨rfl, rfl⟩ := htransacts
    simpa using herror _ x ht

end Leads

end WorkspaceM

open WorkspaceM

inductive Request where
  | createRoot (target : Option SessionTarget)
  | split (pane : PaneId) (orientation : Orientation) (target : Option SessionTarget)
  | splitAndConnect (pane : PaneId) (orientation : Orientation) (target : SessionTarget)
    (token : Token)
  | mirror (pane : PaneId) (orientation : Orientation)
  | close (pane : PaneId)
  | openTab (target : SessionTarget)
  | openTabAndConnect (target : SessionTarget) (token : Token)
  | activateTab (session : SessionId)
  | navigate (d : Direction)
  | focus (pane : PaneId)
  | connect (pane : PaneId) (token : Token)
  | resizeSplit (pane : PaneId) (ratio : Binary64)
  | reset

namespace Request

def run : Request → WorkspaceM Job
  | .createRoot target => Workspace.createRoot target
  | .split pane o target => Workspace.split pane o target
  | .splitAndConnect pane o target token => Workspace.splitAndConnect pane o target token
  | .mirror pane o => Workspace.mirror pane o
  | .close pane => Workspace.close pane
  | .openTab target => Workspace.openTab target
  | .openTabAndConnect target token => Workspace.openTabAndConnect target token
  | .activateTab session => Workspace.activateTab session
  | .navigate d => do
    let _ ← Workspace.navigate d
    return .over (.ok .nothing)
  | .focus pane => Workspace.focus pane
  | .connect pane token => Workspace.connect pane token
  | .resizeSplit pane ratio => do
    return .over ((← Workspace.resizeSplit pane ratio).map fun _ => .nothing)
  | .reset => Workspace.reset

def target? : Request → Option SessionTarget
  | .createRoot target | .split _ _ target => target
  | .splitAndConnect _ _ target _ | .openTab target | .openTabAndConnect target _ => some target
  | _ => none

end Request

inductive Event where
  | request (r : Request)
  | resume (n : Nat) (s : Signal)
  | outside (c : Connector)

structure System where
  workspace : Workspace
  jobs : List Job := []

namespace System

def turned (r : Job × WorkspaceTurn) (before after : List Job) : System :=
  ⟨r.2.workspace, before ++ r.1 :: after ++ r.2.started.map .task⟩

def step (s : System) : Event → System
  | .request r => turned (exec r.run ⟨s.workspace, []⟩) s.jobs []
  | .resume n signal =>
    match s.jobs[n]? with
    | some job =>
      turned (exec (job.resume signal) ⟨s.workspace, []⟩) (s.jobs.take n) (s.jobs.drop (n + 1))
    | none => s
  | .outside c =>
    { s with workspace := { s.workspace with connector := s.workspace.connector.amid c } }

def run (s : System) (es : List Event) : System := es.foldl step s

/-- A run goes on where another one has ended. -/
theorem run_append (s : System) (es es' : List Event) :
    s.run (es ++ es') = (s.run es).run es' := List.foldl_append

/-- Each event satisfies a condition at the time when it happens. -/
def Along (P : System → Event → Prop) : System → List Event → Prop
  | _, [] => True
  | s, e :: es => P s e ∧ (s.step e).Along P es

/-- A condition holds along a run if it holds along both of its parts. -/
theorem along_append {P : System → Event → Prop} {s : System} {es es' : List Event} :
    s.Along P (es ++ es') ↔ s.Along P es ∧ (s.run es).Along P es' := by
  induction es generalizing s with
  | nil => exact (iff_of_eq (true_and _)).symm
  | cons e es ih => exact (and_congr_right fun _ => ih).trans and_assoc.symm

/-- What every event of a run preserves holds at its end. -/
theorem Along.preserves {P : System → Event → Prop} {I : System → Prop} {s : System}
    {es : List Event} (h : s.Along P es) (hstep : ∀ s e, I s → P s e → I (s.step e)) (hs : I s) :
    I (s.run es) := by
  induction es generalizing s with
  | nil => exact hs
  | cons e es ih => exact ih h.2 (hstep s e hs h.1)

def start (splitRatio : Binary64) (nextId : Nat) (settings : LayoutSettings) : System :=
  ⟨{ layout := { splitRatio, nextId }, settings }, []⟩

/-- The jobs that wait while an event happens. -/
def bystanders (s : System) : Event → List Job
  | .request _ => s.jobs
  | .resume n _ => s.jobs.take n ++ s.jobs.drop (n + 1)
  | .outside _ => []

/-- The job at its turn and its bystanders are all the jobs. -/
theorem perm_bystanders {s : System} {n : Nat} {job : Job} (h : s.jobs[n]? = some job)
    (signal : Signal) : s.jobs.Perm (job :: s.bystanders (.resume n signal)) := by
  obtain ⟨hn, hget⟩ := List.getElem?_eq_some_iff.1 h
  have hsplit : s.jobs = s.jobs.take n ++ job :: s.jobs.drop (n + 1) := by
    rw [← hget, List.getElem_cons_drop, List.take_append_drop]
  exact (List.Perm.of_eq hsplit).trans List.perm_middle

/-- What every event preserves, as long as the jobs that wait are calm. -/
structure Invariant (calm : Job → Prop) (I : Workspace → List Job → Prop) : Prop where
  perm : ∀ {w : Workspace} {jobs jobs' : List Job}, jobs.Perm jobs' → I w jobs → I w jobs'
  started : ∀ {w : Workspace} {jobs : List Job} {new : List Task},
    (∀ t ∈ new, t.Fresh) → I w jobs → I w (new.map .task ++ jobs)
  request : ∀ (r : Request) {others : List Job}, (∀ j ∈ others, calm j) →
    Leads (I · others) r.run fun job w => I w (job :: others)
  resume : ∀ (job : Job) (signal : Signal) {others : List Job}, (∀ j ∈ others, calm j) →
    Leads (I · (job :: others)) (job.resume signal) fun job w => I w (job :: others)
  outside : ∀ {w : Workspace} {jobs : List Job} (c : Connector), I w jobs →
    I { w with connector := w.connector.amid c } jobs

namespace Invariant

variable {calm : Job → Prop} {I : Workspace → List Job → Prop} (h : Invariant calm I)

include h

/-- A turn preserves an invariant for its job together with all the others. -/
theorem turned {w : Workspace} {m : WorkspaceM Job} {before after : List Job}
    {P : Workspace → Prop} (hm : Leads P m fun job w => I w (job :: (before ++ after)))
    (hw : P w) :
    I (System.turned (exec m ⟨w, []⟩) before after).workspace
      (System.turned (exec m ⟨w, []⟩) before after).jobs := by
  obtain ⟨hI, new, hnew, hfresh⟩ := hm ⟨w, []⟩ hw
  refine h.perm ?_ (h.started hfresh hI)
  unfold System.turned
  rw [hnew, List.nil_append]
  exact List.perm_append_comm.trans (List.perm_middle.symm.append_right _)

/-- Every event preserves an invariant while the jobs that wait are calm. -/
theorem step {s : System} {e : Event} (hcalm : ∀ j ∈ s.bystanders e, calm j)
    (hs : I s.workspace s.jobs) : I (s.step e).workspace (s.step e).jobs := by
  cases e with
  | request r =>
    have hrequest : Leads (I · s.jobs) r.run fun job w => I w (job :: s.jobs) := h.request r hcalm
    refine h.turned (P := (I · s.jobs)) ?_ hs
    rwa [List.append_nil]
  | resume n signal =>
    cases hjob : s.jobs[n]? with
    | none => simpa only [System.step, hjob] using hs
    | some job =>
      simp only [System.step, hjob]
      exact h.turned (h.resume job signal hcalm) (h.perm (perm_bystanders hjob signal) hs)
  | outside c => exact h.outside c hs

/-- An invariant holds after any run where all jobs are calm. -/
theorem run (hcalm : ∀ j, calm j) {s : System} (hs : I s.workspace s.jobs) (es : List Event) :
    I (s.run es).workspace (s.run es).jobs := by
  induction es generalizing s with
  | nil => exact hs
  | cons e es ih => exact ih (h.step (fun j _ => hcalm j) hs)

end Invariant

end System

end Multiplexer
