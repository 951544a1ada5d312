import Multiplexer.Proofs.Layout.Links
import Multiplexer.Proofs.Layout.Proportions
import Multiplexer.Proofs.Settings.Clamping
import Multiplexer.Proofs.Workspace.Discipline
import Multiplexer.Proofs.Workspace.Edits

/-!
# Moving dividers

The settings of a workspace never change, and its containers are always in
proportion. So a divider can be moved to any position at any time: the container
gets the position within the bounds, and this is what the caller is told.
-/

namespace Multiplexer

open WorkspaceM

section Settings

theorem Connector.enlists_destroy (id : SessionId) (u : Turn) :
    Enlists u.started (TurnM.exec (Connector.destroy id) u).2.started := by
  cases hknown : u.connector.registry.contains id with
  | false =>
    rw [Connector.exec_destroy_unknown id u hknown]
    exact .refl _
  | true =>
    obtain ⟨todo, v, hreleased, hrun⟩ := Connector.exec_destroy id u hknown
    rw [hrun, ← hreleased.started]
    exact (Task.destroyAll_turned id todo v).started

theorem Connector.enlists_connect (session : Session) (token : Token) (u : Turn) :
    Enlists u.started (TurnM.exec (Connector.connect session token) u).2.started := by
  by_cases hbusy : (u.connector.slot session.id).state = .connecting
  · rw [Connector.exec_connect_overlapping session token u hbusy]
    exact .refl _
  · obtain ⟨a, todo, v, -, -, -, hstarted, hrun⟩ := Connector.exec_connect session token u hbusy
    rw [hrun, ← hstarted]
    exact (a.release_turned todo v).started

def constancy (settings : LayoutSettings) : Discipline where
  rest _ w := w.settings = settings
  giving _ _ w := w.settings = settings
  serving _ w := w.settings = settings

variable {settings : LayoutSettings}

/-- No request and no job changes the settings. -/
theorem constancy_lawful : (constancy settings).Lawful where
  destroy id _ := .onConnector fun _ u hw _ => ⟨hw, Connector.enlists_destroy id u⟩
  connect session token :=
    .onConnector fun _ u hw _ => ⟨hw.1, Connector.enlists_connect session token u⟩
  create _ := .create (fun _ _ _ hw _ => hw) fun _ _ hw => hw
  giving_resume t _ s := .onConnector fun _ u hw _ => ⟨hw, (t.resume_turned u s).started⟩
  serving_resume t s := .onConnector fun _ u hw _ => ⟨hw, (t.resume_turned u s).started⟩
  giving_over _ _ _ := .rfl
  serving_over _ _ hw := hw
  close _ := .anyEdit fun w r _ _ hw => by cases r <;> exact hw
  shows _ _ := .anyEdit fun w r _ _ hw => by cases r <;> exact hw
  spares _ := .anyEdit fun w r _ _ hw => hw
  reset _ _ hw := hw

theorem constancy_holds {job : Job} {w : Workspace} :
    (constancy settings).holds job w ↔ w.settings = settings := by
  cases job <;> rfl

/-- No event changes the settings. -/
theorem System.constant_invariant :
    Invariant (fun _ => True) fun w _ => w.settings = settings where
  perm _ hw := hw
  started _ hw := hw
  request r _ _ := (constancy_lawful.request r).mono fun _ _ hw => constancy_holds.1 hw
  resume job signal _ _ :=
    ((constancy_lawful.resume signal job).of fun _ hw => constancy_holds.2 hw).mono
      fun _ _ hw => constancy_holds.1 hw
  outside _ hw := hw

end Settings

namespace Layout

/-- A proper ratio is refused only for a pane that is no container. -/
theorem run_setRatio {ratio : Binary64} (hproper : properRatio ratio = true) (s : Layout)
    (id : PaneId) : s.run (setRatio id ratio) = match s.pane? id with
      | some (.container c) =>
        (.ok (), s.modify id fun _ => .container { c with ratio }, [.changed])
      | some (.leaf _) => (.error (.notAContainer id), s, [])
      | none => (.error (.paneNotFound id), s, []) := by
  cases hp : s.pane? id with
  | none => simp [run_eq, setRatio, hproper, hp]
  | some p => cases p <;> simp [run_eq, setRatio, hproper, hp]

/-- One container has another ratio, and all other panes are as they were. -/
theorem pane?_setRatio {s : Layout} {id : PaneId} {c : Container}
    (h : s.pane? id = some (.container c)) (ratio : Binary64) (i : PaneId) :
    (s.modify id fun _ => .container { c with ratio }).pane? i =
      if i = id then some (.container { c with ratio }) else s.pane? i := by
  have hid : c.id = id := by simpa [Pane.id] using List.find?_some h
  have hmap := s.find?_map_of_id
    (g := fun p => if p.id = id then .container { c with ratio } else p)
    (fun p => by split <;> simp_all [Pane.id]) i
  refine hmap.trans ?_
  by_cases hi : i = id
  · rw [if_pos hi, hi, h]
    simp [Pane.id, hid]
  · rw [if_neg hi]
    cases hp : s.pane? i with
    | none => rfl
    | some p =>
      have hpid : p.id = i := by simpa using List.find?_some hp
      simp [hpid, hi]

end Layout

namespace Workspace

/-- What moving a divider to a position gives and leaves. -/
def moved (w : Workspace) (id : PaneId) (x : Binary64) : Except WorkspaceError Binary64 × Workspace :=
  let r := exec (resizeSplit id x) ⟨w, []⟩
  (r.1, r.2.workspace)

/-- What moving a divider comes to, for containers and for all other panes. -/
theorem moved_eq (w : Workspace) (id : PaneId) (x : Binary64) :
    w.moved id x = match w.layout.pane? id with
      | some (.container c) => (.ok (w.settings.clampRatio x), { w with
          layout := w.layout.modify id fun _ =>
            .container { c with ratio := w.settings.clampRatio x }
          notices := w.notices ++ [.changed] })
      | some (.leaf _) => (.error (.layout (.notAContainer id)), w)
      | none => (.error (.layout (.paneNotFound id)), w) := by
  have hproper := w.settings.properRatio_clampRatio x
  simp only [moved, resizeSplit, exec_bind, exec_workspace, exec_edit,
    Layout.run_setRatio hproper]
  cases w.layout.pane? id with
  | none => simp
  | some p => cases p <;> simp

/-- The divider of a container follows every position, as some bounds allow: what is stored is
what is told, and no other pane changes. -/
structure Follows (w : Workspace) (bounds : LayoutSettings) (id : PaneId) (c : Container)
    (share : Binary64 → Binary64) : Prop where
  clamps : bounds.Clamps share
  told : ∀ x, (w.moved id x).1 = .ok (share x)
  stored : ∀ x, (w.moved id x).2.layout.pane? id = some (.container { c with ratio := share x })
  elsewhere : ∀ x i, i ≠ id → (w.moved id x).2.layout.pane? i = w.layout.pane? i

/-- The divider of a container follows every position within the bounds of the settings. -/
theorem follows {w : Workspace} {id : PaneId} {c : Container}
    (h : w.layout.pane? id = some (.container c)) :
    w.Follows w.settings.sanitized id c w.settings.clampRatio where
  clamps := w.settings.clamps_clampRatio
  told x := by simp [moved_eq, h]
  stored x := by simp [moved_eq, h, Layout.pane?_setRatio h]
  elsewhere x i hi := by simp [moved_eq, h, Layout.pane?_setRatio h, hi]

/-- Moving a divider is never refused for its ratio. -/
theorem moved_ne_invalid (w : Workspace) (id : PaneId) (x r : Binary64) :
    (w.moved id x).1 ≠ .error (.layout (.invalidRatio r)) := by
  rw [moved_eq]
  split <;> simp

end Workspace

/-- Whatever settings a workspace starts with and whatever it is asked for, its containers divide
their space properly, and every divider can be moved to every position. The bounds are those of
the settings if they are valid, and else the default ones. -/
theorem System.dividers_after_events {settings : LayoutSettings} {connector : Connector}
    {w : Workspace} (h : Workspace.ofSettings settings connector = .ok w) (es : List Event) :
    let now := (System.run ⟨w, []⟩ es).workspace
    (∀ c, .container c ∈ now.layout.panes →
      Binary64.zero.lt c.ratio = true ∧ c.ratio.lt Binary64.one = true) ∧
    (∀ id c, now.layout.pane? id = some (.container c) →
      ∃ share, now.Follows (if settings.isValid then settings else {}) id c share) ∧
    ∀ id x r, (now.moved id x).1 ≠ .error (.layout (.invalidRatio r)) := by
  intro now
  have hproper : properRatio settings.defaultSplitRatio = true := by
    by_contra hbad
    simp [Workspace.ofSettings, Layout.withRatio, hbad, bind, Except.bind] at h
  obtain rfl : { layout := { splitRatio := settings.defaultSplitRatio }, connector, settings } = w := by
    simpa [Workspace.ofSettings, Layout.withRatio, hproper, bind, Except.bind, pure, Except.pure]
      using h
  have hsettings : now.settings = settings :=
    constant_invariant.run (fun _ => trivial) (s := ⟨_, []⟩) rfl es
  obtain ⟨ops, hops⟩ := layout_run ⟨_, []⟩ es
  have hproportioned : now.layout.Proportioned := by
    show Layout.Proportioned (System.run _ es).workspace.layout
    rw [hops]
    exact Layout.Proportioned.after ⟨hproper, by simp⟩ ops
  refine ⟨fun c hc => properRatio_iff.1 (hproportioned.panes _ hc c rfl), fun id c hc => ?_,
    now.moved_ne_invalid⟩
  exact ⟨_, hsettings ▸ Workspace.follows hc⟩

/-- A lower bound that is no number is accepted, and the default bounds are used instead. -/
theorem System.dividers_with_nan_bound :
    let settings : LayoutSettings := { minRatio := Binary64.nan }
    let w : Workspace := { settings }
    let now := (System.run ⟨w, []⟩
      [.request (.createRoot none), .request (.split ⟨1⟩ .vertical none)]).workspace
    Workspace.ofSettings settings {} = .ok w ∧ settings.isValid = false ∧
      ∃ c share, now.layout.pane? ⟨2⟩ = some (.container c) ∧ now.Follows {} ⟨2⟩ c share ∧
        share Binary64.nan = Binary64.half := by
  intro settings w now
  have hhalf : properRatio Binary64.half = true := by decide
  have haccepted : Workspace.ofSettings settings {} = .ok w := by
    simp only [Workspace.ofSettings, Layout.withRatio, settings, hhalf, if_true]
    rfl
  have hinvalid : settings.isValid = false := by decide
  have hpane : now.layout.pane? ⟨2⟩ = some (.container
      { id := ⟨2⟩, orientation := .vertical, ratio := Binary64.half, first := ⟨1⟩, second := ⟨3⟩,
        parent := none }) := by decide
  obtain ⟨-, hfollows, -⟩ := System.dividers_after_events haccepted
    [.request (.createRoot none), .request (.split ⟨1⟩ .vertical none)]
  obtain ⟨share, hshare⟩ := hfollows _ _ hpane
  rw [hinvalid, if_neg Bool.false_ne_true] at hshare
  have hnan : Binary64.nan.isNaN = true := by decide
  exact ⟨haccepted, hinvalid, _, share, hpane, hshare, hshare.clamps.nan _ hnan⟩

end Multiplexer
