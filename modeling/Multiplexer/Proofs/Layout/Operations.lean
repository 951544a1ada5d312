import Multiplexer.Proofs.Layout.Arranging

/-!
# Operations

The operations of a layout as data, so that any number of them can be run. Each
is either refused and changes nothing, or is a step of the scene, with a known
effect on the sessions that are shown.
-/

namespace Multiplexer

namespace Layout

/-- The arena is that of some plan. -/
def Planned (s : Layout) : Prop := ∃ q, s.Represents q

variable {s s' : Layout} {q : Plan} {σ : Scene}

theorem Represents.planned (h : s.Represents q) : s.Planned := ⟨q, h⟩

theorem Planned.presents (h : s.Planned) : ∃ σ, s.Presents σ := by
  obtain ⟨q, h⟩ := h
  exact ⟨⟨q, s.activeTab, s.focused⟩, h, rfl, rfl⟩

theorem planned_empty (splitRatio : Binary64) (nextId : Nat) :
    Planned { splitRatio, nextId } := (Represents.empty splitRatio nextId).planned

inductive Operation where
  | createRoot (session : Option SessionId)
  | reset
  | split (pane : PaneId) (orientation : Orientation) (session : Option SessionId)
  | mirror (pane : PaneId) (orientation : Orientation)
  | close (pane : PaneId)
  | setFocused (pane : PaneId)
  | navigate (direction : Direction)
  | createTab (session : SessionId)
  | activate (session : SessionId)
  | setRatio (pane : PaneId) (ratio : Binary64)

inductive Answer where
  | done
  | pane (id : PaneId)
  | target (id : Option PaneId)
  | closed (c : ClosedPane)

def perform : Operation → Edit Answer
  | .createRoot session => .pane <$> createRoot session
  | .reset => (fun _ => .done) <$> Layout.reset
  | .split pane orientation session => .pane <$> split pane orientation session
  | .mirror pane orientation => .pane <$> mirror pane orientation
  | .close pane => .closed <$> close pane
  | .setFocused pane => (fun _ => .done) <$> setFocused pane
  | .navigate direction => .target <$> navigate direction
  | .createTab session => .pane <$> createTab session
  | .activate session => .pane <$> activate session
  | .setRatio pane ratio => (fun _ => .done) <$> setRatio pane ratio

/-- The layout that an operation leaves, whether it succeeds or fails. -/
def apply (s : Layout) : Operation → Layout
  | .createRoot session => (s.run (createRoot session)).2.1
  | .reset => (s.run Layout.reset).2.1
  | .split pane orientation session => (s.run (split pane orientation session)).2.1
  | .mirror pane orientation => (s.run (mirror pane orientation)).2.1
  | .close pane => (s.run (close pane)).2.1
  | .setFocused pane => (s.run (setFocused pane)).2.1
  | .navigate direction => (s.run (navigate direction)).2.1
  | .createTab session => (s.run (createTab session)).2.1
  | .activate session => (s.run (activate session)).2.1
  | .setRatio pane ratio => (s.run (setRatio pane ratio)).2.1

theorem apply_eq (s : Layout) (op : Operation) : s.apply op = (s.run (perform op)).2.1 := by
  cases op <;> simp only [perform, run_map] <;> rfl

/-- Why an operation is refused, if it is. -/
def refusal? (s : Layout) : Operation → Option LayoutError
  | .createRoot _ => if s.isEmpty then none else some .rootExists
  | .split pane _ _ => s.screenRefusal? pane
  | .mirror pane _ => s.mirrorRefusal? pane
  | .close pane => s.leafRefusal? pane
  | .setFocused pane => s.screenRefusal? pane
  | .activate session => s.absence? session
  | .setRatio pane ratio => s.ratioRefusal? pane ratio
  | .reset | .navigate _ | .createTab _ => none

def mirrorChange (s : Layout) (pane : PaneId) : Scene.Change :=
  match s.leaf? pane with
  | some l => if l.session.isNone then .rearranged else .grown l.session
  | none => .rearranged

def closeChange (s : Layout) (pane : PaneId) : Scene.Change :=
  match s.leaf? pane with
  | some l => .closed l
  | none => .rearranged

/-- What an operation that is not refused makes come or go. -/
def change (s : Layout) : Operation → Scene.Change
  | .createRoot session | .split _ _ session => .grown session
  | .createTab session => .grown (some session)
  | .reset => .cleared
  | .mirror pane _ => s.mirrorChange pane
  | .close pane => s.closeChange pane
  | .setFocused _ | .navigate _ | .activate _ | .setRatio _ _ => .rearranged

/-- Every operation is refused or is a step of the scene. -/
theorem Presents.decides (h : s.Presents σ) (op : Operation) :
    s.Decides (perform op) (s.refusal? op) fun _ s' told => s'.Follows σ (s.change op) told := by
  cases op with
  | createRoot session => exact (createRoot_decides h session).map _
  | reset => exact (reset_decides h).map _
  | split pane o session => exact (split_decides h pane o session).map _
  | mirror pane o =>
    refine ((mirror_decides h pane o).mono fun _ s' told hpost => ?_).map _
    obtain ⟨l, hl, hfollows⟩ := hpost
    simpa [change, mirrorChange, leaf?, hl, Pane.leaf?] using hfollows
  | close pane =>
    refine ((close_decides h pane).mono fun _ s' told hpost => ?_).map _
    obtain ⟨l, hl, -, hfollows⟩ := hpost
    simpa [change, closeChange, leaf?, hl, Pane.leaf?] using hfollows
  | setFocused pane => exact (setFocused_decides h pane).map _
  | navigate d => exact (navigate_decides h d).map _
  | createTab session => exact (createTab_decides h session).map _
  | activate session => exact (activate_decides h session).map _
  | setRatio pane r => exact (setRatio_decides h pane r).map _

/-- What an operation leaves is as before or comes of a step. -/
theorem Presents.apply (h : s.Presents σ) (op : Operation) :
    s.apply op = s ∨ ∃ told, (s.apply op).Follows σ (s.change op) told := by
  have hdecides := h.decides op
  rw [apply_eq]
  unfold Decides at hdecides
  cases hrefusal : s.refusal? op with
  | some x =>
    rw [hrefusal] at hdecides
    exact .inl (by rw [hdecides])
  | none =>
    rw [hrefusal] at hdecides
    obtain ⟨a, s', told, hrun, hfollows⟩ := hdecides
    exact .inr ⟨told, by rwa [hrun]⟩

/-- What an operation leaves is the arena of a plan. -/
theorem apply_planned (h : s.Planned) (op : Operation) : (s.apply op).Planned := by
  obtain ⟨σ, hσ⟩ := h.presents
  rcases hσ.apply op with hsame | ⟨told, σ', h', -⟩
  · rwa [hsame]
  · exact h'.represents.planned

theorem foldl_apply_planned (h : s.Planned) (ops : List Operation) :
    (ops.foldl apply s).Planned := by
  induction ops generalizing s with
  | nil => exact h
  | cons op ops ih => exact ih (apply_planned h op)

/-- What holds of the scene of an empty layout and is kept by every step holds of what any
operations leave. -/
theorem presents_of_operations {P : Scene → Prop} (hempty : P {})
    (hstep : ∀ σ c told σ', P σ → σ.Step c told σ' → P σ') (splitRatio : Binary64) (nextId : Nat)
    (ops : List Operation) :
    ∃ σ, (ops.foldl apply { splitRatio, nextId }).Presents σ ∧ P σ := by
  induction ops using List.reverseRecOn with
  | nil => exact ⟨{}, ⟨.empty _ _, rfl, rfl⟩, hempty⟩
  | append_singleton ops op ih =>
    obtain ⟨σ, h, hP⟩ := ih
    rw [List.foldl_append, List.foldl_cons, List.foldl_nil]
    rcases h.apply op with hsame | ⟨told, σ', h', hchange⟩
    · exact ⟨σ, by rwa [hsame], hP⟩
    · exact ⟨σ', h', hstep _ _ _ _ hP hchange⟩

section Sessions

/-! What each operation does to the sessions that are shown. -/

/-- An edit that fails changes nothing and tells nothing; what one that succeeds gives, leaves
and tells is as stated. -/
def Transacts {α : Type} (s : Layout) (e : Edit α)
    (post : α → Layout → List Notice → Prop) : Prop :=
  match s.run e with
  | (.ok a, s', ns) => post a s' ns
  | (.error _, s', ns) => s' = s ∧ ns = []

theorem Transacts.ofError {α : Type} {e : Edit α} {post : α → Layout → List Notice → Prop}
    {x : LayoutError} (h : Edit.exec e ⟨s, []⟩ = (.error x, ⟨s, []⟩)) : s.Transacts e post := by
  unfold Transacts
  rw [run_eq, h]
  exact ⟨rfl, rfl⟩

/-- An edit that is decided beforehand changes nothing if it fails. -/
theorem Decides.transacts {α : Type} {e : Edit α} {refusal : Option LayoutError}
    {post post' : α → Layout → List Notice → Prop} (h : s.Decides e refusal post)
    (hpost : ∀ a s' told, post a s' told → post' a s' told) : s.Transacts e post' := by
  unfold Decides at h
  unfold Transacts
  cases refusal with
  | some x =>
    rw [h]
    exact ⟨rfl, rfl⟩
  | none =>
    obtain ⟨a, s', told, hrun, hp⟩ := h
    rw [hrun]
    exact hpost a s' told hp

/-- The sessions on show stay the same. -/
def SameSessions (s s' : Layout) : Prop := s'.Planned ∧ ∀ x, x ∈ s'.sessions ↔ x ∈ s.sessions

variable {told : List Notice}

/-- A rearrangement shows the same sessions. -/
theorem Follows.same (h : s'.Follows σ .rearranged told) (hs : s.Presents σ) :
    s.SameSessions s' := by
  obtain ⟨σ', h', hstep⟩ := h
  refine ⟨h'.represents.planned, fun x => ?_⟩
  rw [h'.represents.mem_sessions_iff, hs.represents.mem_sessions_iff, hstep.shows_rearranged]

/-- A step that adds a leaf shows the session of that leaf as well. -/
theorem Follows.grown {session : Option SessionId} (h : s'.Follows σ (.grown session) told)
    (hs : s.Presents σ) :
    s'.Planned ∧ ∀ x, x ∈ s'.sessions ↔ x ∈ s.sessions ∨ session = some x := by
  obtain ⟨σ', h', hstep⟩ := h
  refine ⟨h'.represents.planned, fun x => ?_⟩
  rw [h'.represents.mem_sessions_iff, hs.represents.mem_sessions_iff, hstep.shows_grown]

theorem Follows.closed {l : Leaf} (h : s'.Follows σ (.closed l) told) (hs : s.Presents σ) :
    s'.Planned ∧ ∀ x, x ∈ s.sessions ↔ x ∈ s'.sessions ∨ l.session = some x := by
  obtain ⟨σ', h', hstep⟩ := h
  refine ⟨h'.represents.planned, fun x => ?_⟩
  rw [h'.represents.mem_sessions_iff, hs.represents.mem_sessions_iff, hstep.shows_closed]

theorem createRoot_transacts (h : s.Planned) (session : Option SessionId) :
    s.Transacts (createRoot session) fun _ s' _ =>
      s'.Planned ∧ ∀ x, x ∈ s'.sessions ↔ x ∈ s.sessions ∨ session = some x := by
  obtain ⟨σ, h⟩ := h.presents
  exact (createRoot_decides h session).transacts fun _ _ _ hfollows => hfollows.grown h

theorem split_transacts (h : s.Planned) (id : PaneId) (o : Orientation)
    (session : Option SessionId) :
    s.Transacts (split id o session) fun _ s' _ =>
      s'.Planned ∧ ∀ x, x ∈ s'.sessions ↔ x ∈ s.sessions ∨ session = some x := by
  obtain ⟨σ, h⟩ := h.presents
  exact (split_decides h id o session).transacts fun _ _ _ hfollows => hfollows.grown h

theorem createTab_transacts (h : s.Planned) (session : SessionId) :
    s.Transacts (createTab session) fun _ s' _ =>
      s'.Planned ∧ ∀ x, x ∈ s'.sessions ↔ x ∈ s.sessions ∨ some session = some x := by
  obtain ⟨σ, h⟩ := h.presents
  exact (createTab_decides h session).transacts fun _ _ _ hfollows => hfollows.grown h

theorem mirror_transacts (h : s.Planned) (id : PaneId) (o : Orientation) :
    s.Transacts (mirror id o) fun _ s' _ => s.SameSessions s' := by
  obtain ⟨σ, h⟩ := h.presents
  refine (mirror_decides h id o).transacts fun _ s' told hpost => ?_
  obtain ⟨l, hl, hfollows⟩ := hpost
  cases hsession : l.session with
  | none =>
    rw [hsession] at hfollows
    exact hfollows.same h
  | some session =>
    -- The session of a leaf is shown already.
    rw [hsession] at hfollows
    obtain ⟨hplanned, hsessions⟩ := Follows.grown hfollows h
    have hleaf : s.leaf? id = some l := by simp [leaf?, hl, Pane.leaf?]
    have hshown := h.represents.mem_sessions_of_leaf? hleaf hsession
    refine ⟨hplanned, fun x => (hsessions x).trans (or_iff_left_of_imp fun hx => ?_)⟩
    exact Option.some.inj hx ▸ hshown

/-- Closing a pane tells whether its session is still displayed. -/
theorem close_transacts (h : s.Planned) (id : PaneId) :
    s.Transacts (close id) fun c s' _ => s'.Planned ∧ c.pane = id ∧
      (c.stillDisplayed = true ↔ ∃ x, c.session = some x ∧ x ∈ s'.sessions) ∧
      ∀ x, x ∈ s.sessions ↔ x ∈ s'.sessions ∨ c.session = some x := by
  obtain ⟨σ, h⟩ := h.presents
  refine (close_decides h id).transacts fun c s' told hpost => ?_
  obtain ⟨l, -, rfl, hfollows⟩ := hpost
  obtain ⟨hplanned, hsessions⟩ := hfollows.closed h
  refine ⟨hplanned, rfl, ?_, hsessions⟩
  obtain ⟨σ', h', -⟩ := hfollows
  simp only [Option.any_eq_true, h'.represents.mem_sessions_iff, h'.represents.displays_iff]

theorem setFocused_transacts (h : s.Planned) (id : PaneId) :
    s.Transacts (setFocused id) fun _ s' _ => s.SameSessions s' := by
  obtain ⟨σ, h⟩ := h.presents
  exact (setFocused_decides h id).transacts fun _ _ _ hfollows => hfollows.same h

theorem navigate_transacts (h : s.Planned) (d : Direction) :
    s.Transacts (navigate d) fun _ s' _ => s.SameSessions s' := by
  obtain ⟨σ, h⟩ := h.presents
  exact (navigate_decides h d).transacts fun _ _ _ hfollows => hfollows.same h

theorem activate_transacts (h : s.Planned) (session : SessionId) :
    s.Transacts (activate session) fun _ s' _ => s.SameSessions s' := by
  obtain ⟨σ, h⟩ := h.presents
  exact (activate_decides h session).transacts fun _ _ _ hfollows => hfollows.same h

theorem setRatio_transacts (h : s.Planned) (id : PaneId) (ratio : Binary64) :
    s.Transacts (setRatio id ratio) fun _ s' _ => s.SameSessions s' := by
  obtain ⟨σ, h⟩ := h.presents
  exact (setRatio_decides h id ratio).transacts fun _ _ _ hfollows => hfollows.same h

end Sessions

end Layout

end Multiplexer
