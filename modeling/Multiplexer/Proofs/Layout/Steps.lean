import Multiplexer.Proofs.Layout.Scene

/-!
# Steps of a layout

An operation is decided by the layout that it is asked of. Either it is refused,
with nothing changed and nothing told, or it goes through and is a step of the
scene that the layout presents.
-/

namespace Multiplexer

namespace Layout

open Edit

/-- The scene that can be seen of a layout. -/
structure Presents (s : Layout) (σ : Scene) : Prop where
  represents : s.Represents σ.plan
  active : s.activeTab = σ.active
  focused : s.focused = σ.focused

/-- A layout that comes of a scene by a step, with what was told. -/
def Follows (s' : Layout) (σ : Scene) (c : Scene.Change) (told : List Notice) : Prop :=
  ∃ σ', s'.Presents σ' ∧ σ.Step c told σ'

/-- An edit that is refused changes nothing and tells nothing; otherwise it goes through, and what
it gives, leaves and tells is as stated. -/
def Decides {α : Type} (s : Layout) (e : Edit α) (refusal : Option LayoutError)
    (post : α → Layout → List Notice → Prop) : Prop :=
  match refusal with
  | some x => s.run e = (.error x, s, [])
  | none => ∃ a s' told, s.run e = (.ok a, s', told) ∧ post a s' told

/-- Why a pane is not taken for a leaf. -/
def leafRefusal? (s : Layout) (id : PaneId) : Option LayoutError :=
  match s.pane? id with
  | some (.leaf _) => none
  | some (.container _) => some (.notALeaf id)
  | none => some (.paneNotFound id)

/-- Why a pane is not taken for a tab or a leaf of the tree. -/
def screenRefusal? (s : Layout) (id : PaneId) : Option LayoutError :=
  (s.leafRefusal? id).or (if id ∈ s.background then some (.paneHidden id) else none)

theorem screenRefusal?_eq_none {s : Layout} {id : PaneId} :
    s.screenRefusal? id = none ↔ ∃ l, s.pane? id = some (.leaf l) ∧ id ∉ s.background := by
  unfold screenRefusal? leafRefusal?
  cases s.pane? id with
  | none => simp
  | some p => cases p <;> simp

section Rules

variable {α : Type} {s s' : Layout} {e : Edit α} {refusal : Option LayoutError}
  {post : α → Layout → List Notice → Prop}

theorem Decides.ofOk {a : α} {told : List Notice} (h : exec e ⟨s, []⟩ = (.ok a, ⟨s', told⟩))
    (hpost : post a s' told) : s.Decides e none post :=
  ⟨a, s', told, by rw [run_eq, h], hpost⟩

theorem Decides.ofError {x : LayoutError} (h : exec e ⟨s, []⟩ = (.error x, ⟨s, []⟩)) :
    s.Decides e (some x) post := by
  unfold Decides
  rw [run_eq, h]

/-- An edit that begins by asking for a leaf has to be looked at only where there is one. -/
theorem Decides.ofLeaf (id : PaneId) {f : Leaf → Edit α} (he : e = requireLeaf id >>= f)
    (hleaf : ∀ l, s.pane? id = some (.leaf l) → s.Decides e refusal post) :
    s.Decides e ((s.leafRefusal? id).or refusal) post := by
  unfold leafRefusal?
  cases hpane : s.pane? id with
  | none =>
    refine .ofError (x := .paneNotFound id) ?_
    simp only [he, exec_bind, exec_requireLeaf, hpane]
  | some p =>
    cases p with
    | container c =>
      refine .ofError (x := .notALeaf id) ?_
      simp only [he, exec_bind, exec_requireLeaf, hpane]
    | leaf l => exact hleaf l hpane

theorem Decides.congr {e' : Edit α} (h : s.Decides e' refusal post)
    (he : exec e ⟨s, []⟩ = exec e' ⟨s, []⟩) : s.Decides e refusal post := by
  have hrun : s.run e = s.run e' := by rw [run_eq, run_eq, he]
  unfold Decides at h ⊢
  rwa [hrun]

theorem Decides.mono {post' : α → Layout → List Notice → Prop} (h : s.Decides e refusal post)
    (hpost : ∀ a s' told, post a s' told → post' a s' told) : s.Decides e refusal post' := by
  cases refusal with
  | some x => exact h
  | none =>
    obtain ⟨a, s', told, hrun, hp⟩ := h
    exact ⟨a, s', told, hrun, hpost a s' told hp⟩

/-- An edit that went through was not refused. -/
theorem Decides.of_run {a : α} {told : List Notice} (h : s.Decides e refusal post)
    (hrun : s.run e = (.ok a, s', told)) : refusal = none ∧ post a s' told := by
  cases refusal with
  | some x =>
    unfold Decides at h
    simp [h] at hrun
  | none =>
    obtain ⟨b, t, told', hrun', hpost⟩ := h
    rw [hrun'] at hrun
    simp only [Prod.mk.injEq, Except.ok.injEq] at hrun
    obtain ⟨rfl, rfl, rfl⟩ := hrun
    exact ⟨rfl, hpost⟩

/-- An edit that has failed was refused, and has changed and told nothing. -/
theorem Decides.of_error {x : LayoutError} {told : List Notice} (h : s.Decides e refusal post)
    (hrun : s.run e = (.error x, s', told)) : refusal = some x ∧ s' = s ∧ told = [] := by
  cases refusal with
  | some y =>
    unfold Decides at h
    rw [h] at hrun
    simp only [Prod.mk.injEq, Except.error.injEq] at hrun
    obtain ⟨rfl, rfl, rfl⟩ := hrun
    exact ⟨rfl, rfl, rfl⟩
  | none =>
    obtain ⟨a, t, told', hrun', -⟩ := h
    simp [hrun'] at hrun

theorem Decides.map {β : Type} {post : Layout → List Notice → Prop}
    (h : s.Decides e refusal fun _ => post) (f : α → β) :
    s.Decides (f <$> e) refusal fun _ => post := by
  unfold Decides at h ⊢
  rw [run_map]
  cases refusal with
  | some x =>
    rw [h]
    rfl
  | none =>
    obtain ⟨a, s', told, hrun, hp⟩ := h
    exact ⟨f a, s', told, by rw [hrun]; rfl, hp⟩

end Rules

variable {s s' : Layout} {σ σ' : Scene} {q : Plan}

section Presents

theorem Presents.refocus (h : s.Presents σ) (target : Option PaneId) :
    (s.refocus target).Presents (σ.refocus target) where
  represents := by
    have hrefocus := h.represents.refocus target
    rw [h.focused] at hrefocus
    exact hrefocus
  active := by
    rw [refocus_eq]
    exact h.active
  focused := by
    rw [refocus_eq]
    rfl

theorem Presents.showTab (h : s.Presents σ) (id : PaneId) :
    (s.showTab id).Presents (σ.front id) where
  represents := by
    have hshow := h.represents.showTab id
    rw [h.represents.tabs] at hshow
    exact hshow
  active := by
    rw [showTab_eq]
    rfl
  focused := by
    rw [showTab_eq]
    exact h.focused

end Presents

section Growing

/-! Operations that add a leaf. -/

/-- A leaf whose id was not given out yet comes as a new one. -/
theorem Represents.joins (h : s.Represents q) {id : PaneId} (hid : s.nextId ≤ id.number)
    (session : Option SessionId) :
    q.Joins { id, session, primary := session.any fun x => !s.hasPrimary x } where
  apart k hk he := by
    have hlt := h.fresh k.id (Plan.id_mem_ids hk)
    rw [he] at hlt
    exact Nat.not_lt.mpr hid hlt
  unfocused := rfl
  visible := rfl
  yields hprimary := by
    obtain ⟨x, hx, hnone⟩ := (Option.any_eq_true _ _).mp hprimary
    refine ⟨x, hx, fun hx' => ?_⟩
    rw [h.hasPrimary_iff.mpr hx'] at hnone
    simp at hnone
  heads x hx := by
    by_cases hp : s.hasPrimary x = true
    · obtain ⟨l, hl, hs, -⟩ := h.hasPrimary_iff.mp hp
      exact .inl ⟨l, hl, hs⟩
    · have hx' : session = some x := hx
      exact .inr (by simp [hx', hp])

/-- A root in an empty layout. -/
theorem Represents.root_of_empty (h : s.Represents {}) (l : Leaf) (hl : l.id = ⟨s.nextId⟩)
    (hparent : l.parent = none) :
    Represents { ({ s with nextId := s.nextId + 1 } : Layout).add (.leaf l) with root := some l.id }
      ⟨some (.leaf l), [], []⟩ where
  panes := by
    have hnil : s.panes = [] := by simpa [Plan.panes_eq, Plan.parked] using h.panes
    have hsame : { l with parent := none } = l := by rw [← hparent]
    simp [add, hnil, Plan.panes_eq, Plan.parked, SplitTree.panes, hsame]
  root := rfl
  tabs := h.tabs
  background := h.background
  nodup := by simp [Plan.ids_eq, SplitTree.ids]
  fresh id hid := by
    have hid' : id = ⟨s.nextId⟩ := by simpa [Plan.ids_eq, SplitTree.ids, hl] using hid
    simp [hid', add]
  mode := .inr rfl
  behind h := by simp at h

/-- In tree mode or in tabbed mode, a layout has a root, tabs or background panes unless it is
empty. -/
theorem Represents.busy_eq (h : s.Represents q) :
    (s.root.isSome || s.tabbed || !s.background.isEmpty) = !s.isEmpty := by
  have hempty : s.isEmpty = true ↔ (s.root = none ∧ s.tabs = []) ∧ s.background = [] := by
    rw [h.isEmpty_iff, h.root, h.tabs, h.background]
    obtain ⟨tree, tabs, bg⟩ := q
    simp [and_assoc]
  rw [Bool.eq_iff_iff, Bool.not_eq_true', ← Bool.not_eq_true, hempty]
  cases hroot : s.root with
  | none =>
    simp [tabbed]
    tauto
  | some r => simp

theorem createRoot_decides (h : s.Presents σ) (session : Option SessionId) :
    s.Decides (createRoot session) (if s.isEmpty then none else some .rootExists)
      fun _ s' told => s'.Follows σ (.grown session) told := by
  have hbusy := h.represents.busy_eq
  cases hempty : s.isEmpty with
  | false =>
    refine .ofError ?_
    simp only [createRoot, exec_bind, exec_layout, hbusy, hempty, Bool.not_false, if_true,
      exec_throw]
  | true =>
    have hplan : σ.plan = {} := h.represents.isEmpty_iff.mp hempty
    have hrepresents := h.represents
    rw [hplan] at hrepresents
    let l : Leaf :=
      { id := ⟨s.nextId⟩, session, primary := session.any fun x => !s.hasPrimary x }
    let s₁ : Layout :=
      { ({ s with nextId := s.nextId + 1 } : Layout).add (.leaf l) with root := some l.id }
    have hroot : s₁.Presents ⟨⟨some (.leaf l), [], []⟩, σ.active, σ.focused⟩ :=
      ⟨hrepresents.root_of_empty l rfl rfl, h.active, h.focused⟩
    have hrun : exec (createRoot session) ⟨s, []⟩ =
        (.ok l.id, ⟨s₁.refocus (some l.id), [.changed, .focus (some l.id)]⟩) := by
      simp only [createRoot, exec_bind, exec_layout, hbusy, hempty, Bool.not_true,
        Bool.false_eq_true, if_false, exec_newId, exec_update, exec_finish, List.nil_append]
      rfl
    exact .ofOk hrun
      ⟨_, hroot.refocus _, .rooted l hplan (h.represents.joins (Nat.le_refl _) session)⟩

/-- What a split comes upon: a leaf with a place in the tree. -/
theorem exec_prepareSplit (h : s.Presents σ) (id : PaneId) : match s.screenRefusal? id with
    | some x => exec (prepareSplit id) ⟨s, []⟩ = (.error x, ⟨s, []⟩)
    | none => ∃ (s' : Layout) (ctx : Context) (l : Leaf) (bg : List Leaf) (active : Option PaneId),
      exec (prepareSplit id) ⟨s, []⟩ = (.ok (), ⟨s', []⟩) ∧ l.id = id ∧ σ.Ready ctx l bg active ∧
      s'.Presents ⟨⟨some (ctx.fill (.leaf l)), [], bg⟩, active, σ.focused⟩ := by
  obtain ⟨q, active, focused⟩ := σ
  have hr : s.Represents q := h.represents
  unfold screenRefusal? leafRefusal?
  simp only [prepareSplit, exec_bind, exec_requireLeaf]
  cases hpane : s.pane? id with
  | none => rfl
  | some p =>
    cases p with
    | container c => rfl
    | leaf l =>
      obtain ⟨hholds, rfl⟩ := hr.holds hpane
      cases hholds with
      | tab as bs k =>
        have hbg : s.background = [] := hr.background
        have htab : k.id ∈ s.tabs := by simp [hr.tabs]
        have hplant : (s.plant k.id).Presents
            ⟨⟨some (.leaf k.expose), [], (as ++ bs).map Leaf.hide⟩, none, focused⟩ :=
          ⟨hr.plant, rfl, (s.focused_plant k.id).trans h.focused⟩
        simp only [hbg, List.not_mem_nil, if_false, Option.or_none]
        exact ⟨s.plant k.id, [], k.expose, _, _, by simp [hbg, htab], rfl, .tab as bs k rfl, hplant⟩
      | hidden t as bs k =>
        have hbg : k.id ∈ s.background := by simp [hr.background]
        simp [hbg]
      | tree ctx k bg =>
        have hbg : k.id ∉ s.background := hr.not_hidden
        have htabs : s.tabs = [] := hr.tabs
        simp only [hbg, if_false, Option.or_none]
        exact ⟨s, ctx, k, bg, _, by simp [hbg, htabs], rfl, .tree ctx k bg rfl, h⟩

/-- What becomes of a layout when a leaf is split and the new one focused. -/
theorem exec_split (h : s.Presents σ) (id : PaneId) (o : Orientation)
    (session : Option SessionId) (primary : Layout → Bool)
    (hjoins : ∀ (s₁ : Layout) (q₁ : Plan) (new : PaneId), s₁.Represents q₁ → σ.plan.Adds [] q₁ →
      s₁.nextId ≤ new.number → q₁.Joins { id := new, session, primary := primary s₁ }) :
    match s.screenRefusal? id with
    | some x => exec (prepareSplit id) ⟨s, []⟩ = (.error x, ⟨s, []⟩)
    | none => ∃ (s₁ s₂ : Layout) (new : PaneId),
      exec (prepareSplit id) ⟨s, []⟩ = (.ok (), ⟨s₁, []⟩) ∧
      exec (insertSplit id o session (primary s₁)) ⟨s₁, []⟩ = (.ok new, ⟨s₂, []⟩) ∧
      (s₂.refocus (some new)).Follows σ (.grown session) [.changed, .focus (some new)] := by
  have hprepare := exec_prepareSplit h id
  cases hrefusal : s.screenRefusal? id with
  | some x =>
    rw [hrefusal] at hprepare
    exact hprepare
  | none =>
    rw [hrefusal] at hprepare
    obtain ⟨s₁, ctx, l, bg, active, hprepare, rfl, hready, h₁⟩ := hprepare
    obtain ⟨ps, r, hinsert, h₂⟩ := exec_insertSplit h₁.represents o session (primary s₁) []
    have h₂' : Presents { s₁ with panes := ps, root := r, nextId := s₁.nextId + 2 }
        ⟨⟨some (ctx.fill (.node ⟨s₁.nextId⟩ o s₁.splitRatio (.leaf l)
          (.leaf { id := ⟨s₁.nextId + 1⟩, session, primary := primary s₁ }))), [], bg⟩,
          active, σ.focused⟩ := ⟨h₂, h₁.active, h₁.focused⟩
    exact ⟨s₁, _, _, hprepare, hinsert, _, h₂'.refocus _, .split ctx l
      { id := ⟨s₁.nextId + 1⟩, session, primary := primary s₁ } bg active _ o _ hready
        (hjoins s₁ _ _ h₁.represents hready.adds (Nat.le_succ _))⟩

/-- A split is refused, or it is a step of the scene. -/
theorem split_decides (h : s.Presents σ) (id : PaneId) (o : Orientation)
    (session : Option SessionId) : s.Decides (split id o session) (s.screenRefusal? id)
      fun _ s' told => s'.Follows σ (.grown session) told := by
  have hsplit := exec_split h id o session (fun s => session.any fun x => !s.hasPrimary x)
    fun s₁ q₁ new h₁ _ hnew => h₁.joins hnew session
  cases hrefusal : s.screenRefusal? id with
  | some x =>
    rw [hrefusal] at hsplit
    exact .ofError (by simp only [split, exec_bind, hsplit])
  | none =>
    rw [hrefusal] at hsplit
    obtain ⟨s₁, s₂, new, hprepare, hinsert, hfollows⟩ := hsplit
    have hrun : exec (split id o session) ⟨s, []⟩ =
        (.ok new, ⟨s₂.refocus (some new), [.changed, .focus (some new)]⟩) := by
      simp only [split, exec_bind, hprepare, exec_layout, hinsert, exec_finish, List.nil_append]
    exact .ofOk hrun hfollows

/-- Why a pane is not mirrored. A leaf without a session is never refused; it stays as it is. -/
def mirrorRefusal? (s : Layout) (id : PaneId) : Option LayoutError :=
  match s.pane? id with
  | some (.leaf l) => if l.session.isNone then none else s.screenRefusal? id
  | _ => s.leafRefusal? id

theorem mirror_decides (h : s.Presents σ) (id : PaneId) (o : Orientation) :
    s.Decides (mirror id o) (s.mirrorRefusal? id) fun _ s' told =>
      ∃ l, s.pane? id = some (.leaf l) ∧
        s'.Follows σ (if l.session.isNone then .rearranged else .grown l.session) told := by
  have hrefusal : s.mirrorRefusal? id = (s.leafRefusal? id).or (s.mirrorRefusal? id) := by
    unfold mirrorRefusal? leafRefusal?
    cases s.pane? id with
    | none => rfl
    | some p => cases p <;> rfl
  rw [hrefusal]
  refine .ofLeaf id rfl fun l hpane => ?_
  simp only [mirrorRefusal?, hpane]
  cases hsession : l.session with
  | none =>
    have hrun : exec (mirror id o) ⟨s, []⟩ = (.ok id, ⟨s, []⟩) := by
      simp [mirror, exec_requireLeaf, hpane, hsession]
    exact .ofOk hrun ⟨l, rfl, _, h, by simpa [hsession] using Scene.Step.idle⟩
  | some session =>
    have hshown : σ.plan.Shows session := by
      have hleaf : s.leaf? id = some l := by simp [leaf?, hpane]
      obtain ⟨k, hk, he, -⟩ := h.represents.leaf?_eq_some hleaf
      exact ⟨k, hk, by rw [he] at hsession; exact hsession⟩
    -- The session is shown already, so the new leaf has no claim to the primary flag.
    have hsplit := exec_split h id o (some session) (fun _ => false)
      fun s₁ q₁ new h₁ hadds hnew =>
        ⟨(h₁.joins hnew none).apart, rfl, rfl, by simp, fun x hx => by
          obtain rfl : session = x := by simpa using hx
          exact .inl ((hadds.shows_iff session).mpr (.inr hshown))⟩
    cases hscreen : s.screenRefusal? id with
    | some x =>
      rw [hscreen] at hsplit
      refine .ofError (x := x) ?_
      simp [mirror, exec_requireLeaf, hpane, hsession, hsplit]
    | none =>
      rw [hscreen] at hsplit
      obtain ⟨s₁, s₂, new, hprepare, hinsert, hfollows⟩ := hsplit
      have hrun : exec (mirror id o) ⟨s, []⟩ =
          (.ok new, ⟨s₂.refocus (some new), [.changed, .focus (some new)]⟩) := by
        simp [mirror, exec_requireLeaf, hpane, hsession, hprepare, hinsert]
      exact .ofOk hrun ⟨l, rfl, by simpa [hsession] using hfollows⟩

end Growing

section Closing

/-! Operations that take leaves away. -/

/-- The part of closing a leaf that takes it out of the arena. -/
def takeOut (s : Layout) (l : Leaf) : Edit (Option PaneId) :=
  if s.tabs.contains l.id then closeTab l.id
  else if s.background.contains l.id then do
    update fun s => { s.remove l.id with background := s.background.erase l.id }
    pure s.focused
  else closeTreeLeaf l

theorem exec_takeOut_tab (h : s.Presents σ) {as bs : List Leaf} {l : Leaf}
    (hplan : σ.plan = ⟨none, as ++ l :: bs, []⟩) :
    ∃ (focus : Option PaneId) (s' : Layout) (q : Plan) (active : Option PaneId),
      exec (closeTab l.id) ⟨s, []⟩ = (.ok focus, ⟨s', []⟩) ∧
      σ.Taken { l with parent := none } q active focus ∧ s'.Presents ⟨q, active, σ.focused⟩ := by
  have hr := h.represents
  rw [hplan] at hr
  have hrun := exec_closeTab hr []
  have hremoved : Presents { s.remove l.id with tabs := s.tabs.erase l.id }
      ⟨⟨none, as ++ bs, []⟩, σ.active, σ.focused⟩ := ⟨hr.removeTab, h.active, h.focused⟩
  cases hlast : (as ++ bs).getLast? with
  | none =>
    rw [hlast] at hrun
    have hnil : as = [] ∧ bs = [] := by simpa using List.getLast?_eq_none_iff.mp hlast
    obtain ⟨rfl, rfl⟩ := hnil
    exact ⟨_, _, {}, none, hrun, .lastTab l hplan, hr.removeTab.withFocus _ none, rfl, h.focused⟩
  | some k =>
    rw [hlast] at hrun
    by_cases hactive : s.activeTab = some l.id
    · simp only [hactive, if_true] at hrun
      exact ⟨_, _, _, _, hrun, .frontTab as bs l k hplan (h.active.symm.trans hactive) hlast,
        hremoved.showTab k.id⟩
    · simp only [hactive, if_false] at hrun
      rw [h.focused] at hrun
      have hsome : as ++ bs ≠ [] := by
        rintro hnil
        simp [hnil] at hlast
      exact ⟨_, _, _, _, hrun, .otherTab as bs l hplan (h.active ▸ hactive) hsome, hremoved⟩

theorem exec_takeOut (h : s.Presents σ) {l : Leaf} (hl : s.pane? l.id = some (.leaf l)) :
    ∃ (focus : Option PaneId) (s' : Layout) (q : Plan) (active : Option PaneId),
      exec (takeOut s l) ⟨s, []⟩ = (.ok focus, ⟨s', []⟩) ∧ σ.Taken l q active focus ∧
      s'.Presents ⟨q, active, σ.focused⟩ := by
  obtain ⟨q, active, focused⟩ := σ
  have hr : s.Represents q := h.represents
  have hfocused : s.focused = focused := h.focused
  obtain ⟨hholds, -⟩ := hr.holds hl
  cases hholds with
  | tab as bs k =>
    have htab : s.tabs.contains k.id = true := by simp [hr.tabs]
    simp only [takeOut, htab, if_true]
    exact exec_takeOut_tab h rfl
  | hidden t as bs k =>
    have htab : s.tabs.contains k.id = false := by simp [hr.tabs]
    have hbg : s.background.contains k.id = true := by simp [hr.background]
    refine ⟨focused, _, _, active, ?_, .hidden t as bs k rfl, hr.removeHidden, h.active, h.focused⟩
    simp only [takeOut, htab, hbg, Bool.false_eq_true, if_true, if_false, exec_bind, exec_update,
      exec_pure, hfocused]
  | tree ctx k bg =>
    have htab : s.tabs.contains k.id = false := by simp [hr.tabs]
    have hbg : s.background.contains k.id = false := by simpa using hr.not_hidden
    simp only [takeOut, htab, hbg, Bool.false_eq_true, if_false]
    cases ctx with
    | nil =>
      obtain ⟨s', hrun, h', hactive, hfocus⟩ := exec_closeTreeLeaf_root hr []
      exact ⟨_, s', _, active, hrun, .root k bg rfl, h', hactive.trans h.active,
        hfocus.trans h.focused⟩
    | cons f ctx =>
      obtain ⟨ps, r, hrun, h'⟩ := exec_closeTreeLeaf hr []
      have htaken : Scene.Taken ⟨_, active, focused⟩ _ _ _ _ := .tree f ctx k bg rfl
      exact ⟨_, _, _, active, hrun, hfocused ▸ htaken, h', h.active, h.focused⟩

/-- The part of closing a leaf that comes after it is out of the arena. -/
def conclude (l : Leaf) (focus : Option PaneId) : Edit ClosedPane := do
  match l.session with
  | some session => if l.primary then update (·.promote session)
  | none => pure ()
  settle focus
  let s ← layout
  return { pane := l.id, session := l.session, stillDisplayed := l.session.any s.displays }

theorem exec_close {l : Leaf} (hl : s.pane? l.id = some (.leaf l)) :
    exec (close l.id) ⟨s, []⟩ = exec (takeOut s l >>= conclude l) ⟨s, []⟩ := by
  have hclose : exec (close l.id) ⟨s, []⟩ = exec (if s.tabs.contains l.id then
      closeTab l.id >>= conclude l else if s.background.contains l.id then
        (do
          update fun s => { s.remove l.id with background := s.background.erase l.id }
          conclude l s.focused)
      else closeTreeLeaf l >>= conclude l) ⟨s, []⟩ := by
    simp only [close, exec_bind _ _ ⟨s, []⟩, exec_requireLeaf, hl, exec_layout, conclude,
      bind_pure_comp]
    rfl
  rw [hclose]
  unfold takeOut
  by_cases htab : s.tabs.contains l.id = true
  · rw [if_pos htab, if_pos htab]
  · rw [if_neg htab, if_neg htab]
    by_cases hbg : s.background.contains l.id = true
    · rw [if_pos hbg, if_pos hbg]
      rfl
    · rw [if_neg hbg, if_neg hbg]

/-- The layout in which the primary flag of a leaf that is gone has been passed on. -/
def bequeathed (s : Layout) (l : Leaf) : Layout :=
  match l.session with
  | some session => if l.primary then s.promote session else s
  | none => s

theorem Presents.bequeathed (h : s.Presents σ) (l : Leaf) :
    ∃ q, σ.plan.Bequeaths l q ∧ (s.bequeathed l).Presents ⟨q, σ.active, σ.focused⟩ := by
  unfold Layout.bequeathed
  cases hsession : l.session with
  | none => exact ⟨σ.plan, .keep (by simp [hsession]), h⟩
  | some session =>
    by_cases hp : l.primary = true
    · simp only [hp, if_true]
      have hpromote := h.represents.promote session
      cases hheir : s.heir? session with
      | none =>
        have hsame : s.promote session = s := by
          rw [promote_eq, hheir, Option.toList_none, Leaf.crown_nil, mapLeaves_id]
        refine ⟨σ.plan, .keep fun x hx _ hshows => ?_, by rwa [hsame]⟩
        obtain rfl : session = x := Option.some.inj (hsession.symm.trans hx)
        exact h.represents.heir?_eq_none hheir hshows
      | some id =>
        obtain ⟨hnone, heir, hmem, rfl, hs⟩ := h.represents.heir?_eq_some hheir
        have hnodup : (σ.plan.leaves.map Leaf.id).Nodup :=
          h.represents.everyLeaf_eq ▸ h.represents.nodup_everyLeaf
        rw [hheir] at hpromote
        rw [promote_eq] at hpromote ⊢
        exact ⟨_, .pass session heir hsession hnone hmem hs hnodup, hpromote, h.active, h.focused⟩
    · exact ⟨σ.plan, .keep (by simp [hp]), by simpa [hp] using h⟩

theorem exec_conclude (s : Layout) (l : Leaf) (focus : Option PaneId) :
    let s' := (s.bequeathed l).refocus focus
    exec (conclude l focus) ⟨s, []⟩ = (.ok ⟨l.id, l.session, l.session.any s'.displays⟩,
      ⟨s', if s.focused = focus then [.changed] else [.changed, .focus focus]⟩) := by
  unfold conclude Layout.bequeathed
  cases hsession : l.session with
  | none => simp
  | some session => by_cases hp : l.primary = true <;> simp [hp, promote_eq, mapLeaves]

/-- Closing a pane is refused, or it is a step of the scene. -/
theorem close_decides (h : s.Presents σ) (id : PaneId) :
    s.Decides (close id) (s.leafRefusal? id) fun c s' told => ∃ l, s.pane? id = some (.leaf l) ∧
      c = ⟨id, l.session, l.session.any s'.displays⟩ ∧ s'.Follows σ (.closed l) told := by
  have hrefusal : s.leafRefusal? id = (s.leafRefusal? id).or none := by simp
  rw [hrefusal]
  refine .ofLeaf id rfl fun l hpane => ?_
  obtain rfl : l.id = id := (h.represents.holds hpane).2
  obtain ⟨focus, s₁, q, active, htake, htaken, h₁⟩ := exec_takeOut h hpane
  obtain ⟨q', hbequeaths, h₂⟩ := h₁.bequeathed l
  have hrun := exec_close hpane
  rw [exec_bind, htake] at hrun
  refine .ofOk (hrun.trans (exec_conclude s₁ l focus)) ⟨l, hpane, rfl, _, h₂.refocus focus, ?_⟩
  rw [show s₁.focused = σ.focused from h₁.focused]
  exact .closed l q q' active focus htaken hbequeaths

theorem run_reset (s : Layout) : s.run reset =
    (.ok (), { splitRatio := s.splitRatio, nextId := s.nextId },
      if s.focused = none then [.changed] else [.changed, .focus none]) := by
  cases hfocus : s.focused <;> simp [run_eq, reset, hfocus]

theorem reset_decides (h : s.Presents σ) :
    s.Decides reset none fun _ s' told => s'.Follows σ .cleared told := by
  refine ⟨_, _, _, s.run_reset, {}, ⟨.empty _ _, rfl, rfl⟩, ?_⟩
  rw [h.focused]
  exact .cleared

end Closing

end Layout

end Multiplexer
