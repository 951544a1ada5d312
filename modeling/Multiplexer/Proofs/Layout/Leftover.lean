import Multiplexer.Proofs.Layout.Reversal

/-!
# What a pane leaves behind

A pane that comes and is closed at once need not leave the layout as it found
it. If it was split off a tab, the tabs are a tree now; if it was a tab, the
layout is tabbed, with the last of the other tabs in front. And the focus is
where the close has put it.
-/

namespace Multiplexer

/-- A new tab in front, its focus and its end leave no trace on the leaves beside it. -/
theorem Leaf.front_refocus_front {old : Option PaneId} {ids : List PaneId} {new : PaneId} {l : Leaf}
    (h : l.focused = true ↔ old = some l.id) (hne : l.id ≠ new) (id : PaneId) :
    Leaf.refocus (some new) (some id) (Leaf.front ids id
      (Leaf.refocus old (some new) (Leaf.front (ids ++ [new]) new l))) =
      Leaf.refocus old (some id) (Leaf.front ids id l) := by
  have hmark : ∀ (ids : List PaneId) (i : PaneId),
      ((Leaf.front ids i l).focused = true ↔ old = some (Leaf.front ids i l).id) := fun ids i => by
    rw [Leaf.focused_front, (Leaf.FlagChange.ofFront _ _).id]
    exact h
  rw [Leaf.refocus_of_mark (hmark _ _), Leaf.refocus_of_mark (hmark _ _), Leaf.refocus_of_mark]
  · by_cases hmem : l.id ∈ ids <;> simp [Leaf.front, hmem, hne]
  · by_cases hmem : l.id ∈ ids <;> simp [Leaf.front, hmem, hne, Ne.symm hne]

/-- Where there are no tabs none is active, and where none come of a tree nothing has the focus. -/
theorem Scene.Gathered.at_rest {σ : Scene} {focused : Option PaneId}
    (hgathered : σ.Gathered [] focused) (h : σ.Orderly) : σ.active = none ∧ focused = none := by
  have hactive : σ.plan.tabs = [] → σ.active = none := by
    intro htabs
    rw [Option.eq_none_iff_forall_ne_some]
    intro id hid
    obtain ⟨l, hl, -⟩ := h.lit.member id hid
    simp [htabs] at hl
  cases hgathered with
  | tabs tabs hplan =>
    exact ⟨hactive (by rw [hplan]), h.aimed.none (by rw [hplan]) (by rw [hplan])⟩
  | tree tree tabs bg hplan => exact ⟨hactive (by rw [hplan]), by simp⟩

namespace Layout

open Edit

/-- What is left when a leaf has been split and the new one is closed. -/
def unsplit (s : Layout) (id : PaneId) : Layout :=
  Layout.refocus { (if s.tabs.contains id then s.plant id else s) with nextId := s.nextId + 2 }
    (some id)

/-- The last tab, if there is one, comes to the front. -/
def fronted (s : Layout) : Layout :=
  match s.tabs.getLast? with
  | some id => (s.showTab id).refocus (some id)
  | none => s

/-- What is left when a tab has been made and is closed. -/
def untabbed (s : Layout) : Layout :=
  fronted { s.asTabs with nextId := s.nextId + 1 }

variable {s s₁ : Layout} {σ : Scene} {told : List Notice}

section Split

theorem Regular.run_split_close (h : s.Regular σ) {id new : PaneId} {o : Orientation}
    {session : Option SessionId} (hrun : s.run (split id o session) = (.ok new, s₁, told)) :
    ∃ c told', s₁.run (close new) = (.ok c, s.unsplit id, told') := by
  obtain ⟨hrefusal, -⟩ := (split_decides h.presents id o session).of_run hrun
  have hprepare := exec_prepareSplit h.presents id
  rw [hrefusal] at hprepare
  obtain ⟨s', ctx, l, bg, active, hprepare, rfl, hready, h'⟩ := hprepare
  have hs' : s' = if s.tabs.contains l.id then s.plant l.id else s := exec_prepareSplit_ok hprepare
  have hnext : s'.nextId = s.nextId := nextId_prepareSplit hprepare
  let primary := session.any fun x => !s'.hasPrimary x
  have hinsert := (exec_insertSplit_eq h'.represents o session primary []).1
  have hran : s.run (split l.id o session) = (.ok ⟨s'.nextId + 1⟩,
      (s'.spliced { l with parent := ctx.parent } o session primary).refocus
        (some ⟨s'.nextId + 1⟩), [.changed, .focus (some ⟨s'.nextId + 1⟩)]) := by
    simp only [run_eq, split, exec_bind, hprepare, exec_layout, hinsert, exec_finish,
      List.nil_append, primary]
  obtain ⟨rfl, rfl, -⟩ : _ = new ∧ _ = s₁ ∧ _ = told := by
    simpa using hran.symm.trans hrun
  have hmarked : s'.Marked :=
    h'.represents.marked ((Plan.Marked.adds hready.adds).mpr
      ⟨by simp, h'.focused.symm ▸ h.orderly.marked⟩)
  obtain ⟨c, told', hclose⟩ := h'.represents.close_spliced hmarked o session primary
    fun hprimary x hx => h'.represents.yields (h.headed.ofAdds hready.adds) hprimary hx
  refine ⟨c, told', hclose.trans ?_⟩
  rw [unsplit, ← hs', hnext]

end Split

section Tab

/-- The flags that a new tab leaves on itself and the others. -/
def debut (s : Layout) (new : PaneId) : Leaf → Leaf :=
  Leaf.refocus s.focused (some new) ∘ Leaf.front (s.tabs ++ [new]) new

theorem debut_flagChange (s : Layout) (new : PaneId) : Leaf.FlagChange (s.debut new) :=
  (Leaf.FlagChange.ofRefocus _ _).comp (.ofFront _ _)

/-- A layout with the flags that a new tab leaves, once that tab is gone. -/
def beneath (s : Layout) (new : PaneId) : Layout :=
  { ({ s with nextId := s.nextId + 1 } : Layout).mapLeaves (s.debut new) with
    activeTab := some new, focused := some new }

variable {q : Plan} {l : Leaf}

/-- Taking the pane of a new tab out leaves the others, with their flags as the new tab made them. -/
theorem Represents.remove_withTab (h : s.Represents q) (hl : l.id = ⟨s.nextId⟩) :
    let s₁ := ((s.withTab l).showTab l.id).refocus (some l.id)
    ({ s₁.remove l.id with tabs := s₁.tabs.erase l.id } : Layout) = s.beneath l.id := by
  intro s₁
  have hflags : (s.withTab l).mapLeaves (s.debut l.id) =
      ((s.withTab l).mapLeaves (Leaf.front (s.tabs ++ [l.id]) l.id)).mapLeaves
        (Leaf.refocus s.focused (some l.id)) := (mapLeaves_mapLeaves _ _ _).symm
  have hs₁ : s₁ = { (s.withTab l).mapLeaves (s.debut l.id) with
      activeTab := some l.id, focused := some l.id } := by
    rw [hflags]
    simp only [s₁, refocus_eq, showTab_eq]
    rfl
  have hfresh : ∀ p ∈ s.panes, p.id ≠ l.id := fun p hp =>
    h.id_ne_fresh hp (hl ▸ Nat.le_refl _)
  have hgone : (s.withTab l).remove l.id =
      { s with nextId := s.nextId + 1, tabs := s.tabs ++ [l.id] } := by
    have hstay : s.panes.filter (fun p => p.id ≠ l.id) = s.panes :=
      List.filter_eq_self.mpr fun p hp => by simpa using hfresh p hp
    have hpanes : (s.panes ++ [Pane.leaf l]).filter (fun p => p.id ≠ l.id) = s.panes := by
      rw [List.filter_append, hstay]
      simp
    simp only [withTab, add, remove, hpanes]
  have htabs : (s.tabs ++ [l.id]).erase l.id = s.tabs := by
    have hnot : l.id ∉ s.tabs := by
      rw [h.tabs]
      intro hmem
      obtain ⟨k, hk, hid⟩ := List.mem_map.mp hmem
      have hlt := h.fresh k.id (Plan.id_mem_ids (by simp [Plan.leaves_eq, hk]))
      rw [hid, hl] at hlt
      exact Nat.lt_irrefl _ hlt
    rw [List.erase_append_right _ hnot]
    simp
  rw [hs₁]
  show ({ ((s.withTab l).mapLeaves (s.debut l.id)).remove l.id with
    tabs := (s.tabs ++ [l.id]).erase l.id, activeTab := some l.id, focused := some l.id } :
      Layout) = _
  rw [remove_mapLeaves (s.debut_flagChange l.id), hgone, htabs]
  rfl

/-- Bringing a tab to the front leaves no trace of a tab that was in front meanwhile. -/
theorem Marked.front_beneath (h : s.Marked) {new : PaneId} (hnew : ∀ k ∈ s.held, k.id ≠ new)
    (id : PaneId) : ((s.beneath new).showTab id).refocus (some id) =
      Layout.refocus (Layout.showTab { s with nextId := s.nextId + 1 } id) (some id) := by
  have hpanes : s.panes.map (Pane.mapLeaf ((Leaf.refocus (some new) (some id) ∘
      Leaf.front s.tabs id) ∘ s.debut new)) =
      s.panes.map (Pane.mapLeaf (Leaf.refocus s.focused (some id) ∘ Leaf.front s.tabs id)) := by
    refine List.map_congr_left fun p hp => ?_
    cases p with
    | leaf k =>
      have hk : k ∈ s.held := mem_held.mpr hp
      exact congrArg Pane.leaf (Leaf.front_refocus_front (h k hk) (hnew k hk) id)
    | container c => rfl
  rw [refocus_eq, refocus_eq, showTab_eq, showTab_eq]
  show ({ ((({ s with nextId := s.nextId + 1 } : Layout).mapLeaves _).mapLeaves
      (Leaf.front s.tabs id)).mapLeaves (Leaf.refocus (some new) (some id)) with
    activeTab := some id, focused := some id } : Layout) =
    { (({ s with nextId := s.nextId + 1 } : Layout).mapLeaves (Leaf.front s.tabs id)).mapLeaves
      (Leaf.refocus s.focused (some id)) with activeTab := some id, focused := some id }
  rw [mapLeaves_mapLeaves, mapLeaves_mapLeaves, mapLeaves_mapLeaves]
  simp only [mapLeaves, hpanes]

theorem Represents.beneath (h : s.Represents q) (new : PaneId) :
    (s.beneath new).Represents (q.map (s.debut new)) :=
  ((h.withNextId (Nat.le_succ _)).mapLeaves (s.debut_flagChange new)).withFocus (some new)
    (some new)

theorem Represents.newTab {tabs : List Leaf} (h : s.Represents ⟨none, tabs, []⟩)
    (hl : l.id = ⟨s.nextId⟩) (hparent : l.parent = none) :
    (((s.withTab l).showTab l.id).refocus (some l.id)).Represents
      ⟨none, tabs.map (s.debut l.id) ++ [s.debut l.id l], []⟩ := by
  have hnew := ((h.appendTab l hl hparent).showTab l.id).refocus (some l.id)
  have hfocused : ((s.withTab l).showTab l.id).focused = s.focused := by
    rw [showTab_eq]
    rfl
  have hplan : ((⟨none, tabs ++ [l], []⟩ : Plan).map (Leaf.front (s.tabs ++ [l.id]) l.id)).map
      (Leaf.refocus ((s.withTab l).showTab l.id).focused (some l.id)) =
      ⟨none, tabs.map (s.debut l.id) ++ [s.debut l.id l], []⟩ := by
    rw [hfocused, Plan.map_map]
    simp [Plan.map, debut]
  exact hplan ▸ hnew

/-- Nothing is left of a tab that was the only one. -/
theorem beneath_empty (hpanes : s.panes = []) (hactive : s.activeTab = none)
    (hfocused : s.focused = none) (new : PaneId) :
    Layout.refocus { s.beneath new with activeTab := none } none =
      { s with nextId := s.nextId + 1 } := by
  obtain ⟨panes, root, tabs, active, background, focused, ratio, n⟩ := s
  obtain rfl : panes = [] := hpanes
  obtain rfl : active = none := hactive
  obtain rfl : focused = none := hfocused
  rw [refocus_eq]
  rfl

/-- Nobody takes over what only a new leaf has shown. -/
theorem Represents.bequeathed_beneath (h : s.Represents q) {k : Leaf} (new : PaneId)
    {f : Leaf → Leaf} (hf : Leaf.FlagChange f) (active : Option PaneId)
    (hyields : k.primary = true → ∀ x, k.session = some x → s.displays x = false) :
    let u : Layout := { (s.beneath new).mapLeaves f with activeTab := active }
    u.bequeathed k = u := by
  intro u
  refine bequeathed_eq_self fun hprimary x hx => ?_
  have hu : u.Represents ((q.map (s.debut new)).map f) :=
    ((h.beneath new).mapLeaves hf).withFocus _ _
  rw [← Bool.not_eq_true, hu.displays_iff, Plan.shows_map hf,
    Plan.shows_map (s.debut_flagChange _), ← h.displays_iff, hyields hprimary x hx]
  simp

/-- A new tab that is closed lets the last of the others come to the front. -/
theorem Represents.close_newTab {tabs : List Leaf} (h : s.Represents ⟨none, tabs, []⟩)
    (hmarked : s.Marked) (hempty : s.tabs = [] → s.activeTab = none ∧ s.focused = none)
    (hl : l.id = ⟨s.nextId⟩) (hparent : l.parent = none)
    (hyields : l.primary = true → ∀ x, l.session = some x → s.displays x = false) :
    ∃ c told, (((s.withTab l).showTab l.id).refocus (some l.id)).run (close l.id) =
      (.ok c, fronted { s with nextId := s.nextId + 1 }, told) := by
  let s₁ := ((s.withTab l).showTab l.id).refocus (some l.id)
  let k : Leaf := { s.debut l.id l with parent := none }
  have hid : (s.debut l.id l).id = l.id := (s.debut_flagChange l.id).id l
  have h₁ : s₁.Represents ⟨none, tabs.map (s.debut l.id) ++ [s.debut l.id l], []⟩ :=
    h.newTab hl hparent
  have hk : s₁.pane? k.id = some (.leaf k) :=
    (pane?_eq_some_iff h₁.nodup_ids).mpr
      ⟨h₁.panes.mem_iff.mpr (by simp [Plan.panes_eq, Plan.parked, k]), rfl⟩
  have hactive : s₁.activeTab = some l.id := by
    rw [show s₁ = ((s.withTab l).showTab l.id).refocus (some l.id) from rfl, refocus_eq, showTab_eq]
    rfl
  have hkeep := fun f hf active =>
    h.bequeathed_beneath (k := k) l.id (f := f) hf active fun hprimary x hx =>
      hyields (by simpa [k, debut] using hprimary) x
        (((s.debut_flagChange l.id).session l).symm.trans hx)
  have htake := exec_closeTab h₁ []
  have hremoved : ({ s₁.remove l.id with tabs := s₁.tabs.erase l.id } : Layout) =
      s.beneath l.id := h.remove_withTab hl
  rw [hid, hremoved, List.append_nil, List.getLast?_map, hactive] at htake
  have htab : s₁.tabs.contains l.id = true := by simp [h₁.tabs, hid]
  have hclose := exec_close hk
  rw [show k.id = l.id from hid, exec_bind, takeOut, show k.id = l.id from hid, if_pos htab,
    htake] at hclose
  have hlast : s.tabs.getLast? = tabs.getLast?.map Leaf.id := by rw [h.tabs, List.getLast?_map]
  rw [run_eq, hclose, fronted, hlast]
  cases htabs : tabs.getLast? with
  | none =>
    obtain rfl : tabs = [] := List.getLast?_eq_none_iff.mp htabs
    have hpanes : s.panes = [] := List.perm_nil.mp h.panes
    obtain ⟨hnone, hunfocused⟩ := hempty h.tabs
    have hlost := hkeep (fun l => l) ⟨fun _ => rfl, fun _ => rfl, fun _ _ => rfl⟩ none
    simp only [mapLeaves_id] at hlost
    simp only [Option.map_none, exec_conclude, hlost, beneath_empty hpanes hnone hunfocused]
    exact ⟨_, _, rfl⟩
  | some j =>
    have hnew : ∀ k ∈ s.held, k.id ≠ l.id := fun k hk =>
      h.id_ne_fresh (mem_held.mp hk) (hl ▸ Nat.le_refl _)
    have hlost := hkeep _ (.ofFront (s.beneath l.id).tabs j.id) (some j.id)
    rw [← showTab_eq] at hlost
    simp only [Option.map_some, if_true, (s.debut_flagChange l.id).id j, exec_conclude, hlost,
      hmarked.front_beneath hnew]
    exact ⟨_, _, rfl⟩

theorem Regular.asTabs_at_rest (h : s.Regular σ) (hempty : s.asTabs.tabs = []) :
    s.asTabs.activeTab = none ∧ s.asTabs.focused = none := by
  obtain ⟨tabs, focused, hgathered, h'⟩ := h.presents.asTabs
  rw [h'.represents.tabs, List.map_eq_nil_iff] at hempty
  obtain rfl : tabs = [] := hempty
  rw [h'.active, h'.focused]
  exact hgathered.at_rest h.orderly

theorem Regular.run_createTab_close (h : s.Regular σ) {new : PaneId} {x : SessionId}
    (hrun : s.run (createTab x) = (.ok new, s₁, told)) :
    ∃ c told', s₁.run (close new) = (.ok c, s.untabbed, told') := by
  obtain ⟨tabs, focused, hgathered, h'⟩ := h.presents.asTabs
  let A := s.asTabs
  let l := A.tabLeaf x
  have hr : A.Represents ⟨none, tabs, []⟩ := h'.represents
  have hnext : A.nextId = s.nextId := s.nextId_asTabs
  rw [run_eq, exec_createTab] at hrun
  obtain ⟨rfl, rfl, -⟩ : l.id = new ∧ ((A.withTab l).showTab l.id).refocus (some l.id) = s₁ ∧
      _ = told := by simpa using hrun
  have hmarked : A.Marked :=
    hr.marked (h'.focused.symm ▸ hgathered.marked h.orderly.marked)
  have hyields : (l.session.any fun y => !A.hasPrimary y) = true →
      ∀ y, l.session = some y → A.displays y = false :=
    fun hprimary y hy => hr.yields (hgathered.headed h.headed) hprimary hy
  obtain ⟨c, told', hclose⟩ := hr.close_newTab (l := l) hmarked h.asTabs_at_rest rfl rfl hyields
  refine ⟨c, told', ?_⟩
  rw [untabbed, ← hnext]
  exact hclose

end Tab

section Difference

/-! In which ways what is left differs from what was there. -/

/-- Two layouts with the same tree or tabs, background and focus, and the same tab in front. -/
structure Alike (s s' : Layout) : Prop where
  root : s'.root = s.root
  container : ∀ i, s'.container? i = s.container? i
  leaves : s'.leafIds = s.leafIds
  tabs : s'.tabs = s.tabs
  activeTab : s'.activeTab = s.activeTab
  background : s'.background = s.background
  focused : s'.focused = s.focused

theorem alike_of_eq {s s' : Layout} (h : { s' with nextId := s.nextId } = s) : s.Alike s' := by
  have hpanes : s'.panes = s.panes := (congrArg Layout.panes h :)
  have hroot : s'.root = s.root := (congrArg Layout.root h :)
  refine ⟨hroot, fun i => ?_, ?_, (congrArg Layout.tabs h :), (congrArg Layout.activeTab h :),
    (congrArg Layout.background h :), (congrArg Layout.focused h :)⟩
  · rw [container?, container?, pane?, pane?, hpanes]
  · rw [leafIds_eq_idsUnder, leafIds_eq_idsUnder s, hroot]
    exact congrArg (fun g => s.root.toList.flatMap g) (funext fun i => idsUnder_congr hpanes i)

structure Planted (s : Layout) (id : PaneId) (s' : Layout) : Prop where
  root : s'.root = some id
  leaves : s'.leafIds = [id]
  tabs : s'.tabs = []
  activeTab : s'.activeTab = none
  background : s'.background = s.tabs.filter fun i => i ≠ id
  focused : s'.focused = some id

/-- There is nothing but tabs, and the last one is in front. -/
structure Ends (ids : List PaneId) (s' : Layout) : Prop where
  root : s'.root = none
  tabs : s'.tabs = ids
  activeTab : s'.activeTab = ids.getLast?
  background : s'.background = []
  focused : s'.focused = ids.getLast?

theorem Regular.restored_unsplit (h : s.Regular σ) {id : PaneId} (hid : id ∉ s.tabs) :
    s.Restored id (s.unsplit id) := by
  have hnot : ¬s.tabs.contains id = true := by simpa using hid
  rw [unsplit, if_neg hnot]
  exact h.marked.restored id _

theorem Regular.planted_unsplit (h : s.Regular σ) {id : PaneId} (hid : id ∈ s.tabs) :
    s.Planted id (s.unsplit id) := by
  have hr := h.presents.represents
  obtain ⟨q, active, focused⟩ := σ
  obtain ⟨tree, tabs, bg⟩ := q
  rw [hr.tabs] at hid
  obtain ⟨l, hl, rfl⟩ := List.mem_map.mp hid
  obtain ⟨as, bs, rfl⟩ : ∃ as bs, tabs = as ++ l :: bs := List.append_of_mem hl
  obtain rfl : tree = none := by simpa using hr.mode
  obtain rfl : bg = [] := hr.behind rfl
  have hplanted := hr.plant.withNextId (n := s.nextId + 2) (by rw [nextId_plant]; omega)
  have hunsplit : s.unsplit l.id =
      Layout.refocus { s.plant l.id with nextId := s.nextId + 2 } (some l.id) := by
    have htab : s.tabs.contains l.id = true := by simp [hr.tabs]
    rw [unsplit, if_pos htab]
  have hdone := hplanted.refocus (some l.id)
  rw [← hunsplit] at hdone
  have hid' := (Leaf.FlagChange.ofRefocus (s.plant l.id).focused (some l.id)).id l.expose
  have hfields : (s.unsplit l.id).activeTab = none ∧ (s.unsplit l.id).background =
      s.background ++ s.tabs.filter (fun i => i ≠ l.id) ∧
      (s.unsplit l.id).focused = some l.id := by
    rw [hunsplit, refocus_eq, plant_eq]
    exact ⟨rfl, rfl, rfl⟩
  refine ⟨hdone.root.trans (congrArg some hid'), ?_, hdone.tabs, hfields.1, ?_, hfields.2.2⟩
  · rw [hdone.leafIds_eq]
    exact congrArg (fun i => [i]) hid'
  · rw [hfields.2.1, hr.background]
    rfl

theorem ends_fronted (hroot : s.root = none) (hbackground : s.background = [])
    (hempty : s.tabs = [] → s.activeTab = none ∧ s.focused = none) : Ends s.tabs s.fronted := by
  unfold fronted
  cases hlast : s.tabs.getLast? with
  | some id =>
    dsimp only
    rw [refocus_eq, showTab_eq]
    exact ⟨hroot, rfl, hlast.symm, hbackground, hlast.symm⟩
  | none =>
    obtain ⟨hactive, hfocused⟩ := hempty (List.getLast?_eq_none_iff.mp hlast)
    exact ⟨hroot, rfl, hactive.trans hlast.symm, hbackground, hfocused.trans hlast.symm⟩

theorem Regular.ends_untabbed (h : s.Regular σ) : Ends s.asTabs.tabs s.untabbed := by
  obtain ⟨tabs, focused, -, h'⟩ := h.presents.asTabs
  exact ends_fronted (s := { s.asTabs with nextId := s.nextId + 1 }) h'.represents.root
    h'.represents.background h.asTabs_at_rest

/-- Where the last tab is in front already, bringing it there changes nothing. -/
theorem Regular.fronted_eq (h : s.Regular σ) (hactive : s.activeTab = s.tabs.getLast?) :
    s.fronted = s := by
  unfold fronted
  cases hlast : s.tabs.getLast? with
  | none => rfl
  | some id =>
    obtain ⟨⟨tree, tabs, bg⟩, active, focused⟩ := σ
    have hr : s.Represents ⟨tree, tabs, bg⟩ := h.presents.represents
    have hfront : active = some id := (h.presents.active.symm.trans hactive).trans hlast
    have hid : id ∈ s.tabs := List.mem_of_getLast? hlast
    have hsome : tabs ≠ [] := by
      rintro rfl
      simp [hr.tabs] at hid
    obtain rfl : tree = none := hr.mode.resolve_right hsome
    obtain rfl : bg = [] := hr.behind rfl
    have hvisible : ∀ k ∈ s.held, (k.visible = true ↔ some id = some k.id) := by
      refine (hr.forall_held fun _ _ => .rfl).mpr fun k hk => ?_
      rw [← hfront]
      exact h.orderly.lit.tabs k (by simpa [Plan.leaves_eq] using hk)
    have hsame : s.panes.map (Pane.mapLeaf (Leaf.front s.tabs id)) = s.panes := by
      refine (List.map_congr_left fun p hp => ?_).trans (List.map_id s.panes)
      cases p with
      | container c => rfl
      | leaf k =>
        have hk : k.visible = (k.id == id) := by
          rw [Bool.eq_iff_iff, beq_iff_eq, hvisible k (mem_held.mpr hp), Option.some_inj, eq_comm]
        refine congrArg Pane.leaf ?_
        unfold Leaf.front
        rw [← hk, ite_self]
    have hfocused : s.focused = some id :=
      (h.presents.focused.trans (h.orderly.aimed.tabs hsome)).trans hfront
    have hshow : s.showTab id = s := by
      rw [showTab_eq, mapLeaves, hsame, ← hlast, ← hactive]
    dsimp only
    rw [hshow]
    exact if_pos hfocused

theorem unroot_empty (hpanes : s.panes = []) (hroot : s.root = none) (htabs : s.tabs = [])
    (hbackground : s.background = []) (hfocused : s.focused = none) : s.unroot = s := by
  obtain ⟨panes, root, tabs, active, background, focused, ratio, n⟩ := s
  obtain rfl : panes = [] := hpanes
  obtain rfl : root = none := hroot
  obtain rfl : tabs = [] := htabs
  obtain rfl : background = [] := hbackground
  obtain rfl : focused = none := hfocused
  rfl

theorem Regular.asTabs_eq (h : s.Regular σ) (hroot : s.root = none) : s.asTabs = s := by
  unfold asTabs
  by_cases htabbed : s.tabbed = true
  · exact if_pos htabbed
  · obtain ⟨⟨tree, tabs, bg⟩, active, focused⟩ := σ
    have hr : s.Represents ⟨tree, tabs, bg⟩ := h.presents.represents
    have htree : tree = none := by simpa [hr.root] using hroot
    have htabs : tabs = [] := by simpa [tabbed, hr.tabs] using htabbed
    subst htree htabs
    obtain rfl : bg = [] := hr.behind rfl
    rw [if_neg htabbed]
    exact unroot_empty (List.perm_nil.mp hr.panes) hroot hr.tabs hr.background
      (h.presents.focused.trans (h.orderly.aimed.none rfl rfl))

theorem Regular.untabbed_eq (h : s.Regular σ) (hroot : s.root = none)
    (hactive : s.activeTab = s.tabs.getLast?) : { s.untabbed with nextId := s.nextId } = s := by
  have hcount : ({ (fronted { s with nextId := s.nextId + 1 }) with nextId := s.nextId } : Layout) =
      s.fronted := by
    unfold fronted
    cases s.tabs.getLast? with
    | none => rfl
    | some id =>
      dsimp only
      rw [refocus_eq, refocus_eq, showTab_eq, showTab_eq]
      rfl
  rw [untabbed, h.asTabs_eq hroot, hcount, h.fronted_eq hactive]

theorem Regular.alike_unsplit_iff (h : s.Regular σ) (id : PaneId) :
    s.Alike (s.unsplit id) ↔ id ∉ s.tabs ∧ s.focused = some id := by
  by_cases hid : id ∈ s.tabs
  · refine iff_of_false (fun halike => ?_) fun hwhole => hwhole.1 hid
    have htabs := halike.tabs
    rw [(h.planted_unsplit hid).tabs] at htabs
    rw [← htabs] at hid
    cases hid
  · have hrestored := h.restored_unsplit hid
    exact ⟨fun halike => ⟨hid, halike.focused.symm.trans hrestored.focused⟩,
      fun hwhole => alike_of_eq (hrestored.whole hwhole.2)⟩

theorem Regular.alike_untabbed_iff (h : s.Regular σ) :
    s.Alike s.untabbed ↔ s.root = none ∧ s.activeTab = s.tabs.getLast? := by
  have hends := h.ends_untabbed
  refine ⟨fun halike => ⟨halike.root.symm.trans hends.root, ?_⟩,
    fun hwhole => alike_of_eq (h.untabbed_eq hwhole.1 hwhole.2)⟩
  rw [← halike.activeTab, hends.activeTab, ← hends.tabs, halike.tabs]

structure Unsplit (s : Layout) (id : PaneId) (s' : Layout) : Prop where
  left : s' = s.unsplit id
  tree : id ∉ s.tabs → s.Restored id s'
  tab : id ∈ s.tabs → s.Planted id s'
  alike : s.Alike s' ↔ id ∉ s.tabs ∧ s.focused = some id

structure Untabbed (s s' : Layout) : Prop where
  left : s' = s.untabbed
  ends : Ends s.asTabs.tabs s'
  whole : s.root = none → s.activeTab = s.tabs.getLast? → { s' with nextId := s.nextId } = s
  alike : s.Alike s' ↔ s.root = none ∧ s.activeTab = s.tabs.getLast?

theorem Regular.leaves_unsplit (h : s.Regular σ) (id : PaneId) : s.Unsplit id (s.unsplit id) :=
  ⟨rfl, h.restored_unsplit, h.planted_unsplit, h.alike_unsplit_iff id⟩

theorem Regular.leaves_untabbed (h : s.Regular σ) : s.Untabbed s.untabbed :=
  ⟨rfl, h.ends_untabbed, h.untabbed_eq, h.alike_untabbed_iff⟩

end Difference

end Layout

end Multiplexer
