import Multiplexer.Proofs.Layout.Operations

/-!
# Focus

Which pane has the focus is written down with the layout and at the leaves, and
what is on screen with the layout, as the active tab, and at the leaves. However
panes come and go, these say the same, and the focus is on screen.
-/

namespace Multiplexer

theorem SplitTree.exists_successor (t u : SplitTree) (h : u.leaves ⊆ t.leaves) :
    ∃ l ∈ t.leaves, t.successor u = some l.id := by
  cases u with
  | leaf l => exact ⟨l, h (by simp [leaves]), rfl⟩
  | node i o r a b =>
    cases hleaves : t.leaves with
    | nil => exact absurd hleaves t.leaves_ne_nil
    | cons l ls => exact ⟨l, List.mem_cons_self, by simp [successor, hleaves]⟩

theorem Context.mem_leaves_split (ctx : Context) (box : PaneId) (o : Orientation) (r : Binary64)
    (l new k : Leaf) : k ∈ (ctx.fill (.node box o r (.leaf l) (.leaf new))).leaves ↔
      k = new ∨ k ∈ (ctx.fill (.leaf l)).leaves := by
  simp only [leaves_fill, SplitTree.leaves, List.mem_append, List.mem_singleton]
  tauto

theorem Context.mem_leaves_sibling (f : Frame) (ctx : Context) (l k : Leaf) :
    k ∈ (fill (f :: ctx) (.leaf l)).leaves ↔ k = l ∨ k ∈ (ctx.fill f.other).leaves := by
  simp only [leaves_fill, before, after, SplitTree.leaves, List.mem_append, List.mem_singleton]
  cases f.toFirst <;> simp <;> tauto

/-- The leaf with the focus has the flag, and no other. -/
def Plan.Marked (q : Plan) (focused : Option PaneId) : Prop :=
  ∀ l ∈ q.leaves, (l.focused = true ↔ focused = some l.id)

namespace Plan.Marked

variable {q q' : Plan} {focused : Option PaneId}

theorem map {f : Leaf → Leaf} (h : q.Marked focused) (hid : ∀ l, (f l).id = l.id)
    (hf : ∀ l, (f l).focused = l.focused) : (q.map f).Marked focused := by
  intro l hl
  rw [Plan.leaves_map] at hl
  obtain ⟨k, hk, rfl⟩ := List.mem_map.mp hl
  rw [hid, hf]
  exact h k hk

theorem adds {ls : List Leaf} (h : q.Adds ls q') : q'.Marked focused ↔
    (∀ l ∈ ls, (l.focused = true ↔ focused = some l.id)) ∧ q.Marked focused :=
  h.forall_iff fun _ => .rfl

theorem refocus (h : q.Marked focused) (target : Option PaneId) :
    (q.map (Leaf.refocus focused target)).Marked target := by
  intro l hl
  rw [Plan.leaves_map] at hl
  obtain ⟨k, hk, rfl⟩ := List.mem_map.mp hl
  have hmark := h k hk
  rw [(Leaf.FlagChange.ofRefocus _ _).id]
  unfold Leaf.refocus
  split_ifs with hsame hnew hold
  · rwa [← hsame]
  · simp [hnew]
  · simp [hnew]
  · rw [hmark]
    exact ⟨fun he => absurd he hold, fun he => absurd he hnew⟩

end Plan.Marked

namespace Scene

/-- What is in sight: all of the tree, and of the tabs the active one. -/
structure Lit (σ : Scene) : Prop where
  tree : ∀ t, σ.plan.tree = some t → ∀ l ∈ t.leaves, l.visible = true
  behind : ∀ l ∈ σ.plan.background, l.visible = false
  tabs : ∀ l ∈ σ.plan.tabs, (l.visible = true ↔ σ.active = some l.id)
  /-- Of some tabs one is active. -/
  front : σ.plan.tabs ≠ [] → σ.active ≠ none
  member : ∀ id, σ.active = some id → ∃ l ∈ σ.plan.tabs, l.id = id

structure Aimed (σ : Scene) : Prop where
  tree : ∀ t, σ.plan.tree = some t → ∃ l ∈ t.leaves, σ.focused = some l.id
  tabs : σ.plan.tabs ≠ [] → σ.focused = σ.active
  none : σ.plan.tree = none → σ.plan.tabs = [] → σ.focused = none

structure Orderly (σ : Scene) : Prop where
  lit : σ.Lit
  aimed : σ.Aimed
  marked : σ.plan.Marked σ.focused

section TreeMode

variable {t : SplitTree} {bg : List Leaf} {active focused : Option PaneId}

theorem lit_tree_iff : Lit ⟨⟨some t, [], bg⟩, active, focused⟩ ↔
    (∀ l ∈ t.leaves, l.visible = true) ∧ (∀ l ∈ bg, l.visible = false) ∧ active = none := by
  constructor
  · intro h
    refine ⟨h.tree t rfl, h.behind, ?_⟩
    rw [Option.eq_none_iff_forall_not_mem]
    intro id hid
    obtain ⟨l, hl, -⟩ := h.member id hid
    simp at hl
  · rintro ⟨htree, hbg, rfl⟩
    exact ⟨fun u hu => Option.some.inj hu ▸ htree, hbg, by simp, by simp, by simp⟩

theorem aimed_tree_iff : Aimed ⟨⟨some t, [], bg⟩, active, focused⟩ ↔
    ∃ l ∈ t.leaves, focused = some l.id := by
  constructor
  · intro h
    exact h.tree t rfl
  · intro h
    exact ⟨fun u hu => Option.some.inj hu ▸ h, by simp, by simp⟩

end TreeMode

section Flags

variable {q : Plan} {active focused : Option PaneId} {f : Leaf → Leaf}

theorem Lit.map (h : Lit ⟨q, active, focused⟩) (hid : ∀ l, (f l).id = l.id)
    (hf : ∀ l, (f l).visible = l.visible) (focused' : Option PaneId) :
    Lit ⟨q.map f, active, focused'⟩ where
  tree t ht l hl := by
    obtain ⟨u, hu, rfl⟩ := Option.map_eq_some_iff.mp ht
    rw [SplitTree.leaves_map] at hl
    obtain ⟨k, hk, rfl⟩ := List.mem_map.mp hl
    rw [hf]
    exact h.tree u hu k hk
  behind l hl := by
    obtain ⟨k, hk, rfl⟩ := List.mem_map.mp hl
    rw [hf]
    exact h.behind k hk
  tabs l hl := by
    obtain ⟨k, hk, rfl⟩ := List.mem_map.mp hl
    rw [hf, hid]
    exact h.tabs k hk
  front htabs := h.front (by simpa [Plan.map] using htabs)
  member id hactive := by
    obtain ⟨k, hk, rfl⟩ := h.member id hactive
    exact ⟨f k, List.mem_map_of_mem hk, hid k⟩

theorem Aimed.map (h : Aimed ⟨q, active, focused⟩) (hid : ∀ l, (f l).id = l.id) :
    Aimed ⟨q.map f, active, focused⟩ where
  tree t ht := by
    obtain ⟨u, hu, rfl⟩ := Option.map_eq_some_iff.mp ht
    obtain ⟨l, hl, hfocus⟩ := h.tree u hu
    exact ⟨f l, by rw [SplitTree.leaves_map]; exact List.mem_map_of_mem hl, by rw [hid, hfocus]⟩
  tabs htabs := h.tabs (by simpa [Plan.map] using htabs)
  none htree htabs := h.none (by simpa [Plan.map] using htree) (by simpa [Plan.map] using htabs)

/-- A scene is in order once the focus has moved to where it can be seen. -/
theorem Orderly.ofRefocus {target : Option PaneId} (hlit : Lit ⟨q, active, focused⟩)
    (hmarked : q.Marked focused) (haimed : Aimed ⟨q, active, target⟩) :
    (refocus ⟨q, active, focused⟩ target).Orderly where
  lit := hlit.map (Leaf.FlagChange.ofRefocus _ _).id (Leaf.visible_refocus _ _) _
  aimed := haimed.map (Leaf.FlagChange.ofRefocus _ _).id
  marked := hmarked.refocus target

end Flags

variable {σ σ' : Scene}

theorem lit_empty (focused : Option PaneId) : Lit ⟨{}, none, focused⟩ :=
  ⟨by simp, by simp, by simp, by simp, by simp⟩

theorem Orderly.empty : Orderly {} where
  lit := lit_empty none
  aimed := ⟨by simp, by simp, fun _ _ => rfl⟩
  marked := by simp [Plan.Marked, Plan.leaves_eq]

/-- The focus is on a leaf. -/
theorem Orderly.focus_mem (h : σ.Orderly) {f : PaneId} (hf : σ.focused = some f) :
    ∃ l ∈ σ.plan.leaves, l.id = f := by
  rw [Plan.leaves_eq]
  cases htree : σ.plan.tree with
  | some t =>
    obtain ⟨l, hl, he⟩ := h.aimed.tree t htree
    exact ⟨l, by simp [hl], Option.some.inj (he.symm.trans hf)⟩
  | none =>
    by_cases htabs : σ.plan.tabs = []
    · rw [h.aimed.none htree htabs] at hf
      simp at hf
    · obtain ⟨l, hl, he⟩ := h.lit.member f ((h.aimed.tabs htabs).symm.trans hf)
      exact ⟨l, by simp [hl], he⟩

section Tabs

variable {tabs : List Leaf} {active focused : Option PaneId}

theorem lit_front (active focused : Option PaneId) {id : PaneId} (hid : ∃ l ∈ tabs, l.id = id) :
    (front ⟨⟨none, tabs, []⟩, active, focused⟩ id).Lit where
  tree := by simp [front, Plan.map]
  behind := by simp [front, Plan.map]
  tabs l hl := by
    obtain ⟨k, hk, rfl⟩ := List.mem_map.mp hl
    have hmem : k.id ∈ tabs.map Leaf.id := List.mem_map_of_mem hk
    rw [(Leaf.FlagChange.ofFront _ _).id]
    unfold Leaf.front
    rw [if_pos hmem, beq_iff_eq]
    exact ⟨fun he => congrArg some he.symm, fun he => (Option.some.inj he).symm⟩
  front _ := by simp [front]
  member id' he := by
    obtain ⟨l, hl, rfl⟩ := hid
    obtain rfl : l.id = id' := Option.some.inj he
    exact ⟨_, List.mem_map_of_mem hl, (Leaf.FlagChange.ofFront _ _).id l⟩

theorem Orderly.ofFront {l : Leaf} (hl : l ∈ tabs)
    (hmarked : (⟨none, tabs, []⟩ : Plan).Marked focused) :
    (refocus (front ⟨⟨none, tabs, []⟩, active, focused⟩ l.id) (some l.id)).Orderly :=
  .ofRefocus (lit_front active focused ⟨l, hl, rfl⟩)
    (hmarked.map (Leaf.FlagChange.ofFront _ _).id (Leaf.focused_front _ _))
    ⟨by simp [Plan.map], fun _ => rfl, fun _ hnil => by
      have htabs : tabs = [] := by simpa [Plan.map] using hnil
      simp [htabs] at hl⟩

theorem Gathered.marked (hgathered : σ.Gathered tabs focused) (h : σ.plan.Marked σ.focused) :
    (⟨none, tabs, []⟩ : Plan).Marked focused := by
  cases hgathered with
  | tabs tabs hplan => rwa [← hplan]
  | tree tree tabs bg hplan hcollapses =>
    intro k hk
    rw [Plan.leaves_eq] at hk
    have hk' : k ∈ tabs := by simpa using hk
    obtain ⟨l, hl, hid, -, hfocus, -⟩ := hcollapses.kept k hk'
    have hmem : k.id ∈ tabs.map Leaf.id := List.mem_map_of_mem hk'
    rw [hfocus, h l hl, ← hid, Option.filter_eq_some_iff]
    simp [hmem]

/-- A new tab has not the focus of one that is there. -/
theorem Gathered.focused_ne (hgathered : σ.Gathered tabs focused) (h : σ.Orderly) {new : Leaf}
    (hjoins : Plan.Joins ⟨none, tabs, []⟩ new) : focused ≠ some new.id := by
  intro hfocus
  have hmem : ∃ k ∈ (⟨none, tabs, []⟩ : Plan).leaves, k.id = new.id := by
    cases hgathered with
    | tabs tabs hplan => exact hplan ▸ h.focus_mem hfocus
    | tree tree tabs bg hplan hcollapses =>
      obtain ⟨k, hk, he⟩ := List.mem_map.mp (by simpa using (Option.filter_eq_some_iff.mp hfocus).2)
      exact ⟨k, by simpa [Plan.leaves_eq] using hk, he⟩
  obtain ⟨k, hk, he⟩ := hmem
  exact hjoins.apart k hk he

/-- A new tab comes to the front with the focus. -/
theorem Orderly.tab (h : σ.Orderly) (hgathered : σ.Gathered tabs focused) {new : Leaf}
    (hjoins : Plan.Joins ⟨none, tabs, []⟩ new) :
    (refocus (front ⟨⟨none, tabs ++ [new], []⟩, active, focused⟩ new.id)
      (some new.id)).Orderly := by
  refine .ofFront (by simp) ((Plan.Marked.adds (Plan.adds_newTab tabs new)).mpr
    ⟨?_, hgathered.marked h.marked⟩)
  simpa [hjoins.unfocused] using hgathered.focused_ne h hjoins

end Tabs

section Tree

variable {ctx : Context} {l new : Leaf} {bg : List Leaf} {active : Option PaneId}

theorem Lit.ready (h : σ.Lit) (hready : σ.Ready ctx l bg active) :
    Lit ⟨⟨some (ctx.fill (.leaf l)), [], bg⟩, active, σ.focused⟩ := by
  obtain ⟨plan, front, focused⟩ := σ
  cases hready with
  | tree ctx l bg hplan =>
    obtain rfl : plan = _ := hplan
    exact h
  | tab as bs l hplan =>
    have htree : ∀ k ∈ (Context.fill [] (.leaf l.expose)).leaves, k.visible = true := by
      simp [Context.fill, SplitTree.leaves, Leaf.expose]
    exact lit_tree_iff.mpr ⟨htree, List.forall_mem_map.mpr fun _ _ => rfl, rfl⟩

/-- The leaf that a split adds has the focus and can be seen. -/
theorem Orderly.split (h : σ.Orderly) (hready : σ.Ready ctx l bg active)
    (hjoins : Plan.Joins ⟨some (ctx.fill (.leaf l)), [], bg⟩ new) (box : PaneId) (o : Orientation)
    (r : Binary64) : (refocus ⟨⟨some (ctx.fill (.node box o r (.leaf l) (.leaf new))), [], bg⟩,
      active, σ.focused⟩ (some new.id)).Orderly := by
  obtain ⟨htree, hbg, hnone⟩ := lit_tree_iff.mp (h.lit.ready hready)
  have hmarked := (Plan.Marked.adds hready.adds).mpr ⟨by simp, h.marked⟩
  -- The old focus is on a leaf that is there, so the new one is not taken for it.
  have hfocus : σ.focused ≠ some new.id := by
    intro hfocus
    obtain ⟨k, hk, he⟩ := (hready.adds.exists_iff (P := fun k => k.id = new.id) fun _ => .rfl).mpr
      (.inr (h.focus_mem hfocus))
    exact hjoins.apart k hk he
  have hleaves := ctx.mem_leaves_split box o r l new
  refine .ofRefocus (lit_tree_iff.mpr ⟨fun k hk => ?_, hbg, hnone⟩) ?_
    (aimed_tree_iff.mpr ⟨new, (hleaves new).mpr (.inl rfl), rfl⟩)
  · rcases (hleaves k).mp hk with rfl | hk
    · exact hjoins.visible
    · exact htree k hk
  · refine (Plan.Marked.adds (Plan.adds_split ctx box o r l new bg)).mpr ⟨?_, hmarked⟩
    simpa [hjoins.unfocused] using hfocus

end Tree

section Removal

variable {l : Leaf} {q q' : Plan} {active focus : Option PaneId}

theorem Taken.lit (htaken : σ.Taken l q active focus) (h : σ.Lit) :
    Lit ⟨q, active, σ.focused⟩ := by
  obtain ⟨plan, front, focused⟩ := σ
  cases htaken with
  | lastTab l hplan => exact lit_empty focused
  | frontTab as bs l k hplan hactive hlast =>
    exact lit_front front focused ⟨k, List.mem_of_getLast? hlast, rfl⟩
  | otherTab as bs l hplan hactive hsome =>
    obtain rfl : plan = _ := hplan
    have hsub : as ++ bs ⊆ as ++ l :: bs := ((List.sublist_cons_self l bs).append_left as).subset
    refine ⟨by simp, by simp, fun k hk => h.tabs k (hsub hk), fun _ => h.front (by simp), ?_⟩
    intro id hid
    obtain ⟨k, hk, rfl⟩ := h.member id hid
    have hne : k ≠ l := by
      rintro rfl
      exact hactive hid
    exact ⟨k, by simpa [hne] using hk, rfl⟩
  | hidden t as bs l hplan =>
    obtain rfl : plan = _ := hplan
    obtain ⟨htree, hbg, hnone⟩ := lit_tree_iff.mp h
    have hsub : as ++ bs ⊆ as ++ l :: bs := ((List.sublist_cons_self l bs).append_left as).subset
    exact lit_tree_iff.mpr ⟨htree, fun k hk => hbg k (hsub hk), hnone⟩
  | root l bg hplan =>
    obtain rfl : plan = _ := hplan
    obtain ⟨-, hbg, hnone⟩ := lit_tree_iff.mp h
    rcases List.eq_nil_or_concat' bg with rfl | ⟨bg, k, rfl⟩
    · obtain rfl : front = none := hnone
      exact lit_empty focused
    · simp only [Plan.restored, List.getLast?_concat, List.dropLast_concat]
      exact lit_tree_iff.mpr ⟨by simp [SplitTree.leaves],
        fun k' hk' => hbg k' (List.mem_append_left _ hk'), hnone⟩
  | tree f ctx l bg hplan =>
    obtain rfl : plan = _ := hplan
    obtain ⟨htree, hbg, hnone⟩ := lit_tree_iff.mp h
    refine lit_tree_iff.mpr ⟨fun k hk => htree k ?_, hbg, hnone⟩
    exact (Context.mem_leaves_sibling f ctx l k).mpr (.inr hk)

theorem Taken.aimed (htaken : σ.Taken l q active focus) (h : σ.Aimed) :
    Aimed ⟨q, active, focus⟩ := by
  obtain ⟨plan, front, focused⟩ := σ
  cases htaken with
  | lastTab l hplan => exact Orderly.empty.aimed
  | frontTab as bs l k hplan hactive hlast =>
    refine ⟨by simp [Plan.map], fun _ => rfl, fun _ hnil => ?_⟩
    have hnil' : as ++ bs = [] := by simpa [Plan.map] using hnil
    simp [hnil'] at hlast
  | otherTab as bs l hplan hactive hsome =>
    obtain rfl : plan = _ := hplan
    exact ⟨by simp, fun _ => h.tabs (by simp), fun _ hnil => absurd hnil hsome⟩
  | hidden t as bs l hplan =>
    obtain rfl : plan = _ := hplan
    exact aimed_tree_iff.mpr (aimed_tree_iff.mp h)
  | root l bg hplan =>
    rcases List.eq_nil_or_concat' bg with rfl | ⟨bg, k, rfl⟩
    · exact ⟨by simp [Plan.restored], by simp [Plan.restored], fun _ _ => rfl⟩
    · simp only [Plan.restored, List.getLast?_concat, List.dropLast_concat, Option.map_some]
      exact aimed_tree_iff.mpr ⟨_, List.mem_singleton_self _, rfl⟩
  | tree f ctx l bg hplan =>
    obtain rfl : plan = _ := hplan
    refine aimed_tree_iff.mpr ?_
    show ∃ k ∈ (ctx.fill f.other).leaves, (if focused = some l.id then
      (ctx.fill f.other).successor f.other else focused) = some k.id
    split
    · refine (ctx.fill f.other).exists_successor f.other fun k hk => ?_
      simp [Context.leaves_fill, hk]
    · -- The focus was not on the leaf that is gone, so it is still on screen.
      rename_i hne
      obtain ⟨k, hk, he⟩ := aimed_tree_iff.mp h
      rcases (Context.mem_leaves_sibling f ctx l k).mp hk with rfl | hk
      · exact absurd he hne
      · exact ⟨k, hk, he⟩

/-- When a leaf goes the focus passes to one that can be seen. -/
theorem Orderly.closed (h : σ.Orderly) (htaken : σ.Taken l q active focus)
    (hbequeaths : q.Bequeaths l q') : (refocus ⟨q', active, σ.focused⟩ focus).Orderly := by
  obtain ⟨heirs, rfl⟩ := hbequeaths.eq_map
  have hid := (Leaf.FlagChange.ofCrown heirs).id
  have hmarked := ((Plan.Marked.adds htaken.adds).mp h.marked).2
  exact .ofRefocus ((htaken.lit h.lit).map hid (Leaf.visible_crown heirs) _)
    (hmarked.map hid (Leaf.focused_crown heirs)) ((htaken.aimed h.aimed).map hid)

end Removal

theorem Orderly.rooted {l : Leaf} (h : σ.Orderly) (hplan : σ.plan = {})
    (hjoins : σ.plan.Joins l) :
    (refocus ⟨⟨some (.leaf l), [], []⟩, σ.active, σ.focused⟩ (some l.id)).Orderly := by
  obtain ⟨plan, active, focused⟩ := σ
  obtain rfl : plan = {} := hplan
  obtain rfl : focused = none := h.aimed.none rfl rfl
  have hnone : active = none := by
    rw [Option.eq_none_iff_forall_not_mem]
    intro id hid
    obtain ⟨k, hk, -⟩ := h.lit.member id hid
    simp at hk
  refine .ofRefocus (lit_tree_iff.mpr ⟨?_, by simp, hnone⟩) ?_
    (aimed_tree_iff.mpr ⟨l, List.mem_singleton_self l, rfl⟩)
  · simp [SplitTree.leaves, hjoins.visible]
  · simp [Plan.Marked, Plan.leaves_eq, SplitTree.leaves, hjoins.unfocused]

/-- Every step keeps a scene in order. -/
theorem Step.orderly {c : Change} {told : List Notice} (hstep : σ.Step c told σ')
    (h : σ.Orderly) : σ'.Orderly := by
  cases hstep with
  | idle => exact h
  | cleared => exact .empty
  | rooted l hplan hjoins => exact h.rooted hplan hjoins
  | split ctx l new bg active box o r hready hjoins => exact h.split hready hjoins box o r
  | tab tabs new focused hgathered hjoins => exact h.tab hgathered hjoins
  | closed l q q' active focus htaken hbequeaths => exact h.closed htaken hbequeaths
  | moved t bg l hplan hl =>
    obtain ⟨plan, active, focused⟩ := σ
    obtain rfl : plan = _ := hplan
    exact .ofRefocus h.lit h.marked (aimed_tree_iff.mpr ⟨l, hl, rfl⟩)
  | fronted tabs l focused hgathered hl => exact .ofFront hl (hgathered.marked h.marked)
  | resized ctx id o old new a b bg hplan =>
    obtain ⟨plan, active, focused⟩ := σ
    obtain rfl : plan = _ := hplan
    have hleaves : (ctx.fill (.node id o new a b)).leaves =
        (ctx.fill (.node id o old a b)).leaves := by simp [Context.leaves_fill, SplitTree.leaves]
    have hmarked := h.marked
    refine ⟨lit_tree_iff.mpr (hleaves ▸ lit_tree_iff.mp h.lit),
      aimed_tree_iff.mpr (hleaves ▸ aimed_tree_iff.mp h.aimed), ?_⟩
    simpa [Plan.Marked, Plan.leaves_eq, hleaves] using hmarked

end Scene

namespace Layout

/-- What a layout and its leaves say of the focus and of what is on screen agrees. -/
structure Coherent (s : Layout) : Prop where
  focused : s.held ≠ [] → ∃ f, s.focused = some f ∧ f ∈ s.held.map Leaf.id ∧
    (if s.tabbed then s.activeTab = some f else f ∈ s.leafIds) ∧
    ∀ l ∈ s.held, (l.focused = true ↔ l.id = f)
  unfocused : s.held = [] → s.focused = none
  active : s.activeTab.isSome = s.tabbed ∧ ∀ id, s.activeTab = some id → id ∈ s.tabs
  visible : ∀ l ∈ s.held, (l.visible = true ↔ l.id ∈ s.visibleLeaves)

variable {s : Layout} {σ : Scene} {q : Plan}

/-- The focus is on screen. -/
theorem Presents.focused_on_screen (h : s.Presents σ) (ho : σ.Orderly) {l : Leaf}
    (hl : l ∈ σ.plan.leaves) : ∃ f, s.focused = some f ∧
      if s.tabbed then s.activeTab = some f else f ∈ s.leafIds := by
  rw [h.focused, h.active, h.represents.leafIds_eq]
  cases htabs : s.tabbed with
  | true =>
    have hsome : σ.plan.tabs ≠ [] := by
      intro hnil
      simp [tabbed, h.represents.tabs, hnil] at htabs
    obtain ⟨f, hf⟩ := Option.ne_none_iff_exists'.mp (ho.lit.front hsome)
    exact ⟨f, (ho.aimed.tabs hsome).trans hf, by simpa using hf⟩
  | false =>
    have hnil : σ.plan.tabs = [] := by simpa [tabbed, h.represents.tabs] using htabs
    cases htree : σ.plan.tree with
    | some t =>
      obtain ⟨k, hk, he⟩ := ho.aimed.tree t htree
      exact ⟨k.id, he, by simpa using ⟨k, hk, rfl⟩⟩
    | none =>
      rw [Plan.leaves_eq, htree, hnil, h.represents.behind htree] at hl
      simp at hl

theorem Presents.visible_iff (h : s.Presents σ) (hlit : σ.Lit) {l : Leaf}
    (hl : l ∈ σ.plan.leaves) : l.visible = true ↔ l.id ∈ s.visibleLeaves := by
  have hr := h.represents
  unfold visibleLeaves
  cases htabs : s.tabbed with
  | true =>
    rw [h.tabs_eq htabs, Plan.leaves_eq] at hl
    rw [if_pos rfl, Option.mem_toList, h.active]
    exact hlit.tabs l (by simpa using hl)
  | false =>
    have hnil : s.tabs = [] := by simpa [tabbed] using htabs
    have hplan : σ.plan.tabs = [] := by simpa [hnil] using hr.tabs
    have hapart := hr.nodup_everyLeaf
    rw [everyLeaf, hnil, List.append_nil] at hapart
    rw [if_neg (by simp)]
    rw [Plan.leaves_eq, hplan, List.nil_append] at hl
    rcases List.mem_append.mp hl with hl | hl
    · have hmem : l.id ∈ s.leafIds := by
        rw [hr.leafIds_eq]
        exact List.mem_map_of_mem hl
      obtain ⟨t, ht, hl⟩ := List.mem_flatMap.mp hl
      simp [hlit.tree t (Option.mem_toList.mp ht) l hl, hmem]
    · have hbg : l.id ∈ s.background := by
        rw [hr.background]
        exact List.mem_map_of_mem hl
      have hnot : l.id ∉ s.leafIds := fun hid => (List.nodup_append.mp hapart).2.2 _ hid _ hbg rfl
      simp [hlit.behind l hl, hnot]

/-- The layout of an ordered scene is coherent. -/
theorem Presents.coherent (h : s.Presents σ) (ho : σ.Orderly) : s.Coherent where
  focused hsome := by
    have hr := h.represents
    obtain ⟨l, hl⟩ := List.exists_mem_of_ne_nil _ (mt hr.held_eq_nil.mpr hsome)
    obtain ⟨f, hf, hscreen⟩ := h.focused_on_screen ho hl
    have hf' : σ.focused = some f := h.focused.symm.trans hf
    refine ⟨f, hf, ?_, hscreen, ?_⟩
    · rw [(hr.map_held fun _ _ => rfl).mem_iff]
      obtain ⟨k, hk, rfl⟩ := ho.focus_mem hf'
      exact List.mem_map_of_mem hk
    · refine (hr.forall_held fun _ _ => .rfl).mpr fun k hk => ?_
      rw [ho.marked k hk, hf', Option.some_inj, eq_comm]
  unfocused hnil := by
    rw [h.focused, Option.eq_none_iff_forall_not_mem]
    intro f hf
    obtain ⟨l, hl, -⟩ := ho.focus_mem hf
    rw [h.represents.held_eq_nil.mp hnil] at hl
    simp at hl
  active := by
    rw [h.active, h.represents.tabs]
    refine ⟨?_, fun id hid => ?_⟩
    · rw [tabbed, h.represents.tabs, Bool.eq_iff_iff, Option.isSome_iff_ne_none]
      refine ⟨fun hsome => ?_, fun hsome => ho.lit.front (by simpa using hsome)⟩
      obtain ⟨id, hid⟩ := Option.ne_none_iff_exists'.mp hsome
      obtain ⟨l, hl, -⟩ := ho.lit.member id hid
      simpa using List.ne_nil_of_mem hl
    · obtain ⟨l, hl, rfl⟩ := ho.lit.member id hid
      exact List.mem_map_of_mem hl
  visible := (h.represents.forall_held fun _ _ => .rfl).mpr fun _ hl => h.visible_iff ho.lit hl

/-- Whatever is asked of an empty layout, focus and sight stay in order. -/
theorem coherent_of_operations (splitRatio : Binary64) (nextId : Nat) (ops : List Operation) :
    (ops.foldl apply { splitRatio, nextId }).Coherent := by
  obtain ⟨σ, h, ho⟩ := presents_of_operations .empty
    (fun σ _ _ σ' ho hstep => Scene.Step.orderly hstep ho) splitRatio nextId ops
  exact h.coherent ho

end Layout

end Multiplexer
