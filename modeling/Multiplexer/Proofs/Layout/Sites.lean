import Multiplexer.Proofs.Layout.Surgery

/-!
# Where a pane stands

A leaf of a layout is a tab, waits in the background, or has a place in the
tree. Leaves outside the tree can be taken out without more ado.
-/

namespace Multiplexer

/-- A leaf with its links as a plan has it, with the way to it. -/
inductive Plan.Holds : Plan → Leaf → Prop where
  | tab (as bs : List Leaf) (l : Leaf) : Holds ⟨none, as ++ l :: bs, []⟩ { l with parent := none }
  | hidden (t : SplitTree) (as bs : List Leaf) (l : Leaf) :
    Holds ⟨some t, [], as ++ l :: bs⟩ { l with parent := none }
  | tree (ctx : Context) (l : Leaf) (bg : List Leaf) :
    Holds ⟨some (ctx.fill (.leaf l)), [], bg⟩ { l with parent := Context.parent ctx }

/-- What is left of a tree of one leaf without it: the last leaf of the background comes back. -/
def Plan.restored (bg : List Leaf) : Plan :=
  match bg.getLast? with
  | none => {}
  | some k => ⟨some (.leaf { k with visible := true }), [], bg.dropLast⟩

namespace Layout

variable {s : Layout} {q : Plan}

/-- A pane of the arena is outside the tree or the top of what stands in some place of it. -/
theorem Represents.site (h : s.Represents q) {p : Pane} (hp : p ∈ s.panes) :
    (∃ l ∈ q.tabs ++ q.background, p = .leaf { l with parent := none }) ∨
    ∃ (ctx : Context) (u : SplitTree) (bg : List Leaf),
      q = ⟨some (ctx.fill u), [], bg⟩ ∧ p = u.top ctx.parent := by
  have hmode := h.mode
  rw [h.mem_panes_iff, Plan.panes_eq, List.mem_append] at hp
  obtain ⟨tree, tabs, bg⟩ := q
  rcases hp with hp | hp
  · obtain ⟨t, ht, hin⟩ := List.mem_flatMap.mp hp
    obtain rfl : tree = some t := by simpa using ht
    obtain rfl : tabs = [] := by simpa using hmode
    obtain ⟨ctx, u, hfill, htop⟩ := Context.exists_fill_top t [] hin
    obtain rfl : t = ctx.fill u := hfill
    exact .inr ⟨ctx, u, bg, rfl, htop⟩
  · obtain ⟨l, hl, rfl⟩ := List.mem_map.mp hp
    exact .inl ⟨l, hl, rfl⟩

theorem Represents.holds (h : s.Represents q) {id : PaneId} {l : Leaf}
    (hl : s.pane? id = some (.leaf l)) : q.Holds l ∧ l.id = id := by
  obtain ⟨hmem, hid⟩ := (pane?_eq_some_iff h.nodup_ids).mp hl
  refine ⟨?_, hid⟩
  rcases h.site hmem with ⟨k, hk, he⟩ | ⟨ctx, u, bg, rfl, he⟩
  · obtain rfl : l = { k with parent := none } := by simpa using he
    have hmode := h.mode
    have hbehind := h.behind
    obtain ⟨tree, tabs, bg⟩ := q
    rcases List.mem_append.mp hk with hk | hk
    · obtain ⟨as, bs, rfl⟩ := List.append_of_mem hk
      obtain rfl : tree = none := by simpa using hmode
      obtain rfl : bg = [] := hbehind rfl
      exact .tab as bs k
    · obtain ⟨as, bs, rfl⟩ := List.append_of_mem hk
      cases tree with
      | none => simp at hbehind
      | some t =>
        obtain rfl : tabs = [] := by simpa using hmode
        exact .hidden t as bs k
  · cases u with
    | leaf k =>
      obtain rfl : l = { k with parent := ctx.parent } := by simpa [SplitTree.top] using he
      exact .tree ctx k bg
    | node => simp [SplitTree.top] at he

theorem Represents.not_hidden {ctx : Context} {l : Leaf} {bg : List Leaf}
    (h : s.Represents ⟨some (ctx.fill (.leaf l)), [], bg⟩) : l.id ∉ s.background := by
  rw [h.background]
  intro hmem
  have hnodup := (List.nodup_append.mp h.nodup_place).2.1
  exact (List.nodup_append.mp hnodup).2.2 l.id (by simp [SplitTree.ids]) l.id hmem rfl

/-- A container stands in some place of the tree. -/
theorem Represents.container (h : s.Represents q) {id : PaneId} {c : Container}
    (hc : s.pane? id = some (.container c)) :
    ∃ (ctx : Context) (a b : SplitTree) (bg : List Leaf),
      q = ⟨some (ctx.fill (.node id c.orientation c.ratio a b)), [], bg⟩ ∧
      c = ⟨id, c.orientation, c.ratio, a.id, b.id, ctx.parent⟩ := by
  obtain ⟨hmem, hid⟩ := (pane?_eq_some_iff h.nodup_ids).mp hc
  rcases h.site hmem with ⟨k, -, he⟩ | ⟨ctx, u, bg, rfl, he⟩
  · simp at he
  · cases u with
    | leaf k => simp [SplitTree.top] at he
    | node i o r a b =>
      obtain rfl : c = ⟨i, o, r, a.id, b.id, ctx.parent⟩ := by simpa [SplitTree.top] using he
      obtain rfl : i = id := hid
      exact ⟨ctx, a, b, bg, rfl, rfl⟩

section Removal

open Edit

variable {as bs : List Leaf} {l : Leaf}

theorem erase_map_id (hnodup : ((as ++ l :: bs).map Leaf.id).Nodup) :
    ((as ++ l :: bs).map Leaf.id).erase l.id = (as ++ bs).map Leaf.id := by
  simp only [List.map_append, List.map_cons] at hnodup ⊢
  have hnot : l.id ∉ as.map Leaf.id := fun hmem =>
    (List.nodup_append.mp hnodup).2.2 _ hmem _ List.mem_cons_self rfl
  rw [List.erase_append_right _ hnot, List.erase_cons_head]

/-- A tab that is taken out leaves the other tabs. -/
theorem Represents.removeTab (h : s.Represents ⟨none, as ++ l :: bs, []⟩) :
    Represents { s.remove l.id with tabs := s.tabs.erase l.id } ⟨none, as ++ bs, []⟩ := by
  have hids : ((as ++ l :: bs).map Leaf.id).Nodup := by simpa [Plan.ids_eq] using h.nodup
  have hpanes : s.panes.Perm (.leaf { l with parent := none } :: Plan.parked (as ++ bs)) := by
    have hpanes := h.panes
    rw [Plan.panes_eq, List.append_nil] at hpanes
    exact hpanes.trans (Plan.parked_middle as bs l)
  refine ⟨?_, h.root, ?_, h.background, ?_, ?_, .inl rfl, fun _ => rfl⟩
  · have hrest : (s.remove l.id).panes.Perm (Plan.parked (as ++ bs)) :=
      perm_remove hpanes h.nodup_ids
    simpa [Plan.panes_eq] using hrest
  · show s.tabs.erase l.id = _
    rw [h.tabs, erase_map_id hids]
  · have hsub := hids.sublist (List.Sublist.map Leaf.id
      ((List.sublist_cons_self l bs).append_left as))
    simpa [Plan.ids_eq] using hsub
  · intro id hid
    refine h.fresh id ?_
    simp only [Plan.ids_eq, Option.toList_none, List.flatMap_nil, List.nil_append, List.append_nil,
      List.map_append, List.map_cons, List.mem_append, List.mem_cons] at hid ⊢
    tauto

theorem exec_closeTab (h : s.Represents ⟨none, as ++ l :: bs, []⟩) (outbox : List Notice) :
    let t : Layout := { s.remove l.id with tabs := s.tabs.erase l.id }
    exec (closeTab l.id) ⟨s, outbox⟩ = match (as ++ bs).getLast? with
      | none => (.ok none, ⟨{ t with activeTab := none }, outbox⟩)
      | some k =>
        if s.activeTab = some l.id then (.ok (some k.id), ⟨t.showTab k.id, outbox⟩)
        else (.ok s.focused, ⟨t, outbox⟩) := by
  intro t
  have hlast : (s.tabs.erase l.id).getLast? = (as ++ bs).getLast?.map Leaf.id := by
    rw [← List.getLast?_map]
    exact congrArg List.getLast? h.removeTab.tabs
  have hempty : (s.tabs.erase l.id).isEmpty = (as ++ bs).isEmpty := by
    rw [← List.isEmpty_map (f := Leaf.id)]
    exact congrArg List.isEmpty h.removeTab.tabs
  simp only [closeTab, exec_bind, exec_update, exec_layout, exec_ite, hlast, hempty]
  cases hnext : (as ++ bs).getLast? with
  | none =>
    rw [List.getLast?_eq_none_iff.mp hnext]
    rfl
  | some k =>
    have hsome : (as ++ bs).isEmpty = false := by
      rw [List.isEmpty_eq_false_iff]
      exact List.ne_nil_of_mem (List.mem_of_getLast? hnext)
    rw [hsome]
    by_cases hactive : s.activeTab = some l.id <;> simp [t, remove, hactive]

theorem Represents.removeHidden {t : SplitTree} (h : s.Represents ⟨some t, [], as ++ l :: bs⟩) :
    Represents { s.remove l.id with background := s.background.erase l.id }
      ⟨some t, [], as ++ bs⟩ := by
  have hids : (t.ids ++ (as ++ l :: bs).map Leaf.id).Nodup := by simpa [Plan.ids_eq] using h.nodup
  have hpanes : s.panes.Perm
      (.leaf { l with parent := none } :: (t.panes none ++ Plan.parked (as ++ bs))) := by
    have hpanes := h.panes
    simp only [Plan.panes_eq, Option.toList_some, List.flatMap_singleton, List.nil_append] at hpanes
    exact hpanes.trans (((Plan.parked_middle as bs l).append_left _).trans List.perm_middle)
  refine ⟨?_, h.root, h.tabs, ?_, ?_, ?_, .inr rfl, by simp⟩
  · have hrest : (s.remove l.id).panes.Perm (t.panes none ++ Plan.parked (as ++ bs)) :=
      perm_remove hpanes h.nodup_ids
    simpa [Plan.panes_eq] using hrest
  · show s.background.erase l.id = _
    rw [h.background, erase_map_id (List.nodup_append.mp hids).2.1]
  · have hsub := hids.sublist (((List.sublist_cons_self l bs).append_left as).map
      Leaf.id |>.append_left t.ids)
    simpa [Plan.ids_eq] using hsub
  · intro id hid
    refine h.fresh id ?_
    simp only [Plan.ids_eq, Option.toList_some, List.flatMap_singleton, List.nil_append,
      List.map_append, List.map_cons, List.mem_append, List.mem_cons] at hid ⊢
    tauto

theorem exec_closeTreeLeaf_root {bg : List Leaf} (h : s.Represents ⟨some (.leaf l), [], bg⟩)
    (outbox : List Notice) :
    ∃ s' : Layout, exec (closeTreeLeaf { l with parent := none }) ⟨s, outbox⟩ =
        (.ok (bg.getLast?.map Leaf.id), ⟨s', outbox⟩) ∧
      s'.Represents (Plan.restored bg) ∧ s'.activeTab = s.activeTab ∧ s'.focused = s.focused := by
  have hpanes : s.panes.Perm (.leaf { l with parent := none } :: Plan.parked bg) := by
    simpa [Plan.panes_eq, SplitTree.panes] using h.panes
  have hids : (l.id :: bg.map Leaf.id).Nodup := by
    simpa [Plan.ids_eq, SplitTree.ids] using h.nodup
  have hrest : (s.remove l.id).panes.Perm (Plan.parked bg) := perm_remove hpanes h.nodup_ids
  have hbg : (s.remove l.id).background = bg.map Leaf.id := h.background
  rcases List.eq_nil_or_concat' bg with rfl | ⟨bg, k, rfl⟩
  · refine ⟨{ s.remove l.id with root := none }, ?_, ?_⟩
    · simp [closeTreeLeaf, restore, hbg]
    · exact ⟨⟨hrest, rfl, h.tabs, h.background, .nil,
        by simp [Plan.restored, Plan.ids, Plan.trees], .inl rfl, fun _ => rfl⟩, rfl, rfl⟩
  · let show' : Leaf → Leaf := fun l => { l with visible := true, parent := none }
    have hback : (s.remove l.id).background.getLast? = some k.id := by simp [hbg]
    have hdrop : (s.remove l.id).background.dropLast = bg.map Leaf.id := by simp [hbg]
    have hk : (s.remove l.id).panes.Perm (.leaf { k with parent := none } :: Plan.parked bg) := by
      have hlast := Plan.parked_middle bg [] k
      rw [List.append_nil] at hlast
      exact hrest.trans hlast
    have hmod : ((s.remove l.id).modifyLeaf k.id show').panes.Perm
        (.leaf { k with visible := true, parent := none } :: Plan.parked bg) :=
      perm_modifyLeaf hk (nodup_remove h.nodup_ids _) show'
    have hback' : (k.id :: bg.map Leaf.id).Nodup := by
      have hnodup := (List.nodup_cons.mp hids).2
      rw [List.map_append] at hnodup
      exact List.nodup_append_comm.mp hnodup
    refine ⟨{ (s.remove l.id).modifyLeaf k.id show' with
      background := bg.map Leaf.id, root := some k.id }, ?_, ?_⟩
    · simp only [closeTreeLeaf, exec_bind, exec_update, exec_layout, restore, hback]
      simp only [exec_pure, List.getLast?_concat, Option.map_some]
      rw [← hdrop]
      rfl
    · simp only [Plan.restored, List.getLast?_concat, List.dropLast_concat]
      refine ⟨⟨?_, rfl, h.tabs, rfl, ?_, ?_, .inr rfl, by simp⟩, rfl, rfl⟩
      · simpa [Plan.panes_eq, SplitTree.panes] using hmod
      · simpa [Plan.ids_eq, SplitTree.ids] using hback'
      · intro id hid
        refine h.fresh id ?_
        simp only [Plan.ids_eq, SplitTree.ids, Option.toList_some, List.flatMap_singleton,
          List.nil_append, List.map_append, List.map_cons, List.mem_append, List.mem_cons] at hid ⊢
        tauto

end Removal

end Layout

end Multiplexer
