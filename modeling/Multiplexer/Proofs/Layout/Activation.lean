import Multiplexer.Proofs.Layout.Navigation

/-!
# Bringing a session to the front

A session that is shown anywhere can be brought to the front, and no other can.
Where it is found says how much has to change: in sight only the focus moves,
among tabs another one comes to the front, and behind a tree the tree gives way
to tabs.
-/

namespace Multiplexer

namespace Layout

open Edit

structure InFront (s : Layout) (x : SessionId) (id : PaneId) : Prop where
  focused : s.focused = some id
  leaf : ∃ l, s.leaf? id = some l ∧ l.session = some x ∧ l.visible = true ∧ l.focused = true
  alone : s.tabbed = true → s.activeTab = some id ∧ s.visibleLeaves = [id] ∧
    ∀ l ∈ s.held, (l.visible = true ↔ l.id = id)

variable {s : Layout} {σ : Scene} {x : SessionId}

section Sight

theorem showsAt_mapLeaves (s : Layout) {f : Leaf → Leaf} (hf : Leaf.FlagChange f) (x : SessionId)
    (id : PaneId) : (s.mapLeaves f).showsAt x id = s.showsAt x id := by
  rw [showsAt, showsAt, leaf?, leaf?, s.pane?_mapLeaves hf]
  cases s.pane? id with
  | none => rfl
  | some p => cases p <;> simp [Pane.mapLeaf, Pane.leaf?, Leaf.shows, hf.session]

theorem showsAt_refocus (s : Layout) (target : Option PaneId) (x : SessionId) (id : PaneId) :
    (s.refocus target).showsAt x id = s.showsAt x id := by
  rw [refocus_eq]
  exact s.showsAt_mapLeaves (.ofRefocus _ _) x id

theorem showsAt_showTab (s : Layout) (active : PaneId) (x : SessionId) (id : PaneId) :
    (s.showTab active).showsAt x id = s.showsAt x id := by
  rw [showTab_eq]
  exact s.showsAt_mapLeaves (.ofFront _ _) x id

/-- Where the focus is can be seen. -/
theorem Regular.inFront (h : s.Regular σ) {id : PaneId} (hf : s.focused = some id)
    (hx : s.showsAt x id = true) : s.InFront x id := by
  obtain ⟨l, hl, hshows⟩ := (Option.any_eq_true _ _).mp hx
  obtain ⟨p, hp, hleaf⟩ := Option.bind_eq_some_iff.mp hl
  obtain rfl : p = .leaf l := by
    cases p with
    | leaf k => simpa [Pane.leaf?] using hleaf
    | container c => simp [Pane.leaf?] at hleaf
  obtain ⟨hmem, hid⟩ := (pane?_eq_some_iff h.presents.represents.nodup_ids).mp hp
  obtain rfl : l.id = id := hid
  have hheld : l ∈ s.held := mem_held.mpr hmem
  have hc := h.coherent
  obtain ⟨f, hf', -, hscreen, hflag⟩ := hc.focused (List.ne_nil_of_mem hheld)
  obtain rfl : f = l.id := Option.some.inj (hf'.symm.trans hf)
  have hseen : l.id ∈ s.visibleLeaves := by
    unfold visibleLeaves
    split_ifs at hscreen ⊢
    · simpa using hscreen
    · exact hscreen
  refine ⟨hf, ⟨l, hl, by simpa [Leaf.shows] using hshows, (hc.visible l hheld).mpr hseen,
    (hflag l hheld).mpr rfl⟩, fun htabs => ?_⟩
  rw [if_pos htabs] at hscreen
  have hvisible : s.visibleLeaves = [l.id] := by
    rw [visibleLeaves, if_pos htabs, hscreen]
    rfl
  exact ⟨hscreen, hvisible, fun k hk => by rw [hc.visible k hk, hvisible, List.mem_singleton]⟩

end Sight

section Tree

/-- A session that the tree shows is looked for there, and the focus goes to its first leaf. -/
theorem Regular.activate_leaf (h : s.Regular σ) (htabs : s.tabbed = false) {l : Leaf}
    (hfind : (s.leaves.find? fun k => k.shows x) = some l) :
    ∃ told, s.run (activate x) = (.ok l.id, s.facing l.id, told) := by
  have hid : s.screenRefusal? l.id = none := screenRefusal?_eq_none.mpr
    ⟨l, h.presents.represents.pane?_of_mem_leaves (List.mem_of_find?_eq_some hfind)⟩
  have hroot : s.root.isNone = false := by
    cases hroot : s.root with
    | some root => rfl
    | none => simp [leaves, hroot] at hfind
  have hfocus := exec_setFocused h.presents hid
  rw [h.brought_eq l.id] at hfocus
  have hrun : exec (activate x) ⟨s, []⟩ = exec (setFocused l.id >>= fun _ => pure l.id) ⟨s, []⟩ := by
    simp only [activate, exec_bind, exec_layout, htabs, hroot, hfind, Bool.false_eq_true, if_false]
  rw [exec_bind, hfocus] at hrun
  rw [run_eq, hrun]
  split_ifs with hsame
  · rw [h.facing_focus hsame]
    exact ⟨_, rfl⟩
  · exact ⟨_, rfl⟩

end Tree

section Tabs

/-- A session that is not in the tree is looked for among the tabs, to which the tree gives way. -/
theorem Presents.exec_activate_asTabs (h : s.Presents σ) (hshown : s.displays x = true)
    (hout : s.tabbed = true ∨ ∀ l ∈ s.leaves, l.session ≠ some x) :
    exec (activate x) ⟨s, []⟩ = exec (activateTab x) ⟨s.asTabs, []⟩ := by
  have hr := h.represents
  cases htabs : s.tabbed with
  | true =>
    simp only [activate, Layout.asTabs, exec_bind, exec_layout, htabs, if_true]
  | false =>
    have hnone : (s.leaves.find? fun k => k.shows x) = none := by
      simpa [Leaf.shows] using hout.resolve_left (by simp [htabs])
    have hbg : s.background.any (s.showsAt x) = true := by
      have hany : (s.leaves.any fun k => k.shows x) = false := by simpa using hnone
      rwa [hr.displays_tree htabs, hany, Bool.false_or] at hshown
    have hroot : s.root.isNone = false := by
      cases hroot : s.root with
      | some root => rfl
      | none =>
        have hbehind := hr.behind (by simpa [hroot, eq_comm] using hr.root)
        simp [hr.background, hbehind] at hbg
    simp only [activate, exec_bind _ _ ⟨s, []⟩, exec_layout, htabs, hroot, hnone, hbg,
      Layout.asTabs]
    rfl

/-- A session among the tabs is brought to the front there. -/
theorem Presents.activate_tab (h : s.Presents σ) (hshown : s.displays x = true)
    (hout : s.tabbed = true ∨ ∀ l ∈ s.leaves, l.session ≠ some x) :
    ∃ id told, id ∈ s.asTabs.tabs ∧ s.asTabs.showsAt x id = true ∧
      s.run (activate x) = (.ok id, (s.asTabs.showTab id).refocus (some id), told) := by
  obtain ⟨target, s', told, hran, -⟩ := exec_activateTab_asTabs h hshown
  have hrun := h.exec_activate_asTabs hshown hout
  cases hfind : s.asTabs.tabs.find? (s.asTabs.showsAt x) with
  | none =>
    simp only [activateTab, exec_bind, exec_layout, hfind, exec_throw] at hran
    simp at hran
  | some id =>
    rw [exec_activateTab hfind] at hrun
    exact ⟨id, _, List.mem_of_find?_eq_some hfind, List.find?_some hfind, by rw [run_eq, hrun]⟩

theorem tabs_showTab_refocus (s : Layout) (id : PaneId) :
    ((s.showTab id).refocus (some id)).tabs = s.tabs := by
  rw [refocus_eq, showTab_eq]
  rfl

end Tabs

structure Brings (s : Layout) (x : SessionId) (id : PaneId) (s' : Layout) : Prop where
  inFront : s'.InFront x id
  sessions : ∀ y, s'.displays y = s.displays y
  tabs : s.tabbed = true → s'.tabs = s.tabs
  /-- The first leaf of the walk gets the focus, and nothing else changes. -/
  tree : s.tabbed = false → ∀ l, (s.leaves.find? fun k => k.shows x) = some l → id = l.id ∧
    s' = { s.mapLeaves fun k => { k with focused := k.id == id } with focused := some id }
  behind : s.tabbed = false → (∀ l ∈ s.leaves, l.session ≠ some x) → s'.tabbed = true

/-- A session is brought to the front if it is shown, and else nothing happens. -/
structure Activates (s : Layout) (x : SessionId) : Prop where
  brought : s.displays x = true →
    ∃ id s' told, s.run (activate x) = (.ok id, s', told) ∧ s.Brings x id s'
  refused : s.displays x = false → s.run (activate x) =
    (.error (if s.isEmpty then .emptyLayout else .sessionNotDisplayed x), s, [])

theorem Regular.displays_activate (h : s.Regular σ) {id : PaneId} {s' : Layout}
    {told : List Notice} (hrun : s.run (activate x) = (.ok id, s', told)) (y : SessionId) :
    s'.displays y = s.displays y := by
  obtain ⟨-, σ', h', hstep⟩ := (activate_decides h.presents x).of_run hrun
  rw [Bool.eq_iff_iff, h'.represents.displays_iff, h.presents.represents.displays_iff,
    hstep.shows_rearranged]

/-- Outside of a tree a session is found among the tabs. -/
theorem Regular.brings_tab (h : s.Regular σ) (hshown : s.displays x = true)
    (hout : s.tabbed = true ∨ ∀ l ∈ s.leaves, l.session ≠ some x) :
    ∃ id s' told, s.run (activate x) = (.ok id, s', told) ∧ s.Brings x id s' := by
  obtain ⟨id, told, hid, hx, hrun⟩ := h.presents.activate_tab hshown hout
  obtain ⟨σ', h'⟩ := h.apply (.activate x)
  have hleft : s.apply (.activate x) = _ := congrArg (fun r => r.2.1) hrun
  rw [hleft] at h'
  refine ⟨id, _, told, hrun, ?_⟩
  constructor
  case inFront =>
    refine h'.inFront (focused_refocus _ _) ?_
    rw [showsAt_refocus, showsAt_showTab, hx]
  case sessions => exact h.displays_activate hrun
  case tabs =>
    intro htabs
    rw [tabs_showTab_refocus, asTabs, if_pos htabs]
  case tree =>
    intro htabs l hfind
    have hsession : l.session = some x := by simpa [Leaf.shows] using List.find?_some hfind
    exact absurd hsession
      (hout.resolve_left (by simp [htabs]) l (List.mem_of_find?_eq_some hfind))
  case behind =>
    intro _ _
    rw [tabbed, tabs_showTab_refocus]
    simpa using List.ne_nil_of_mem hid

/-- In a tree a session that it shows is found at its first leaf. -/
theorem Regular.brings_leaf (h : s.Regular σ) (htabs : s.tabbed = false) {l : Leaf}
    (hfind : (s.leaves.find? fun k => k.shows x) = some l) :
    ∃ told, s.run (activate x) = (.ok l.id, s.facing l.id, told) ∧
      s.Brings x l.id (s.facing l.id) := by
  obtain ⟨told, hrun⟩ := h.activate_leaf htabs hfind
  obtain ⟨σ', h'⟩ := h.apply (.activate x)
  have hleft : s.apply (.activate x) = _ := congrArg (fun r => r.2.1) hrun
  rw [hleft] at h'
  refine ⟨told, hrun, ?_⟩
  constructor
  case inFront =>
    have hpane := h.presents.represents.pane?_of_mem_leaves (List.mem_of_find?_eq_some hfind)
    refine h'.inFront rfl ?_
    rw [← h.brought_eq, htabs, if_neg (by simp), showsAt_refocus, showsAt, leaf?, hpane.1]
    exact (List.find?_some hfind :)
  case sessions => exact h.displays_activate hrun
  case tabs => exact fun htabbed => absurd htabbed (by simp [htabs])
  case tree =>
    intro _ k hk
    obtain rfl : l = k := Option.some.inj (hfind.symm.trans hk)
    refine ⟨rfl, ?_⟩
    rw [facing, htabs]
    rfl
  case behind =>
    intro _ hnone
    have hsession : l.session = some x := by simpa [Leaf.shows] using List.find?_some hfind
    exact absurd hsession (hnone l (List.mem_of_find?_eq_some hfind))

/-- A layout brings a session to the front exactly if it shows it. -/
theorem Regular.activates (h : s.Regular σ) (x : SessionId) : s.Activates x where
  refused hnone := by
    have hdecides := activate_decides h.presents x
    rwa [absence?, hnone] at hdecides
  brought hshown := by
    cases htabs : s.tabbed with
    | true => exact h.brings_tab hshown (.inl htabs)
    | false =>
      cases hfind : s.leaves.find? fun k => k.shows x with
      | none => exact h.brings_tab hshown (.inr (by simpa [Leaf.shows] using hfind))
      | some l =>
        obtain ⟨told, hrun, hbrings⟩ := h.brings_leaf htabs hfind
        exact ⟨l.id, _, told, hrun, hbrings⟩

/-- Whatever has been asked of a layout that was empty, a session is brought to the front if and
only if it is shown. -/
theorem activates_after_operations (splitRatio : Binary64) (nextId : Nat) (ops : List Operation)
    (x : SessionId) : (ops.foldl apply { splitRatio, nextId }).Activates x := by
  obtain ⟨σ, h⟩ := regular_of_operations splitRatio nextId ops
  exact h.activates x

end Layout

end Multiplexer
