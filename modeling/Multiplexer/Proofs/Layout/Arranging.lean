import Multiplexer.Proofs.Layout.Steps

/-!
# Steps that arrange

Operations that bring a leaf to the front or change the share of a container.
A session that is not on screen is brought there by making tabs of the tree.
-/

namespace Multiplexer

namespace Layout

open Edit

variable {s : Layout} {σ : Scene} {q : Plan}

/-- Moving the focus to a leaf is a step of the scene. -/
theorem Presents.moved (h : s.Presents σ) {id : PaneId} (hid : id ∈ s.leafIds) :
    (s.refocus (some id)).Follows σ .rearranged (σ.news (some id)) := by
  have hmode := h.represents.mode
  rw [h.represents.leafIds_eq] at hid
  obtain ⟨l, hl, rfl⟩ := List.mem_map.mp hid
  obtain ⟨t, ht, hl⟩ := List.mem_flatMap.mp hl
  have hplan : σ.plan = ⟨some t, [], σ.plan.background⟩ := by
    cases hq : σ.plan
    simp_all
  exact ⟨_, h.refocus _, .moved t _ l hplan hl⟩

/-- Bring one of the tabs to the front, which may have been those of a tree. -/
theorem Presents.fronted {tabs : List Leaf} {focused : Option PaneId}
    (hgathered : σ.Gathered tabs focused)
    (h : s.Presents ⟨⟨none, tabs, []⟩, σ.active, focused⟩) {id : PaneId} (hid : id ∈ s.tabs) :
    ((s.showTab id).refocus (some id)).Follows σ .rearranged
      (if s.focused = some id then [.changed] else [.changed, .focus (some id)]) := by
  rw [h.represents.tabs] at hid
  obtain ⟨l, hl, rfl⟩ := List.mem_map.mp hid
  rw [h.focused]
  exact ⟨_, (h.showTab l.id).refocus _, .fronted tabs l focused hgathered hl⟩

theorem Presents.tabs_eq (h : s.Presents σ) (htabs : s.tabbed = true) :
    σ.plan = ⟨none, σ.plan.tabs, []⟩ := by
  have hmode := h.represents.mode
  have hbehind := h.represents.behind
  have hsome : σ.plan.tabs ≠ [] := by
    intro hnil
    simp [tabbed, h.represents.tabs, hnil] at htabs
  have htree : σ.plan.tree = none := by simpa [hsome] using hmode
  have hbg := hbehind htree
  cases hplan : σ.plan
  simp_all

/-- Bring a leaf to the front that stands in the order of panes. -/
theorem Presents.brought (h : s.Presents σ) {id : PaneId} (hid : id ∈ s.order) :
    ((if s.tabbed then s.showTab id else s).refocus (some id)).Follows σ .rearranged
      (if s.focused = some id then [.changed] else [.changed, .focus (some id)]) := by
  unfold order at hid
  cases htabs : s.tabbed with
  | true =>
    have hplan := h.tabs_eq htabs
    rw [if_pos htabs] at hid
    rw [if_pos rfl]
    have h' : s.Presents ⟨⟨none, σ.plan.tabs, []⟩, σ.active, σ.focused⟩ := by rwa [← hplan]
    exact h'.fronted (.tabs _ hplan) hid
  | false =>
    rw [if_neg (by simp [htabs])] at hid
    rw [if_neg (by simp), h.focused]
    exact h.moved hid

/-- A leaf that is not hidden stands in the order of panes. -/
theorem Presents.mem_order (h : s.Presents σ) {id : PaneId} (hid : s.screenRefusal? id = none) :
    id ∈ s.order ∧ (id ∈ s.tabs ↔ s.tabbed = true) := by
  obtain ⟨q, active, focused⟩ := σ
  have hr : s.Represents q := h.represents
  obtain ⟨l, hpane, hbg⟩ := screenRefusal?_eq_none.mp hid
  obtain ⟨hholds, rfl⟩ := hr.holds hpane
  unfold order
  cases hholds with
  | tab as bs k => simp [tabbed, hr.tabs]
  | hidden t as bs k => simp [hr.background] at hbg
  | tree ctx k bg => simp [tabbed, hr.tabs, hr.leafIds_eq, Context.leaves_fill, SplitTree.leaves]

theorem exec_setFocused {id : PaneId} (h : s.Presents σ) (hid : s.screenRefusal? id = none) :
    exec (setFocused id) ⟨s, []⟩ = if s.focused = some id then (.ok (), ⟨s, []⟩) else
      (.ok (), ⟨(if s.tabbed then s.showTab id else s).refocus (some id),
        [.changed, .focus (some id)]⟩) := by
  have htab := (h.mem_order hid).2
  obtain ⟨l, hpane, hbg⟩ := screenRefusal?_eq_none.mp hid
  by_cases hfocus : s.focused = some id
  · simp [setFocused, exec_requireLeaf, hpane, hbg, hfocus]
  · cases htabs : s.tabbed <;>
      simp [setFocused, exec_requireLeaf, hpane, hbg, hfocus, htab, htabs]

/-- Focusing a pane is refused, or it is a step of the scene. -/
theorem setFocused_decides (h : s.Presents σ) (id : PaneId) :
    s.Decides (setFocused id) (s.screenRefusal? id) fun _ s' told =>
      s'.Follows σ .rearranged told := by
  unfold screenRefusal?
  refine .ofLeaf id rfl fun l hpane => ?_
  by_cases hbg : id ∈ s.background
  · rw [if_pos hbg]
    exact .ofError (by simp [setFocused, exec_requireLeaf, hpane, hbg])
  · rw [if_neg hbg]
    have hid : s.screenRefusal? id = none := screenRefusal?_eq_none.mpr ⟨l, hpane, hbg⟩
    have hrun := exec_setFocused h hid
    by_cases hfocus : s.focused = some id
    · exact .ofOk (hrun.trans (if_pos hfocus)) ⟨_, h, .idle⟩
    · have hbrought := h.brought (h.mem_order hid).1
      rw [if_neg hfocus] at hbrought hrun
      exact .ofOk hrun hbrought

/-- Where the focus is to go. -/
def neighbour? (s : Layout) (d : Direction) : Option PaneId :=
  s.order[match s.focused.bind s.order.idxOf? with
    | some i => wrap d i s.order.length
    | none => 0]?

theorem exec_navigate (s : Layout) (d : Direction) :
    exec (navigate d) ⟨s, []⟩ = match s.neighbour? d with
      | none => (.ok none, ⟨s, []⟩)
      | some target =>
        if s.focused = some target then (.ok (some target), ⟨s, []⟩)
        else (.ok (some target),
          ⟨(if s.tabbed then s.showTab target else s).refocus (some target),
            [.changed, .focus (some target)]⟩) := by
  have hstep : exec (navigate d) ⟨s, []⟩ = exec (match s.neighbour? d with
      | none => return none
      | some target => do
        if s.focused ≠ some target then
          if s.tabbed then update (·.showTab target)
          let _ ← finish target
        return some target) ⟨s, []⟩ := rfl
  rw [hstep]
  cases s.neighbour? d with
  | none => rfl
  | some target =>
    by_cases hfocus : s.focused = some target
    · simp [hfocus]
    · cases htabs : s.tabbed <;> simp [hfocus]

theorem navigate_decides (h : s.Presents σ) (d : Direction) :
    s.Decides (navigate d) none fun _ s' told => s'.Follows σ .rearranged told := by
  have hrun := exec_navigate s d
  cases htarget : s.neighbour? d with
  | none =>
    rw [htarget] at hrun
    exact .ofOk hrun ⟨_, h, .idle⟩
  | some target =>
    rw [htarget] at hrun
    by_cases hfocus : s.focused = some target
    · exact .ofOk (hrun.trans (if_pos hfocus)) ⟨_, h, .idle⟩
    · have hbrought := h.brought (List.mem_of_getElem? htarget)
      rw [if_neg hfocus] at hbrought
      exact .ofOk (hrun.trans (if_neg hfocus)) hbrought

/-- A layout in tabbed mode, if it is not in it already. -/
def asTabs (s : Layout) : Layout := if s.tabbed then s else s.unroot

theorem Presents.asTabs (h : s.Presents σ) : ∃ tabs focused, σ.Gathered tabs focused ∧
    s.asTabs.Presents ⟨⟨none, tabs, []⟩, σ.active, focused⟩ := by
  unfold Layout.asTabs
  cases htabs : s.tabbed with
  | true =>
    have hplan := h.tabs_eq htabs
    exact ⟨_, _, .tabs _ hplan, by rwa [if_pos rfl, ← hplan]⟩
  | false =>
    obtain ⟨⟨tree, tabs, bg⟩, active, focused⟩ := σ
    have hr : s.Represents ⟨tree, tabs, bg⟩ := h.represents
    obtain rfl : tabs = [] := by simpa [tabbed, hr.tabs] using htabs
    obtain ⟨tabs, hunroot, hcollapses, hactive, hfocus⟩ := hr.unroot
    rw [show s.focused = focused from h.focused] at hfocus
    exact ⟨tabs, _, .tree tree tabs bg rfl hcollapses, by simpa using hunroot,
      hactive.trans h.active, hfocus⟩

theorem exec_activateTab {session : SessionId} {target : PaneId}
    (hfind : s.tabs.find? (s.showsAt session) = some target) :
    exec (activateTab session) ⟨s, []⟩ =
      (.ok target, ⟨(s.showTab target).refocus (some target),
        if s.focused = some target then [.changed] else [.changed, .focus (some target)]⟩) := by
  simp only [activateTab, exec_bind, exec_layout, hfind, exec_update, exec_settle, exec_pure]
  rw [showTab_eq]
  rfl

/-- A session that is shown is found on a tab once the layout is tabbed. -/
theorem exec_activateTab_asTabs (h : s.Presents σ) {session : SessionId}
    (hshown : s.displays session = true) : ∃ target s' told,
      exec (activateTab session) ⟨s.asTabs, []⟩ = (.ok target, ⟨s', told⟩) ∧
      s'.Follows σ .rearranged told := by
  obtain ⟨tabs, focused, hgathered, h'⟩ := h.asTabs
  obtain ⟨l, hl, hs⟩ := (hgathered.shows_iff session).mpr (h.represents.displays_iff.mp hshown)
  have hat : s.asTabs.showsAt session l.id = true := (h'.represents.showsAt_iff hl).mpr hs
  have htab : l.id ∈ s.asTabs.tabs := by
    rw [h'.represents.tabs]
    rw [Plan.leaves_eq] at hl
    exact List.mem_map_of_mem (by simpa using hl)
  cases hfind : s.asTabs.tabs.find? (s.asTabs.showsAt session) with
  | none => exact absurd hat (List.find?_eq_none.mp hfind l.id htab)
  | some target =>
    exact ⟨target, _, _, exec_activateTab hfind,
      h'.fronted hgathered (List.mem_of_find?_eq_some hfind)⟩

/-- Why a session is not brought to the front. -/
def absence? (s : Layout) (session : SessionId) : Option LayoutError :=
  if s.displays session then none
  else some (if s.isEmpty then .emptyLayout else .sessionNotDisplayed session)

theorem Represents.pane?_of_mem_leaves (h : s.Represents q) {l : Leaf} (hl : l ∈ s.leaves) :
    s.pane? l.id = some (.leaf l) ∧ l.id ∉ s.background := by
  have hnodup := h.nodup
  rw [h.leaves_eq] at hl
  obtain ⟨t, ht, hl⟩ := List.mem_flatMap.mp hl
  obtain ⟨p, hp, hpl⟩ := List.mem_filterMap.mp hl
  obtain rfl : p = .leaf l := by
    cases p with
    | leaf k => simpa [Pane.leaf?] using hpl
    | container c => simp [Pane.leaf?] at hpl
  refine ⟨h.pane?_eq.mpr ⟨?_, rfl⟩, ?_⟩
  · rw [Plan.panes_eq]
    exact List.mem_append_left _ (List.mem_flatMap.mpr ⟨t, ht, hp⟩)
  · rw [h.background]
    intro hbg
    rw [Plan.ids_eq, List.map_append] at hnodup
    have hid : l.id ∈ t.ids := by
      rw [← t.map_id_panes none]
      exact List.mem_map_of_mem hp
    exact (List.nodup_append.mp hnodup).2.2 l.id (List.mem_flatMap.mpr ⟨t, ht, hid⟩) l.id
      (List.mem_append_right _ hbg) rfl

/-- In tree mode a session is looked for in the tree and then behind it. -/
theorem Represents.displays_tree (h : s.Represents q) (htabs : s.tabbed = false)
    (session : SessionId) : s.displays session =
      (s.leaves.any (fun l => l.shows session) || s.background.any (s.showsAt session)) := by
  have hnil : s.tabs = [] := by simpa [tabbed] using htabs
  have hleaves : s.leafIds.any (s.showsAt session) = s.leaves.any fun l => l.shows session := by
    have hat : ∀ l ∈ s.leaves, s.showsAt session l.id = l.shows session := by
      intro l hl
      simp [showsAt, leaf?, (h.pane?_of_mem_leaves hl).1, Pane.leaf?]
    rw [leafIds, List.any_map, Bool.eq_iff_iff, List.any_eq_true, List.any_eq_true]
    exact exists_congr fun l => and_congr_right fun hl => by rw [Function.comp_apply, hat l hl]
  rw [displays, everyLeaf, hnil, List.append_nil, List.any_append, hleaves]

theorem activate_decides (h : s.Presents σ) (session : SessionId) :
    s.Decides (activate session) (s.absence? session) fun _ s' told =>
      s'.Follows σ .rearranged told := by
  unfold absence?
  have hr := h.represents
  cases htabs : s.tabbed with
  | true =>
    have hsame : s.asTabs = s := if_pos htabs
    have htab : exec (activate session) ⟨s, []⟩ = exec (activateTab session) ⟨s, []⟩ := by
      simp only [activate, exec_bind, exec_layout, htabs, if_true]
    cases hshown : s.displays session with
    | true =>
      obtain ⟨target, s', told, hrun, hfollows⟩ := exec_activateTab_asTabs h hshown
      rw [hsame] at hrun
      exact .ofOk (htab.trans hrun) hfollows
    | false =>
      have hbusy := hr.busy_eq
      have hempty : s.isEmpty = false := by simpa [htabs] using hbusy.symm
      have hfind : s.tabs.find? (s.showsAt session) = none := by
        rw [List.find?_eq_none]
        intro id hid hat
        have hany : s.displays session = true :=
          List.any_eq_true.mpr ⟨id, by simp [everyLeaf, hid], hat⟩
        simp [hany] at hshown
      rw [hempty]
      refine .ofError (htab.trans ?_)
      simp only [activateTab, exec_bind, exec_layout, hfind, exec_throw]
      rfl
  | false =>
    have hdisplays := hr.displays_tree htabs session
    cases hroot : s.root with
    | none =>
      have hbehind := hr.behind (by simpa [hroot, eq_comm] using hr.root)
      have hbg : s.background = [] := by simp [hr.background, hbehind]
      have hempty : s.isEmpty = true := by simpa [hroot, htabs, hbg] using hr.busy_eq
      have hleaves : s.leaves = [] := by simp [leaves, hroot]
      rw [hdisplays, hleaves, hbg, hempty]
      exact .ofError (by simp [activate, htabs, hroot])
    | some root =>
      have hempty : s.isEmpty = false := by simpa [hroot] using hr.busy_eq
      cases hfind : s.leaves.find? fun l => l.shows session with
      | some l =>
        have hmem := List.mem_of_find?_eq_some hfind
        have hid : s.screenRefusal? l.id = none :=
          screenRefusal?_eq_none.mpr ⟨l, hr.pane?_of_mem_leaves hmem⟩
        have hshown : s.displays session = true := by
          rw [hdisplays, List.any_eq_true.mpr ⟨l, hmem, by simpa using List.find?_some hfind⟩]
          rfl
        have hfocus := setFocused_decides h l.id
        rw [hid] at hfocus
        rw [hshown]
        refine (hfocus.map fun _ => l.id).congr ?_
        simp only [activate, exec_bind, exec_layout, htabs, hroot, hfind, Option.isNone_some,
          Bool.false_eq_true, if_false]
        simp
      | none =>
        have hleaves : (s.leaves.any fun l => l.shows session) = false := by
          simpa using hfind
        rw [hleaves, Bool.false_or] at hdisplays
        rw [hdisplays, hempty]
        cases hbg : s.background.any (s.showsAt session) with
        | true =>
          obtain ⟨target, s', told, hrun, hfollows⟩ :=
            exec_activateTab_asTabs h (hdisplays.trans hbg)
          refine .ofOk (.trans ?_ hrun) hfollows
          simp only [activate, exec_bind _ _ ⟨s, []⟩, exec_layout, htabs, hroot, hfind, hbg, asTabs]
          rfl
        | false =>
          refine .ofError ?_
          simp only [activate, exec_bind, exec_layout, htabs, hroot, hfind, hbg]
          rfl

/-- The leaf of a new tab. -/
def tabLeaf (s : Layout) (session : SessionId) : Leaf :=
  { id := ⟨s.nextId⟩, session := some session, primary := !s.hasPrimary session }

def withTab (s : Layout) (l : Leaf) : Layout :=
  { ({ s with nextId := s.nextId + 1 } : Layout).add (.leaf l) with tabs := s.tabs ++ [l.id] }

theorem exec_createTab (s : Layout) (session : SessionId) :
    let l := s.asTabs.tabLeaf session
    exec (createTab session) ⟨s, []⟩ =
      (.ok l.id, ⟨((s.asTabs.withTab l).showTab l.id).refocus (some l.id),
        [.changed, .focus (some l.id)]⟩) := by
  unfold asTabs
  cases htabs : s.tabbed with
  | true =>
    simp only [createTab, exec_bind, exec_layout, htabs, Bool.not_true, Bool.false_eq_true,
      if_false, exec_newId, exec_update, exec_finish, List.nil_append]
    rfl
  | false =>
    simp only [createTab, exec_bind, exec_layout, htabs, Bool.not_false, if_true, exec_newId,
      exec_update, exec_finish, List.nil_append]
    rfl

theorem createTab_decides (h : s.Presents σ) (session : SessionId) :
    s.Decides (createTab session) none fun _ s' told =>
      s'.Follows σ (.grown (some session)) told := by
  obtain ⟨tabs, focused, hgathered, h₁⟩ := h.asTabs
  let l := s.asTabs.tabLeaf session
  have h₂ : (s.asTabs.withTab l).Presents ⟨⟨none, tabs ++ [l], []⟩, σ.active, focused⟩ :=
    ⟨h₁.represents.appendTab l rfl rfl, h₁.active, h₁.focused⟩
  exact .ofOk (exec_createTab s session) ⟨_, (h₂.showTab l.id).refocus _,
    .tab tabs l focused hgathered (h₁.represents.joins (Nat.le_refl _) (some session))⟩

/-- Why the ratio of a pane is not set. -/
def ratioRefusal? (s : Layout) (id : PaneId) (ratio : Binary64) : Option LayoutError :=
  if properRatio ratio then
    match s.pane? id with
    | some (.container _) => none
    | some (.leaf _) => some (.notAContainer id)
    | none => some (.paneNotFound id)
  else some (.invalidRatio ratio)

theorem setRatio_decides (h : s.Presents σ) (id : PaneId) (ratio : Binary64) :
    s.Decides (setRatio id ratio) (s.ratioRefusal? id ratio) fun _ s' told =>
      s'.Follows σ .rearranged told := by
  unfold ratioRefusal?
  by_cases hproper : properRatio ratio = true
  · rw [if_pos hproper]
    cases hpane : s.pane? id with
    | none => exact .ofError (by simp [setRatio, hproper, hpane])
    | some p =>
      cases p with
      | leaf l => exact .ofError (by simp [setRatio, hproper, hpane])
      | container c =>
        obtain ⟨ctx, a, b, bg, hplan, hc⟩ := h.represents.container hpane
        have hr := h.represents
        rw [hplan] at hr
        have hrun : exec (setRatio id ratio) ⟨s, []⟩ =
            (.ok (), ⟨s.modify id fun _ => .container { c with ratio }, [.changed]⟩) := by
          simp [setRatio, hproper, hpane]
        rw [hc] at hrun
        exact .ofOk hrun
          ⟨⟨⟨some (ctx.fill (.node id c.orientation ratio a b)), [], bg⟩, σ.active, σ.focused⟩,
            ⟨hr.withRatio ratio, h.active, h.focused⟩,
            .resized ctx id c.orientation c.ratio ratio a b bg hplan⟩
  · rw [if_neg hproper]
    exact .ofError (by simp [setRatio, hproper])

end Layout

end Multiplexer
