import Multiplexer.Proofs.Layout.Plan

/-!
# What a layout tells of its plan

Look-ups, walks and lists of a layout in terms of the plan that it represents.
The walk over the tree is cut off at the number of panes; it never gets there.
-/

namespace Multiplexer

namespace SplitTree

theorem leaf?_panes {α : Type} (g : Leaf → α) (hg : ∀ l p, g { l with parent := p } = g l)
    (t : SplitTree) (parent : Option PaneId) :
    ((t.panes parent).filterMap Pane.leaf?).map g = t.leaves.map g := by
  induction t generalizing parent with
  | leaf l => simp [panes, leaves, Pane.leaf?, hg]
  | node i o r a b iha ihb =>
    rw [panes, List.filterMap_cons_none rfl, List.filterMap_append, List.map_append, iha, ihb,
      leaves, List.map_append]

theorem exists_leaf_mem_panes {t : SplitTree} {l : Leaf} (h : l ∈ t.leaves)
    (parent : Option PaneId) : ∃ p, .leaf { l with parent := p } ∈ t.panes parent := by
  induction t generalizing parent with
  | leaf k =>
    simp only [leaves, List.mem_singleton] at h
    exact ⟨parent, by simp [panes, h]⟩
  | node i o r a b iha ihb =>
    simp only [leaves, List.mem_append] at h
    rcases h with h | h
    · obtain ⟨p, hp⟩ := iha h (some i)
      exact ⟨p, by simp [panes, hp]⟩
    · obtain ⟨p, hp⟩ := ihb h (some i)
      exact ⟨p, by simp [panes, hp]⟩

end SplitTree

namespace Plan

theorem exists_leaf_mem_panes {q : Plan} {l : Leaf} (h : l ∈ q.leaves) :
    ∃ p, .leaf { l with parent := p } ∈ q.panes := by
  obtain ⟨t, ht, hl⟩ := List.mem_flatMap.mp h
  obtain ⟨p, hp⟩ := SplitTree.exists_leaf_mem_panes hl none
  exact ⟨p, List.mem_flatMap.mpr ⟨t, ht, hp⟩⟩

theorem leaf?_panes {α : Type} (g : Leaf → α) (hg : ∀ l p, g { l with parent := p } = g l)
    (q : Plan) : (q.panes.filterMap Pane.leaf?).map g = q.leaves.map g := by
  rw [panes, leaves, List.filterMap_flatMap, List.map_flatMap, List.map_flatMap]
  exact congrArg (fun f => q.trees.flatMap f) (funext fun t => t.leaf?_panes g hg none)

theorem id_mem_ids {q : Plan} {l : Leaf} (h : l ∈ q.leaves) : l.id ∈ q.ids := by
  obtain ⟨p, hp⟩ := exists_leaf_mem_panes h
  rw [← q.map_id_panes]
  exact List.mem_map_of_mem hp

end Plan

namespace Layout

/-- All leaves of the arena, wherever they stand. -/
def held (s : Layout) : List Leaf := s.panes.filterMap Pane.leaf?

variable {s : Layout} {q : Plan}

theorem mem_held {l : Leaf} : l ∈ s.held ↔ .leaf l ∈ s.panes := by
  unfold held
  rw [List.mem_filterMap]
  constructor
  · rintro ⟨p, hp, he⟩
    cases p with
    | leaf k => simpa [Pane.leaf?] using (Option.some.inj he) ▸ hp
    | container c => simp [Pane.leaf?] at he
  · exact fun h => ⟨.leaf l, h, rfl⟩

theorem map_id_leaves_sublist (ps : List Pane) :
    ((ps.filterMap Pane.leaf?).map Leaf.id).Sublist (ps.map Pane.id) := by
  induction ps with
  | nil => exact .slnil
  | cons p ps ih =>
    cases p with
    | leaf l => exact ih.cons_cons l.id
    | container c => exact ih.cons c.id

/-- A walk with enough steps meets the leaves of a tree. -/
theorem leavesUnder_eq (hunique : (s.panes.map Pane.id).Nodup) (t : SplitTree)
    (parent : Option PaneId) (hsub : t.panes parent ⊆ s.panes) (fuel : Nat)
    (hfuel : t.ids.length ≤ fuel) :
    s.leavesUnder fuel t.id = (t.panes parent).filterMap Pane.leaf? := by
  induction t generalizing parent fuel with
  | leaf l =>
    obtain ⟨fuel, rfl⟩ : ∃ k, fuel = k + 1 := ⟨fuel - 1, by simp [SplitTree.ids] at hfuel; omega⟩
    have hl : s.pane? l.id = some (.leaf { l with parent }) :=
      (pane?_eq_some_iff hunique).mpr ⟨hsub (by simp [SplitTree.panes]), rfl⟩
    simp [leavesUnder, hl, SplitTree.panes, Pane.leaf?]
  | node i o r a b iha ihb =>
    simp only [SplitTree.ids, List.length_cons, List.length_append] at hfuel
    obtain ⟨fuel, rfl⟩ : ∃ k, fuel = k + 1 := ⟨fuel - 1, by omega⟩
    have hc : s.pane? i = some (.container ⟨i, o, r, a.id, b.id, parent⟩) :=
      (pane?_eq_some_iff hunique).mpr ⟨hsub (by simp [SplitTree.panes]), rfl⟩
    have ha := iha (some i) (fun p hp => hsub (by simp [SplitTree.panes, hp])) fuel (by omega)
    have hb := ihb (some i) (fun p hp => hsub (by simp [SplitTree.panes, hp])) fuel (by omega)
    rw [SplitTree.panes, List.filterMap_cons_none rfl, List.filterMap_append, ← ha, ← hb,
      SplitTree.id_node, leavesUnder, hc]

namespace Represents

/-- The walk over the tree meets its leaves, from first to second. -/
theorem leaves_eq (h : s.Represents q) :
    s.leaves = q.tree.toList.flatMap fun t => (t.panes none).filterMap Pane.leaf? := by
  have hlength : s.panes.length = q.ids.length := by
    rw [h.panes.length_eq, ← q.map_id_panes, List.length_map]
  unfold leaves
  rw [h.root]
  cases hq : q.tree with
  | none => rfl
  | some t =>
    have hsub : t.panes none ⊆ s.panes := by
      intro p hp
      rw [h.panes.mem_iff, Plan.panes_eq, hq]
      simp [hp]
    have hfuel : t.ids.length ≤ s.panes.length := by
      rw [hlength, Plan.ids_eq, hq]
      simp
    simpa using leavesUnder_eq h.nodup_ids t none hsub _ hfuel

theorem map_leaves (h : s.Represents q) {α : Type} (g : Leaf → α)
    (hg : ∀ l p, g { l with parent := p } = g l) :
    s.leaves.map g = (q.tree.toList.flatMap SplitTree.leaves).map g := by
  rw [h.leaves_eq, List.map_flatMap, List.map_flatMap]
  congr 1
  funext t
  exact t.leaf?_panes g hg none

theorem leafIds_eq (h : s.Represents q) :
    s.leafIds = (q.tree.toList.flatMap SplitTree.leaves).map Leaf.id :=
  h.map_leaves Leaf.id fun _ _ => rfl

theorem everyLeaf_eq (h : s.Represents q) : s.everyLeaf = q.leaves.map Leaf.id := by
  rw [everyLeaf, h.leafIds_eq, h.tabs, h.background, q.leaves_eq]
  simp

theorem nodup_everyLeaf (h : s.Represents q) : s.everyLeaf.Nodup := by
  rw [h.everyLeaf_eq, ← Plan.leaf?_panes Leaf.id fun _ _ => rfl]
  refine List.Nodup.sublist (map_id_leaves_sublist _) ?_
  rw [Plan.map_id_panes]
  exact h.nodup

theorem isEmpty_iff (h : s.Represents q) : s.isEmpty = true ↔ q = {} := by
  unfold isEmpty
  rw [List.isEmpty_iff]
  constructor
  · intro hnil
    have hpanes := h.panes
    rw [hnil, Plan.panes_eq, List.nil_perm, List.append_eq_nil_iff] at hpanes
    obtain ⟨tree, tabs, bg⟩ := q
    cases tree with
    | some t => simp [t.panes_eq_cons] at hpanes
    | none =>
      have hrest : tabs = [] ∧ bg = [] := by simpa [Plan.parked] using hpanes
      rw [hrest.1, hrest.2]
  · rintro rfl
    simpa [Plan.panes_eq, Plan.parked] using h.panes

theorem mem_panes_iff (h : s.Represents q) {p : Pane} : p ∈ s.panes ↔ p ∈ q.panes :=
  h.panes.mem_iff

theorem map_held {α : Type} (h : s.Represents q) {g : Leaf → α}
    (hg : ∀ l p, g { l with parent := p } = g l) : (s.held.map g).Perm (q.leaves.map g) := by
  rw [← Plan.leaf?_panes g hg]
  exact (h.panes.filterMap _).map g

theorem countP_held (h : s.Represents q) {p : Leaf → Bool}
    (hp : ∀ l parent, p { l with parent } = p l) : s.held.countP p = q.leaves.countP p := by
  have hcount := (h.map_held hp).countP_eq id
  rwa [List.countP_map, List.countP_map] at hcount

theorem forall_held (h : s.Represents q) {P : Leaf → Prop}
    (hP : ∀ l p, P { l with parent := p } ↔ P l) :
    (∀ l ∈ s.held, P l) ↔ ∀ l ∈ q.leaves, P l := by
  simp only [mem_held, h.mem_panes_iff]
  constructor
  · intro hall l hl
    obtain ⟨p, hp⟩ := Plan.exists_leaf_mem_panes hl
    exact (hP l p).mp (hall _ hp)
  · intro hall l hl
    obtain ⟨k, hk, he⟩ := Plan.leaf_mem_panes hl
    rw [he]
    exact (hP k _).mpr (hall k hk)

theorem exists_held (h : s.Represents q) {P : Leaf → Prop}
    (hP : ∀ l p, P { l with parent := p } ↔ P l) :
    (∃ l ∈ s.held, P l) ↔ ∃ l ∈ q.leaves, P l := by
  simpa using not_congr (h.forall_held (P := fun l => ¬P l) fun l p => not_congr (hP l p))

theorem held_eq_nil (h : s.Represents q) : s.held = [] ↔ q.leaves = [] := by
  have hlength : s.held.length = q.leaves.length := by
    simpa using (h.map_held (g := Leaf.id) fun _ _ => rfl).length_eq
  rw [← List.length_eq_zero_iff, hlength, List.length_eq_zero_iff]

theorem pane?_eq (h : s.Represents q) {id : PaneId} {p : Pane} :
    s.pane? id = some p ↔ p ∈ q.panes ∧ p.id = id := by
  rw [pane?_eq_some_iff h.nodup_ids, h.mem_panes_iff]

theorem leaf?_eq_some (h : s.Represents q) {id : PaneId} {l : Leaf} (hl : s.leaf? id = some l) :
    ∃ k ∈ q.leaves, l = { k with parent := l.parent } ∧ l.id = id := by
  obtain ⟨p, hp, hpl⟩ := Option.bind_eq_some_iff.mp hl
  obtain ⟨hmem, hid⟩ := h.pane?_eq.mp hp
  cases p with
  | container c => simp [Pane.leaf?] at hpl
  | leaf k =>
    obtain rfl : k = l := by simpa [Pane.leaf?] using hpl
    obtain ⟨k', hk, he⟩ := Plan.leaf_mem_panes hmem
    exact ⟨k', hk, he, hid⟩

theorem exists_leaf? (h : s.Represents q) {l : Leaf} (hl : l ∈ q.leaves) :
    ∃ p, s.leaf? l.id = some { l with parent := p } := by
  obtain ⟨p, hp⟩ := Plan.exists_leaf_mem_panes hl
  have hpane : s.pane? l.id = some (.leaf { l with parent := p }) := h.pane?_eq.mpr ⟨hp, rfl⟩
  exact ⟨p, by simp [leaf?, hpane, Pane.leaf?]⟩

theorem showsAt_iff (h : s.Represents q) {session : SessionId} {l : Leaf} (hl : l ∈ q.leaves) :
    s.showsAt session l.id ↔ l.session = some session := by
  obtain ⟨p, hp⟩ := h.exists_leaf? hl
  simp [showsAt, hp, Leaf.shows]

/-- A layout displays what its plan shows. -/
theorem displays_iff (h : s.Represents q) {session : SessionId} :
    s.displays session ↔ q.Shows session := by
  unfold displays Plan.Shows
  rw [h.everyLeaf_eq, List.any_map, List.any_eq_true]
  constructor
  · rintro ⟨l, hl, hs⟩
    exact ⟨l, hl, (h.showsAt_iff hl).mp hs⟩
  · rintro ⟨l, hl, hs⟩
    exact ⟨l, hl, (h.showsAt_iff hl).mpr hs⟩

theorem hasPrimary_iff (h : s.Represents q) {session : SessionId} :
    s.hasPrimary session ↔ q.HasPrimary session := by
  have hleaf : ∀ l ∈ q.leaves,
      ((s.leaf? l.id).any fun l => l.shows session && l.primary) = true ↔
        l.session = some session ∧ l.primary = true := by
    intro l hl
    obtain ⟨p, hp⟩ := h.exists_leaf? hl
    simp [hp, Leaf.shows]
  unfold hasPrimary primaryFor Plan.HasPrimary
  rw [h.everyLeaf_eq, List.find?_isSome]
  constructor
  · rintro ⟨id, hid, hprimary⟩
    obtain ⟨l, hl, rfl⟩ := List.mem_map.mp hid
    exact ⟨l, hl, (hleaf l hl).mp hprimary⟩
  · rintro ⟨l, hl, hprimary⟩
    exact ⟨l.id, List.mem_map_of_mem hl, (hleaf l hl).mpr hprimary⟩

/-- The primary flag goes to a leaf of a session that has no primary one. -/
theorem heir?_eq_some (h : s.Represents q) {session : SessionId} {id : PaneId}
    (hid : s.heir? session = some id) :
    ¬q.HasPrimary session ∧ ∃ l ∈ q.leaves, l.id = id ∧ l.session = some session := by
  unfold heir? at hid
  split at hid
  · simp at hid
  · rename_i hnone
    rw [h.hasPrimary_iff] at hnone
    have hmem := List.mem_of_find?_eq_some hid
    rw [h.everyLeaf_eq] at hmem
    obtain ⟨l, hl, rfl⟩ := List.mem_map.mp hmem
    exact ⟨hnone, l, hl, rfl, (h.showsAt_iff hl).mp (List.find?_some hid)⟩

theorem heir?_eq_none (h : s.Represents q) {session : SessionId}
    (hnone : s.heir? session = none) (hshows : q.Shows session) : q.HasPrimary session := by
  unfold heir? at hnone
  split at hnone
  · rename_i hprimary
    exact h.hasPrimary_iff.mp hprimary
  · obtain ⟨l, hl, hs⟩ := hshows
    have hmem : l.id ∈ s.everyLeaf := by
      rw [h.everyLeaf_eq]
      exact List.mem_map_of_mem hl
    exact absurd ((h.showsAt_iff hl).mpr hs) (List.find?_eq_none.mp hnone l.id hmem)

/-- The sessions of a layout are those that its plan shows. -/
theorem mem_sessions_iff (h : s.Represents q) {session : SessionId} :
    session ∈ s.sessions ↔ q.Shows session := by
  unfold sessions Plan.Shows
  rw [List.mem_eraseDups, List.mem_filterMap]
  constructor
  · rintro ⟨p, hp, hs⟩
    cases p with
    | container c => simp [Pane.leaf?] at hs
    | leaf l =>
      obtain ⟨k, hk, he⟩ := Plan.leaf_mem_panes (h.mem_panes_iff.mp hp)
      refine ⟨k, hk, ?_⟩
      rw [he] at hs
      simpa [Pane.leaf?] using hs
  · rintro ⟨l, hl, hs⟩
    obtain ⟨p, hp⟩ := Plan.exists_leaf_mem_panes hl
    exact ⟨_, h.mem_panes_iff.mpr hp, by simpa [Pane.leaf?] using hs⟩

/-- What a leaf shows is shown. -/
theorem mem_sessions_of_leaf? (h : s.Represents q) {id : PaneId} {l : Leaf} {session : SessionId}
    (hl : s.leaf? id = some l) (hsession : l.session = some session) : session ∈ s.sessions := by
  obtain ⟨k, hk, he, -⟩ := h.leaf?_eq_some hl
  have hk_session : k.session = some session := by rwa [he] at hsession
  exact h.mem_sessions_iff.mpr ⟨k, hk, hk_session⟩

end Represents

end Layout

end Multiplexer
