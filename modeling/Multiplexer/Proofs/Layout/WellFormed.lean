import Multiplexer.Proofs.Layout.Operations

/-!
# Well-formed layouts

What holds of the links of a layout after any operations: the part under the
root is a strict binary tree, a walk over it ends, and every leaf is in exactly
one place.
-/

namespace Multiplexer

namespace Layout

inductive Under (s : Layout) (top : PaneId) : PaneId → Prop where
  | top : Under s top top
  | child {c : Container} {id : PaneId} : Under s top c.id → .container c ∈ s.panes →
    id = c.first ∨ id = c.second → Under s top id

/-- A walk takes panes from a stack and puts the children of a container back on it. It ends
when the stack is empty; what it met is listed in order. -/
inductive Walk (s : Layout) : List PaneId → List Pane → Prop where
  | done : Walk s [] []
  | leaf {id : PaneId} {l : Leaf} {stack : List PaneId} {met : List Pane} :
    s.pane? id = some (.leaf l) → Walk s stack met → Walk s (id :: stack) (.leaf l :: met)
  | container {id : PaneId} {c : Container} {stack : List PaneId} {met : List Pane} :
    s.pane? id = some (.container c) → Walk s (c.first :: c.second :: stack) met →
    Walk s (id :: stack) (.container c :: met)
  | missing {id : PaneId} {stack : List PaneId} {met : List Pane} :
    s.pane? id = none → Walk s stack met → Walk s (id :: stack) met

structure WellFormed (s : Layout) : Prop where
  unique : (s.panes.map Pane.id).Nodup
  children : ∀ c, .container c ∈ s.panes → c.first ≠ c.second ∧
    ∀ id, id = c.first ∨ id = c.second → ∃ p ∈ s.panes, p.id = id ∧ p.parent = some c.id
  parents : ∀ p ∈ s.panes, ∀ parent, p.parent = some parent →
    ∃ c, .container c ∈ s.panes ∧ c.id = parent ∧ (p.id = c.first ∨ p.id = c.second)
  root : ∀ id, s.root = some id → ∃ p ∈ s.panes, p.id = id ∧ p.parent = none
  reachable : ∀ c, .container c ∈ s.panes → ∃ root, s.root = some root ∧ s.Under root c.id
  /-- The walk over the tree ends, meets each pane once, and gives the leaves in order. -/
  walk : ∃ met, s.Walk s.root.toList met ∧ (met.map Pane.id).Nodup ∧
    met.filterMap Pane.leaf? = s.leaves ∧
    ∀ p, p ∈ met ↔ p ∈ s.panes ∧ p.id ∉ s.tabs ∧ p.id ∉ s.background
  /-- Every leaf of the arena is in one place, and nothing else is. -/
  placed : ∀ l, .leaf l ∈ s.panes → s.everyLeaf.count l.id = 1
  leaves : ∀ id ∈ s.everyLeaf, ∃ l, .leaf l ∈ s.panes ∧ l.id = id
  outside : ∀ l, .leaf l ∈ s.panes → l.id ∈ s.tabs ∨ l.id ∈ s.background → l.parent = none
  tabbed : s.tabs ≠ [] → s.root = none ∧ s.background = []
  empty : s.root = none → s.tabs = [] → s.panes = [] ∧ s.background = []

section Links

variable {s : Layout} {q : Plan}

/-- A walk meets all panes of a tree. -/
theorem walk_panes (hunique : (s.panes.map Pane.id).Nodup) (t : SplitTree)
    (parent : Option PaneId) (hsub : t.panes parent ⊆ s.panes) {stack : List PaneId}
    {met : List Pane} (h : s.Walk stack met) :
    s.Walk (t.id :: stack) (t.panes parent ++ met) := by
  induction t generalizing parent stack met with
  | leaf l =>
    have hl : s.pane? l.id = some (.leaf { l with parent }) :=
      (pane?_eq_some_iff hunique).mpr ⟨hsub (by simp [SplitTree.panes]), rfl⟩
    exact .leaf hl h
  | node i o r a b iha ihb =>
    have hc : s.pane? i = some (.container ⟨i, o, r, a.id, b.id, parent⟩) :=
      (pane?_eq_some_iff hunique).mpr ⟨hsub (by simp [SplitTree.panes]), rfl⟩
    have hb := ihb (some i) (fun p hp => hsub (by simp [SplitTree.panes, hp])) h
    have ha := iha (some i) (fun p hp => hsub (by simp [SplitTree.panes, hp])) hb
    rw [SplitTree.panes, List.cons_append, List.append_assoc]
    exact .container hc ha

/-- What stands in some place of a tree is reached from its root. -/
theorem under_fill (ctx : Context) (u : SplitTree) (hsub : ctx.panes u.id ⊆ s.panes) :
    s.Under (ctx.fill u).id u.id := by
  induction ctx generalizing u with
  | nil => exact .top
  | cons f ctx ih =>
    have habove := ih (f.plug u) (by
      rw [Frame.id_plug]
      intro p hp
      exact hsub (by simp [Context.panes, hp]))
    rw [Frame.id_plug] at habove
    have hc : .container (f.container u.id (Context.parent ctx)) ∈ s.panes :=
      hsub (by simp [Context.panes])
    refine .child (c := f.container u.id (Context.parent ctx)) habove hc ?_
    unfold Frame.container
    cases f.toFirst with
    | true => exact .inl rfl
    | false => exact .inr rfl

namespace Represents

theorem top_mem (h : s.Represents q) (ctx : Context) {u : SplitTree} {bg : List Leaf}
    (hq : q = ⟨some (ctx.fill u), [], bg⟩) : u.top ctx.parent ∈ s.panes := by
  subst hq
  rw [h.panes_place.mem_iff, u.panes_eq_cons]
  simp

theorem site_container (h : s.Represents q) {c : Container} (hc : .container c ∈ s.panes) :
    ∃ (ctx : Context) (a b : SplitTree) (bg : List Leaf),
      q = ⟨some (ctx.fill (.node c.id c.orientation c.ratio a b)), [], bg⟩ ∧
      c = ⟨c.id, c.orientation, c.ratio, a.id, b.id, ctx.parent⟩ :=
  h.container ((pane?_eq_some_iff h.nodup_ids).mpr ⟨hc, rfl⟩)

theorem wellFormed_children (h : s.Represents q) {c : Container} (hc : .container c ∈ s.panes) :
    c.first ≠ c.second ∧
      ∀ id, id = c.first ∨ id = c.second → ∃ p ∈ s.panes, p.id = id ∧ p.parent = some c.id := by
  obtain ⟨ctx, a, b, bg, rfl, he⟩ := h.site_container hc
  have hfirst : c.first = a.id := by rw [he]
  have hsecond : c.second = b.id := by rw [he]
  have hplace := h.nodup_place
  simp only [SplitTree.ids, List.cons_append] at hplace
  have htree := (List.nodup_cons.mp (List.nodup_append.mp hplace).2.1).2
  have hchildren := (List.nodup_append.mp htree).1
  refine ⟨?_, ?_⟩
  · rw [hfirst, hsecond]
    exact (List.nodup_append.mp hchildren).2.2 a.id a.id_mem_ids b.id b.id_mem_ids
  · rintro id (rfl | rfl)
    · refine ⟨a.top (some c.id), ?_, by rw [hfirst, a.id_top], a.parent_top _⟩
      exact h.top_mem (⟨c.id, c.orientation, c.ratio, true, b⟩ :: ctx) rfl
    · refine ⟨b.top (some c.id), ?_, by rw [hsecond, b.id_top], b.parent_top _⟩
      exact h.top_mem (⟨c.id, c.orientation, c.ratio, false, a⟩ :: ctx) rfl

theorem wellFormed_parents (h : s.Represents q) {p : Pane} (hp : p ∈ s.panes) {parent : PaneId}
    (hparent : p.parent = some parent) :
    ∃ c, .container c ∈ s.panes ∧ c.id = parent ∧ (p.id = c.first ∨ p.id = c.second) := by
  rcases h.site hp with ⟨l, -, rfl⟩ | ⟨ctx, u, bg, rfl, rfl⟩
  · simp [Pane.parent] at hparent
  · rw [u.parent_top] at hparent
    cases ctx with
    | nil => simp [Context.parent] at hparent
    | cons f ctx =>
      obtain rfl : f.id = parent := by simpa [Context.parent] using hparent
      refine ⟨f.container u.id (Context.parent ctx), ?_, rfl, ?_⟩
      · rw [h.panes_place.mem_iff]
        simp [Context.panes]
      · rw [u.id_top]
        unfold Frame.container
        cases f.toFirst with
        | true => exact .inl rfl
        | false => exact .inr rfl

theorem wellFormed_reachable (h : s.Represents q) {c : Container} (hc : .container c ∈ s.panes) :
    ∃ root, s.root = some root ∧ s.Under root c.id := by
  obtain ⟨ctx, a, b, bg, rfl, -⟩ := h.site_container hc
  refine ⟨_, h.root, ?_⟩
  refine under_fill ctx (.node c.id c.orientation c.ratio a b) fun p hp => ?_
  rw [h.panes_place.mem_iff]
  exact List.mem_append_left _ hp

/-- The walk meets every pane of the tree once, and nothing else. -/
theorem wellFormed_walk (h : s.Represents q) :
    ∃ met, s.Walk s.root.toList met ∧ (met.map Pane.id).Nodup ∧
      met.filterMap Pane.leaf? = s.leaves ∧
      ∀ p, p ∈ met ↔ p ∈ s.panes ∧ p.id ∉ s.tabs ∧ p.id ∉ s.background := by
  have hmem : ∀ p, p ∈ s.panes ↔
      p ∈ q.tree.toList.flatMap (fun t => t.panes none) ++
        Plan.parked (q.tabs ++ q.background) := by
    intro p
    rw [h.mem_panes_iff, Plan.panes_eq]
  have hids := h.nodup
  rw [← Plan.map_id_panes, Plan.panes_eq, List.map_append] at hids
  obtain ⟨htree, -, hapart⟩ := List.nodup_append.mp hids
  refine ⟨q.tree.toList.flatMap fun t => t.panes none, ?_, htree, ?_, ?_⟩
  · rw [h.root]
    cases hq : q.tree with
    | none => exact .done
    | some t =>
      have hsub : t.panes none ⊆ s.panes := fun p hp => (hmem p).mpr (by simp [hq, hp])
      simpa using walk_panes h.nodup_ids t none hsub .done
  · rw [h.leaves_eq, List.filterMap_flatMap]
  · intro p
    have hout : p.id ∉ s.tabs ∧ p.id ∉ s.background ↔
        p.id ∉ (Plan.parked (q.tabs ++ q.background)).map Pane.id := by
      rw [h.tabs, h.background, Plan.map_id_parked, List.map_append, List.mem_append, not_or]
    rw [hout, hmem, List.mem_append]
    constructor
    · intro hp
      exact ⟨.inl hp, fun hid => hapart _ (List.mem_map_of_mem hp) _ hid rfl⟩
    · rintro ⟨hp | hp, hid⟩
      · exact hp
      · exact absurd (List.mem_map_of_mem hp) hid

theorem wellFormed_outside (h : s.Represents q) {l : Leaf} (hl : .leaf l ∈ s.panes)
    (hout : l.id ∈ s.tabs ∨ l.id ∈ s.background) : l.parent = none := by
  rcases h.site hl with ⟨k, -, he⟩ | ⟨ctx, u, bg, rfl, he⟩
  · obtain rfl : l = { k with parent := none } := by simpa using he
    rfl
  · -- A leaf of the tree stands on no tab, and is not hidden.
    have hid : l.id ∈ u.ids := by
      have htop : l.id = u.id := (congrArg Pane.id he).trans (u.id_top _)
      rw [htop]
      exact u.id_mem_ids
    have hbg : l.id ∈ bg.map Leaf.id := by
      rw [h.tabs, h.background] at hout
      simpa using hout
    have hplace := (List.nodup_append.mp h.nodup_place).2.1
    exact absurd rfl ((List.nodup_append.mp hplace).2.2 _ hid _ hbg)

/-- A layout that represents a plan is well formed. -/
theorem wellFormed (h : s.Represents q) : s.WellFormed where
  unique := h.nodup_ids
  children c hc := h.wellFormed_children hc
  parents p hp parent hparent := h.wellFormed_parents hp hparent
  root id hid := by
    rw [h.root] at hid
    obtain ⟨t, ht, rfl⟩ := Option.map_eq_some_iff.mp hid
    have hroot : t.top none ∈ s.panes := by
      rw [h.mem_panes_iff, Plan.panes_eq, ht]
      simp [t.panes_eq_cons]
    exact ⟨t.top none, hroot, t.id_top none, t.parent_top none⟩
  reachable c hc := h.wellFormed_reachable hc
  walk := h.wellFormed_walk
  placed l hl := by
    obtain ⟨k, hk, he⟩ := Plan.leaf_mem_panes (h.mem_panes_iff.mp hl)
    refine List.count_eq_one_of_mem h.nodup_everyLeaf ?_
    rw [h.everyLeaf_eq]
    exact List.mem_map.mpr ⟨k, hk, by rw [he]⟩
  leaves id hid := by
    rw [h.everyLeaf_eq] at hid
    obtain ⟨l, hl, rfl⟩ := List.mem_map.mp hid
    obtain ⟨p, hp⟩ := Plan.exists_leaf_mem_panes hl
    exact ⟨_, h.mem_panes_iff.mpr hp, rfl⟩
  outside l hl hout := h.wellFormed_outside hl hout
  tabbed htabs := by
    have hq : q.tabs ≠ [] := by
      intro hnil
      exact htabs (by rw [h.tabs, hnil]; rfl)
    have hnone : q.tree = none := h.mode.resolve_right hq
    rw [h.root, h.background, hnone, h.behind hnone]
    exact ⟨rfl, rfl⟩
  empty hroot htabs := by
    have hnone : q.tree = none := Option.map_eq_none_iff.mp (h.root.symm.trans hroot)
    have hbg := h.behind hnone
    have hnil : q.tabs = [] := List.map_eq_nil_iff.mp (h.tabs.symm.trans htabs)
    refine ⟨?_, by rw [h.background, hbg]; rfl⟩
    have hpanes := h.panes
    rw [Plan.panes_eq, hnone, hnil, hbg] at hpanes
    exact hpanes.eq_nil

end Represents

end Links

/-- Whatever is asked of an empty layout, it stays well formed. -/
theorem wellFormed_of_operations (splitRatio : Binary64) (nextId : Nat) (ops : List Operation) :
    (ops.foldl apply { splitRatio, nextId }).WellFormed := by
  have hempty : Planned { splitRatio, nextId } := (Represents.empty splitRatio nextId).planned
  obtain ⟨q, h⟩ := foldl_apply_planned hempty ops
  exact h.wellFormed

end Layout

end Multiplexer
