import Multiplexer.Proofs.Layout.Links

/-!
# Grafts

A tree in which every leaf is replaced by a tree, or dropped. A container of
which a child is gone altogether is replaced by the other child. Splitting a leaf
and closing one are both grafts, and what a graft does to the leaves under any
pane is seen by induction on the tree.
-/

namespace Multiplexer

namespace SplitTree

/-- What stays of a container of which a child may be gone. -/
def join (id : PaneId) (o : Orientation) (r : Binary64) :
    Option SplitTree → Option SplitTree → Option SplitTree
  | some a, some b => some (.node id o r a b)
  | some a, none => some a
  | none, b => b

def graft (f : Leaf → Option SplitTree) : SplitTree → Option SplitTree
  | .leaf l => f l
  | .node id o r a b => join id o r (a.graft f) (b.graft f)

/-- The leaves of a tree that may be missing. -/
def leavesOf (t : Option SplitTree) : List Leaf := t.toList.flatMap leaves

theorem leavesOf_join (id : PaneId) (o : Orientation) (r : Binary64) (a b : Option SplitTree) :
    leavesOf (join id o r a b) = leavesOf a ++ leavesOf b := by
  cases a <;> cases b <;> simp [join, leavesOf, leaves]

/-- Each leaf gives way, in order, to the leaves of what it is replaced by. -/
theorem leavesOf_graft (f : Leaf → Option SplitTree) (t : SplitTree) :
    leavesOf (t.graft f) = t.leaves.flatMap fun l => leavesOf (f l) := by
  induction t with
  | leaf l => simp [graft, leaves]
  | node id o r a b iha ihb => rw [graft, leavesOf_join, iha, ihb, leaves, List.flatMap_append]

theorem graft_eq_self {f : Leaf → Option SplitTree} {t : SplitTree}
    (h : ∀ l ∈ t.leaves, f l = some (.leaf l)) : t.graft f = some t := by
  induction t with
  | leaf l => exact h l (by simp [leaves])
  | node id o r a b iha ihb =>
    rw [graft, iha fun l hl => h l (by simp [leaves, hl]),
      ihb fun l hl => h l (by simp [leaves, hl])]
    rfl

/-- Where one leaf only is dropped, nothing but this leaf goes altogether. -/
theorem eq_leaf_of_graft_eq_none {f : Leaf → Option SplitTree} {id : PaneId} {t : SplitTree}
    (hone : ∀ l, f l = none → l.id = id) (hnodup : (t.leaves.map Leaf.id).Nodup)
    (h : t.graft f = none) : ∃ l, t = .leaf l ∧ f l = none ∧ l.id = id := by
  induction t with
  | leaf l => exact ⟨l, rfl, h, hone l h⟩
  | node i o r a b iha ihb =>
    rw [leaves, List.map_append, List.nodup_append] at hnodup
    cases ha : a.graft f with
    | some a' => cases hb : b.graft f <;> simp [graft, join, ha, hb] at h
    | none =>
      have hb : b.graft f = none := by simpa [graft, join, ha] using h
      obtain ⟨l, rfl, -, hl⟩ := iha hnodup.1 ha
      obtain ⟨k, rfl, -, hk⟩ := ihb hnodup.2.1 hb
      exact absurd (hl.trans hk.symm) (hnodup.2.2 l.id (by simp [leaves]) k.id (by simp [leaves]))

end SplitTree

namespace Context

open SplitTree

/-- What is left of a place under a graft has a place in what is left of the tree. -/
theorem exists_fill_graft (f : Leaf → Option SplitTree) (ctx : Context) {t t' : SplitTree}
    (h : t.graft f = some t') : ∃ ctx' : Context, (ctx.fill t).graft f = some (ctx'.fill t') := by
  induction ctx generalizing t t' with
  | nil => exact ⟨[], h⟩
  | cons g ctx ih =>
    cases hother : g.other.graft f with
    | none =>
      refine ih (t := g.plug t) ?_
      unfold Frame.plug
      split <;> simp [graft, h, hother, join]
    | some other =>
      have hplug : (g.plug t).graft f = some (Frame.plug { g with other } t') := by
        unfold Frame.plug
        split <;> simp [graft, h, hother, join]
      obtain ⟨ctx', h'⟩ := ih hplug
      exact ⟨{ g with other } :: ctx', h'⟩

/-- Where a graft changes one leaf only, the rest of the tree stays around what it becomes. -/
theorem graft_fill {f : Leaf → Option SplitTree} {ctx : Context} {t t' : SplitTree}
    (h : t.graft f = some t') (hrest : ∀ l ∈ ctx.before ++ ctx.after, f l = some (.leaf l)) :
    (ctx.fill t).graft f = some (ctx.fill t') := by
  induction ctx generalizing t t' with
  | nil => exact h
  | cons g ctx ih =>
    have hother : g.other.graft f = some g.other := by
      refine graft_eq_self fun l hl => hrest l ?_
      simp only [before, after]
      cases g.toFirst <;> simp [hl]
    have hplug : (g.plug t).graft f = some (g.plug t') := by
      unfold Frame.plug
      split <;> simp [graft, h, hother, join]
    refine ih hplug fun l hl => hrest l ?_
    simp only [before, after, List.mem_append] at hl ⊢
    tauto

/-- Where a graft drops one leaf only, its sibling takes the place of their parent. -/
theorem graft_sibling {f : Leaf → Option SplitTree} {g : Frame} {ctx : Context} {t : SplitTree}
    (h : t.graft f = none)
    (hrest : ∀ l ∈ before (g :: ctx) ++ after (g :: ctx), f l = some (.leaf l)) :
    (fill (g :: ctx) t).graft f = some (ctx.fill g.other) := by
  have hother : g.other.graft f = some g.other := by
    refine graft_eq_self fun l hl => hrest l ?_
    simp only [before, after]
    cases g.toFirst <;> simp [hl]
  refine graft_fill (t := g.plug t) ?_ fun l hl => hrest l ?_
  · unfold Frame.plug
    split <;> simp [graft, h, hother, join]
  · simp only [before, after, List.mem_append] at hl ⊢
    tauto

end Context

namespace Layout

open SplitTree

variable {s s' : Layout} {t t' : SplitTree} {bg bg' : List Leaf}

/-- The leaves at or below a pane are those of what stands there. -/
theorem Represents.idsUnder_place {ctx : Context}
    (h : s.Represents ⟨some (ctx.fill t), [], bg⟩) : s.idsUnder t.id = t.leaves.map Leaf.id := by
  have hsub : t.panes ctx.parent ⊆ s.panes := fun p hp =>
    h.panes_place.mem_iff.mpr (by simp [hp])
  have hlength : s.panes.length = (ctx.panes t.id).length +
      ((t.panes ctx.parent).length + (Plan.parked bg).length) := by
    simpa using h.panes_place.length_eq
  have hids : (t.panes ctx.parent).length = t.ids.length := by
    rw [← t.map_id_panes ctx.parent, List.length_map]
  rw [idsUnder, leavesUnder_eq h.nodup_ids t ctx.parent hsub _ (by omega)]
  exact t.leaf?_panes Leaf.id (fun _ _ => rfl) ctx.parent

theorem Represents.nodup_leaves {ctx : Context} (h : s.Represents ⟨some (ctx.fill t), [], bg⟩) :
    (t.leaves.map Leaf.id).Nodup := by
  have hsub : (t.leaves.map Leaf.id).Sublist t.ids := by
    rw [← t.leaf?_panes Leaf.id (fun _ _ => rfl) none, ← t.map_id_panes none]
    exact map_id_leaves_sublist _
  exact ((List.nodup_append.mp (List.nodup_append.mp h.nodup_place).2.1).1).sublist hsub

/-- What a graft that drops one leaf at most leaves of a container: the leaves under each child
change as the graft says. Otherwise the leaf was a child of it. -/
theorem Represents.container_graft (h : s.Represents ⟨some t, [], bg⟩)
    (h' : s'.Represents ⟨some t', [], bg'⟩) {f : Leaf → Option SplitTree}
    (hgraft : t.graft f = some t') {id : PaneId} (hone : ∀ l, f l = none → l.id = id)
    {put : PaneId → List PaneId} (hput : ∀ l, (leavesOf (f l)).map Leaf.id = put l.id)
    {i : PaneId} {c : Container} (hc : s.pane? i = some (.container c)) :
    ((∃ l, f l = none) ∧ (c.first = id ∨ c.second = id)) ∨
    ∃ c', s'.pane? i = some (.container c') ∧ c'.orientation = c.orientation ∧
      c'.ratio = c.ratio ∧ s'.idsUnder c'.first = (s.idsUnder c.first).flatMap put ∧
      s'.idsUnder c'.second = (s.idsUnder c.second).flatMap put := by
  obtain ⟨ctx, a, b, bg, hq, he⟩ := h.container hc
  obtain ⟨rfl, rfl⟩ : t = ctx.fill (.node i c.orientation c.ratio a b) ∧ _ = bg := by simpa using hq
  have hfirst : c.first = a.id := by rw [he]
  have hsecond : c.second = b.id := by rw [he]
  have ha : s.Represents ⟨some (Context.fill (⟨i, c.orientation, c.ratio, true, b⟩ :: ctx) a),
    [], _⟩ := h
  have hb : s.Represents ⟨some (Context.fill (⟨i, c.orientation, c.ratio, false, a⟩ :: ctx) b),
    [], _⟩ := h
  have hlist : ∀ {u u' : SplitTree}, u.graft f = some u' →
      u'.leaves.map Leaf.id = (u.leaves.map Leaf.id).flatMap put := by
    intro u u' hu
    have hleaves := congrArg (List.map Leaf.id) (leavesOf_graft f u)
    rw [hu, List.map_flatMap] at hleaves
    simp only [hput] at hleaves
    rw [List.flatMap_map]
    simpa [leavesOf] using hleaves
  cases hga : a.graft f with
  | none =>
    obtain ⟨l, rfl, hl, rfl⟩ := eq_leaf_of_graft_eq_none hone ha.nodup_leaves hga
    exact .inl ⟨⟨l, hl⟩, .inl hfirst⟩
  | some a' =>
    cases hgb : b.graft f with
    | none =>
      obtain ⟨l, rfl, hl, rfl⟩ := eq_leaf_of_graft_eq_none hone hb.nodup_leaves hgb
      exact .inl ⟨⟨l, hl⟩, .inr hsecond⟩
    | some b' =>
      have hnode : (SplitTree.node i c.orientation c.ratio a b).graft f =
          some (.node i c.orientation c.ratio a' b') := by simp [graft, hga, hgb, join]
      obtain ⟨ctx', hfill⟩ := ctx.exists_fill_graft f hnode
      obtain rfl : t' = ctx'.fill (.node i c.orientation c.ratio a' b') :=
        Option.some.inj (hgraft.symm.trans hfill)
      have ha' : s'.Represents ⟨some (Context.fill
        (⟨i, c.orientation, c.ratio, true, b'⟩ :: ctx') a'), [], bg'⟩ := h'
      have hb' : s'.Represents ⟨some (Context.fill
        (⟨i, c.orientation, c.ratio, false, a'⟩ :: ctx') b'), [], bg'⟩ := h'
      refine .inr ⟨⟨i, c.orientation, c.ratio, a'.id, b'.id, ctx'.parent⟩, ?_, rfl, rfl, ?_, ?_⟩
      · refine (pane?_eq_some_iff h'.nodup_ids).mpr ⟨?_, rfl⟩
        exact h'.top_mem ctx' (u := .node i c.orientation c.ratio a' b') rfl
      · rw [hfirst, ha'.idsUnder_place, ha.idsUnder_place, hlist hga]
      · rw [hsecond, hb'.idsUnder_place, hb.idsUnder_place, hlist hgb]

end Layout

end Multiplexer
