import Multiplexer.Layout.Pane
import Mathlib.Data.List.Nodup
import Mathlib.Data.List.Perm.Basic

/-!
# Split trees

The tree that an arena of panes with child and parent links stands for. A tree
gives back its panes with all links, so links are never stated apart from it. A
path from the root to a place in the tree is a list of frames, innermost first:
what replaces the pane at that place changes one child link and nothing else.
-/

namespace Multiplexer

/-- A change of what has some id leaves all with other ids alone. -/
theorem map_elsewhere {α : Type} {key : α → PaneId} {xs : List α} {id : PaneId} (f : α → α)
    (h : ∀ x ∈ xs, key x ≠ id) : xs.map (fun x => if key x = id then f x else x) = xs := by
  have hmap : xs.map (fun x => if key x = id then f x else x) = xs.map fun x => x :=
    List.map_congr_left fun x hx => if_neg (h x hx)
  simpa using hmap

namespace Pane

@[simp] theorem id_leaf (l : Leaf) : (leaf l).id = l.id := rfl

@[simp] theorem id_container (c : Container) : (container c).id = c.id := rfl

@[simp] theorem leaf?_leaf (l : Leaf) : (leaf l).leaf? = some l := rfl

@[simp] theorem leaf?_container (c : Container) : (container c).leaf? = none := rfl

@[simp] theorem isLeaf_leaf (l : Leaf) : (leaf l).isLeaf = true := rfl

@[simp] theorem isLeaf_container (c : Container) : (container c).isLeaf = false := rfl

end Pane

def Pane.mapLeaf (f : Leaf → Leaf) : Pane → Pane
  | .leaf l => .leaf (f l)
  | .container c => .container c

structure Leaf.FlagChange (f : Leaf → Leaf) : Prop where
  id : ∀ l, (f l).id = l.id
  session : ∀ l, (f l).session = l.session
  parent : ∀ l p, f { l with parent := p } = { f l with parent := p }

/-- Parents of leaves follow from where they stand. -/
inductive SplitTree where
  | leaf (l : Leaf)
  | node (id : PaneId) (orientation : Orientation) (ratio : Binary64) (first second : SplitTree)

namespace SplitTree

def id : SplitTree → PaneId
  | .leaf l => l.id
  | .node id _ _ _ _ => id

/-- The panes under a parent, containers before what they contain. -/
def panes : SplitTree → Option PaneId → List Pane
  | .leaf l, parent => [.leaf { l with parent }]
  | .node id orientation ratio a b, parent =>
    .container { id, orientation, ratio, first := a.id, second := b.id, parent } ::
      (a.panes (some id) ++ b.panes (some id))

/-- The pane at the root. -/
def top (parent : Option PaneId) : SplitTree → Pane
  | .leaf l => .leaf { l with parent }
  | .node id orientation ratio a b =>
    .container { id, orientation, ratio, first := a.id, second := b.id, parent }

/-- All panes but the one at the root; where the tree stands does not matter to them. -/
def inner : SplitTree → List Pane
  | .leaf _ => []
  | .node id _ _ a b => a.panes (some id) ++ b.panes (some id)

def leaves : SplitTree → List Leaf
  | .leaf l => [l]
  | .node _ _ _ a b => a.leaves ++ b.leaves

def ids : SplitTree → List PaneId
  | .leaf l => [l.id]
  | .node id _ _ a b => id :: (a.ids ++ b.ids)

def map (f : Leaf → Leaf) : SplitTree → SplitTree
  | .leaf l => .leaf (f l)
  | .node id orientation ratio a b => .node id orientation ratio (a.map f) (b.map f)

@[simp] theorem id_leaf (l : Leaf) : (leaf l).id = l.id := rfl

@[simp] theorem id_node (i : PaneId) (o : Orientation) (r : Binary64) (a b : SplitTree) :
    (node i o r a b).id = i := rfl

/-- Where the focus goes when a sub-tree takes over from a leaf. -/
def successor (t : SplitTree) : SplitTree → Option PaneId
  | .leaf l => some l.id
  | .node .. => t.leaves.head?.map Leaf.id

theorem leaves_ne_nil (t : SplitTree) : t.leaves ≠ [] := by
  induction t with
  | leaf l => simp [leaves]
  | node i o r a b iha ihb => simp [leaves, iha]

theorem map_id_panes (t : SplitTree) (parent : Option PaneId) :
    (t.panes parent).map Pane.id = t.ids := by
  induction t generalizing parent with
  | leaf l => rfl
  | node i o r a b iha ihb => simp [panes, ids, Pane.id, iha, ihb]

theorem id_mem_ids_of_mem_panes {t : SplitTree} {parent : Option PaneId} {p : Pane}
    (h : p ∈ t.panes parent) : p.id ∈ t.ids := by
  rw [← t.map_id_panes parent]
  exact List.mem_map_of_mem h

theorem id_mem_ids (t : SplitTree) : t.id ∈ t.ids := by
  cases t <;> simp [ids]

theorem panes_eq_cons (t : SplitTree) (parent : Option PaneId) :
    t.panes parent = t.top parent :: t.inner := by
  cases t <;> rfl

@[simp] theorem id_top (t : SplitTree) (parent : Option PaneId) : (t.top parent).id = t.id := by
  cases t <;> rfl

@[simp] theorem parent_top (t : SplitTree) (parent : Option PaneId) :
    (t.top parent).parent = parent := by
  cases t <;> rfl

@[simp] theorem withParent_top (t : SplitTree) (parent new : Option PaneId) :
    (t.top parent).withParent new = t.top new := by
  cases t <;> rfl

/-- A change of flags leaves the links of a tree as they are. -/
theorem panes_map {f : Leaf → Leaf} (hf : Leaf.FlagChange f) (t : SplitTree)
    (parent : Option PaneId) : (t.map f).panes parent = (t.panes parent).map (Pane.mapLeaf f) := by
  have hroot : ∀ t : SplitTree, (t.map f).id = t.id := by
    intro t
    cases t with
    | leaf l => exact hf.id l
    | node => rfl
  induction t generalizing parent with
  | leaf l => exact congrArg (fun k => [Pane.leaf k]) (hf.parent l parent).symm
  | node i o r a b iha ihb => simp [map, panes, Pane.mapLeaf, hroot, iha, ihb]

theorem map_same (t : SplitTree) : t.map (fun l => l) = t := by
  induction t with
  | leaf l => rfl
  | node i o r a b iha ihb => rw [map, iha, ihb]

theorem map_map (f g : Leaf → Leaf) (t : SplitTree) : (t.map f).map g = t.map (g ∘ f) := by
  induction t with
  | leaf l => rfl
  | node i o r a b iha ihb => simp [map, iha, ihb]

@[simp] theorem leaves_map (f : Leaf → Leaf) (t : SplitTree) :
    (t.map f).leaves = t.leaves.map f := by
  induction t with
  | leaf l => rfl
  | node i o r a b iha ihb => simp [map, leaves, iha, ihb]

theorem leaf_mem_panes (t : SplitTree) (parent : Option PaneId) {l : Leaf}
    (h : .leaf l ∈ t.panes parent) : ∃ k ∈ t.leaves, l = { k with parent := l.parent } := by
  induction t generalizing parent with
  | leaf k =>
    simp only [panes, List.mem_singleton, Pane.leaf.injEq] at h
    subst h
    exact ⟨k, by simp [leaves], rfl⟩
  | node i o r a b iha ihb =>
    simp only [panes, List.mem_cons, reduceCtorEq, List.mem_append, false_or] at h
    rcases h with h | h
    · obtain ⟨k, hk, he⟩ := iha _ h
      exact ⟨k, by simp [leaves, hk], he⟩
    · obtain ⟨k, hk, he⟩ := ihb _ h
      exact ⟨k, by simp [leaves, hk], he⟩

end SplitTree

/-- A container on the way to a place, with the child that is off the way. -/
structure Frame where
  id : PaneId
  orientation : Orientation
  ratio : Binary64
  /-- Whether the way leads to the first child. -/
  toFirst : Bool
  other : SplitTree

namespace Frame

def plug (f : Frame) (t : SplitTree) : SplitTree :=
  if f.toFirst then .node f.id f.orientation f.ratio t f.other
  else .node f.id f.orientation f.ratio f.other t

/-- The container with the given pane at the place. -/
def container (f : Frame) (hole : PaneId) (parent : Option PaneId) : Container where
  id := f.id
  orientation := f.orientation
  ratio := f.ratio
  first := if f.toFirst then hole else f.other.id
  second := if f.toFirst then f.other.id else hole
  parent

@[simp] theorem id_plug (f : Frame) (t : SplitTree) : (f.plug t).id = f.id := by
  unfold plug
  split <;> rfl

theorem panes_plug (f : Frame) (t : SplitTree) (parent : Option PaneId) :
    ((f.plug t).panes parent).Perm
      (.container (f.container t.id parent) ::
        (f.other.panes (some f.id) ++ t.panes (some f.id))) := by
  unfold plug container
  cases f.toFirst with
  | true => exact .cons _ List.perm_append_comm
  | false => exact .refl _

theorem siblingOf_container (f : Frame) (hole : PaneId) (parent : Option PaneId)
    (h : f.other.id ≠ hole) : (f.container hole parent).siblingOf hole = f.other.id := by
  unfold container Container.siblingOf
  cases f.toFirst <;> simp [h]

theorem replaceChild_container (f : Frame) (old new : PaneId) (parent : Option PaneId)
    (h : f.other.id ≠ old) :
    (f.container old parent).replaceChild old new = f.container new parent := by
  unfold container Container.replaceChild
  cases f.toFirst <;> simp [h]

end Frame

/-- The way from a place to the root. -/
abbrev Context := List Frame

namespace Context

def fill : Context → SplitTree → SplitTree
  | [], t => t
  | f :: ctx, t => fill ctx (f.plug t)

def parent : Context → Option PaneId
  | [] => none
  | f :: _ => some f.id

/-- All panes but those at the place. -/
def panes : Context → PaneId → List Pane
  | [], _ => []
  | f :: ctx, hole =>
    .container (f.container hole (parent ctx)) :: (f.other.panes (some f.id) ++ panes ctx f.id)

def ids (ctx : Context) : List PaneId := ctx.flatMap fun f => f.id :: f.other.ids

/-- Leaves before the place in the order of the tree. -/
def before : Context → List Leaf
  | [] => []
  | f :: ctx => before ctx ++ if f.toFirst then [] else f.other.leaves

def after : Context → List Leaf
  | [] => []
  | f :: ctx => (if f.toFirst then f.other.leaves else []) ++ after ctx

/-- The panes of a tree are those around a place and those in it. -/
theorem panes_fill (ctx : Context) (t : SplitTree) :
    ((ctx.fill t).panes none).Perm (ctx.panes t.id ++ t.panes ctx.parent) := by
  induction ctx generalizing t with
  | nil => exact .refl _
  | cons f ctx ih =>
    have h := ih (f.plug t)
    rw [Frame.id_plug] at h
    refine h.trans ?_
    have hp := (f.panes_plug t (parent ctx)).append_left (panes ctx f.id)
    refine hp.trans (List.perm_middle.trans (.cons _ ?_))
    rw [← List.append_assoc]
    exact List.perm_append_comm.append_right _

theorem map_id_panes (ctx : Context) (hole : PaneId) : (ctx.panes hole).map Pane.id = ctx.ids := by
  induction ctx generalizing hole with
  | nil => rfl
  | cons f ctx ih =>
    simp [panes, ids, Pane.id, Frame.container, SplitTree.map_id_panes, ih]

theorem id_mem_ids_of_mem_panes {ctx : Context} {hole : PaneId} {p : Pane}
    (h : p ∈ ctx.panes hole) : p.id ∈ ctx.ids := by
  rw [← ctx.map_id_panes hole]
  exact List.mem_map_of_mem h

theorem ids_fill (ctx : Context) (t : SplitTree) : (ctx.fill t).ids.Perm (ctx.ids ++ t.ids) := by
  have h := (ctx.panes_fill t).map Pane.id
  simpa [SplitTree.map_id_panes, map_id_panes] using h

/-- The leaves of a tree stand before a place, in it or after it. -/
theorem leaves_fill (ctx : Context) (t : SplitTree) :
    (ctx.fill t).leaves = ctx.before ++ t.leaves ++ ctx.after := by
  induction ctx generalizing t with
  | nil => simp [fill, before, after]
  | cons f ctx ih =>
    simp only [fill, ih, before, after]
    unfold Frame.plug
    cases f.toFirst <;> simp [SplitTree.leaves]

/-- Below the root, what is put in a place does not show at the root. -/
theorem id_fill_cons (f : Frame) (ctx : Context) (t u : SplitTree) :
    (fill (f :: ctx) t).id = (fill (f :: ctx) u).id := by
  induction ctx generalizing f t u with
  | nil => simp [fill]
  | cons g ctx ih => exact ih g (f.plug t) (f.plug u)

theorem id_fill_congr (ctx : Context) {t u : SplitTree} (h : t.id = u.id) :
    (ctx.fill t).id = (ctx.fill u).id := by
  cases ctx with
  | nil => exact h
  | cons f ctx => exact id_fill_cons f ctx t u

theorem root_fill (ctx : Context) (t u : SplitTree) :
    (if ctx.isEmpty then some t.id else some (ctx.fill u).id) = some (ctx.fill t).id := by
  cases ctx with
  | nil => rfl
  | cons f ctx => exact congrArg some (id_fill_cons f ctx u t)

/-- What stands off the way does not share an id with what stands elsewhere. -/
theorem other_id_ne {ctx : Context} {rest : List PaneId} (h : (ctx.ids ++ rest).Nodup)
    {id : PaneId} (hid : id ∈ rest) : ∀ f ∈ ctx.head?, f.other.id ≠ id := by
  intro f hf
  cases ctx with
  | nil => simp at hf
  | cons g ctx =>
    simp only [List.head?_cons, Option.mem_some_iff] at hf
    subst hf
    have hmem : g.other.id ∈ ids (g :: ctx) := by simp [ids, g.other.id_mem_ids]
    exact (List.nodup_append.mp h).2.2 _ hmem _ hid

/-- Turning the link of the parent from the old pane to the new one is all that the rest of
the tree sees of a replacement. -/
theorem map_replaceChild_panes (f : Frame) (ctx : Context) (old new : PaneId)
    (hnodup : (ids (f :: ctx)).Nodup) (hold : f.other.id ≠ old) :
    (panes (f :: ctx) old).map (fun p =>
      if p.id = f.id then .container ((f.container old ctx.parent).replaceChild old new) else p) =
      panes (f :: ctx) new := by
  have hrest : ∀ p ∈ f.other.panes (some f.id) ++ panes ctx f.id, p.id ≠ f.id := by
    simp only [ids, List.flatMap_cons, List.cons_append, List.nodup_cons, List.mem_append,
      not_or] at hnodup
    intro p hp hi
    rcases List.mem_append.mp hp with hp | hp
    · exact hnodup.1.1 (hi ▸ SplitTree.id_mem_ids_of_mem_panes hp)
    · exact hnodup.1.2 (hi ▸ id_mem_ids_of_mem_panes hp)
  have hhead : (Pane.container (f.container old ctx.parent)).id = f.id := rfl
  rw [panes, List.map_cons, map_elsewhere _ hrest, hhead, if_pos rfl,
    f.replaceChild_container old new _ hold]
  rfl

/-- Every pane of a tree is the top of what stands in some place of it. -/
theorem exists_fill_top (t : SplitTree) (outer : Context) {p : Pane}
    (h : p ∈ t.panes outer.parent) :
    ∃ (ctx : Context) (u : SplitTree), outer.fill t = ctx.fill u ∧ p = u.top ctx.parent := by
  induction t generalizing outer with
  | leaf l =>
    simp only [SplitTree.panes, List.mem_singleton] at h
    exact ⟨outer, .leaf l, rfl, h⟩
  | node i o r a b iha ihb =>
    simp only [SplitTree.panes, List.mem_cons, List.mem_append] at h
    rcases h with h | h | h
    · exact ⟨outer, .node i o r a b, rfl, h⟩
    · exact iha (⟨i, o, r, true, b⟩ :: outer) h
    · exact ihb (⟨i, o, r, false, a⟩ :: outer) h

end Context

end Multiplexer
