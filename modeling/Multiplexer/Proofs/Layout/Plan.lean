import Multiplexer.Layout.Basic
import Multiplexer.Proofs.Layout.SplitTree

/-!
# Plans

What a layout is about, without links: a tree or a row of tabs, and the leaves
in the background. A layout represents a plan if its arena holds the panes of
the plan, each once and with the links that follow from the plan.
-/

namespace Multiplexer

namespace Leaf

/-- Off screen and outside the tree. -/
def hide (l : Leaf) : Leaf := { l with visible := false, parent := none }

/-- On screen, with nothing above. -/
def expose (l : Leaf) : Leaf := { l with visible := true, parent := none }

@[simp] theorem shows_iff {l : Leaf} {x : SessionId} : l.shows x = true ↔ l.session = some x := by
  simp [shows]

def blank (l : Leaf) : Bool := l.session.isNone

theorem blank_eq_false {l : Leaf} (h : l.session ≠ none) : l.blank = false := by
  cases hs : l.session with
  | none => exact absurd hs h
  | some x => simp [blank, hs]

end Leaf

structure Plan where
  tree : Option SplitTree := none
  tabs : List Leaf := []
  background : List Leaf := []

namespace Plan

/-- Tabs and background leaves are trees of their own. -/
def trees (q : Plan) : List SplitTree := q.tree.toList ++ (q.tabs ++ q.background).map .leaf

def panes (q : Plan) : List Pane := q.trees.flatMap fun t => t.panes none

def ids (q : Plan) : List PaneId := q.trees.flatMap SplitTree.ids

def leaves (q : Plan) : List Leaf := q.trees.flatMap SplitTree.leaves

def map (f : Leaf → Leaf) (q : Plan) : Plan where
  tree := q.tree.map (SplitTree.map f)
  tabs := q.tabs.map f
  background := q.background.map f

theorem map_id_panes (q : Plan) : q.panes.map Pane.id = q.ids := by
  simp [panes, ids, List.map_flatMap, SplitTree.map_id_panes]

theorem trees_map (f : Leaf → Leaf) (q : Plan) :
    (q.map f).trees = q.trees.map (SplitTree.map f) := by
  cases h : q.tree <;> simp [trees, map, h, SplitTree.map, Function.comp_def]

/-- A change of flags leaves all links as they are. -/
theorem panes_map {f : Leaf → Leaf} (hf : Leaf.FlagChange f) (q : Plan) :
    (q.map f).panes = q.panes.map (Pane.mapLeaf f) := by
  simp only [panes, trees_map, List.flatMap_map, List.map_flatMap, SplitTree.panes_map hf]

@[simp] theorem leaves_map (f : Leaf → Leaf) (q : Plan) : (q.map f).leaves = q.leaves.map f := by
  simp only [leaves, trees_map, List.flatMap_map, List.map_flatMap, SplitTree.leaves_map]

theorem map_same (q : Plan) : q.map (fun l => l) = q := by
  have htree : SplitTree.map (fun l => l) = id := funext SplitTree.map_same
  simp [map, htree]

theorem map_map (f g : Leaf → Leaf) (q : Plan) : (q.map f).map g = q.map (g ∘ f) := by
  have htree : SplitTree.map g ∘ SplitTree.map f = SplitTree.map (g ∘ f) := by
    funext t
    exact t.map_map f g
  simp [map, htree]

theorem ids_map {f : Leaf → Leaf} (hf : Leaf.FlagChange f) (q : Plan) : (q.map f).ids = q.ids := by
  have hid : Pane.id ∘ Pane.mapLeaf f = Pane.id := by
    funext p
    cases p with
    | leaf l => exact hf.id l
    | container c => rfl
  rw [← map_id_panes, ← map_id_panes, panes_map hf, List.map_map, hid]

/-- The leaves without what depends on where they stand. -/
def cards (q : Plan) : List Leaf := q.leaves.map Leaf.hide

theorem forall_cards {P : Leaf → Prop} (hP : ∀ l, P l.hide ↔ P l) (q : Plan) :
    (∀ l ∈ q.cards, P l) ↔ ∀ l ∈ q.leaves, P l := by
  simp [cards, hP]

theorem exists_cards {P : Leaf → Prop} (hP : ∀ l, P l.hide ↔ P l) (q : Plan) :
    (∃ l ∈ q.cards, P l) ↔ ∃ l ∈ q.leaves, P l := by
  simp [cards, hP]

theorem countP_cards {p : Leaf → Bool} (hp : ∀ l, p l.hide = p l) (q : Plan) :
    q.cards.countP p = q.leaves.countP p := by
  rw [cards, List.countP_map]
  exact congrArg (q.leaves.countP ·) (funext hp)

/-- Whether some leaf shows a session. -/
def Shows (q : Plan) (session : SessionId) : Prop := ∃ l ∈ q.leaves, l.session = some session

/-- Whether some leaf is primary for a session. -/
def HasPrimary (q : Plan) (session : SessionId) : Prop :=
  ∃ l ∈ q.leaves, l.session = some session ∧ l.primary = true

theorem shows_map {f : Leaf → Leaf} (hf : Leaf.FlagChange f) (q : Plan) (session : SessionId) :
    (q.map f).Shows session ↔ q.Shows session := by
  simp [Shows, hf.session]

/-- Panes of leaves that wait outside a tree. -/
def parked (ls : List Leaf) : List Pane := ls.map fun l => .leaf { l with parent := none }

@[simp] theorem map_id_parked (ls : List Leaf) : (parked ls).map Pane.id = ls.map Leaf.id := by
  simp [parked, Function.comp_def, Pane.id]

theorem parked_middle (as bs : List Leaf) (l : Leaf) :
    (parked (as ++ l :: bs)).Perm (.leaf { l with parent := none } :: parked (as ++ bs)) := by
  simp only [parked, List.map_append, List.map_cons]
  exact List.perm_middle

theorem map_parked {f g : Leaf → Leaf} {ls : List Leaf}
    (h : ∀ l ∈ ls, f { l with parent := none } = { g l with parent := none }) :
    (parked ls).map (Pane.mapLeaf f) = parked (ls.map g) := by
  unfold parked
  rw [List.map_map, List.map_map]
  exact List.map_congr_left fun l hl => congrArg Pane.leaf (h l hl)

theorem panes_eq (q : Plan) :
    q.panes = q.tree.toList.flatMap (fun t => t.panes none) ++ parked (q.tabs ++ q.background) := by
  simp only [panes, trees, List.flatMap_append, List.flatMap_map]
  simp only [parked, List.map_eq_flatMap, SplitTree.panes, List.flatMap_append]

theorem ids_eq (q : Plan) :
    q.ids = q.tree.toList.flatMap SplitTree.ids ++ (q.tabs ++ q.background).map Leaf.id := by
  simp only [ids, trees, List.flatMap_append, List.flatMap_map]
  simp only [List.map_eq_flatMap, SplitTree.ids, List.flatMap_append]

theorem leaves_eq (q : Plan) :
    q.leaves = q.tree.toList.flatMap SplitTree.leaves ++ (q.tabs ++ q.background) := by
  simp only [leaves, trees, List.flatMap_append, List.flatMap_map, SplitTree.leaves,
    List.flatMap_singleton']

theorem leaf_mem_panes {q : Plan} {l : Leaf} (h : .leaf l ∈ q.panes) :
    ∃ k ∈ q.leaves, l = { k with parent := l.parent } := by
  obtain ⟨t, ht, hl⟩ := List.mem_flatMap.mp h
  obtain ⟨k, hk, he⟩ := t.leaf_mem_panes none hl
  exact ⟨k, List.mem_flatMap.mpr ⟨t, ht, hk⟩, he⟩

end Plan

namespace Leaf

/-- A change of one leaf only. -/
def only (id : PaneId) (f : Leaf → Leaf) (l : Leaf) : Leaf := if l.id = id then f l else l

def refocus (old new : Option PaneId) (l : Leaf) : Leaf :=
  if old = new then l
  else if new = some l.id then { l with focused := true }
  else if old = some l.id then { l with focused := false }
  else l

/-- Of some tabs, make one visible and the others not. -/
def front (tabs : List PaneId) (active : PaneId) (l : Leaf) : Leaf :=
  if l.id ∈ tabs then { l with visible := l.id == active } else l

def crown (heirs : List PaneId) (l : Leaf) : Leaf :=
  if l.id ∈ heirs then { l with primary := true } else l

theorem crown_nil : crown [] = fun l => l := by
  funext l
  simp [crown]

section Flags

/-! Each change leaves the other flags alone. -/

variable (old new : Option PaneId) (tabs heirs : List PaneId) (active : PaneId) (l : Leaf)

@[simp] theorem visible_refocus : (refocus old new l).visible = l.visible := by
  unfold refocus; split_ifs <;> rfl

@[simp] theorem primary_refocus : (refocus old new l).primary = l.primary := by
  unfold refocus; split_ifs <;> rfl

@[simp] theorem focused_front : (front tabs active l).focused = l.focused := by
  unfold front; split_ifs <;> rfl

@[simp] theorem primary_front : (front tabs active l).primary = l.primary := by
  unfold front; split_ifs <;> rfl

@[simp] theorem focused_crown : (crown heirs l).focused = l.focused := by
  unfold crown; split_ifs <;> rfl

@[simp] theorem visible_crown : (crown heirs l).visible = l.visible := by
  unfold crown; split_ifs <;> rfl

end Flags

namespace FlagChange

theorem ofRefocus (old new : Option PaneId) : FlagChange (refocus old new) where
  id l := by unfold refocus; split_ifs <;> rfl
  session l := by unfold refocus; split_ifs <;> rfl
  parent l p := by unfold refocus; split_ifs <;> rfl

theorem ofFront (tabs : List PaneId) (active : PaneId) : FlagChange (front tabs active) where
  id l := by unfold front; split_ifs <;> rfl
  session l := by unfold front; split_ifs <;> rfl
  parent l p := by unfold front; split_ifs <;> rfl

theorem ofCrown (heirs : List PaneId) : FlagChange (crown heirs) where
  id l := by unfold crown; split_ifs <;> rfl
  session l := by unfold crown; split_ifs <;> rfl
  parent l p := by unfold crown; split_ifs <;> rfl

end FlagChange

end Leaf

/-- Crowning dethrones nobody. -/
theorem Plan.HasPrimary.crown {q : Plan} {x : SessionId} (h : q.HasPrimary x)
    (heirs : List PaneId) : (q.map (Leaf.crown heirs)).HasPrimary x := by
  obtain ⟨l, hl, hs, hp⟩ := h
  refine ⟨Leaf.crown heirs l, ?_, by rw [(Leaf.FlagChange.ofCrown _).session, hs], ?_⟩
  · rw [Plan.leaves_map]
    exact List.mem_map_of_mem hl
  · unfold Leaf.crown
    split
    · rfl
    · exact hp

namespace Layout

def mapLeaves (s : Layout) (f : Leaf → Leaf) : Layout :=
  { s with panes := s.panes.map (Pane.mapLeaf f) }

theorem mapLeaves_mapLeaves (s : Layout) (f g : Leaf → Leaf) :
    (s.mapLeaves f).mapLeaves g = s.mapLeaves (g ∘ f) := by
  have h : Pane.mapLeaf g ∘ Pane.mapLeaf f = Pane.mapLeaf (g ∘ f) := by
    funext p
    cases p <;> rfl
  simp [mapLeaves, h]

theorem modifyLeaf_eq (s : Layout) (id : PaneId) (f : Leaf → Leaf) :
    s.modifyLeaf id f = s.mapLeaves (Leaf.only id f) := by
  unfold modifyLeaf modify mapLeaves
  congr 1
  apply List.map_congr_left
  intro p _
  cases p with
  | leaf l => by_cases h : l.id = id <;> simp [Pane.id, Pane.mapLeaf, Leaf.only, h]
  | container c => by_cases h : c.id = id <;> simp [Pane.id, Pane.mapLeaf, h]

theorem mapLeaves_id (s : Layout) : s.mapLeaves (fun l => l) = s := by
  have h : Pane.mapLeaf (fun l => l) = fun p => p := by
    funext p
    cases p <;> rfl
  simp [mapLeaves, h]

theorem refocus_eq (s : Layout) (target : Option PaneId) :
    s.refocus target = { s.mapLeaves (Leaf.refocus s.focused target) with focused := target } := by
  unfold refocus
  split
  · rename_i h
    have hid : Leaf.refocus s.focused target = fun l => l := by
      funext l
      simp [Leaf.refocus, h]
    rw [hid, mapLeaves_id, ← h]
  · rename_i h
    cases hs : s.focused with
    | none =>
      cases target with
      | none => exact absurd hs h
      | some b =>
        have hb : Leaf.refocus none (some b) = Leaf.only b fun l => { l with focused := true } := by
          funext l
          simp [Leaf.refocus, Leaf.only, eq_comm]
        simp only [hs, hb, modifyLeaf_eq]
    | some a =>
      cases target with
      | none =>
        have ha : Leaf.refocus (some a) none =
            Leaf.only a fun l => { l with focused := false } := by
          funext l
          simp [Leaf.refocus, Leaf.only, eq_comm]
        simp only [hs, ha, modifyLeaf_eq]
      | some b =>
        have hab : a ≠ b := by
          rintro rfl
          exact h hs
        have hboth : Leaf.refocus (some a) (some b) =
            Leaf.only b (fun l => { l with focused := true }) ∘
              Leaf.only a fun l => { l with focused := false } := by
          funext l
          by_cases ha : a = l.id
          · have hb : b ≠ l.id := fun hb => hab (ha.trans hb.symm)
            simp [Leaf.refocus, Leaf.only, ha, hb, hb.symm]
          · by_cases hb : b = l.id <;> simp [Leaf.refocus, Leaf.only, hb, Ne.symm ha, ha, eq_comm]
        simp only [hs, hboth, modifyLeaf_eq, mapLeaves_mapLeaves]

theorem showTab_eq (s : Layout) (active : PaneId) :
    s.showTab active =
      { s.mapLeaves (Leaf.front s.tabs active) with activeTab := some active } := by
  have hfold : ∀ (tabs : List PaneId) (s : Layout),
      tabs.foldl (fun s id => s.modifyLeaf id fun l => { l with visible := id == active }) s =
        s.mapLeaves (Leaf.front tabs active) := by
    intro tabs
    induction tabs with
    | nil =>
      intro s
      exact (mapLeaves_id s).symm
    | cons id tabs ih =>
      intro s
      rw [List.foldl_cons, ih, modifyLeaf_eq, mapLeaves_mapLeaves]
      congr 1
      funext l
      by_cases hid : l.id = id <;> by_cases hl : l.id ∈ tabs <;>
        simp [Leaf.front, Leaf.only, hid, hl]
  unfold showTab
  rw [hfold]

/-- Who gets the primary flag of a session, if anyone is to. -/
def heir? (s : Layout) (session : SessionId) : Option PaneId :=
  if s.hasPrimary session then none else s.everyLeaf.find? (s.showsAt session)

theorem promote_eq (s : Layout) (session : SessionId) :
    s.promote session = s.mapLeaves (Leaf.crown (s.heir? session).toList) := by
  unfold promote heir?
  split
  · rw [Option.toList_none, Leaf.crown_nil, mapLeaves_id]
  · cases s.everyLeaf.find? (s.showsAt session) with
    | none => rw [Option.toList_none, Leaf.crown_nil, mapLeaves_id]
    | some id =>
      have hsome : Leaf.crown [id] = Leaf.only id fun l => { l with primary := true } := by
        funext l
        simp [Leaf.crown, Leaf.only]
      rw [Option.toList_some, hsome]
      exact modifyLeaf_eq s id _

structure Represents (s : Layout) (q : Plan) : Prop where
  panes : s.panes.Perm q.panes
  root : s.root = q.tree.map SplitTree.id
  tabs : s.tabs = q.tabs.map Leaf.id
  background : s.background = q.background.map Leaf.id
  nodup : q.ids.Nodup
  fresh : ∀ id ∈ q.ids, id.number < s.nextId
  /-- The layout is in one mode at a time. -/
  mode : q.tree = none ∨ q.tabs = []
  /-- Leaves wait in the background of a tree only. -/
  behind : q.tree = none → q.background = []

namespace Represents

variable {s : Layout} {q : Plan}

theorem empty (splitRatio : Binary64) (nextId : Nat) :
    Represents { splitRatio, nextId } {} where
  panes := .nil
  root := rfl
  tabs := rfl
  background := rfl
  nodup := .nil
  fresh := by simp [Plan.ids, Plan.trees]
  mode := .inl rfl
  behind _ := rfl

/-- A change of flags is a change of the leaves of the plan. -/
theorem mapLeaves (h : s.Represents q) {f : Leaf → Leaf} (hf : Leaf.FlagChange f) :
    (s.mapLeaves f).Represents (q.map f) where
  panes := by
    rw [Plan.panes_map hf]
    exact h.panes.map _
  root := by
    have hid : ∀ t : SplitTree, (t.map f).id = t.id := by
      intro t
      cases t with
      | leaf l => exact hf.id l
      | node => rfl
    simp only [Layout.mapLeaves, h.root, Plan.map, Option.map_map, Function.comp_def, hid]
  tabs := by simp [Layout.mapLeaves, h.tabs, Plan.map, Function.comp_def, hf.id]
  background := by simp [Layout.mapLeaves, h.background, Plan.map, Function.comp_def, hf.id]
  nodup := by
    rw [Plan.ids_map hf]
    exact h.nodup
  fresh := by
    rw [Plan.ids_map hf]
    exact h.fresh
  mode := by simpa [Plan.map] using h.mode
  behind := by simpa [Plan.map] using h.behind

/-- Focus and the active tab are no matter of the plan. -/
theorem withFocus (h : s.Represents q) (focused activeTab : Option PaneId) :
    Represents { s with focused, activeTab } q :=
  ⟨h.panes, h.root, h.tabs, h.background, h.nodup, h.fresh, h.mode, h.behind⟩

theorem refocus (h : s.Represents q) (target : Option PaneId) :
    (s.refocus target).Represents (q.map (Leaf.refocus s.focused target)) := by
  rw [refocus_eq]
  exact (h.mapLeaves (.ofRefocus _ _)).withFocus target s.activeTab

theorem showTab (h : s.Represents q) (active : PaneId) :
    (s.showTab active).Represents (q.map (Leaf.front s.tabs active)) := by
  rw [showTab_eq]
  exact (h.mapLeaves (.ofFront _ _)).withFocus s.focused (some active)

theorem promote (h : s.Represents q) (session : SessionId) :
    (s.promote session).Represents (q.map (Leaf.crown (s.heir? session).toList)) := by
  rw [promote_eq]
  exact h.mapLeaves (.ofCrown _)

theorem nodup_ids (h : s.Represents q) : (s.panes.map Pane.id).Nodup := by
  rw [(h.panes.map Pane.id).nodup_iff, Plan.map_id_panes]
  exact h.nodup

end Represents

/-- Where ids are unique, the pane that is found is the one with the id. -/
theorem pane?_eq_some_iff {s : Layout} (h : (s.panes.map Pane.id).Nodup) {id : PaneId} {p : Pane} :
    s.pane? id = some p ↔ p ∈ s.panes ∧ p.id = id := by
  unfold pane?
  constructor
  · intro hp
    exact ⟨List.mem_of_find?_eq_some hp, by simpa using List.find?_some hp⟩
  · rintro ⟨hp, rfl⟩
    cases hf : s.panes.find? fun r => r.id == p.id with
    | none => simpa using List.find?_eq_none.mp hf p hp
    | some r =>
      have hr : r.id = p.id := by simpa using List.find?_some hf
      rw [List.inj_on_of_nodup_map h (List.mem_of_find?_eq_some hf) hp hr]

end Layout

end Multiplexer
