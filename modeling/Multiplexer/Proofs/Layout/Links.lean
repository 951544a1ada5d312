import Multiplexer.Proofs.Layout.Notices
import Multiplexer.Proofs.Layout.WellFormed

/-!
# Links that turn

Splitting and closing a leaf of the tree turn the links to one pane to another,
hang one pane elsewhere, and add or drop two panes. So both are changes of the
arena as a list, and the order of allocation is kept.
-/

namespace Multiplexer

namespace Container

variable (c : Container) (old new : PaneId)

@[simp] theorem id_replaceChild : (c.replaceChild old new).id = c.id := by
  unfold replaceChild; split_ifs <;> rfl

@[simp] theorem parent_replaceChild : (c.replaceChild old new).parent = c.parent := by
  unfold replaceChild; split_ifs <;> rfl

variable {c old}

theorem replaceChild_of_ne (hfirst : c.first ≠ old) (hsecond : c.second ≠ old) :
    c.replaceChild old new = c := by
  simp [replaceChild, hfirst, hsecond]

/-- A link that goes by a pane nobody linked to before may go straight. -/
theorem replaceChild_replaceChild {via : PaneId} (hfirst : c.first ≠ via)
    (hsecond : c.second ≠ via) :
    (c.replaceChild old via).replaceChild via new = c.replaceChild old new := by
  unfold replaceChild
  by_cases ha : c.first = old
  · simp [ha]
  · by_cases hb : c.second = old <;> simp [ha, hb, hfirst, hsecond]

theorem replaceChild_self : c.replaceChild old old = c := by
  unfold replaceChild
  split_ifs with ha hb
  · rw [← ha]
  · rw [← hb]
  · rfl

end Container

namespace Pane

/-- Links to a pane turned to another one. -/
def relink (old new : PaneId) : Pane → Pane
  | .leaf l => .leaf l
  | .container c => .container (c.replaceChild old new)

variable (old new : PaneId) (p : Pane)

@[simp] theorem id_relink : (p.relink old new).id = p.id := by
  cases p <;> simp [relink]

@[simp] theorem parent_relink : (p.relink old new).parent = p.parent := by
  cases p <;> simp [relink, parent]

@[simp] theorem isLeaf_relink : (p.relink old new).isLeaf = p.isLeaf := by
  cases p <;> simp [relink]

/-- None of the links to children leads to the given pane. -/
def Avoids (id : PaneId) (p : Pane) : Prop :=
  ∀ c, p = .container c → c.first ≠ id ∧ c.second ≠ id

variable {old p}

theorem relink_relink {via : PaneId} (h : p.Avoids via) :
    (p.relink old via).relink via new = p.relink old new := by
  cases p with
  | leaf l => rfl
  | container c =>
    obtain ⟨hfirst, hsecond⟩ := h c rfl
    exact congrArg Pane.container (Container.replaceChild_replaceChild new hfirst hsecond)

theorem relink_self : p.relink old old = p := by
  cases p with
  | leaf l => rfl
  | container c => exact congrArg Pane.container Container.replaceChild_self

end Pane

namespace SplitTree

/-- Links to a pane that is not in the tree do not occur in it. -/
theorem map_relink_panes {t : SplitTree} {old : PaneId} (new : PaneId) (h : old ∉ t.ids)
    (parent : Option PaneId) : (t.panes parent).map (Pane.relink old new) = t.panes parent := by
  induction t generalizing parent with
  | leaf l => rfl
  | node i o r a b iha ihb =>
    simp only [ids, List.mem_cons, List.mem_append, not_or] at h
    have ha : a.id ≠ old := fun he => h.2.1 (he ▸ a.id_mem_ids)
    have hb : b.id ≠ old := fun he => h.2.2 (he ▸ b.id_mem_ids)
    rw [panes, List.map_cons, List.map_append, iha h.2.1, ihb h.2.2, Pane.relink,
      Container.replaceChild_of_ne new ha hb]

end SplitTree

namespace Context

theorem map_relink_panes_of_ne (ctx : Context) {hole old : PaneId} (new : PaneId)
    (hhole : hole ≠ old) (h : old ∉ ctx.ids) :
    (ctx.panes hole).map (Pane.relink old new) = ctx.panes hole := by
  induction ctx generalizing hole with
  | nil => rfl
  | cons f ctx ih =>
    simp only [ids, List.flatMap_cons, List.cons_append, List.mem_cons, List.mem_append,
      not_or] at h
    have hother : f.other.id ≠ old := fun he => h.2.1 (he ▸ f.other.id_mem_ids)
    have hlinks : (f.container hole (parent ctx)).replaceChild old new =
        f.container hole (parent ctx) := by
      refine Container.replaceChild_of_ne new ?_ ?_
      · show (if f.toFirst then hole else f.other.id) ≠ old
        split <;> assumption
      · show (if f.toFirst then f.other.id else hole) ≠ old
        split <;> assumption
    rw [panes, List.map_cons, List.map_append, SplitTree.map_relink_panes new h.2.1,
      ih (Ne.symm h.1) h.2.2, Pane.relink, hlinks]

/-- All around a place, turning the links to what stood there is to put the new pane there. -/
theorem map_relink_panes (ctx : Context) {old : PaneId} (new : PaneId) (h : old ∉ ctx.ids) :
    (ctx.panes old).map (Pane.relink old new) = ctx.panes new := by
  cases ctx with
  | nil => rfl
  | cons f ctx =>
    simp only [ids, List.flatMap_cons, List.cons_append, List.mem_cons, List.mem_append,
      not_or] at h
    have hother : f.other.id ≠ old := fun he => h.2.1 (he ▸ f.other.id_mem_ids)
    rw [panes, List.map_cons, List.map_append, SplitTree.map_relink_panes new h.2.1,
      map_relink_panes_of_ne ctx new (Ne.symm h.1) h.2.2, Pane.relink,
      f.replaceChild_container old new _ hother]
    rfl

theorem id_fill_mem_ids (f : Frame) (ctx : Context) (t : SplitTree) :
    (fill (f :: ctx) t).id ∈ ids (f :: ctx) := by
  induction ctx generalizing f t with
  | nil => simp [fill, ids]
  | cons g ctx ih =>
    have hup := ih g (f.plug t)
    rw [ids, List.flatMap_cons]
    exact List.mem_append_right _ hup

/-- Whether a place is the root shows in the id at the root. -/
theorem id_fill_eq (ctx : Context) {t : SplitTree} (u : SplitTree) (h : t.id ∉ ctx.ids) :
    some (ctx.fill u).id =
      if some (ctx.fill t).id = some t.id then some u.id else some (ctx.fill t).id := by
  cases ctx with
  | nil => simp [fill]
  | cons f ctx =>
    rw [if_neg, id_fill_cons f ctx u t]
    intro he
    exact h (Option.some.inj he ▸ id_fill_mem_ids f ctx t)

end Context

/-- Panes that are the same up to order, and stand in the same order by their ids, are the same. -/
theorem eq_of_perm_of_map_id {ps ps' : List Pane} (h : ps.Perm ps')
    (hids : ps.map Pane.id = ps'.map Pane.id) (hunique : (ps.map Pane.id).Nodup) : ps = ps' := by
  refine List.ext_getElem h.length_eq fun n hn hn' => ?_
  have hid : (ps[n]).id = (ps'[n]).id := by
    simpa [hn, hn'] using congrArg (fun ids => ids[n]?) hids
  exact List.inj_on_of_nodup_map hunique (List.getElem_mem hn)
    (h.mem_iff.mpr (List.getElem_mem hn')) hid

namespace Layout

open Edit

variable {s : Layout}

section Order

/-! Ids stay in the order of allocation. -/

theorem map_id_modify (s : Layout) {id : PaneId} {f : Pane → Pane}
    (hf : ∀ p, p.id = id → (f p).id = id) :
    (s.modify id f).panes.map Pane.id = s.panes.map Pane.id := by
  simp only [modify, List.map_map]
  refine List.map_congr_left fun p _ => ?_
  by_cases hp : p.id = id
  · simp [hp, hf p hp]
  · simp [hp]

theorem map_id_withParent (s : Layout) (id : PaneId) (parent : Option PaneId) :
    (s.modify id (Pane.withParent parent)).panes.map Pane.id = s.panes.map Pane.id :=
  s.map_id_modify fun p hp => by rw [Pane.withParent_id, hp]

theorem map_id_attach {id previous : PaneId} {parent : Option PaneId} {d d' : Draft}
    (h : exec (attach id parent previous) d = (.ok (), d')) :
    d'.layout.panes.map Pane.id = d.layout.panes.map Pane.id := by
  cases parent with
  | none =>
    simp only [attach, exec_bind, exec_update, exec_layout, exec_ite, exec_throw] at h
    split_ifs at h
    · simp at h
    · obtain rfl := (Prod.mk.inj h).2
      exact map_id_withParent _ id none
  | some p =>
    simp only [attach, exec_bind, exec_layout] at h
    cases hp : d.layout.pane? p with
    | none => simp [hp] at h
    | some x =>
      cases x with
      | leaf l => simp [hp] at h
      | container c =>
        simp only [hp, exec_bind, exec_update, exec_layout, exec_ite, exec_throw] at h
        split_ifs at h
        · simp at h
        · obtain rfl := (Prod.mk.inj h).2
          have hid : c.id = p := by simpa using List.find?_some hp
          rw [map_id_withParent]
          exact d.layout.map_id_modify fun _ _ => by simp [hid]

/-- A split adds a container and a leaf, and changes no id. -/
theorem map_id_insertSplit {target new : PaneId} {o : Orientation} {session : Option SessionId}
    {primary : Bool} {d d' : Draft}
    (h : exec (insertSplit target o session primary) d = (.ok new, d')) :
    d'.layout.panes.map Pane.id =
      d.layout.panes.map Pane.id ++ [⟨d.layout.nextId⟩, ⟨d.layout.nextId + 1⟩] := by
  simp only [insertSplit, exec_bind, exec_layout] at h
  cases hpane : d.layout.pane? target with
  | none => simp [hpane] at h
  | some p =>
    simp only [hpane, exec_bind, exec_newId, exec_update, exec_pure] at h
    split at h
    · rename_i hattach
      obtain rfl := (Prod.mk.inj h).2
      rw [map_id_withParent, map_id_attach hattach]
      simp [add]
    · simp at h

/-- Closing a leaf takes it and its parent out, and changes no id. -/
theorem map_id_closeTreeLeaf {l : Leaf} {p : PaneId} {focus : Option PaneId} {d d' : Draft}
    (hparent : l.parent = some p) (h : exec (closeTreeLeaf l) d = (.ok focus, d')) :
    d'.layout.panes.map Pane.id = ((d.layout.remove l.id).remove p).panes.map Pane.id := by
  simp only [closeTreeLeaf, exec_bind, exec_update, exec_layout, hparent] at h
  cases hp : (d.layout.remove l.id).pane? p with
  | none => simp [hp] at h
  | some x =>
    cases x with
    | leaf k => simp [hp] at h
    | container c =>
      simp only [hp, exec_bind, exec_update, exec_layout, exec_ite, exec_pure] at h
      split at h
      · rename_i hattach
        rw [← map_id_attach hattach]
        split_ifs at h <;> rw [← (Prod.mk.inj h).2]
      · simp at h

end Order

/-- Every link to a pane, that of the root included, turned to another one. -/
def relinked (s : Layout) (old new : PaneId) : Layout :=
  { s with
    panes := s.panes.map (Pane.relink old new)
    root := if s.root = some old then some new else s.root }

/-- With a container of a leaf and a new leaf in the place of the leaf. -/
def spliced (s : Layout) (l : Leaf) (o : Orientation) (session : Option SessionId)
    (primary : Bool) : Layout :=
  let box : PaneId := ⟨s.nextId⟩
  let new : PaneId := ⟨s.nextId + 1⟩
  let s' := (s.relinked l.id box).modify l.id (Pane.withParent (some box))
  { s' with
    panes := s'.panes ++
      [.container ⟨box, o, s.splitRatio, l.id, new, l.parent⟩,
        .leaf { id := new, session, primary, parent := some box }]
    nextId := s.nextId + 2 }

/-- Without a leaf and its parent, with the sibling in the place of the parent. -/
def collapsed (s : Layout) (id : PaneId) (c : Container) : Layout :=
  (((s.remove id).remove c.id).relinked c.id (c.siblingOf id)).modify (c.siblingOf id)
    (Pane.withParent c.parent)

section Lookups

/-! Where a pane is found afterwards, and as what. -/

theorem find?_map_of_id (s : Layout) {g : Pane → Pane} (hg : ∀ p, (g p).id = p.id) (i : PaneId) :
    ((s.panes.map g).find? fun p => p.id == i) = (s.pane? i).map g := by
  rw [List.find?_map]
  exact congrArg (Option.map g) (congrArg (fun P => s.panes.find? P) (funext fun p => by simp [hg]))

theorem pane?_mapLeaves (s : Layout) {f : Leaf → Leaf} (hf : Leaf.FlagChange f) (i : PaneId) :
    (s.mapLeaves f).pane? i = (s.pane? i).map (Pane.mapLeaf f) :=
  s.find?_map_of_id (fun p => by cases p <;> simp [Pane.mapLeaf, hf.id]) i

theorem pane?_refocus (s : Layout) (target : Option PaneId) (i : PaneId) :
    (s.refocus target).pane? i = (s.pane? i).map (Pane.mapLeaf (Leaf.refocus s.focused target)) := by
  rw [refocus_eq]
  exact s.pane?_mapLeaves (.ofRefocus _ _) i

theorem pane?_withParent (s : Layout) (id : PaneId) (parent : Option PaneId) (i : PaneId) :
    (s.modify id (Pane.withParent parent)).pane? i =
      (s.pane? i).map fun p => if i = id then p.withParent parent else p := by
  have hmap : (s.modify id (Pane.withParent parent)).pane? i =
      (s.pane? i).map fun p => if p.id = id then p.withParent parent else p :=
    s.find?_map_of_id (fun p => by split <;> simp) i
  rw [hmap]
  cases hp : s.pane? i with
  | none => rfl
  | some p =>
    have hi : p.id = i := by simpa using List.find?_some hp
    simp [hi]

theorem pane?_relinked (s : Layout) (old new i : PaneId) :
    (s.relinked old new).pane? i = (s.pane? i).map (Pane.relink old new) :=
  s.find?_map_of_id (Pane.id_relink old new) i

theorem pane?_remove (s : Layout) (id i : PaneId) :
    (s.remove id).pane? i = if i = id then none else s.pane? i := by
  unfold pane? remove
  rw [List.find?_filter]
  by_cases hi : i = id
  · rw [if_pos hi, List.find?_eq_none]
    simp [hi]
  · rw [if_neg hi]
    refine congrArg (fun P => s.panes.find? P) (funext fun p => ?_)
    by_cases hp : p.id = i <;> simp [hp, hi]

/-- What is found after a leaf and its parent were taken out. -/
theorem pane?_collapsed (s : Layout) (id : PaneId) (c : Container) (i : PaneId) :
    (s.collapsed id c).pane? i = if i = id ∨ i = c.id then none else
      (s.pane? i).map fun p => if i = c.siblingOf id then
        (p.relink c.id (c.siblingOf id)).withParent c.parent
      else p.relink c.id (c.siblingOf id) := by
  rw [collapsed, pane?_withParent, pane?_relinked, pane?_remove, pane?_remove]
  by_cases hc : i = c.id
  · simp [hc]
  · by_cases hid : i = id
    · simp [hid]
    · simp [hc, hid, Function.comp_def]

/-- What is found after a container was put above a leaf. -/
theorem pane?_spliced (s : Layout) (l : Leaf) (o : Orientation) (session : Option SessionId)
    (primary : Bool) (i : PaneId) :
    (s.spliced l o session primary).pane? i =
      ((s.pane? i).map fun p => if i = l.id then
        (p.relink l.id ⟨s.nextId⟩).withParent (some ⟨s.nextId⟩)
      else p.relink l.id ⟨s.nextId⟩).or
      (if i = ⟨s.nextId⟩ then
        some (.container ⟨⟨s.nextId⟩, o, s.splitRatio, l.id, ⟨s.nextId + 1⟩, l.parent⟩)
      else if i = ⟨s.nextId + 1⟩ then
        some (.leaf { id := ⟨s.nextId + 1⟩, session, primary, parent := some ⟨s.nextId⟩ })
      else none) := by
  have hold := (s.relinked l.id ⟨s.nextId⟩).pane?_withParent l.id (some ⟨s.nextId⟩) i
  rw [pane?_relinked, Option.map_map] at hold
  unfold pane? spliced
  rw [List.find?_append]
  refine congrArg₂ Option.or hold ?_
  by_cases hbox : i = ⟨s.nextId⟩
  · simp [hbox]
  · by_cases hnew : i = ⟨s.nextId + 1⟩
    · simp [hnew]
    · simp [hbox, hnew, Ne.symm hbox, Ne.symm hnew]

theorem leavesUnder_congr {s' : Layout} (h : s'.panes = s.panes) (fuel : Nat) (i : PaneId) :
    s'.leavesUnder fuel i = s.leavesUnder fuel i := by
  induction fuel generalizing i with
  | zero => rfl
  | succ fuel ih =>
    have hpane : s'.pane? i = s.pane? i := by rw [pane?, h, pane?]
    simp only [leavesUnder, hpane, ih]

theorem leavesUnder_mapLeaves (s : Layout) {f : Leaf → Leaf} (hf : Leaf.FlagChange f) (fuel : Nat)
    (i : PaneId) : (s.mapLeaves f).leavesUnder fuel i = (s.leavesUnder fuel i).map f := by
  induction fuel generalizing i with
  | zero => rfl
  | succ fuel ih =>
    simp only [leavesUnder, s.pane?_mapLeaves hf]
    cases s.pane? i with
    | none => rfl
    | some p => cases p <;> simp [Pane.mapLeaf, ih]

/-- The ids of the leaves at or below a pane, in order. -/
def idsUnder (s : Layout) (i : PaneId) : List PaneId :=
  (s.leavesUnder s.panes.length i).map Leaf.id

theorem idsUnder_congr {s' : Layout} (h : s'.panes = s.panes) (i : PaneId) :
    s'.idsUnder i = s.idsUnder i := by
  rw [idsUnder, h, leavesUnder_congr h, idsUnder]

theorem idsUnder_mapLeaves (s : Layout) {f : Leaf → Leaf} (hf : Leaf.FlagChange f) (i : PaneId) :
    (s.mapLeaves f).idsUnder i = s.idsUnder i := by
  have hlength : (s.mapLeaves f).panes.length = s.panes.length := List.length_map _
  simp [idsUnder, hlength, s.leavesUnder_mapLeaves hf, Function.comp_def, hf.id]

theorem panes_refocus (s : Layout) (target : Option PaneId) :
    (s.refocus target).panes = (s.mapLeaves (Leaf.refocus s.focused target)).panes := by
  rw [refocus_eq]

@[simp] theorem focused_refocus (s : Layout) (target : Option PaneId) :
    (s.refocus target).focused = target := by
  rw [refocus_eq]

@[simp] theorem root_refocus (s : Layout) (target : Option PaneId) :
    (s.refocus target).root = s.root := by
  rw [refocus_eq]
  rfl

theorem idsUnder_refocus (s : Layout) (target : Option PaneId) (i : PaneId) :
    (s.refocus target).idsUnder i = s.idsUnder i := by
  rw [idsUnder_congr (s.panes_refocus target), s.idsUnder_mapLeaves (.ofRefocus _ _)]

theorem leafIds_eq_idsUnder (s : Layout) : s.leafIds = s.root.toList.flatMap s.idsUnder := by
  unfold leafIds leaves idsUnder
  cases s.root <;> simp

theorem leafIds_mapLeaves (s : Layout) {f : Leaf → Leaf} (hf : Leaf.FlagChange f) :
    (s.mapLeaves f).leafIds = s.leafIds := by
  rw [leafIds_eq_idsUnder, leafIds_eq_idsUnder s]
  exact congrArg (fun g => s.root.toList.flatMap g) (funext (s.idsUnder_mapLeaves hf))

theorem leafIds_refocus (s : Layout) (target : Option PaneId) :
    (s.refocus target).leafIds = s.leafIds := by
  rw [leafIds_eq_idsUnder, leafIds_eq_idsUnder s, root_refocus]
  exact congrArg (fun g => s.root.toList.flatMap g) (funext (s.idsUnder_refocus target))

end Lookups

section Place

variable {ctx : Context} {l : Leaf} {bg : List Leaf}

theorem map_relink_parked (old new : PaneId) (ls : List Leaf) :
    (Plan.parked ls).map (Pane.relink old new) = Plan.parked ls := by
  simp [Plan.parked, Pane.relink]

theorem Represents.not_mem_around {t : SplitTree}
    (h : s.Represents ⟨some (ctx.fill t), [], bg⟩) : t.id ∉ ctx.ids := fun hmem =>
  (List.nodup_append.mp h.nodup_place).2.2 t.id hmem t.id
    (List.mem_append_left _ t.id_mem_ids) rfl

/-- What is put in the place of the root is the root; elsewhere it is not. -/
theorem Represents.root_place {t : SplitTree} (h : s.Represents ⟨some (ctx.fill t), [], bg⟩)
    (u : SplitTree) :
    some (ctx.fill u).id = if s.root = some t.id then some u.id else s.root := by
  rw [h.root]
  exact ctx.id_fill_eq u h.not_mem_around

/-- Turning links keeps ids unique. -/
theorem nodup_relinked (h : (s.panes.map Pane.id).Nodup) (old new : PaneId) :
    ((s.relinked old new).panes.map Pane.id).Nodup := by
  simpa [relinked, Function.comp_def] using h

/-- The panes after a split of a leaf of the tree. -/
theorem Represents.perm_spliced (h : s.Represents ⟨some (ctx.fill (.leaf l)), [], bg⟩)
    (o : Orientation) (session : Option SessionId) (primary : Bool) :
    (s.spliced { l with parent := ctx.parent } o session primary).panes.Perm
      (.container ⟨⟨s.nextId⟩, o, s.splitRatio, l.id, ⟨s.nextId + 1⟩, ctx.parent⟩ ::
        .leaf { l with parent := some ⟨s.nextId⟩ } ::
        .leaf { id := ⟨s.nextId + 1⟩, session, primary, parent := some ⟨s.nextId⟩ } ::
        (ctx.panes ⟨s.nextId⟩ ++ Plan.parked bg)) := by
  let box : PaneId := ⟨s.nextId⟩
  let c : Pane := .container ⟨box, o, s.splitRatio, l.id, ⟨s.nextId + 1⟩, ctx.parent⟩
  let n : Pane := .leaf { id := ⟨s.nextId + 1⟩, session, primary, parent := some box }
  have hpanes : s.panes.Perm (.leaf { l with parent := ctx.parent } ::
      (ctx.panes l.id ++ Plan.parked bg)) := h.panes_place.trans List.perm_middle
  have haround : l.id ∉ ctx.ids := h.not_mem_around
  have hturned : (s.relinked l.id box).panes.Perm (.leaf { l with parent := ctx.parent } ::
      (ctx.panes box ++ Plan.parked bg)) := by
    have hmap := hpanes.map (Pane.relink l.id box)
    rwa [List.map_cons, List.map_append, ctx.map_relink_panes box haround,
      map_relink_parked] at hmap
  have hhung := perm_modify hturned (nodup_relinked h.nodup_ids _ _) (Pane.withParent (some box))
  refine (hhung.append_right [c, n]).trans (List.perm_append_comm.trans ?_)
  exact (List.Perm.swap _ _ _).cons c

/-- What a split of a leaf of the tree makes of the arena. -/
theorem exec_insertSplit_eq (h : s.Represents ⟨some (ctx.fill (.leaf l)), [], bg⟩)
    (o : Orientation) (session : Option SessionId) (primary : Bool) (outbox : List Notice) :
    exec (insertSplit l.id o session primary) ⟨s, outbox⟩ = (.ok ⟨s.nextId + 1⟩,
      ⟨s.spliced { l with parent := ctx.parent } o session primary, outbox⟩) ∧
    (s.spliced { l with parent := ctx.parent } o session primary).Represents
      ⟨some (ctx.fill (.node ⟨s.nextId⟩ o s.splitRatio (.leaf l)
        (.leaf { id := ⟨s.nextId + 1⟩, session, primary }))), [], bg⟩ := by
  obtain ⟨ps, r, hrun, h'⟩ := exec_insertSplit h o session primary outbox
  have hids : (s.spliced { l with parent := ctx.parent } o session primary).panes.map Pane.id =
      s.panes.map Pane.id ++ [⟨s.nextId⟩, ⟨s.nextId + 1⟩] := by
    rw [spliced, List.map_append, map_id_withParent]
    simp only [relinked, List.map_map, Function.comp_def, Pane.id_relink]
    rfl
  have hsame : ps = (s.spliced { l with parent := ctx.parent } o session primary).panes := by
    refine eq_of_perm_of_map_id ?_ (hids ▸ map_id_insertSplit hrun) h'.nodup_ids
    refine (h'.panes_place.trans (List.perm_append_comm_assoc _ _ _)).trans ?_
    exact (h.perm_spliced o session primary).symm
  have hroot : r = if s.root = some l.id then some ⟨s.nextId⟩ else s.root := by
    rw [show r = _ from h'.root]
    exact h.root_place _
  have hdone : ({ s with panes := ps, root := r, nextId := s.nextId + 2 } : Layout) =
      s.spliced { l with parent := ctx.parent } o session primary := by
    rw [hsame, hroot]
    rfl
  rw [← hdone]
  exact ⟨hrun, h'⟩

section Sibling

variable {f : Frame} (h : s.Represents ⟨some (Context.fill (f :: ctx) (.leaf l)), [], bg⟩)

include h

theorem Represents.siblingOf_place :
    (f.container l.id (Context.parent ctx)).siblingOf l.id = f.other.id :=
  f.siblingOf_container _ _ (Context.other_id_ne h.nodup_place (by simp [SplitTree.ids]) f rfl)

theorem Represents.pane?_parent :
    s.pane? f.id = some (.container (f.container l.id (Context.parent ctx))) :=
  (pane?_eq_some_iff h.nodup_ids).mpr ⟨h.panes_sibling.mem_iff.mpr (by simp), rfl⟩

theorem Represents.not_mem_other : f.id ∉ f.other.ids := by
  have hnodup := (List.nodup_append.mp h.nodup_place).1
  simp only [Context.ids, List.flatMap_cons, List.cons_append, List.nodup_cons, List.mem_append,
    not_or] at hnodup
  exact hnodup.1.1

/-- The panes after a leaf of the tree and its parent have been taken out. -/
theorem Represents.perm_collapsed :
    (s.collapsed l.id (f.container l.id (Context.parent ctx))).panes.Perm
      (f.other.top (Context.parent ctx) ::
        (ctx.panes f.other.id ++ (f.other.inner ++ Plan.parked bg))) := by
  have hup : s.Represents ⟨some (ctx.fill (f.plug (.leaf l))), [], bg⟩ := h
  have habove : f.id ∉ ctx.ids := by simpa using hup.not_mem_around
  have hunique := h.nodup_ids
  have hremoved : ((s.remove l.id).remove f.id).panes.Perm (f.other.top (some f.id) ::
      (ctx.panes f.id ++ (f.other.inner ++ Plan.parked bg))) :=
    (perm_remove (perm_remove h.panes_sibling hunique) (nodup_remove hunique _)).trans
      List.perm_middle
  -- No link below the sibling leads to the parent.
  have hbelow : (f.other.top (some f.id) :: f.other.inner).map (Pane.relink f.id f.other.id) =
      f.other.top (some f.id) :: f.other.inner := by
    rw [← f.other.panes_eq_cons]
    exact SplitTree.map_relink_panes _ h.not_mem_other (some f.id)
  obtain ⟨htop, hinner⟩ := List.cons.inj hbelow
  have hturned : (((s.remove l.id).remove f.id).relinked f.id f.other.id).panes.Perm
      (f.other.top (some f.id) ::
        (ctx.panes f.other.id ++ (f.other.inner ++ Plan.parked bg))) := by
    have hmap := hremoved.map (Pane.relink f.id f.other.id)
    rwa [List.map_cons, List.map_append, List.map_append, htop, hinner, map_relink_parked,
      ctx.map_relink_panes f.other.id habove] at hmap
  have hhung := perm_modify hturned
    (nodup_relinked (nodup_remove (nodup_remove hunique _) _) _ _)
    (Pane.withParent (Context.parent ctx))
  rw [f.other.id_top, f.other.withParent_top] at hhung
  rw [collapsed, h.siblingOf_place]
  exact hhung

/-- What closing a leaf of the tree makes of the arena. -/
theorem exec_closeTreeLeaf_eq (outbox : List Notice) :
    let c := f.container l.id (Context.parent ctx)
    exec (closeTreeLeaf { l with parent := some f.id }) ⟨s, outbox⟩ =
      (.ok (if s.focused = some l.id then (ctx.fill f.other).successor f.other else s.focused),
        ⟨s.collapsed l.id c, outbox⟩) ∧
    (s.collapsed l.id c).Represents ⟨some (ctx.fill f.other), [], bg⟩ ∧
    c.siblingOf l.id = f.other.id := by
  intro c
  obtain ⟨ps, r, hrun, h'⟩ := exec_closeTreeLeaf h outbox
  have hup : s.Represents ⟨some (ctx.fill (f.plug (.leaf l))), [], bg⟩ := h
  have hids : (s.collapsed l.id c).panes.map Pane.id =
      ((s.remove l.id).remove f.id).panes.map Pane.id := by
    rw [collapsed, map_id_withParent]
    simp [relinked, Function.comp_def, c, Frame.container]
  have hsame : ps = (s.collapsed l.id c).panes := by
    refine eq_of_perm_of_map_id ?_ (hids.symm ▸ map_id_closeTreeLeaf rfl hrun) h'.nodup_ids
    have hplace := h'.panes_place
    rw [f.other.panes_eq_cons] at hplace
    exact (hplace.trans List.perm_middle).trans h.perm_collapsed.symm
  have hroot : r = if s.root = some f.id then some f.other.id else s.root := by
    rw [show r = _ from h'.root]
    have hplace := hup.root_place f.other
    rwa [Frame.id_plug] at hplace
  have hdone : ({ s with panes := ps, root := r } : Layout) = s.collapsed l.id c := by
    rw [hsame, hroot, collapsed, h.siblingOf_place]
    rfl
  rw [← hdone]
  exact ⟨hrun, h', h.siblingOf_place⟩

end Sibling

end Place

end Layout

end Multiplexer
