import Multiplexer.Proofs.Layout.Edit
import Multiplexer.Proofs.Layout.Views

/-!
# Surgery on the tree

What splitting and closing a leaf do to the links of an arena, said of the tree
that it represents: the leaf is replaced by a container of it and the new leaf,
or its parent by its sibling, and the rest of the tree stays as it is.
-/

namespace Multiplexer

namespace Layout

open Edit

variable {s : Layout} {x : Pane} {ps rest : List Pane}

theorem id_ne_of_perm (hs : ps.Perm (x :: rest)) (hunique : (ps.map Pane.id).Nodup) :
    ∀ p ∈ rest, p.id ≠ x.id := by
  rw [(hs.map Pane.id).nodup_iff, List.map_cons, List.nodup_cons] at hunique
  intro p hp he
  exact hunique.1 (he ▸ List.mem_map_of_mem hp)

/-- A change of one pane leaves all others. -/
theorem perm_modify (hs : s.panes.Perm (x :: rest)) (hunique : (s.panes.map Pane.id).Nodup)
    (f : Pane → Pane) : (s.modify x.id f).panes.Perm (f x :: rest) := by
  have h := hs.map fun p => if p.id = x.id then f p else p
  rw [List.map_cons, if_pos rfl, map_elsewhere f (id_ne_of_perm hs hunique)] at h
  exact h

theorem perm_modifyLeaf {l : Leaf} (hs : s.panes.Perm (.leaf l :: rest))
    (hunique : (s.panes.map Pane.id).Nodup) (f : Leaf → Leaf) :
    (s.modifyLeaf l.id f).panes.Perm (.leaf (f l) :: rest) :=
  perm_modify hs hunique _

theorem perm_remove (hs : s.panes.Perm (x :: rest)) (hunique : (s.panes.map Pane.id).Nodup) :
    (s.remove x.id).panes.Perm rest := by
  have h := hs.filter fun p => decide (p.id ≠ x.id)
  have hall : rest.filter (fun p => decide (p.id ≠ x.id)) = rest :=
    List.filter_eq_self.mpr fun p hp => by simpa using id_ne_of_perm hs hunique p hp
  rw [List.filter_cons_of_neg (by simp), hall] at h
  exact h

theorem nodup_remove (hunique : (s.panes.map Pane.id).Nodup) (id : PaneId) :
    ((s.remove id).panes.map Pane.id).Nodup :=
  hunique.sublist (List.filter_sublist.map _)

theorem perm_add_add (ps : List Pane) (c n : Pane) : (ps ++ [c] ++ [n]).Perm (c :: n :: ps) := by
  rw [List.append_assoc]
  exact List.perm_append_comm

/-- A pane that stands among the others may change places with the one after it. -/
theorem perm_swap_middle {above below : List Pane} (p p' : Pane) :
    (above ++ p :: p' :: below).Perm (above ++ p' :: p :: below) :=
  List.Perm.append_left above (List.Perm.swap p' p below)

/-- The link of the parent turns from the pane that was its child to another one. -/
theorem perm_turn {f : Frame} {ctx : Context} {previous : PaneId}
    (hs : s.panes.Perm (Context.panes (f :: ctx) previous ++ x :: rest))
    (hnodup : (Context.ids (f :: ctx) ++ x.id :: rest.map Pane.id).Nodup)
    (hprevious : f.other.id ≠ previous) :
    (s.modify f.id fun _ => .container
        ((f.container previous (Context.parent ctx)).replaceChild previous x.id)).panes.Perm
      (Context.panes (f :: ctx) x.id ++ x :: rest) := by
  obtain ⟨hctx, -, hapart⟩ := List.nodup_append.mp hnodup
  have hrest : ∀ p ∈ x :: rest, p.id ≠ f.id := by
    intro p hp he
    refine hapart f.id (by simp [Context.ids]) p.id ?_ he.symm
    rw [← List.map_cons]
    exact List.mem_map_of_mem hp
  have h := hs.map fun p => if p.id = f.id then
    .container ((f.container previous (Context.parent ctx)).replaceChild previous x.id) else p
  rw [List.map_append, map_elsewhere _ hrest,
    Context.map_replaceChild_panes f ctx previous x.id hctx hprevious] at h
  exact h

/-- Hanging a pane into the slot that a place had before: its parent link is set, and the link
of the parent, or the root, turned to it. -/
theorem exec_attach {ctx : Context} {previous : PaneId} (outbox : List Notice)
    (hs : s.panes.Perm (ctx.panes previous ++ x :: rest))
    (hnodup : (ctx.ids ++ x.id :: rest.map Pane.id).Nodup)
    (hprevious : ∀ f ∈ ctx.head?, f.other.id ≠ previous) :
    ∃ ps : List Pane, ps.Perm (ctx.panes x.id ++ x.withParent ctx.parent :: rest) ∧
      exec (attach x.id ctx.parent previous) ⟨s, outbox⟩ =
        (.ok (), ⟨{ s with panes := ps, root := if ctx.isEmpty then some x.id else s.root },
          outbox⟩) := by
  have hunique : ∀ {r : Layout} {hole : PaneId}, r.panes.Perm (ctx.panes hole ++ x :: rest) →
      (r.panes.map Pane.id).Nodup := by
    intro r hole hr
    have hids : (r.panes.map Pane.id).Perm (ctx.ids ++ x.id :: rest.map Pane.id) := by
      simpa [Context.map_id_panes] using hr.map Pane.id
    exact hids.nodup_iff.mpr hnodup
  cases ctx with
  | nil =>
    have hx : ({ s with root := some x.id } : Layout).pane? x.id = some x :=
      (pane?_eq_some_iff (hunique hs)).mpr ⟨hs.mem_iff.mpr (by simp), rfl⟩
    refine ⟨_, perm_modify hs (hunique hs) (Pane.withParent none), ?_⟩
    simp [attach, Context.parent, hx, modify]
  | cons f ctx =>
    let turn : Pane → Pane := fun _ =>
      .container ((f.container previous (Context.parent ctx)).replaceChild previous x.id)
    have hf : s.pane? f.id = some (.container (f.container previous (Context.parent ctx))) :=
      (pane?_eq_some_iff (hunique hs)).mpr ⟨hs.mem_iff.mpr (by simp [Context.panes]), rfl⟩
    have hturned := perm_turn hs hnodup (hprevious f rfl)
    have hx : (s.modify f.id turn).pane? x.id = some x :=
      (pane?_eq_some_iff (hunique hturned)).mpr ⟨hturned.mem_iff.mpr (by simp), rfl⟩
    refine ⟨_, (perm_modify (hturned.trans List.perm_middle) (hunique hturned)
      (Pane.withParent (some f.id))).trans List.perm_middle.symm, ?_⟩
    have hstep : exec (attach x.id (some f.id) previous) ⟨s, outbox⟩ =
        (.ok (), ⟨(s.modify f.id turn).modify x.id (Pane.withParent (some f.id)), outbox⟩) := by
      simp only [attach, exec_bind, exec_layout, hf, exec_update]
      rw [show (s.modify f.id fun _ => Pane.container
        ((f.container previous (Context.parent ctx)).replaceChild previous x.id)) =
        s.modify f.id turn from rfl, hx]
      rfl
    exact hstep

section Place

/-! A place in the tree with what stands there, apart from the rest. -/

variable {ctx : Context} {t : SplitTree} {bg : List Leaf}

/-- The panes of a layout are those around a place, those in it and those behind the tree. -/
theorem Represents.panes_place (h : s.Represents ⟨some (ctx.fill t), [], bg⟩) :
    s.panes.Perm (ctx.panes t.id ++ (t.panes ctx.parent ++ Plan.parked bg)) := by
  have hp := h.panes
  rw [Plan.panes_eq] at hp
  simp only [Option.toList_some, List.flatMap_singleton, List.nil_append] at hp
  rw [← List.append_assoc]
  exact hp.trans ((ctx.panes_fill t).append_right _)

theorem ids_place (ctx : Context) (t : SplitTree) (bg : List Leaf) :
    (⟨some (ctx.fill t), [], bg⟩ : Plan).ids.Perm (ctx.ids ++ (t.ids ++ bg.map Leaf.id)) := by
  rw [Plan.ids_eq, ← List.append_assoc]
  simp only [Option.toList_some, List.flatMap_singleton, List.nil_append]
  exact (ctx.ids_fill t).append_right _

theorem Represents.nodup_place (h : s.Represents ⟨some (ctx.fill t), [], bg⟩) :
    (ctx.ids ++ (t.ids ++ bg.map Leaf.id)).Nodup :=
  (ids_place ctx t bg).nodup_iff.mp h.nodup

theorem Represents.fresh_place (h : s.Represents ⟨some (ctx.fill t), [], bg⟩) :
    ∀ id ∈ ctx.ids ++ (t.ids ++ bg.map Leaf.id), id.number < s.nextId :=
  fun id hid => h.fresh id ((ids_place ctx t bg).mem_iff.mpr hid)

theorem Represents.place
    (hpanes : s.panes.Perm (ctx.panes t.id ++ (t.panes ctx.parent ++ Plan.parked bg)))
    (hroot : s.root = some (ctx.fill t).id) (htabs : s.tabs = [])
    (hbackground : s.background = bg.map Leaf.id)
    (hnodup : (ctx.ids ++ (t.ids ++ bg.map Leaf.id)).Nodup)
    (hfresh : ∀ id ∈ ctx.ids ++ (t.ids ++ bg.map Leaf.id), id.number < s.nextId) :
    s.Represents ⟨some (ctx.fill t), [], bg⟩ where
  panes := by
    rw [Plan.panes_eq]
    simp only [Option.toList_some, List.flatMap_singleton, List.nil_append]
    refine hpanes.trans ?_
    rw [← List.append_assoc]
    exact (ctx.panes_fill t).symm.append_right _
  root := hroot
  tabs := htabs
  background := hbackground
  nodup := (ids_place ctx t bg).nodup_iff.mpr hnodup
  fresh id hid := hfresh id ((ids_place ctx t bg).mem_iff.mp hid)
  mode := .inr rfl
  behind h := by simp at h

end Place

/-- A new ratio of a container changes no link. -/
theorem Represents.withRatio {ctx : Context} {id : PaneId} {o : Orientation} {old : Binary64}
    {a b : SplitTree} {bg : List Leaf}
    (h : s.Represents ⟨some (ctx.fill (.node id o old a b)), [], bg⟩) (ratio : Binary64) :
    (s.modify id fun _ => .container ⟨id, o, ratio, a.id, b.id, ctx.parent⟩).Represents
      ⟨some (ctx.fill (.node id o ratio a b)), [], bg⟩ := by
  let x : Pane := .container ⟨id, o, old, a.id, b.id, ctx.parent⟩
  let below : List Pane := a.panes (some id) ++ b.panes (some id) ++ Plan.parked bg
  have hpanes : s.panes.Perm (x :: (ctx.panes id ++ below)) := by
    refine h.panes_place.trans ?_
    simp only [SplitTree.panes, List.cons_append]
    exact List.perm_middle
  have hmod := perm_modify hpanes h.nodup_ids fun _ =>
    .container ⟨id, o, ratio, a.id, b.id, ctx.parent⟩
  refine .place ?_ ?_ h.tabs h.background h.nodup_place h.fresh_place
  · exact hmod.trans List.perm_middle.symm
  · show s.root = _
    rw [h.root]
    exact congrArg some (ctx.id_fill_congr rfl)

theorem nodup_insert_fresh {as bs : List PaneId} {id : PaneId} {n : Nat}
    (h : (as ++ id :: bs).Nodup) (hfresh : ∀ x ∈ as ++ id :: bs, x.number < n) :
    (as ++ (⟨n⟩ :: id :: ⟨n + 1⟩ :: bs)).Nodup := by
  have hnew : ∀ k, n ≤ k → (⟨k⟩ : PaneId) ∉ as ++ id :: bs := by
    intro k hk hmem
    have hlt := hfresh _ hmem
    simp only at hlt
    omega
  have hperm : (as ++ (⟨n⟩ :: id :: ⟨n + 1⟩ :: bs)).Perm (⟨n⟩ :: ⟨n + 1⟩ :: (as ++ id :: bs)) := by
    refine List.perm_middle.trans (.cons _ ?_)
    exact (List.Perm.append_left _ (List.Perm.swap _ _ _)).trans List.perm_middle
  rw [hperm.nodup_iff, List.nodup_cons, List.nodup_cons, List.mem_cons, not_or]
  exact ⟨⟨by simp, hnew n (by omega)⟩, hnew (n + 1) (by omega), h⟩

theorem number_lt_insert_fresh {as bs : List PaneId} {id : PaneId} {n : Nat}
    (hfresh : ∀ x ∈ as ++ id :: bs, x.number < n) :
    ∀ x ∈ as ++ (⟨n⟩ :: id :: ⟨n + 1⟩ :: bs), x.number < n + 2 := by
  intro x hx
  have hold : x ∈ as ++ id :: bs → x.number < n + 2 := by
    intro h
    have hlt := hfresh x h
    omega
  simp only [List.mem_append, List.mem_cons] at hx hold
  rcases hx with hx | rfl | rfl | rfl | hx
  · exact hold (.inl hx)
  · simp
  · exact hold (.inr (.inl rfl))
  · simp
  · exact hold (.inr (.inr hx))

/-- Splitting a leaf of the tree puts a container of it and the new leaf in its place. -/
theorem exec_insertSplit {ctx : Context} {l : Leaf} {bg : List Leaf}
    (h : s.Represents ⟨some (ctx.fill (.leaf l)), [], bg⟩) (o : Orientation)
    (session : Option SessionId) (primary : Bool) (outbox : List Notice) :
    ∃ (ps : List Pane) (r : Option PaneId),
      exec (insertSplit l.id o session primary) ⟨s, outbox⟩ =
        (.ok ⟨s.nextId + 1⟩,
          ⟨{ s with panes := ps, root := r, nextId := s.nextId + 2 }, outbox⟩) ∧
      Represents { s with panes := ps, root := r, nextId := s.nextId + 2 }
        ⟨some (ctx.fill (.node ⟨s.nextId⟩ o s.splitRatio (.leaf l)
          (.leaf { id := ⟨s.nextId + 1⟩, session, primary }))), [], bg⟩ := by
  let box : PaneId := ⟨s.nextId⟩
  let new : PaneId := ⟨s.nextId + 1⟩
  let x : Pane := .leaf { l with parent := ctx.parent }
  let c : Pane := .container
    { id := box, orientation := o, ratio := s.splitRatio, first := l.id, second := new,
      parent := ctx.parent }
  let n : Pane := .leaf { id := new, session, primary, parent := some box }
  let s₁ : Layout := { s with panes := s.panes ++ [c] ++ [n], nextId := s.nextId + 2 }
  have hpanes : s.panes.Perm (ctx.panes l.id ++ x :: Plan.parked bg) := h.panes_place
  have hl : s.pane? l.id = some x :=
    (pane?_eq_some_iff h.nodup_ids).mpr ⟨hpanes.mem_iff.mpr (by simp), rfl⟩
  have hids : (ctx.ids ++ (box :: l.id :: new :: bg.map Leaf.id)).Nodup :=
    nodup_insert_fresh h.nodup_place h.fresh_place
  -- Both new panes are added; then the container takes the place of the leaf.
  have hs₁ : s₁.panes.Perm (ctx.panes l.id ++ c :: (x :: n :: Plan.parked bg)) := by
    refine (perm_add_add s.panes c n).trans ?_
    refine (((hpanes.cons n).trans ?_).cons c).trans List.perm_middle.symm
    exact List.perm_middle.symm.trans (perm_swap_middle n x)
  obtain ⟨ps, hps, hrun⟩ := exec_attach outbox hs₁ (by simpa [x, c, n, Pane.id] using hids)
    (Context.other_id_ne h.nodup_place (by simp [SplitTree.ids]))
  let s₂ : Layout := { s₁ with panes := ps, root := if ctx.isEmpty then some box else s.root }
  have hunique : (s₂.panes.map Pane.id).Nodup := by
    have hmap := hps.map Pane.id
    simp only [List.map_append, Context.map_id_panes, List.map_cons, Plan.map_id_parked] at hmap
    exact hmap.nodup_iff.mpr hids
  -- The link of the leaf to its parent comes last.
  have hleaf : s₂.panes.Perm (x :: (ctx.panes box ++ c :: n :: Plan.parked bg)) :=
    hps.trans ((perm_swap_middle c x).trans List.perm_middle)
  have hdone : (s₂.modify l.id (Pane.withParent (some box))).panes.Perm
      (ctx.panes box ++ c :: .leaf { l with parent := some box } :: n :: Plan.parked bg) := by
    refine (perm_modify hleaf hunique (Pane.withParent (some box))).trans ?_
    exact List.perm_middle.symm.trans (perm_swap_middle _ c)
  refine ⟨_, _, ?_, Represents.place hdone ?_ h.tabs h.background ?_ ?_⟩
  · have hattach : exec (attach ⟨s.nextId⟩ ctx.parent l.id) ⟨(Layout.add
        (({ s with nextId := s.nextId + 1 + 1 } : Layout).add c) n), outbox⟩ =
        (.ok (), ⟨s₂, outbox⟩) := hrun
    have hs : exec (insertSplit l.id o session primary) ⟨s, outbox⟩ =
        (.ok new, ⟨s₂.modify l.id (Pane.withParent (some box)), outbox⟩) := by
      simp only [insertSplit, exec_bind, exec_layout, hl, x, exec_newId, exec_update, Pane.parent]
      rw [hattach]
      rfl
    exact hs
  · show s₂.root = _
    rw [show s₂.root = if ctx.isEmpty then some box else s.root from rfl, h.root]
    exact ctx.root_fill (.node box o s.splitRatio (.leaf l) (.leaf { id := new, session, primary }))
      (.leaf l)
  · simpa [SplitTree.ids, box, new] using hids
  · simpa [SplitTree.ids] using number_lt_insert_fresh h.fresh_place

theorem Represents.successor_eq {ctx : Context} {t : SplitTree} {bg : List Leaf}
    (h : s.Represents ⟨some (ctx.fill t), [], bg⟩) :
    (if (s.leaf? t.id).isSome then some t.id else s.leafIds.head?) =
      (ctx.fill t).successor t := by
  cases t with
  | leaf k =>
    obtain ⟨p, hp⟩ := h.exists_leaf? (l := k) (by simp [Plan.leaves_eq, Context.leaves_fill,
      SplitTree.leaves])
    simp [SplitTree.successor, hp]
  | node i o r a b =>
    have hc : s.pane? i = some (.container ⟨i, o, r, a.id, b.id, ctx.parent⟩) := by
      refine h.pane?_eq.mpr ⟨?_, rfl⟩
      rw [← h.mem_panes_iff, h.panes_place.mem_iff]
      simp [SplitTree.panes]
    simp [SplitTree.successor, leaf?, hc, Pane.leaf?, h.leafIds_eq]

section Sibling

/-! A leaf of the tree that is no root, with its parent and its sibling. -/

variable {f : Frame} {ctx : Context} {l : Leaf} {bg : List Leaf}

theorem Represents.panes_sibling
    (h : s.Represents ⟨some (Context.fill (f :: ctx) (.leaf l)), [], bg⟩) :
    s.panes.Perm (.leaf { l with parent := some f.id } ::
      .container (f.container l.id (Context.parent ctx)) ::
        (ctx.panes f.id ++ f.other.top (some f.id) :: (f.other.inner ++ Plan.parked bg))) := by
  have hother : ctx.panes f.id ++ f.other.top (some f.id) :: (f.other.inner ++ Plan.parked bg) =
      ctx.panes f.id ++ f.other.panes (some f.id) ++ Plan.parked bg := by
    simp [SplitTree.panes_eq_cons]
  rw [hother]
  refine h.panes_place.trans (List.perm_middle.trans (.cons _ (.cons _ ?_)))
  exact List.perm_append_comm.append_right _

theorem map_id_sibling (t : SplitTree) (parent : Option PaneId) (bg : List Leaf) :
    (t.top parent :: (t.inner ++ Plan.parked bg)).map Pane.id = t.ids ++ bg.map Leaf.id := by
  rw [← t.map_id_panes parent, SplitTree.panes_eq_cons]
  simp

theorem Represents.ids_sibling
    (h : s.Represents ⟨some (Context.fill (f :: ctx) (.leaf l)), [], bg⟩) :
    (s.panes.map Pane.id).Perm
      (l.id :: f.id :: (ctx.ids ++ (f.other.ids ++ bg.map Leaf.id))) := by
  have hmap := h.panes_sibling.map Pane.id
  rw [List.map_cons, List.map_cons, List.map_append, Context.map_id_panes, map_id_sibling] at hmap
  exact hmap

/-- With the leaf and the parent gone, and the sibling in the place of the parent. -/
theorem Represents.withoutSibling
    (h : s.Represents ⟨some (Context.fill (f :: ctx) (.leaf l)), [], bg⟩) {ps : List Pane}
    (hps : ps.Perm (ctx.panes f.other.id ++
      f.other.top (Context.parent ctx) :: (f.other.inner ++ Plan.parked bg))) :
    Represents { s with panes := ps, root := if ctx.isEmpty then some f.other.id else s.root }
      ⟨some (ctx.fill f.other), [], bg⟩ := by
  have hnodup := h.ids_sibling.nodup_iff.mp h.nodup_ids
  refine Represents.place ?_ ?_ h.tabs h.background ?_ ?_
  · simpa [SplitTree.panes_eq_cons] using hps
  · rw [h.root]
    exact ctx.root_fill f.other (f.plug (.leaf l))
  · exact (List.nodup_cons.mp (List.nodup_cons.mp hnodup).2).2
  · intro id hid
    refine h.fresh_place id ?_
    show id ∈ (f.id :: f.other.ids ++ ctx.ids) ++ ([l.id] ++ bg.map Leaf.id)
    simp only [List.mem_append, List.mem_cons] at hid ⊢
    tauto

/-- Closing a leaf puts its sibling in the place of their parent. -/
theorem exec_closeTreeLeaf
    (h : s.Represents ⟨some (Context.fill (f :: ctx) (.leaf l)), [], bg⟩) (outbox : List Notice) :
    ∃ (ps : List Pane) (r : Option PaneId),
      exec (closeTreeLeaf { l with parent := some f.id }) ⟨s, outbox⟩ =
        (.ok (if s.focused = some l.id then (ctx.fill f.other).successor f.other else s.focused),
          ⟨{ s with panes := ps, root := r }, outbox⟩) ∧
      Represents { s with panes := ps, root := r } ⟨some (ctx.fill f.other), [], bg⟩ := by
  let c : Pane := .container (f.container l.id (Context.parent ctx))
  have hunique := h.nodup_ids
  have hremoved := perm_remove h.panes_sibling hunique
  have hc : (s.remove l.id).pane? f.id = some c :=
    (pane?_eq_some_iff (nodup_remove hunique _)).mpr ⟨hremoved.mem_iff.mpr (by simp [c]), rfl⟩
  have hboth := perm_remove hremoved (nodup_remove hunique _)
  have hsibling : (f.container l.id (Context.parent ctx)).siblingOf l.id = f.other.id :=
    f.siblingOf_container _ _ (Context.other_id_ne h.nodup_place (by simp [SplitTree.ids]) f rfl)
  obtain ⟨-, hrest⟩ := List.nodup_cons.mp (h.ids_sibling.nodup_iff.mp hunique)
  have habove : (ctx.ids ++ [f.id]).Nodup := by
    rw [List.nodup_append_comm, List.singleton_append]
    exact hrest.sublist (.cons_cons _ (List.sublist_append_left _ _))
  obtain ⟨ps, hps, hrun⟩ := exec_attach outbox hboth
    (by rw [← List.map_cons, map_id_sibling]; exact (List.nodup_cons.mp hrest).2)
    (Context.other_id_ne habove (by simp))
  let r : Option PaneId := if ctx.isEmpty then some f.other.id else s.root
  have hplace : Represents { s with panes := ps, root := r } ⟨some (ctx.fill f.other), [], bg⟩ :=
    h.withoutSibling (by simpa using hps)
  have hfocus : (if (({ s with panes := ps, root := r } : Layout).leaf? f.other.id).isSome
      then some f.other.id else ({ s with panes := ps, root := r } : Layout).leafIds.head?) =
      (ctx.fill f.other).successor f.other := hplace.successor_eq
  refine ⟨ps, r, ?_, hplace⟩
  have hattach : exec (attach f.other.id ctx.parent f.id) ⟨(s.remove l.id).remove f.id, outbox⟩ =
      (.ok (), ⟨{ s with panes := ps, root := r }, outbox⟩) := by
    rw [f.other.id_top] at hrun
    exact hrun
  simp only [closeTreeLeaf, exec_bind, exec_update, exec_layout]
  rw [hc]
  simp only [c, exec_bind, exec_update, hsibling]
  rw [show (f.container l.id ctx.parent).parent = ctx.parent from rfl, hattach]
  simp only [exec_ite, exec_bind, exec_layout, exec_pure]
  rw [← hfocus]
  have hsame : (s.remove l.id).focused = s.focused := rfl
  rw [hsame]
  split_ifs <;> rfl

end Sibling

end Layout

end Multiplexer
