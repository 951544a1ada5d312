import Multiplexer.Proofs.Layout.Links
import Multiplexer.Proofs.Layout.Retraction

/-!
# Splits taken back

Closing the leaf that a split has made brings the layout back as it was, pane
for pane, with the focus on the leaf that was split. Closing that leaf leaves
the new one in its place.
-/

namespace Multiplexer

namespace Leaf.FlagChange

theorem parent_eq {f : Leaf → Leaf} (hf : FlagChange f) (l : Leaf) : (f l).parent = l.parent :=
  (congrArg Leaf.parent (hf.parent l l.parent) :)

theorem comp {f g : Leaf → Leaf} (hg : FlagChange g) (hf : FlagChange f) : FlagChange (g ∘ f) where
  id l := (hg.id (f l)).trans (hf.id l)
  session l := (hg.session (f l)).trans (hf.session l)
  parent l p := (congrArg g (hf.parent l p)).trans (hg.parent (f l) p)

theorem ofOnly (id : PaneId) {f : Leaf → Leaf} (hf : FlagChange f) :
    FlagChange (Leaf.only id f) where
  id l := by unfold only; split_ifs <;> simp [hf.id]
  session l := by unfold only; split_ifs <;> simp [hf.session]
  parent l p := by unfold only; split_ifs <;> first | exact hf.parent l p | rfl

end Leaf.FlagChange

/-- A leaf with the flag where it belongs has it there after the focus has moved. -/
theorem Leaf.refocus_of_mark {old new : Option PaneId} {l : Leaf}
    (h : l.focused = true ↔ old = some l.id) :
    Leaf.refocus old new l = { l with focused := decide (new = some l.id) } := by
  have hold : l.focused = decide (old = some l.id) := by
    rw [Bool.eq_iff_iff, decide_eq_true_iff, h]
  unfold Leaf.refocus
  split_ifs with hsame hnew hold'
  · rw [← hsame, ← hold]
  · rw [decide_eq_true hnew]
  · rw [decide_eq_false hnew]
  · rw [decide_eq_false hnew, ← decide_eq_false hold', ← hold]

/-- A leaf without the flags that go from leaf to leaf. -/
def Leaf.bare (l : Leaf) : Leaf := { l with focused := false, primary := false }

@[simp] theorem Leaf.bare_refocus (old new : Option PaneId) (l : Leaf) :
    (Leaf.refocus old new l).bare = l.bare := by
  unfold Leaf.refocus; split_ifs <;> rfl

@[simp] theorem Leaf.bare_crown (heirs : List PaneId) (l : Leaf) :
    (Leaf.crown heirs l).bare = l.bare := by
  unfold Leaf.crown; split_ifs <;> rfl

namespace Layout

open Edit

variable {s : Layout} {q : Plan} {l : Leaf}

section Fresh

/-! Nobody has seen an id that is still to be given out. -/

theorem Represents.pane?_fresh (h : s.Represents q) {i : PaneId} (hi : s.nextId ≤ i.number) :
    s.pane? i = none :=
  h.pane?_eq_none fun hmem => absurd (h.fresh i hmem) (Nat.not_lt.mpr hi)

theorem Represents.number_lt (h : s.Represents q) {p : Pane} (hp : p ∈ s.panes) :
    p.id.number < s.nextId := by
  refine h.fresh _ ?_
  rw [← q.map_id_panes]
  exact List.mem_map_of_mem (h.mem_panes_iff.mp hp)

theorem Represents.id_ne_fresh (h : s.Represents q) {p : Pane} (hp : p ∈ s.panes) {i : PaneId}
    (hi : s.nextId ≤ i.number) : p.id ≠ i := by
  rintro rfl
  exact absurd (h.number_lt hp) (Nat.not_lt.mpr hi)

theorem Represents.avoids (h : s.Represents q) {p : Pane} (hp : p ∈ s.panes) {i : PaneId}
    (hi : s.nextId ≤ i.number) : p.Avoids i := by
  rintro c rfl
  obtain ⟨-, hchildren⟩ := h.wellFormed_children hp
  have hne : ∀ id, id = c.first ∨ id = c.second → id ≠ i := by
    intro id hid
    obtain ⟨p, hp, rfl, -⟩ := hchildren _ hid
    exact h.id_ne_fresh hp hi
  exact ⟨hne _ (.inl rfl), hne _ (.inr rfl)⟩

theorem Represents.root_ne_fresh (h : s.Represents q) {i : PaneId} (hi : s.nextId ≤ i.number) :
    s.root ≠ some i := by
  rw [h.root]
  intro he
  obtain ⟨t, ht, rfl⟩ := Option.map_eq_some_iff.mp he
  have hmem : t.id ∈ q.ids := by
    rw [Plan.ids_eq, ht]
    simp [t.id_mem_ids]
  exact absurd (h.fresh _ hmem) (Nat.not_lt.mpr hi)

theorem Represents.withNextId (h : s.Represents q) {n : Nat} (hn : s.nextId ≤ n) :
    Represents { s with nextId := n } q :=
  ⟨h.panes, h.root, h.tabs, h.background, h.nodup,
    fun id hid => Nat.lt_of_lt_of_le (h.fresh id hid) hn, h.mode, h.behind⟩

end Fresh

section Collapse

/-! Taking out a leaf of the tree that is not the root. -/

/-- Where the focus goes when a pane takes over from a leaf. -/
def successor (s : Layout) (id : PaneId) : Option PaneId :=
  if (s.leaf? id).isSome then some id else s.leafIds.head?

theorem Represents.exec_takeOut_tree (h : s.Represents q) (hl : s.pane? l.id = some (.leaf l))
    {p : PaneId} (hparent : l.parent = some p) :
    ∃ (c : Container) (q' : Plan), s.pane? p = some (.container c) ∧
      exec (takeOut s l) ⟨s, []⟩ =
        (.ok (if s.focused = some l.id then (s.collapsed l.id c).successor (c.siblingOf l.id)
          else s.focused), ⟨s.collapsed l.id c, []⟩) ∧
      (s.collapsed l.id c).Represents q' ∧ q'.Adds [l] q := by
  obtain ⟨hholds, -⟩ := h.holds hl
  cases hholds with
  | tab as bs k => simp at hparent
  | hidden t as bs k => simp at hparent
  | tree ctx k bg =>
    cases ctx with
    | nil => simp [Context.parent] at hparent
    | cons f ctx =>
      obtain rfl : f.id = p := by simpa [Context.parent] using hparent
      obtain ⟨hrun, h', hsibling⟩ := exec_closeTreeLeaf_eq h []
      have htab : s.tabs.contains k.id = false := by simp [h.tabs]
      have hbg : s.background.contains k.id = false := by simpa using h.not_hidden
      refine ⟨_, _, h.pane?_parent, ?_, h', Plan.adds_sibling f ctx k bg⟩
      simp only [takeOut, htab, hbg, Bool.false_eq_true, if_false]
      rw [hsibling, successor, h'.successor_eq]
      exact hrun

/-- What closing a leaf of the tree leaves, if it is not the root. -/
theorem Represents.exec_close_tree (h : s.Represents q) (hl : s.pane? l.id = some (.leaf l))
    {p : PaneId} (hparent : l.parent = some p) :
    ∃ (c : Container) (q' : Plan), s.pane? p = some (.container c) ∧
      (s.collapsed l.id c).Represents q' ∧ q'.Adds [l] q ∧
      ∃ told, s.run (close l.id) =
        (.ok ⟨l.id, l.session, l.session.any (((s.collapsed l.id c).bequeathed l).refocus
            (if s.focused = some l.id then (s.collapsed l.id c).successor (c.siblingOf l.id)
              else s.focused)).displays⟩,
          ((s.collapsed l.id c).bequeathed l).refocus
            (if s.focused = some l.id then (s.collapsed l.id c).successor (c.siblingOf l.id)
              else s.focused), told) := by
  obtain ⟨c, q', hc, htake, h', hadds⟩ := h.exec_takeOut_tree hl hparent
  have hrun := exec_close hl
  rw [exec_bind, htake] at hrun
  refine ⟨c, q', hc, h', hadds, ?_⟩
  rw [run_eq, hrun.trans (exec_conclude _ l _)]
  exact ⟨_, rfl⟩

/-- A flag that nobody else can take is lost. -/
theorem bequeathed_eq_self
    (h : l.primary = true → ∀ x, l.session = some x → s.displays x = false) :
    s.bequeathed l = s := by
  unfold bequeathed
  cases hsession : l.session with
  | none => rfl
  | some x =>
    by_cases hp : l.primary = true
    · have hnobody : s.everyLeaf.find? (s.showsAt x) = none := by
        simpa [displays] using h hp x hsession
      have hkept : s.promote x = s := by
        unfold promote
        split
        · rfl
        · rw [hnobody]
      simp [hp, hkept]
    · simp [hp]

end Collapse

section Focus

theorem mapLeaf_relink (f : Leaf → Leaf) (old new : PaneId) (p : Pane) :
    (p.relink old new).mapLeaf f = (p.mapLeaf f).relink old new := by
  cases p <;> rfl

theorem remove_mapLeaves {f : Leaf → Leaf} (hf : Leaf.FlagChange f) (s : Layout) (id : PaneId) :
    (s.mapLeaves f).remove id = (s.remove id).mapLeaves f := by
  have hid : ∀ p : Pane, (p.mapLeaf f).id = p.id := fun p => by cases p <;> simp [Pane.mapLeaf, hf.id]
  simp [remove, mapLeaves, List.filter_map, Function.comp_def, hid]

theorem relinked_mapLeaves (f : Leaf → Leaf) (s : Layout) (old new : PaneId) :
    (s.mapLeaves f).relinked old new = (s.relinked old new).mapLeaves f := by
  simp only [relinked, mapLeaves, List.map_map, Function.comp_def, mapLeaf_relink]
  rfl

theorem withParent_mapLeaves {f : Leaf → Leaf} (hf : Leaf.FlagChange f) (s : Layout) (id : PaneId)
    (parent : Option PaneId) : (s.mapLeaves f).modify id (Pane.withParent parent) =
      (s.modify id (Pane.withParent parent)).mapLeaves f := by
  have hpane : ∀ p : Pane, (if (p.mapLeaf f).id = id then (p.mapLeaf f).withParent parent
      else p.mapLeaf f) = (if p.id = id then p.withParent parent else p).mapLeaf f := by
    intro p
    cases p with
    | leaf l =>
      by_cases hl : l.id = id
      · simpa [Pane.mapLeaf, hf.id, hl, Pane.withParent] using (hf.parent l parent).symm
      · simp [Pane.mapLeaf, hf.id, hl]
    | container c => by_cases hc : c.id = id <;> simp [Pane.mapLeaf, hc, Pane.withParent]
  simp only [modify, mapLeaves, List.map_map, Function.comp_def, hpane]

/-- Where the focus is does not matter to what is taken out. -/
theorem collapsed_refocus (s : Layout) (target : Option PaneId) (id : PaneId) (c : Container) :
    (s.refocus target).collapsed id c = (s.collapsed id c).refocus target := by
  have hf := Leaf.FlagChange.ofRefocus s.focused target
  have hflags : (s.mapLeaves (Leaf.refocus s.focused target)).collapsed id c =
      (s.collapsed id c).mapLeaves (Leaf.refocus s.focused target) := by
    rw [collapsed, remove_mapLeaves hf, remove_mapLeaves hf, relinked_mapLeaves,
      withParent_mapLeaves hf]
    rfl
  rw [refocus_eq, refocus_eq]
  show ({ (s.mapLeaves (Leaf.refocus s.focused target)).collapsed id c with
    focused := target } : Layout) = _
  rw [hflags]
  rfl

/-- The leaf with the focus has the flag, and no other. -/
def Marked (s : Layout) : Prop := ∀ k ∈ s.held, (k.focused = true ↔ s.focused = some k.id)

theorem Represents.marked (h : s.Represents q) (hq : q.Marked s.focused) : s.Marked :=
  (h.forall_held (P := fun k => k.focused = true ↔ s.focused = some k.id) fun _ _ => .rfl).mpr hq

/-- Where the focus was does not matter to where it goes. -/
theorem Marked.refocus_refocus (h : s.Marked) (via target : Option PaneId) :
    (s.refocus via).refocus target = s.refocus target := by
  have hleaf : ∀ k ∈ s.held, Leaf.refocus via target (Leaf.refocus s.focused via k) =
      Leaf.refocus s.focused target k := by
    intro k hk
    rw [Leaf.refocus_of_mark (h k hk), Leaf.refocus_of_mark (h k hk),
      Leaf.refocus_of_mark (by simp)]
  have hpanes : s.panes.map (Pane.mapLeaf (Leaf.refocus via target ∘ Leaf.refocus s.focused via)) =
      s.panes.map (Pane.mapLeaf (Leaf.refocus s.focused target)) := by
    refine List.map_congr_left fun p hp => ?_
    cases p with
    | leaf k => exact congrArg Pane.leaf (hleaf k (mem_held.mpr hp))
    | container c => rfl
  rw [refocus_eq (s.refocus via), refocus_eq s via, refocus_eq s target]
  show ({ (s.mapLeaves (Leaf.refocus s.focused via)).mapLeaves (Leaf.refocus via target) with
    focused := target } : Layout) = _
  rw [mapLeaves_mapLeaves, mapLeaves, hpanes]
  rfl

end Focus

section Splice

variable {box new : PaneId}

/-- A link that is turned away and back, with its pane hung elsewhere and back, is as before. -/
theorem Represents.rehung (h : s.Represents q) (hl : s.pane? l.id = some (.leaf l))
    (hbox : s.nextId ≤ box.number) {p : Pane} (hp : p ∈ s.panes) :
    (let away := p.relink l.id box
     let hung := if away.id = l.id then away.withParent (some box) else away
     let back := hung.relink box l.id
     if back.id = l.id then back.withParent l.parent else back) = p := by
  by_cases hid : p.id = l.id
  · obtain rfl : p = .leaf l :=
      Option.some.inj (((pane?_eq_some_iff h.nodup_ids).mpr ⟨hp, hid⟩).symm.trans hl)
    simp [Pane.relink, Pane.withParent]
  · simp only [Pane.id_relink, hid, if_false]
    rw [Pane.relink_relink l.id (h.avoids hp hbox), Pane.relink_self]

/-- The two panes that a split has put in are the ones that go out again. -/
theorem Represents.panes_remove_spliced (h : s.Represents q) (l : Leaf) (o : Orientation)
    (session : Option SessionId) (primary : Bool) :
    (((s.spliced l o session primary).remove ⟨s.nextId + 1⟩).remove ⟨s.nextId⟩).panes =
      ((s.relinked l.id ⟨s.nextId⟩).modify l.id (Pane.withParent (some ⟨s.nextId⟩))).panes := by
  let hung := (s.relinked l.id ⟨s.nextId⟩).modify l.id (Pane.withParent (some ⟨s.nextId⟩))
  have hids : hung.panes.map Pane.id = s.panes.map Pane.id := by
    rw [map_id_withParent]
    simp [relinked, Function.comp_def]
  have hold : ∀ p ∈ hung.panes, p.id ≠ ⟨s.nextId + 1⟩ ∧ p.id ≠ ⟨s.nextId⟩ := by
    intro p hp
    obtain ⟨k, hk, hid⟩ := List.mem_map.mp (hids ▸ List.mem_map_of_mem (f := Pane.id) hp)
    rw [← hid]
    exact ⟨h.id_ne_fresh hk (Nat.le_succ _), h.id_ne_fresh hk (Nat.le_refl _)⟩
  have hstay : (hung.panes.filter fun p => p.id ≠ ⟨s.nextId + 1⟩).filter
      (fun p => p.id ≠ ⟨s.nextId⟩) = hung.panes := by
    rw [List.filter_filter, List.filter_eq_self]
    intro p hp
    simpa [and_comm] using hold p hp
  show ((hung.panes ++ _).filter fun p => p.id ≠ ⟨s.nextId + 1⟩).filter
    (fun p => p.id ≠ ⟨s.nextId⟩) = hung.panes
  rw [List.filter_append, List.filter_append, hstay]
  simp [Pane.id]

/-- Taking out the leaf that a split has made undoes the split. -/
theorem Represents.collapsed_spliced (h : s.Represents q) (hl : s.pane? l.id = some (.leaf l))
    (o : Orientation) (session : Option SessionId) (primary : Bool) :
    (s.spliced l o session primary).collapsed ⟨s.nextId + 1⟩
      ⟨⟨s.nextId⟩, o, s.splitRatio, l.id, ⟨s.nextId + 1⟩, l.parent⟩ =
      { s with nextId := s.nextId + 2 } := by
  let box : PaneId := ⟨s.nextId⟩
  let new : PaneId := ⟨s.nextId + 1⟩
  let c : Container := ⟨box, o, s.splitRatio, l.id, new, l.parent⟩
  have hsibling : c.siblingOf new = l.id :=
    if_neg (h.id_ne_fresh ((pane?_eq_some_iff h.nodup_ids).mp hl).1 (Nat.le_succ _))
  have hpanes : ((s.spliced l o session primary).collapsed new c).panes = s.panes := by
    rw [collapsed, hsibling]
    simp only [modify, relinked, h.panes_remove_spliced, List.map_map, c, box, new]
    refine (List.map_congr_left fun p hp => ?_).trans (List.map_id s.panes)
    exact h.rehung hl (Nat.le_refl _) hp
  have hroot : ((s.spliced l o session primary).collapsed new c).root = s.root := by
    rw [collapsed, hsibling]
    show (if (if s.root = some l.id then some box else s.root) = some box then some l.id
      else if s.root = some l.id then some box else s.root) = s.root
    by_cases hr : s.root = some l.id
    · simp [hr]
    · simp [hr, h.root_ne_fresh (i := box) (Nat.le_refl _)]
  have hshape : (s.spliced l o session primary).collapsed new c = { s with
      panes := ((s.spliced l o session primary).collapsed new c).panes
      root := ((s.spliced l o session primary).collapsed new c).root
      nextId := s.nextId + 2 } := rfl
  rw [hshape, hpanes, hroot]

variable {ctx : Context} {bg : List Leaf}

theorem Represents.displays_refocus (h : s.Represents q) (target : Option PaneId) (x : SessionId) :
    (s.refocus target).displays x = s.displays x := by
  rw [Bool.eq_iff_iff, (h.refocus target).displays_iff, h.displays_iff]
  exact q.shows_map (.ofRefocus _ _) x

theorem Represents.pane?_place (h : s.Represents ⟨some (ctx.fill (.leaf l)), [], bg⟩) :
    s.pane? l.id = some (.leaf { l with parent := ctx.parent }) :=
  (pane?_eq_some_iff h.nodup_ids).mpr ⟨h.panes_place.mem_iff.mpr (by simp [SplitTree.panes]), rfl⟩

theorem Represents.ne_fresh (h : s.Represents ⟨some (ctx.fill (.leaf l)), [], bg⟩) {i : PaneId}
    (hi : s.nextId ≤ i.number) : l.id ≠ i :=
  h.id_ne_fresh ((pane?_eq_some_iff h.nodup_ids).mp h.pane?_place).1 hi

theorem pane?_spliced_old (hl : s.pane? l.id = some (.leaf l)) (o : Orientation)
    (session : Option SessionId) (primary : Bool) :
    (s.spliced l o session primary).pane? l.id =
      some (.leaf { l with parent := some ⟨s.nextId⟩ }) := by
  rw [pane?_spliced, hl]
  simp [Pane.relink, Pane.withParent]

section Found

/-! What is found of a split, and of what it was made of. -/

variable (h : s.Represents q) (l : Leaf) (o : Orientation) (session : Option SessionId)
  (primary : Bool)

include h

theorem Represents.pane?_spliced_box : (s.spliced l o session primary).pane? ⟨s.nextId⟩ =
    some (.container ⟨⟨s.nextId⟩, o, s.splitRatio, l.id, ⟨s.nextId + 1⟩, l.parent⟩) := by
  rw [pane?_spliced, h.pane?_fresh (Nat.le_refl _)]
  simp

theorem Represents.pane?_spliced_new : (s.spliced l o session primary).pane? ⟨s.nextId + 1⟩ =
    some (.leaf { id := ⟨s.nextId + 1⟩, session, primary, parent := some ⟨s.nextId⟩ }) := by
  rw [pane?_spliced, h.pane?_fresh (Nat.le_succ _)]
  simp

end Found

/-- What closing one of the two leaves of a split leaves. -/
theorem Represents.close_half (h : s.Represents ⟨some (ctx.fill (.leaf l)), [], bg⟩)
    (o : Orientation) (session : Option SessionId) (primary : Bool) {k : Leaf}
    (hk : (s.spliced { l with parent := ctx.parent } o session primary).pane? k.id =
      some (.leaf k)) (hparent : k.parent = some ⟨s.nextId⟩) :
    let s₁ := s.spliced { l with parent := ctx.parent } o session primary
    let c : Container := ⟨⟨s.nextId⟩, o, s.splitRatio, l.id, ⟨s.nextId + 1⟩, ctx.parent⟩
    let left := (s₁.collapsed k.id c).refocus (some ⟨s.nextId + 1⟩)
    ∃ closed told, (s₁.refocus (some ⟨s.nextId + 1⟩)).run (close k.id) = (.ok closed,
      (left.bequeathed (Leaf.refocus s.focused (some ⟨s.nextId + 1⟩) k)).refocus
        (if k.id = ⟨s.nextId + 1⟩ then left.successor (c.siblingOf k.id)
          else some ⟨s.nextId + 1⟩), told) := by
  intro s₁ c left
  let new : PaneId := ⟨s.nextId + 1⟩
  let k' : Leaf := Leaf.refocus s.focused (some new) k
  have hflag := Leaf.FlagChange.ofRefocus s.focused (some new)
  have hid : k'.id = k.id := hflag.id k
  have hk' : (s₁.refocus (some new)).pane? k'.id = some (.leaf k') := by
    rw [hid, pane?_refocus, hk]
    rfl
  obtain ⟨-, h₁⟩ := exec_insertSplit_eq h o session primary []
  obtain ⟨c', -, hc', -, -, told, hrun⟩ :=
    (h₁.refocus (some new)).exec_close_tree hk' ((hflag.parent_eq k).trans hparent)
  obtain rfl : c' = c := by
    rw [pane?_refocus, h.pane?_spliced_box] at hc'
    simpa [Pane.mapLeaf, c, eq_comm] using hc'
  have haim : (some new = some k.id) = (k.id = new) := by simp [eq_comm]
  rw [hid, focused_refocus, collapsed_refocus] at hrun
  simp only [haim] at hrun
  exact ⟨_, told, hrun⟩

/-- Closing the leaf that a split has made takes the split back. -/
theorem Represents.close_spliced (h : s.Represents ⟨some (ctx.fill (.leaf l)), [], bg⟩)
    (hmarked : s.Marked) (o : Orientation) (session : Option SessionId) (primary : Bool)
    (hyields : primary = true → ∀ x, session = some x → s.displays x = false) :
    ∃ c told, ((s.spliced { l with parent := ctx.parent } o session primary).refocus
        (some ⟨s.nextId + 1⟩)).run (close ⟨s.nextId + 1⟩) =
      (.ok c, Layout.refocus { s with nextId := s.nextId + 2 } (some l.id), told) := by
  let new : PaneId := ⟨s.nextId + 1⟩
  let n : Leaf := { id := new, session, primary, parent := some ⟨s.nextId⟩ }
  let sN : Layout := { s with nextId := s.nextId + 2 }
  have hN : sN.Represents ⟨some (ctx.fill (.leaf l)), [], bg⟩ := h.withNextId (Nat.le_add_right _ 2)
  obtain ⟨c, told, hrun⟩ := h.close_half o session primary (k := n)
    (h.pane?_spliced_new _ o session primary) rfl
  have hcollapsed := h.collapsed_spliced (l := { l with parent := ctx.parent }) h.pane?_place
    o session primary
  have hlost : (sN.refocus (some new)).bequeathed (Leaf.refocus s.focused (some new) n) =
      sN.refocus (some new) := by
    refine bequeathed_eq_self fun hprimary x hx => ?_
    have hsame : sN.displays x = s.displays x := by
      rw [Bool.eq_iff_iff, hN.displays_iff, h.displays_iff]
    rw [hN.displays_refocus, hsame]
    rw [Leaf.primary_refocus] at hprimary
    rw [(Leaf.FlagChange.ofRefocus _ _).session] at hx
    exact hyields hprimary x hx
  have hsibling : (⟨⟨s.nextId⟩, o, s.splitRatio, l.id, new, ctx.parent⟩ : Container).siblingOf new =
      l.id := if_neg (h.ne_fresh (Nat.le_succ _))
  have hleaf : ((sN.refocus (some new)).leaf? l.id).isSome := by
    rw [leaf?, pane?_refocus, hN.pane?_place]
    rfl
  have hmark : sN.Marked := hmarked
  rw [if_pos rfl, hcollapsed, hlost, hsibling, successor, if_pos hleaf, hmark.refocus_refocus] at hrun
  exact ⟨c, told, hrun⟩

/-- The layout without the old half of a split. -/
def exchanged (s : Layout) (l : Leaf) (o : Orientation) (session : Option SessionId)
    (primary : Bool) : Layout :=
  (s.spliced l o session primary).collapsed l.id
    ⟨⟨s.nextId⟩, o, s.splitRatio, l.id, ⟨s.nextId + 1⟩, l.parent⟩

/-- Where a leaf that was split is taken out, the new one hangs in its place. -/
theorem Represents.pane?_exchanged (h : s.Represents q) (l : Leaf) (o : Orientation)
    (session : Option SessionId) (primary : Bool) (i : PaneId) :
    (s.exchanged l o session primary).pane? i =
      if i = l.id then none
      else if i = ⟨s.nextId + 1⟩ then
        some (.leaf { id := ⟨s.nextId + 1⟩, session, primary, parent := l.parent })
      else (s.pane? i).map (Pane.relink l.id ⟨s.nextId + 1⟩) := by
  have hsibling : (⟨⟨s.nextId⟩, o, s.splitRatio, l.id, ⟨s.nextId + 1⟩, l.parent⟩ :
      Container).siblingOf l.id = ⟨s.nextId + 1⟩ := if_pos rfl
  rw [exchanged, pane?_collapsed, hsibling]
  by_cases hid : i = l.id
  · simp [hid]
  · by_cases hnew : i = ⟨s.nextId + 1⟩
    · subst hnew
      rw [if_neg hid, if_pos rfl, h.pane?_spliced_new]
      simp [Pane.relink, Pane.withParent, hid]
    · by_cases hbox : i = ⟨s.nextId⟩
      · subst hbox
        rw [h.pane?_fresh (Nat.le_refl _)]
        simp [hid]
      · rw [pane?_spliced]
        simp only [hid, hbox, hnew, or_false, if_false, Option.or_none]
        cases hp : s.pane? i with
        | none => rfl
        | some p =>
          have hmem := ((pane?_eq_some_iff h.nodup_ids).mp hp).1
          exact congrArg some (Pane.relink_relink _ (h.avoids hmem (Nat.le_refl _)))

/-- What closing a leaf that was split leaves of it and of all the rest. -/
structure Replaced (s : Layout) (id new : PaneId) (session : Option SessionId)
    (s' : Layout) : Prop where
  focused : s'.focused = some new
  root : s'.root = if s.root = some id then some new else s.root
  leaves : ∃ as bs, s.leafIds = as ++ id :: bs ∧ s'.leafIds = as ++ new :: bs
  gone : s'.pane? id = none
  placed : ∃ l l', s.leaf? id = some l ∧ s'.leaf? new = some l' ∧ l'.session = session ∧
    l'.parent = l.parent ∧ l'.visible = true ∧ l'.focused = true
  container : ∀ i, s'.container? i = (s.container? i).map fun c => c.replaceChild id new
  /-- Other leaves change in their flags at most. -/
  leaf : ∀ i, i ≠ id → i ≠ new → (s'.leaf? i).map Leaf.bare = (s.leaf? i).map Leaf.bare
  rest : { s' with
    panes := s.panes, root := s.root, focused := s.focused, nextId := s.nextId } = s

theorem bequeathed_eq (s : Layout) (l : Leaf) :
    ∃ heirs, s.bequeathed l = s.mapLeaves (Leaf.crown heirs) := by
  unfold bequeathed
  cases l.session with
  | none => exact ⟨[], by rw [Leaf.crown_nil, mapLeaves_id]⟩
  | some x =>
    by_cases hp : l.primary = true
    · simp only [hp, if_true]
      exact ⟨_, s.promote_eq x⟩
    · simp only [hp]
      exact ⟨[], by rw [Leaf.crown_nil, mapLeaves_id]; rfl⟩

section Exchange

/-! A leaf that was split has been taken out, and the new one has the focus. -/

variable (h : s.Represents ⟨some (ctx.fill (.leaf l)), [], bg⟩) (o : Orientation)
  (session : Option SessionId) (primary : Bool)

include h

theorem Represents.root_exchanged :
    (s.exchanged { l with parent := ctx.parent } o session primary).root =
      if s.root = some l.id then some ⟨s.nextId + 1⟩ else s.root := by
  have hsibling : (⟨⟨s.nextId⟩, o, s.splitRatio, l.id, ⟨s.nextId + 1⟩, ctx.parent⟩ :
      Container).siblingOf l.id = ⟨s.nextId + 1⟩ := if_pos rfl
  show (if (if s.root = some l.id then some ⟨s.nextId⟩ else s.root) = some (⟨s.nextId⟩ : PaneId)
    then some (Container.siblingOf _ l.id)
    else if s.root = some l.id then some ⟨s.nextId⟩ else s.root) = _
  rw [hsibling]
  by_cases hroot : s.root = some l.id
  · simp [hroot]
  · simp [hroot, h.root_ne_fresh (i := ⟨s.nextId⟩) (Nat.le_refl _)]

theorem Represents.leafIds_exchanged :
    (s.exchanged { l with parent := ctx.parent } o session primary).leafIds =
      ctx.before.map Leaf.id ++ ⟨s.nextId + 1⟩ :: ctx.after.map Leaf.id := by
  let n : Leaf := { id := ⟨s.nextId + 1⟩, session, primary }
  let f : Frame := ⟨⟨s.nextId⟩, o, s.splitRatio, true, .leaf n⟩
  have hleft : (s.exchanged { l with parent := ctx.parent } o session primary).Represents
      ⟨some (ctx.fill (.leaf n)), [], bg⟩ :=
    (exec_closeTreeLeaf_eq (f := f) (exec_insertSplit_eq h o session primary []).2 []).2.1
  rw [hleft.leafIds_eq]
  simp [Context.leaves_fill, SplitTree.leaves, n]

theorem Represents.replaced (hfocus : s.focused ≠ some ⟨s.nextId + 1⟩) (heirs : List PaneId) :
    s.Replaced l.id ⟨s.nextId + 1⟩ session
      (((s.exchanged { l with parent := ctx.parent } o session primary).refocus
        (some ⟨s.nextId + 1⟩)).mapLeaves (Leaf.crown heirs)) := by
  let new : PaneId := ⟨s.nextId + 1⟩
  let n : Leaf := { id := new, session, primary, parent := ctx.parent }
  let flags : Leaf → Leaf := Leaf.crown heirs ∘ Leaf.refocus s.focused (some new)
  have hpane : ∀ i, (((s.exchanged { l with parent := ctx.parent } o session primary).refocus
      (some new)).mapLeaves (Leaf.crown heirs)).pane? i =
      (if i = l.id then none
        else if i = new then some (.leaf n)
        else (s.pane? i).map (Pane.relink l.id new)).map (Pane.mapLeaf flags) := by
    intro i
    rw [pane?_mapLeaves _ (.ofCrown heirs), pane?_refocus, Option.map_map,
      h.pane?_exchanged { l with parent := ctx.parent } o session primary i]
    congr 1
    funext p
    cases p <;> rfl
  have hl : s.pane? l.id = some (.leaf { l with parent := ctx.parent }) := h.pane?_place
  have hne : new ≠ l.id := Ne.symm (h.ne_fresh (Nat.le_succ _))
  have hbare : (flags n).bare = n.bare := by simp [flags]
  constructor
  case focused => exact focused_refocus _ _
  case root => exact (root_refocus _ _).trans (h.root_exchanged o session primary)
  case leaves =>
    refine ⟨ctx.before.map Leaf.id, ctx.after.map Leaf.id, ?_, ?_⟩
    · simp [h.leafIds_eq, Context.leaves_fill, SplitTree.leaves]
    · rw [leafIds_mapLeaves _ (.ofCrown heirs), leafIds_refocus, h.leafIds_exchanged]
  case gone =>
    rw [hpane, if_pos rfl]
    rfl
  case placed =>
    refine ⟨{ l with parent := ctx.parent }, flags n, by rw [leaf?, hl]; rfl, ?_, ?_, ?_, ?_, ?_⟩
    · rw [leaf?, hpane, if_neg hne, if_pos rfl]
      rfl
    · exact (congrArg Leaf.session hbare :)
    · exact (congrArg Leaf.parent hbare :)
    · exact (congrArg Leaf.visible hbare :)
    · simp [flags, Leaf.refocus, hfocus, n, new]
  case container =>
    intro i
    rw [container?, container?, hpane]
    by_cases hid : i = l.id
    · simp [hid, hl, Pane.container?]
    · by_cases hnew : i = new
      · have hnone : s.pane? new = none := h.pane?_fresh (Nat.le_succ _)
        simp [hnew, hne, hnone, Pane.mapLeaf, Pane.container?]
      · rw [if_neg hid, if_neg hnew]
        cases s.pane? i with
        | none => rfl
        | some p => cases p <;> rfl
  case leaf =>
    intro i hid hnew
    rw [leaf?, leaf?, hpane, if_neg hid, if_neg hnew]
    cases s.pane? i with
    | none => rfl
    | some p =>
      cases p with
      | leaf k => simp [Pane.relink, Pane.mapLeaf, flags]
      | container c => rfl
  case rest =>
    rw [refocus_eq]
    rfl

end Exchange

/-- Closing the leaf that was split leaves the new one in its place. -/
theorem Represents.close_split_leaf (h : s.Represents ⟨some (ctx.fill (.leaf l)), [], bg⟩)
    (hfocus : s.focused ≠ some ⟨s.nextId + 1⟩) (o : Orientation) (session : Option SessionId)
    (primary : Bool) :
    ∃ c s' told, ((s.spliced { l with parent := ctx.parent } o session primary).refocus
        (some ⟨s.nextId + 1⟩)).run (close l.id) = (.ok c, s', told) ∧
      s.Replaced l.id ⟨s.nextId + 1⟩ session s' := by
  let new : PaneId := ⟨s.nextId + 1⟩
  let k : Leaf := { l with parent := some ⟨s.nextId⟩ }
  let left := (s.exchanged { l with parent := ctx.parent } o session primary).refocus (some new)
  have hk : (s.spliced { l with parent := ctx.parent } o session primary).pane? k.id =
      some (.leaf k) :=
    pane?_spliced_old (l := { l with parent := ctx.parent }) h.pane?_place o session primary
  obtain ⟨closed, told, hrun⟩ := h.close_half o session primary hk rfl
  obtain ⟨heirs, hheirs⟩ := left.bequeathed_eq (Leaf.refocus s.focused (some new) k)
  -- The focus is on the new leaf already.
  have hstill : (left.mapLeaves (Leaf.crown heirs)).refocus (some new) =
      left.mapLeaves (Leaf.crown heirs) := if_pos (focused_refocus _ _)
  rw [if_neg (h.ne_fresh (Nat.le_succ _))] at hrun
  change _ = (_, (left.bequeathed _).refocus _, _) at hrun
  rw [hheirs, hstill] at hrun
  exact ⟨closed, _, told, hrun, h.replaced o session primary hfocus heirs⟩

end Splice

section Runs

/-! Splits of a leaf that is in the tree already. -/

variable {ctx : Context} {bg : List Leaf}

theorem Represents.exec_prepareSplit_place (h : s.Represents ⟨some (ctx.fill (.leaf l)), [], bg⟩) :
    exec (prepareSplit l.id) ⟨s, []⟩ = (.ok (), ⟨s, []⟩) := by
  have htabs : s.tabs = [] := h.tabs
  simp [prepareSplit, exec_requireLeaf, h.pane?_place, h.not_hidden, htabs]

theorem Represents.run_split (h : s.Represents ⟨some (ctx.fill (.leaf l)), [], bg⟩)
    (o : Orientation) (session : Option SessionId) :
    s.run (split l.id o session) = (.ok ⟨s.nextId + 1⟩,
      (s.spliced { l with parent := ctx.parent } o session
        (session.any fun x => !s.hasPrimary x)).refocus (some ⟨s.nextId + 1⟩),
      [.changed, .focus (some ⟨s.nextId + 1⟩)]) := by
  have hinsert := (exec_insertSplit_eq h o session (session.any fun x => !s.hasPrimary x) []).1
  simp only [run_eq, split, exec_bind, h.exec_prepareSplit_place, exec_layout, hinsert,
    exec_finish, List.nil_append]

theorem Represents.run_mirror (h : s.Represents ⟨some (ctx.fill (.leaf l)), [], bg⟩)
    (o : Orientation) (hsession : l.session ≠ none) :
    s.run (mirror l.id o) = (.ok ⟨s.nextId + 1⟩,
      (s.spliced { l with parent := ctx.parent } o l.session false).refocus
        (some ⟨s.nextId + 1⟩),
      [.changed, .focus (some ⟨s.nextId + 1⟩)]) := by
  have hinsert := (exec_insertSplit_eq h o l.session false []).1
  have hblank : l.session.isNone = false := Leaf.blank_eq_false hsession
  simp only [run_eq, mirror, exec_bind, exec_requireLeaf, h.pane?_place, hblank,
    h.exec_prepareSplit_place, hinsert, exec_finish, exec_ite, List.nil_append]
  rfl

/-- A layout as it was, pane for pane, but for the focus, which is on the given leaf. -/
structure Restored (s : Layout) (id : PaneId) (s' : Layout) : Prop where
  panes : s'.panes = s.panes.map (Pane.mapLeaf fun l => { l with focused := l.id == id })
  focused : s'.focused = some id
  rest : { s' with panes := s.panes, focused := s.focused, nextId := s.nextId } = s
  whole : s.focused = some id → { s' with nextId := s.nextId } = s

/-- A leaf has been split in two. Closing the new one takes the split back, and closing the old
one leaves the new one in its place. -/
structure Reversible (s : Layout) (id new : PaneId) (session : Option SessionId)
    (s' : Layout) : Prop where
  undo : ∃ c back told, s'.run (close new) = (.ok c, back, told) ∧ s.Restored id back
  replace : ∃ c other told, s'.run (close id) = (.ok c, other, told) ∧
    s.Replaced id new session other

theorem Marked.restored (h : s.Marked) (id : PaneId) (n : Nat) :
    s.Restored id (Layout.refocus { s with nextId := n } (some id)) := by
  rw [refocus_eq]
  refine ⟨List.map_congr_left fun p hp => ?_, rfl, rfl, fun hfocus => ?_⟩
  · cases p with
    | container c => rfl
    | leaf k =>
      have hmark : Leaf.refocus s.focused (some id) k = _ :=
        Leaf.refocus_of_mark (h k (mem_held.mpr hp))
      refine congrArg Pane.leaf (hmark.trans ?_)
      simp [Bool.beq_eq_decide_eq, eq_comm]
  · have hsame : Leaf.refocus s.focused (some id) = fun l => l := by
      funext l
      simp [Leaf.refocus, hfocus]
    show ({ s.mapLeaves (Leaf.refocus s.focused (some id)) with focused := some id } : Layout) = s
    rw [hsame, mapLeaves_id, ← hfocus]

theorem Represents.reversible (h : s.Represents ⟨some (ctx.fill (.leaf l)), [], bg⟩)
    (hmarked : s.Marked) (hfocus : s.focused ≠ some ⟨s.nextId + 1⟩) (o : Orientation)
    (session : Option SessionId) (primary : Bool)
    (hyields : primary = true → ∀ x, session = some x → s.displays x = false) :
    s.Reversible l.id ⟨s.nextId + 1⟩ session
      ((s.spliced { l with parent := ctx.parent } o session primary).refocus
        (some ⟨s.nextId + 1⟩)) where
  undo := by
    obtain ⟨c, told, hrun⟩ := h.close_spliced hmarked o session primary hyields
    exact ⟨c, _, told, hrun, hmarked.restored l.id (s.nextId + 2)⟩
  replace := h.close_split_leaf hfocus o session primary

end Runs

/-- A leaf of the tree has a place in it. -/
theorem Represents.place_of_mem (h : s.Represents q) {id : PaneId} (hid : id ∈ s.leafIds) :
    ∃ (ctx : Context) (l : Leaf) (bg : List Leaf),
      q = ⟨some (ctx.fill (.leaf l)), [], bg⟩ ∧ l.id = id := by
  rw [h.leafIds_eq] at hid
  obtain ⟨l, hl, rfl⟩ := List.mem_map.mp hid
  obtain ⟨t, ht, hmem⟩ := List.mem_flatMap.mp hl
  have hmode := h.mode
  obtain ⟨tree, tabs, bg⟩ := q
  obtain rfl : tree = some t := by simpa using ht
  obtain rfl : tabs = [] := by simpa using hmode
  obtain ⟨p, hp⟩ := SplitTree.exists_leaf_mem_panes hmem (Context.parent [])
  obtain ⟨ctx, u, hfill, htop⟩ := Context.exists_fill_top t [] hp
  obtain rfl : t = ctx.fill u := hfill
  cases u with
  | node i o r a b => simp [SplitTree.top] at htop
  | leaf k =>
    have hk : k.id = l.id := by simpa [SplitTree.top] using (congrArg Pane.id htop).symm
    exact ⟨ctx, k, bg, rfl, hk⟩

structure Regular (s : Layout) (σ : Scene) : Prop where
  presents : s.Presents σ
  orderly : σ.Orderly
  headed : σ.plan.Headed

theorem regular_of_operations (splitRatio : Binary64) (nextId : Nat) (ops : List Operation) :
    ∃ σ, (ops.foldl apply { splitRatio, nextId }).Regular σ := by
  obtain ⟨σ, h, ho, hheaded⟩ := presents_of_operations
    (P := fun σ => σ.Orderly ∧ σ.plan.Headed) ⟨.empty, Plan.headed_empty⟩
    (fun σ _ _ σ' hσ hstep => ⟨hstep.orderly hσ.1, hstep.headed hσ.2⟩) splitRatio nextId ops
  exact ⟨σ, h, ho, hheaded⟩

theorem Regular.marked {σ : Scene} (h : s.Regular σ) : s.Marked :=
  h.presents.represents.marked (h.presents.focused ▸ h.orderly.marked)

structure Sound (s : Layout) (q : Plan) : Prop where
  represents : s.Represents q
  headed : q.Headed
  marked : s.Marked
  /-- The focus is on a leaf. -/
  aimed : ∀ f, s.focused = some f → ∃ l ∈ q.leaves, l.id = f

theorem Regular.sound {σ : Scene} (h : s.Regular σ) : s.Sound σ.plan :=
  ⟨h.presents.represents, h.headed, h.marked,
    fun _ hf => h.orderly.focus_mem (h.presents.focused.symm.trans hf)⟩

theorem sound_of_operations (splitRatio : Binary64) (nextId : Nat) (ops : List Operation) :
    ∃ q, (ops.foldl apply { splitRatio, nextId }).Sound q := by
  obtain ⟨σ, h⟩ := regular_of_operations splitRatio nextId ops
  exact ⟨σ.plan, h.sound⟩

theorem Sound.focused_ne_fresh (h : s.Sound q) {i : PaneId} (hi : s.nextId ≤ i.number) :
    s.focused ≠ some i := by
  intro hf
  obtain ⟨l, hl, rfl⟩ := h.aimed i hf
  exact absurd (h.represents.fresh _ (Plan.id_mem_ids hl)) (Nat.not_lt.mpr hi)

/-- A new leaf that is primary shows what nobody showed. -/
theorem Represents.yields (h : s.Represents q) (hq : q.Headed) {session : Option SessionId}
    (hprimary : (session.any fun x => !s.hasPrimary x) = true) {x : SessionId}
    (hx : session = some x) : s.displays x = false := by
  subst hx
  have hnone : s.hasPrimary x = false := by simpa using hprimary
  rw [← hnone]
  exact ((h.headed hq).found x).symm

/-- Whatever has been asked of a layout that was empty, splitting or mirroring a leaf of the tree
is taken back by closing the new leaf. -/
theorem split_reversible_after_operations (splitRatio : Binary64) (nextId : Nat)
    (ops : List Operation) {id : PaneId}
    (hid : id ∈ (ops.foldl apply { splitRatio, nextId }).leafIds) :
    let s := ops.foldl apply { splitRatio, nextId }
    (∀ o session, ∃ new s' told, s.run (split id o session) = (.ok new, s', told) ∧
      s.Reversible id new session s') ∧
    ∀ l o, s.leaf? id = some l → l.session ≠ none →
      ∃ new s' told, s.run (mirror id o) = (.ok new, s', told) ∧
        s.Reversible id new l.session s' := by
  intro s
  obtain ⟨q, h⟩ := sound_of_operations splitRatio nextId ops
  obtain ⟨ctx, k, bg, rfl, rfl⟩ := h.represents.place_of_mem hid
  have hfocus := h.focused_ne_fresh (i := ⟨s.nextId + 1⟩) (Nat.le_succ _)
  refine ⟨fun o session => ?_, fun l o hl hsession => ?_⟩
  · exact ⟨_, _, _, h.represents.run_split o session, h.represents.reversible h.marked hfocus o
      session _ fun hprimary x hx =>
      h.represents.yields h.headed hprimary hx⟩
  · have hk : k.session = l.session := by
      rw [leaf?, h.represents.pane?_place] at hl
      obtain rfl : { k with parent := ctx.parent } = l := Option.some.inj hl
      rfl
    rw [← hk] at hsession ⊢
    exact ⟨_, _, _, h.represents.run_mirror o hsession, h.represents.reversible h.marked hfocus o
      k.session false (by simp)⟩

/-- In a tree of three leaves the first is split, while the focus is on the second. -/
theorem split_reversible_beside_mirror :
    let s := [.createTab ⟨7⟩, .createTab ⟨9⟩, .createTab ⟨8⟩, .split ⟨3⟩ .vertical (some ⟨7⟩),
      .split ⟨3⟩ .horizontal none].foldl apply {}
    s.leafIds = [⟨3⟩, ⟨7⟩, ⟨5⟩] ∧ s.focused = some ⟨7⟩ ∧
      ∃ new s' told, s.run (split ⟨3⟩ .vertical (some ⟨9⟩)) = (.ok new, s', told) ∧
        s.Reversible ⟨3⟩ new (some ⟨9⟩) s' := by
  intro s
  have hid : (⟨3⟩ : PaneId) ∈ s.leafIds := by decide
  exact ⟨by decide, by decide,
    (split_reversible_after_operations .half 1 _ hid).1 .vertical (some ⟨9⟩)⟩

end Layout

end Multiplexer
