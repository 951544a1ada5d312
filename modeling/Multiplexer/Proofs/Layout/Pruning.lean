import Multiplexer.Proofs.Layout.Graft
import Multiplexer.Proofs.Layout.Reversal

/-!
# Leaves that come and go in the tree

Splitting and closing a leaf of the tree change the leaves under every container
in one place only. All other containers, leaves and links stay, and a flag is
passed on only by a primary leaf that goes.
-/

namespace Multiplexer

@[simp] theorem Pane.isLeaf_withParent (parent : Option PaneId) (p : Pane) :
    (p.withParent parent).isLeaf = p.isLeaf := by cases p <;> rfl

theorem Pane.parent_mapLeaf {f : Leaf → Leaf} (hf : Leaf.FlagChange f) (p : Pane) :
    (p.mapLeaf f).parent = p.parent := by
  cases p with
  | leaf l => exact hf.parent_eq l
  | container c => rfl

namespace Layout

/-- What a change in one place of the tree leaves of all the rest. Some panes come or go, one may
hang under a new parent, and one may become primary. In the order of leaves each id gives way to
those that `put` says. -/
structure Keeps (s : Layout) (touched : List PaneId) (put : PaneId → List PaneId)
    (moved heir : Option PaneId) (s' : Layout) : Prop where
  /-- Nothing else comes or goes. -/
  stays : ∀ i ∉ touched, (s'.pane? i).map Pane.isLeaf = (s.pane? i).map Pane.isLeaf
  container : ∀ i c c', s.pane? i = some (.container c) → s'.pane? i = some (.container c') →
    c'.orientation = c.orientation ∧ c'.ratio = c.ratio ∧
    s'.idsUnder c'.first = (s.idsUnder c.first).flatMap put ∧
    s'.idsUnder c'.second = (s.idsUnder c.second).flatMap put
  leaf : ∀ i l l', s.pane? i = some (.leaf l) → s'.pane? i = some (.leaf l') →
    l'.session = l.session ∧ l'.primary = (l.primary || decide (heir = some i))
  parent : ∀ i p p', s.pane? i = some p → s'.pane? i = some p' → moved ≠ some i →
    p'.parent = p.parent

/-- A leaf beside which there is a new one. -/
def beside (id new i : PaneId) : List PaneId := if i = id then [id, new] else [i]

/-- A leaf that is gone. -/
def without (id i : PaneId) : List PaneId := if i = id then [] else [i]

variable {s : Layout} {ctx : Context} {l : Leaf} {bg : List Leaf}

theorem Represents.ne_of_mem_around (h : s.Represents ⟨some (ctx.fill (.leaf l)), [], bg⟩)
    {k : Leaf} (hk : k ∈ ctx.before ++ ctx.after) : k.id ≠ l.id := by
  have hwhole : s.Represents ⟨some (Context.fill [] (ctx.fill (.leaf l))), [], bg⟩ := h
  have hnodup := hwhole.nodup_leaves
  simp only [Context.leaves_fill, SplitTree.leaves, List.map_append, List.map_cons,
    List.append_assoc, List.singleton_append] at hnodup
  have hnot := (List.nodup_cons.mp (List.nodup_middle.mp hnodup)).1
  rw [← List.map_append] at hnot
  intro he
  exact hnot (he ▸ List.mem_map_of_mem hk)

/-- A split as a graft. -/
def splitting (box : PaneId) (o : Orientation) (r : Binary64) (id : PaneId) (new k : Leaf) :
    Option SplitTree :=
  if k.id = id then some (.node box o r (.leaf k) (.leaf new)) else some (.leaf k)

/-- A close as a graft. -/
def dropping (id : PaneId) (k : Leaf) : Option SplitTree :=
  if k.id = id then none else some (.leaf k)

/-- Turning links away from a pane and hanging a pane elsewhere keep the rest, if the leaves under
the containers change as they should. -/
theorem Keeps.ofHung {s' : Layout} {touched : List PaneId} {put : PaneId → List PaneId}
    {hung : PaneId} (old new : PaneId) (parent : Option PaneId)
    (hpane : ∀ i ∉ touched, s'.pane? i = (s.pane? i).map fun p =>
      if i = hung then (p.relink old new).withParent parent else p.relink old new)
    (hlost : ∀ i ∈ touched, s.pane? i = none ∨ s'.pane? i = none)
    (hcontainer : ∀ i c c', s.pane? i = some (.container c) → s'.pane? i = some (.container c') →
      c'.orientation = c.orientation ∧ c'.ratio = c.ratio ∧
      s'.idsUnder c'.first = (s.idsUnder c.first).flatMap put ∧
      s'.idsUnder c'.second = (s.idsUnder c.second).flatMap put) :
    s.Keeps touched put (some hung) none s' := by
  have hstayed : ∀ {i p p'}, s.pane? i = some p → s'.pane? i = some p' →
      (if i = hung then (p.relink old new).withParent parent else p.relink old new) = p' := by
    intro i p p' hp hp'
    have hi : i ∉ touched := fun hi => by simpa [hp, hp'] using hlost i hi
    rw [hpane i hi, hp] at hp'
    exact Option.some.inj hp'
  constructor
  case stays =>
    intro i hi
    rw [hpane i hi]
    cases s.pane? i with
    | none => rfl
    | some p => by_cases hid : i = hung <;> simp [hid]
  case container => exact hcontainer
  case leaf =>
    intro i k k' hk hk'
    have hsame := hstayed hk hk'
    by_cases hid : i = hung
    · obtain rfl : { k with parent := parent } = k' := by
        simpa [hid, Pane.relink, Pane.withParent] using hsame
      simp
    · obtain rfl : k = k' := by simpa [hid, Pane.relink] using hsame
      simp
  case parent =>
    intro i p p' hp hp' hmoved
    have hid : i ≠ hung := fun hi => hmoved (hi ▸ rfl)
    have hsame := hstayed hp hp'
    rw [if_neg hid] at hsame
    exact hsame ▸ p.parent_relink _ _

theorem Represents.container_spliced (h : s.Represents ⟨some (ctx.fill (.leaf l)), [], bg⟩)
    (o : Orientation) (session : Option SessionId) (primary : Bool) {i : PaneId}
    {c c' : Container} (hc : s.pane? i = some (.container c))
    (hc' : (s.spliced { l with parent := ctx.parent } o session primary).pane? i =
      some (.container c')) :
    let s' := s.spliced { l with parent := ctx.parent } o session primary
    c'.orientation = c.orientation ∧ c'.ratio = c.ratio ∧
      s'.idsUnder c'.first = (s.idsUnder c.first).flatMap (beside l.id ⟨s.nextId + 1⟩) ∧
      s'.idsUnder c'.second = (s.idsUnder c.second).flatMap (beside l.id ⟨s.nextId + 1⟩) := by
  let box : PaneId := ⟨s.nextId⟩
  let n : Leaf := { id := ⟨s.nextId + 1⟩, session, primary }
  obtain ⟨-, h'⟩ := exec_insertSplit_eq h o session primary []
  have hgraft : (ctx.fill (.leaf l)).graft (splitting box o s.splitRatio l.id n) =
      some (ctx.fill (.node box o s.splitRatio (.leaf l) (.leaf n))) :=
    Context.graft_fill (if_pos rfl) fun k hk => if_neg (h.ne_of_mem_around hk)
  have hput : ∀ k, (SplitTree.leavesOf (splitting box o s.splitRatio l.id n k)).map Leaf.id =
      beside l.id n.id k.id := by
    intro k
    unfold splitting beside
    by_cases hk : k.id = l.id <;> simp [hk, SplitTree.leavesOf, SplitTree.leaves]
  have hnever : ∀ k, splitting box o s.splitRatio l.id n k ≠ none := by
    intro k
    unfold splitting
    split <;> simp
  have hone : ∀ k, splitting box o s.splitRatio l.id n k = none → k.id = l.id :=
    fun k hk => absurd hk (hnever k)
  rcases h.container_graft h' hgraft hone hput hc with ⟨⟨k, hk⟩, -⟩ | ⟨c'', hc'', hkeeps⟩
  · exact absurd hk (hnever k)
  · obtain rfl : c'' = c' := by simpa using hc''.symm.trans hc'
    exact hkeeps

/-- A split keeps all but the leaf that it divides. -/
theorem Represents.spliced_keeps (h : s.Represents ⟨some (ctx.fill (.leaf l)), [], bg⟩)
    (o : Orientation) (session : Option SessionId) (primary : Bool) :
    s.Keeps [⟨s.nextId⟩, ⟨s.nextId + 1⟩] (beside l.id ⟨s.nextId + 1⟩) (some l.id) none
      (s.spliced { l with parent := ctx.parent } o session primary) := by
  refine .ofHung l.id ⟨s.nextId⟩ (some ⟨s.nextId⟩) (fun i hi => ?_) (fun i hi => .inl ?_)
    fun i c c' hc hc' => h.container_spliced o session primary hc hc'
  · simp only [List.mem_cons, List.not_mem_nil, or_false, not_or] at hi
    rw [pane?_spliced, if_neg hi.1, if_neg hi.2, Option.or_none]
  · simp only [List.mem_cons, List.not_mem_nil, or_false] at hi
    rcases hi with rfl | rfl
    · exact h.pane?_fresh (Nat.le_refl _)
    · exact h.pane?_fresh (Nat.le_succ _)

section Sibling

variable {f : Frame} (h : s.Represents ⟨some (Context.fill (f :: ctx) (.leaf l)), [], bg⟩)

include h

/-- The leaf is the child of one container only. -/
theorem Represents.id_of_child {i : PaneId} {c : Container}
    (hc : s.pane? i = some (.container c)) (hchild : c.first = l.id ∨ c.second = l.id) :
    i = f.id := by
  obtain ⟨hmem, hi⟩ := (pane?_eq_some_iff h.nodup_ids).mp hc
  obtain ⟨-, hlinks⟩ := h.wellFormed_children hmem
  obtain ⟨p, hp, hpid, hparent⟩ := hlinks l.id (hchild.imp Eq.symm Eq.symm)
  have hpl := (pane?_eq_some_iff h.nodup_ids).mpr ⟨hp, hpid⟩
  obtain rfl : _ = p := Option.some.inj (h.pane?_place.symm.trans hpl)
  obtain rfl : c.id = i := hi
  simpa [Pane.parent, Context.parent, eq_comm] using hparent

theorem Represents.container_collapsed {i : PaneId} {c c' : Container}
    (hc : s.pane? i = some (.container c))
    (hc' : (s.collapsed l.id (f.container l.id (Context.parent ctx))).pane? i =
      some (.container c')) :
    let s' := s.collapsed l.id (f.container l.id (Context.parent ctx))
    c'.orientation = c.orientation ∧ c'.ratio = c.ratio ∧
      s'.idsUnder c'.first = (s.idsUnder c.first).flatMap (without l.id) ∧
      s'.idsUnder c'.second = (s.idsUnder c.second).flatMap (without l.id) := by
  obtain ⟨-, h', -⟩ := exec_closeTreeLeaf_eq h []
  have hgraft : (Context.fill (f :: ctx) (.leaf l)).graft (dropping l.id) =
      some (ctx.fill f.other) :=
    Context.graft_sibling (if_pos rfl) fun k hk => if_neg (h.ne_of_mem_around hk)
  have hput : ∀ k, (SplitTree.leavesOf (dropping l.id k)).map Leaf.id = without l.id k.id := by
    intro k
    unfold dropping without
    by_cases hk : k.id = l.id <;> simp [hk, SplitTree.leavesOf, SplitTree.leaves]
  have hone : ∀ k, dropping l.id k = none → k.id = l.id := by
    intro k hk
    by_contra hne
    simp [dropping, hne] at hk
  rcases h.container_graft h' hgraft hone hput hc with ⟨-, hchild⟩ | ⟨c'', hc'', hkeeps⟩
  · -- The parent of the leaf is gone.
    obtain rfl := h.id_of_child hc hchild
    rw [pane?_collapsed, if_pos (.inr rfl)] at hc'
    simp at hc'
  · obtain rfl : c'' = c' := by simpa using hc''.symm.trans hc'
    exact hkeeps

/-- Closing a leaf keeps all but the leaf and its parent. -/
theorem Represents.collapsed_keeps :
    s.Keeps [l.id, f.id] (without l.id) (some f.other.id) none
      (s.collapsed l.id (f.container l.id (Context.parent ctx))) := by
  refine .ofHung f.id f.other.id (Context.parent ctx) (fun i hi => ?_) (fun i hi => .inr ?_)
    fun i c c' hc hc' => h.container_collapsed hc hc'
  · rw [pane?_collapsed, if_neg (by simpa [Frame.container] using hi), h.siblingOf_place]
    rfl
  · rw [pane?_collapsed, if_pos (by simpa [Frame.container] using hi)]

end Sibling

section Flags

variable {sU s' : Layout} {touched : List PaneId} {put : PaneId → List PaneId}
  {moved heir : Option PaneId} {f : Leaf → Leaf}

theorem leaf?_mapLeaves (s : Layout) (hf : Leaf.FlagChange f) (i : PaneId) :
    (s.mapLeaves f).leaf? i = (s.leaf? i).map f := by
  rw [leaf?, leaf?, s.pane?_mapLeaves hf]
  cases s.pane? i with
  | none => rfl
  | some p => cases p <;> rfl

/-- Flags are no matter of the links. -/
theorem Keeps.flags (h : s.Keeps touched put moved none sU) (hf : Leaf.FlagChange f)
    (hprimary : ∀ k, (f k).primary = (k.primary || decide (heir = some k.id)))
    (hs' : s'.panes = (sU.mapLeaves f).panes) : s.Keeps touched put moved heir s' := by
  have hpane : ∀ i, s'.pane? i = (sU.pane? i).map (Pane.mapLeaf f) := by
    intro i
    rw [← sU.pane?_mapLeaves hf, pane?, pane?, hs']
  have hids : ∀ i, s'.idsUnder i = sU.idsUnder i := by
    intro i
    rw [idsUnder_congr hs', sU.idsUnder_mapLeaves hf]
  refine ⟨fun i hi => ?_, fun i c c' hc hc' => ?_, fun i k k' hk hk' => ?_,
    fun i p p' hp hp' hmoved => ?_⟩
  · rw [← h.stays i hi, hpane]
    cases sU.pane? i with
    | none => rfl
    | some p => cases p <;> rfl
  · rw [hpane, Option.map_eq_some_iff] at hc'
    obtain ⟨p, hp, he⟩ := hc'
    cases p with
    | leaf k => simp [Pane.mapLeaf] at he
    | container c'' =>
      obtain rfl : c'' = c' := by simpa [Pane.mapLeaf] using he
      rw [hids, hids]
      exact h.container i c c'' hc hp
  · rw [hpane, Option.map_eq_some_iff] at hk'
    obtain ⟨p, hp, he⟩ := hk'
    cases p with
    | container c => simp [Pane.mapLeaf] at he
    | leaf k'' =>
      obtain rfl : f k'' = k' := by simpa [Pane.mapLeaf] using he
      obtain ⟨hsession, hsame⟩ := h.leaf i k k'' hk hp
      have hi : k''.id = i := by simpa using List.find?_some hp
      rw [hf.session, hprimary, hsession, hsame, hi]
      simp
  · rw [hpane, Option.map_eq_some_iff] at hp'
    obtain ⟨p'', hp'', rfl⟩ := hp'
    rw [← h.parent i p p'' hp hp'' hmoved]
    exact p''.parent_mapLeaf hf

end Flags

section Heirs

/-! Who takes over a primary flag. -/

variable {q q' : Plan} {s' : Layout}

/-- Who takes over from a leaf that is gone: the first leaf that shows the session of which it was
the primary leaf. -/
def claimant (s : Layout) (l : Leaf) : Option PaneId :=
  if l.primary then l.session.bind fun x => s.everyLeaf.find? (s.showsAt x) else none

theorem claimant_flags {f : Leaf → Leaf} (hf : Leaf.FlagChange f)
    (hpanes : s'.panes = (s.mapLeaves f).panes) (hroot : s'.root = s.root)
    (htabs : s'.tabs = s.tabs) (hbackground : s'.background = s.background) (l : Leaf) :
    s'.claimant l = s.claimant l := by
  have hshows : ∀ x, s'.showsAt x = s.showsAt x := by
    intro x
    funext i
    have hleaf : s'.leaf? i = (s.leaf? i).map f := by
      rw [← s.leaf?_mapLeaves hf, leaf?, leaf?, pane?, pane?, hpanes]
    rw [showsAt, showsAt, hleaf]
    cases s.leaf? i <;> simp [Leaf.shows, hf.session]
  have hids : s'.leafIds = s.leafIds := by
    rw [leafIds_eq_idsUnder, leafIds_eq_idsUnder s, hroot]
    refine congrArg (fun g => s.root.toList.flatMap g) (funext fun i => ?_)
    rw [idsUnder_congr hpanes, s.idsUnder_mapLeaves hf]
  have hevery : s'.everyLeaf = s.everyLeaf := by rw [everyLeaf, hids, htabs, hbackground, everyLeaf]
  simp only [claimant, hshows, hevery]

/-- The flag of a leaf that was the only primary one of its session goes to the claimant. -/
theorem bequeathed_eq_crown (h : ∀ x, l.session = some x → l.primary = true →
    s.hasPrimary x = false) : s.bequeathed l = s.mapLeaves (Leaf.crown (s.claimant l).toList) := by
  unfold bequeathed claimant
  cases hsession : l.session with
  | none => simp [Leaf.crown_nil, mapLeaves_id]
  | some x =>
    by_cases hp : l.primary = true
    · have hnone : ¬s.hasPrimary x = true := by simp [h x hsession hp]
      simp only [hp, if_true]
      rw [promote_eq, heir?, if_neg hnone]
      rfl
    · simp [hp, Leaf.crown_nil, mapLeaves_id]

/-- With the primary leaf of a session no other primary leaf of it goes. -/
theorem Represents.hasPrimary_taken (h' : s'.Represents q') (hadds : q'.Adds [l] q)
    (hheaded : q.Headed) {x : SessionId} (hx : l.session = some x) (hp : l.primary = true) :
    s'.hasPrimary x = false := by
  rw [← Bool.not_eq_true, h'.hasPrimary_iff]
  rintro ⟨k, hk, hkx, hkp⟩
  have hcount := hadds.countP_eq (p := fun l => l.heads x) fun _ => rfl
  have hmore : 0 < q'.leaves.countP fun l => l.heads x :=
    List.countP_pos_iff.mpr ⟨k, hk, Leaf.heads_iff.mpr ⟨hkx, hkp⟩⟩
  have hone := hheaded.single x
  rw [List.countP_singleton, if_pos (Leaf.heads_iff.mpr ⟨hx, hp⟩)] at hcount
  omega

theorem primary_crown (heir : Option PaneId) (k : Leaf) :
    (Leaf.crown heir.toList k).primary = (k.primary || decide (heir = some k.id)) := by
  unfold Leaf.crown
  cases heir with
  | none => simp
  | some i => by_cases hi : i = k.id <;> simp [hi, eq_comm]

/-- What is kept when a leaf is taken out is kept when its flag has gone to the claimant and the
focus has moved. -/
theorem Keeps.settled {sU : Layout} {touched : List PaneId} {put : PaneId → List PaneId}
    {moved : Option PaneId} (h : s.Keeps touched put moved none sU)
    (hone : ∀ x, l.session = some x → l.primary = true → sU.hasPrimary x = false)
    (target : Option PaneId) :
    s.Keeps touched put moved (((sU.bequeathed l).refocus target).claimant l)
      ((sU.bequeathed l).refocus target) := by
  let heir := sU.claimant l
  let flags : Leaf → Leaf := Leaf.refocus sU.focused target ∘ Leaf.crown heir.toList
  have hf : Leaf.FlagChange flags := (Leaf.FlagChange.ofRefocus _ _).comp (.ofCrown _)
  let sF : Layout := { sU.mapLeaves flags with focused := target }
  have hshape : (sU.bequeathed l).refocus target = sF := by
    rw [bequeathed_eq_crown hone, refocus_eq]
    show ({ (sU.mapLeaves (Leaf.crown heir.toList)).mapLeaves (Leaf.refocus sU.focused target) with
      focused := target } : Layout) = _
    rw [mapLeaves_mapLeaves]
  have hclaim : sF.claimant l = heir :=
    claimant_flags hf (show sF.panes = _ from rfl) rfl rfl rfl l
  rw [hshape, hclaim]
  refine h.flags hf (fun k => ?_) rfl
  rw [← primary_crown heir k]
  exact Leaf.primary_refocus _ _ _

end Heirs

section Root

/-! A leaf that is the whole tree. -/

/-- Without a leaf that is the root, with the last leaf of the background in its place. -/
def uprooted (s : Layout) (id : PaneId) : Layout := (restore { s.remove id with root := none }).2

theorem background_uprooted (s : Layout) (id : PaneId) :
    (s.uprooted id).background = s.background.dropLast := by
  cases hlast : s.background.getLast? with
  | none => simp [uprooted, restore, remove, List.getLast?_eq_none_iff.mp hlast]
  | some k =>
    simp only [uprooted, restore, remove, hlast]
    rfl

theorem Represents.remove_keeps (h : s.Represents ⟨some (.leaf l), [], bg⟩) :
    s.Keeps [l.id] (without l.id) none none (s.remove l.id) := by
  have hleaf : ∀ {i p}, s.pane? i = some p → ∀ c, p ≠ .container c := by
    rintro i p hp c rfl
    have hmem := (h.pane?_eq.mp hp).1
    simp [Plan.panes_eq, SplitTree.panes, Plan.parked] at hmem
  have hsame : ∀ {i p p'}, s.pane? i = some p → (s.remove l.id).pane? i = some p' → p' = p := by
    intro i p p' hp hp'
    rw [pane?_remove] at hp'
    split_ifs at hp'
    exact Option.some.inj (hp'.symm.trans hp)
  refine ⟨fun i hi => ?_, fun i c c' hc => absurd rfl (hleaf hc c), fun i k k' hk hk' => ?_,
    fun i p p' hp hp' _ => by rw [hsame hp hp']⟩
  · rw [pane?_remove, if_neg (by simpa using hi)]
  · obtain rfl : k' = k := by simpa using hsame hk hk'
    simp

/-- The leaf that comes back from the background is shown, and that is all. -/
theorem Represents.uprooted_keeps (h : s.Represents ⟨some (.leaf l), [], bg⟩) :
    s.Keeps [l.id] (without l.id) none none (s.uprooted l.id) := by
  cases hlast : s.background.getLast? with
  | none =>
    refine h.remove_keeps.flags (f := fun k => k) ⟨fun _ => rfl, fun _ => rfl, fun _ _ => rfl⟩
      (by simp) ?_
    rw [mapLeaves_id]
    simp only [uprooted, restore, remove, hlast]
  | some id =>
    let light : Leaf → Leaf := Leaf.only id fun k => { k with visible := true }
    have hf : Leaf.FlagChange light :=
      .ofOnly id ⟨fun _ => rfl, fun _ => rfl, fun _ _ => rfl⟩
    refine h.remove_keeps.flags hf (fun k => ?_) ?_
    · unfold light Leaf.only
      split_ifs <;> simp
    · have hroot : (s.uprooted l.id).panes = ((s.remove l.id).modifyLeaf id fun k =>
          { k with visible := true, parent := none }).panes := by
        simp only [uprooted, restore, remove, hlast]
        rfl
      rw [hroot, modifyLeaf_eq]
      refine List.map_congr_left fun p hp => ?_
      cases p with
      | container c => rfl
      | leaf k =>
        have hmem := h.mem_panes_iff.mp (List.mem_of_mem_filter hp)
        have hparent : k.parent = none := by
          simp only [Plan.panes_eq, SplitTree.panes, Plan.parked, List.nil_append,
            Option.toList_some, List.flatMap_singleton, List.mem_append, List.mem_singleton,
            Pane.leaf.injEq, List.mem_map] at hmem
          rcases hmem with rfl | ⟨k', -, rfl⟩ <;> rfl
        refine congrArg Pane.leaf ?_
        unfold light Leaf.only
        split_ifs
        · rw [← hparent]
        · rfl

theorem Represents.run_close_root (h : s.Represents ⟨some (.leaf l), [], bg⟩) :
    (s.uprooted l.id).Represents (Plan.restored bg) ∧ ∃ c told, s.run (close l.id) = (.ok c,
      ((s.uprooted l.id).bequeathed { l with parent := none }).refocus s.background.getLast?,
      told) := by
  have hplace : s.Represents ⟨some (Context.fill [] (.leaf l)), [], bg⟩ := h
  have hpane : s.pane? l.id = some (.leaf { l with parent := none }) := hplace.pane?_place
  have htab : s.tabs.contains l.id = false := by simp [h.tabs]
  have hbg : s.background.contains l.id = false := by simpa using hplace.not_hidden
  have htree : Edit.exec (closeTreeLeaf { l with parent := none }) ⟨s, []⟩ =
      (.ok s.background.getLast?, ⟨s.uprooted l.id, []⟩) := by
    simp only [closeTreeLeaf, Edit.exec_bind, Edit.exec_update, Edit.exec_layout, uprooted,
      restore, remove]
    cases s.background.getLast? <;> rfl
  obtain ⟨s', hrun, h', -, -⟩ := exec_closeTreeLeaf_root h []
  obtain rfl : s' = s.uprooted l.id := by
    rw [htree] at hrun
    simpa [eq_comm] using (congrArg (fun r => r.2.layout) hrun)
  refine ⟨h', ?_⟩
  have hclose := exec_close (l := { l with parent := none }) hpane
  rw [Edit.exec_bind] at hclose
  simp only [takeOut, htab, hbg, Bool.false_eq_true, if_false, htree] at hclose
  rw [run_eq, hclose, exec_conclude]
  exact ⟨_, _, rfl⟩

end Root

/-- What splitting a leaf, or mirroring it, does to the tree. -/
structure Divides (s : Layout) (l : Leaf) (o : Orientation) (session : Option SessionId)
    (new : PaneId) (s' : Layout) : Prop where
  leaves : ∃ as bs, s.leafIds = as ++ l.id :: bs ∧ s'.leafIds = as ++ l.id :: new :: bs
  /-- A container and a leaf come, and the leaf that was split hangs under the container. -/
  box : ∃ box k k', s.pane? box = none ∧ s.pane? new = none ∧
    s'.pane? box = some (.container ⟨box, o, s.splitRatio, l.id, new, l.parent⟩) ∧
    s'.pane? new = some (.leaf k) ∧ k.session = session ∧ k.parent = some box ∧
    s'.pane? l.id = some (.leaf k') ∧ k'.parent = some box ∧
    s.Keeps [box, new] (beside l.id new) (some l.id) none s'
  rest : { s' with
    panes := s.panes, root := s.root, focused := s.focused, nextId := s.nextId } = s

/-- What closing a leaf of the tree does to the tree. -/
structure Drops (s : Layout) (l : Leaf) (s' : Layout) : Prop where
  gone : s'.pane? l.id = none
  /-- The parent goes with the leaf, and the sibling hangs where the parent did. -/
  inner : s.root ≠ some l.id →
    (∃ as bs, s.leafIds = as ++ l.id :: bs ∧ s'.leafIds = as ++ bs) ∧
    s'.background = s.background ∧
    ∃ c p, l.parent = some c.id ∧ s.pane? c.id = some (.container c) ∧ s'.pane? c.id = none ∧
      s'.pane? (c.siblingOf l.id) = some p ∧ p.parent = c.parent ∧
      s.Keeps [l.id, c.id] (without l.id) (some (c.siblingOf l.id)) (s'.claimant l) s'
  root : s.root = some l.id →
    s'.leafIds = s.background.getLast?.toList ∧ s'.background = s.background.dropLast ∧
    s.Keeps [l.id] (without l.id) none (s'.claimant l) s'

section Flagged

/-! Passing on a flag and moving the focus. -/

variable (s) (l) (target : Option PaneId)

theorem leafIds_settled : ((s.bequeathed l).refocus target).leafIds = s.leafIds := by
  obtain ⟨heirs, hheirs⟩ := s.bequeathed_eq l
  rw [leafIds_refocus, hheirs, s.leafIds_mapLeaves (.ofCrown heirs)]

theorem background_settled : ((s.bequeathed l).refocus target).background = s.background := by
  obtain ⟨heirs, hheirs⟩ := s.bequeathed_eq l
  rw [refocus_eq, hheirs]
  rfl

theorem exists_pane?_settled : ∃ f, Leaf.FlagChange f ∧ ∀ i,
    ((s.bequeathed l).refocus target).pane? i = (s.pane? i).map (Pane.mapLeaf f) := by
  obtain ⟨heirs, hheirs⟩ := s.bequeathed_eq l
  refine ⟨Leaf.refocus (s.bequeathed l).focused target ∘ Leaf.crown heirs,
    (Leaf.FlagChange.ofRefocus _ _).comp (.ofCrown heirs), fun i => ?_⟩
  rw [pane?_refocus, hheirs, s.pane?_mapLeaves (.ofCrown heirs), Option.map_map]
  congr 1
  funext p
  cases p <;> rfl

end Flagged

theorem Represents.divides (h : s.Represents ⟨some (ctx.fill (.leaf l)), [], bg⟩)
    (o : Orientation) (session : Option SessionId) (primary : Bool) :
    s.Divides { l with parent := ctx.parent } o session ⟨s.nextId + 1⟩
      ((s.spliced { l with parent := ctx.parent } o session primary).refocus
        (some ⟨s.nextId + 1⟩)) := by
  let box : PaneId := ⟨s.nextId⟩
  let n : Leaf := { id := ⟨s.nextId + 1⟩, session, primary, parent := some box }
  have hf := Leaf.FlagChange.ofRefocus s.focused (some n.id)
  obtain ⟨-, h'⟩ := exec_insertSplit_eq h o session primary []
  have hsplit : (s.spliced { l with parent := ctx.parent } o session primary).pane? l.id =
      some (.leaf { l with parent := some box }) :=
    pane?_spliced_old (l := { l with parent := ctx.parent }) h.pane?_place o session primary
  refine ⟨⟨ctx.before.map Leaf.id, ctx.after.map Leaf.id, ?_, ?_⟩,
    ⟨box, Leaf.refocus s.focused (some n.id) n,
      Leaf.refocus s.focused (some n.id) { l with parent := some box },
      h.pane?_fresh (Nat.le_refl _), h.pane?_fresh (Nat.le_succ _), ?_, ?_, hf.session _,
      hf.parent_eq _, ?_, hf.parent_eq _, ?_⟩, ?_⟩
  · simp [h.leafIds_eq, Context.leaves_fill, SplitTree.leaves]
  · rw [leafIds_refocus, h'.leafIds_eq]
    simp [Context.leaves_fill, SplitTree.leaves]
  · rw [pane?_refocus, h.pane?_spliced_box]
    rfl
  · rw [pane?_refocus, h.pane?_spliced_new]
    rfl
  · rw [pane?_refocus, hsplit]
    rfl
  · refine (h.spliced_keeps o session primary).flags hf (fun k => ?_) (panes_refocus _ _)
    simp
  · rw [refocus_eq]
    rfl

theorem Represents.drops_inner {f : Frame}
    (h : s.Represents ⟨some (Context.fill (f :: ctx) (.leaf l)), [], bg⟩)
    (hheaded : (⟨some (Context.fill (f :: ctx) (.leaf l)), [], bg⟩ : Plan).Headed)
    (target : Option PaneId) : s.Drops { l with parent := some f.id }
      (((s.collapsed l.id (f.container l.id (Context.parent ctx))).bequeathed
        { l with parent := some f.id }).refocus target) := by
  let c : Container := f.container l.id (Context.parent ctx)
  let p : Pane := f.other.top (Context.parent ctx)
  obtain ⟨-, h', hsibling⟩ := exec_closeTreeLeaf_eq h []
  obtain ⟨g, hg, hpane⟩ := exists_pane?_settled (s.collapsed l.id c)
    { l with parent := some f.id } target
  have hlinked : (s.collapsed l.id c).pane? f.other.id = some p :=
    (pane?_eq_some_iff h'.nodup_ids).mpr ⟨h.perm_collapsed.mem_iff.mpr (by simp [p]), by simp [p]⟩
  have hone := fun x hx hp => h'.hasPrimary_taken (l := { l with parent := some f.id })
    (Plan.adds_sibling f ctx l bg) hheaded (x := x) hx hp
  constructor
  case gone =>
    rw [hpane, pane?_collapsed, if_pos (.inl rfl)]
    rfl
  case inner =>
    refine fun _ => ⟨⟨(Context.before (f :: ctx)).map Leaf.id,
      (Context.after (f :: ctx)).map Leaf.id, ?_, ?_⟩, background_settled _ _ _,
      c, p.mapLeaf g, rfl, h.pane?_parent, ?_, ?_, ?_, ?_⟩
    · simp [h.leafIds_eq, Context.leaves_fill, SplitTree.leaves]
    · rw [leafIds_settled, h'.leafIds_eq]
      simp only [Option.toList_some, List.flatMap_singleton, Context.leaves_fill, Context.before,
        Context.after]
      cases f.toFirst <;> simp
    · rw [hpane, pane?_collapsed, if_pos (.inr rfl)]
      rfl
    · rw [hpane, show c.siblingOf _ = _ from hsibling, hlinked]
      rfl
    · rw [Pane.parent_mapLeaf hg]
      exact f.other.parent_top _
    · have hkeeps := h.collapsed_keeps.settled hone target
      rwa [← hsibling] at hkeeps
  case root =>
    intro hroot
    rw [h.root] at hroot
    have hmem := Context.id_fill_mem_ids f ctx (.leaf l)
    rw [Option.some.inj hroot] at hmem
    exact absurd hmem h.not_mem_around

theorem Represents.drops_root (h : s.Represents ⟨some (.leaf l), [], bg⟩)
    (hheaded : (⟨some (.leaf l), [], bg⟩ : Plan).Headed)
    (h' : (s.uprooted l.id).Represents (Plan.restored bg)) (target : Option PaneId) :
    s.Drops { l with parent := none }
      (((s.uprooted l.id).bequeathed { l with parent := none }).refocus target) := by
  have hone := fun x hx hp => h'.hasPrimary_taken (l := { l with parent := none })
    (Plan.adds_restored l bg) hheaded (x := x) hx hp
  have hlast : s.background.getLast? = bg.getLast?.map Leaf.id := by
    rw [h.background, List.getLast?_map]
  refine ⟨?_, fun hroot => absurd h.root hroot, fun _ => ⟨?_, ?_, ?_⟩⟩
  · obtain ⟨g, -, hpane⟩ := exists_pane?_settled (s.uprooted l.id) { l with parent := none } target
    have htaken : Scene.Taken ⟨⟨some (.leaf l), [], bg⟩, none, none⟩ _ _ _ _ := .root l bg rfl
    rw [hpane, h'.pane?_eq_none (htaken.not_mem_ids h.nodup)]
    rfl
  · rw [leafIds_settled, h'.leafIds_eq, hlast]
    cases hbg : bg.getLast? <;> simp [Plan.restored, hbg, SplitTree.leaves]
  · rw [background_settled, background_uprooted]
  · exact h.uprooted_keeps.settled hone target

theorem Represents.drops (h : s.Represents ⟨some (ctx.fill (.leaf l)), [], bg⟩)
    (hheaded : (⟨some (ctx.fill (.leaf l)), [], bg⟩ : Plan).Headed) :
    ∃ c s' told, s.run (close l.id) = (.ok c, s', told) ∧
      s.Drops { l with parent := ctx.parent } s' := by
  cases ctx with
  | nil =>
    obtain ⟨h', c, told, hrun⟩ := Represents.run_close_root h
    exact ⟨c, _, told, hrun, Represents.drops_root h hheaded h' _⟩
  | cons f ctx =>
    obtain ⟨c, -, hc, -, -, told, hrun⟩ :=
      h.exec_close_tree (l := { l with parent := some f.id }) h.pane?_place rfl
    obtain rfl : f.container l.id (Context.parent ctx) = c := by
      simpa using h.pane?_parent.symm.trans hc
    exact ⟨_, _, told, hrun, h.drops_inner hheaded _⟩

/-- Whatever has been asked of a layout that was empty, splitting, mirroring or closing a leaf of
the tree changes the tree in that one place, and in no other. -/
theorem surgery_after_operations (splitRatio : Binary64) (nextId : Nat) (ops : List Operation)
    {id : PaneId} (hid : id ∈ (ops.foldl apply { splitRatio, nextId }).leafIds) :
    let s := ops.foldl apply { splitRatio, nextId }
    ∃ l, s.leaf? id = some l ∧
      (∀ o session, ∃ new s' told, s.run (split id o session) = (.ok new, s', told) ∧
        s.Divides l o session new s') ∧
      (∀ o, l.session ≠ none → ∃ new s' told, s.run (mirror id o) = (.ok new, s', told) ∧
        s.Divides l o l.session new s') ∧
      ∃ c s' told, s.run (close id) = (.ok c, s', told) ∧ s.Drops l s' := by
  intro s
  obtain ⟨q, h⟩ := sound_of_operations splitRatio nextId ops
  obtain ⟨ctx, l, bg, rfl, rfl⟩ := h.represents.place_of_mem hid
  refine ⟨{ l with parent := ctx.parent }, ?_, fun o session => ?_, fun o hsession => ?_,
    h.represents.drops h.headed⟩
  · rw [leaf?, h.represents.pane?_place]
    rfl
  · exact ⟨_, _, _, h.represents.run_split o session, h.represents.divides o session _⟩
  · exact ⟨_, _, _, h.represents.run_mirror o hsession, h.represents.divides o l.session false⟩

/-- Of a tree of three leaves the one in the middle is worked on; it is the primary leaf of a
session that another leaf shows too. -/
theorem surgery_amid_three :
    let s := [.createRoot (some ⟨7⟩), .split ⟨1⟩ .vertical (some ⟨8⟩),
      .mirror ⟨3⟩ .horizontal].foldl apply {}
    s.leafIds = [⟨1⟩, ⟨3⟩, ⟨5⟩] ∧ ∃ l, s.leaf? ⟨3⟩ = some l ∧
      (∀ o session, ∃ new s' told, s.run (split ⟨3⟩ o session) = (.ok new, s', told) ∧
        s.Divides l o session new s') ∧
      (∀ o, l.session ≠ none → ∃ new s' told, s.run (mirror ⟨3⟩ o) = (.ok new, s', told) ∧
        s.Divides l o l.session new s') ∧
      ∃ c s' told, s.run (close ⟨3⟩) = (.ok c, s', told) ∧ s.Drops l s' := by
  intro s
  have hid : (⟨3⟩ : PaneId) ∈ s.leafIds := by decide
  exact ⟨by decide, surgery_after_operations .half 1 _ hid⟩

end Layout

end Multiplexer
