import Mathlib.Data.List.Induction
import Multiplexer.Proofs.Layout.Sites

/-!
# Between tree and tabs

Planting a tab makes a tree of one leaf, with the other tabs behind it.
Unrooting makes tabs of the leaves of the tree and of those behind it: for each
session one, and every leaf without a session.
-/

namespace Multiplexer

namespace Layout

variable {s : Layout} {q : Plan}

theorem foldl_modifyLeaf (f : Leaf → Leaf) (hid : ∀ l, (f l).id = l.id)
    (hf : ∀ l, f (f l) = f l) (ids : List PaneId) (s : Layout) :
    ids.foldl (fun s id => s.modifyLeaf id f) s =
      s.mapLeaves fun l => if l.id ∈ ids then f l else l := by
  induction ids generalizing s with
  | nil =>
    simp only [List.foldl_nil, List.not_mem_nil, if_false]
    exact (mapLeaves_id s).symm
  | cons id ids ih =>
    rw [List.foldl_cons, ih, modifyLeaf_eq, mapLeaves_mapLeaves]
    congr 1
    funext l
    by_cases hl : l.id = id <;> by_cases hm : l.id ∈ ids <;> simp [Leaf.only, hl, hm, hid, hf]

theorem plant_eq (s : Layout) (chosen : PaneId) :
    let others := s.tabs.filter fun id => id ≠ chosen
    s.plant chosen =
      { (s.mapLeaves fun l =>
          if l.id ∈ others then l.hide else l).modifyLeaf chosen Leaf.expose with
        tabs := [], activeTab := none, background := s.background ++ others
        root := some chosen } := by
  intro others
  have hhide := foldl_modifyLeaf Leaf.hide (fun _ => rfl) (fun _ => rfl) others s
  exact congrArg (fun s : Layout =>
    { s.modifyLeaf chosen Leaf.expose with
      tabs := [], activeTab := none, background := s.background ++ others
      root := some chosen }) hhide

theorem focused_plant (s : Layout) (chosen : PaneId) :
    (s.plant chosen).focused = s.focused := by
  rw [plant_eq]
  rfl

theorem filter_ne_middle {as bs : List PaneId} {id : PaneId} (h : (as ++ id :: bs).Nodup) :
    (as ++ id :: bs).filter (fun x => x ≠ id) = as ++ bs := by
  obtain ⟨hnot, -⟩ := List.nodup_cons.mp (List.nodup_middle.mp h)
  rw [List.filter_append, List.filter_cons_of_neg (by simp), ← List.filter_append]
  refine List.filter_eq_self.mpr fun x hx => ?_
  have hne : x ≠ id := fun he => hnot (he ▸ hx)
  simpa using hne

theorem Represents.plant {as bs : List Leaf} {l : Leaf}
    (h : s.Represents ⟨none, as ++ l :: bs, []⟩) :
    (s.plant l.id).Represents ⟨some (.leaf l.expose), [], (as ++ bs).map Leaf.hide⟩ := by
  have hids : (as.map Leaf.id ++ l.id :: bs.map Leaf.id).Nodup := by
    simpa [Plan.ids_eq] using h.nodup
  have hfront : (l.id :: (as ++ bs).map Leaf.id).Nodup := by
    rw [List.map_append]
    exact List.nodup_middle.mp hids
  have hothers : s.tabs.filter (fun id => id ≠ l.id) = (as ++ bs).map Leaf.id := by
    rw [h.tabs, List.map_append, List.map_cons, filter_ne_middle hids, List.map_append]
  let others := (as ++ bs).map Leaf.id
  let s₁ := s.mapLeaves fun k => if k.id ∈ others then k.hide else k
  have hpanes : s₁.panes.Perm
      (.leaf { l with parent := none } :: Plan.parked ((as ++ bs).map Leaf.hide)) := by
    have hmap := h.panes.map (Pane.mapLeaf fun k => if k.id ∈ others then k.hide else k)
    rw [Plan.panes_eq, List.append_nil] at hmap
    refine hmap.trans (((Plan.parked_middle as bs l).map _).trans ?_)
    rw [List.map_cons, Plan.map_parked (g := Leaf.hide) ?_]
    · have hl : l.id ∉ others := (List.nodup_cons.mp hfront).1
      simp [Pane.mapLeaf, hl]
    · intro k hk
      have hmem : k.id ∈ others := List.mem_map_of_mem hk
      simp [hmem, Leaf.hide]
  have hnodup : (s₁.panes.map Pane.id).Nodup := by
    rw [(hpanes.map Pane.id).nodup_iff]
    simpa [Function.comp_def, Pane.id, Leaf.hide] using hfront
  have hplanted := perm_modifyLeaf hpanes hnodup Leaf.expose
  rw [plant_eq, hothers]
  refine ⟨?_, rfl, rfl, ?_, ?_, ?_, .inr rfl, by simp⟩
  · show (s₁.modifyLeaf l.id Leaf.expose).panes.Perm _
    simpa [Plan.panes_eq, SplitTree.panes, Leaf.expose] using hplanted
  · show s.background ++ others = _
    rw [h.background]
    simp [others, Function.comp_def, Leaf.hide]
  · simpa [Plan.ids_eq, SplitTree.ids, Function.comp_def, Leaf.hide, Leaf.expose] using hfront
  · intro id hid
    refine h.fresh id ?_
    simp [Plan.ids_eq, SplitTree.ids, Leaf.hide, Leaf.expose] at hid ⊢
    exact or_left_comm.mp hid

end Layout

/-- What sorting keeps and drops of the leaves it has seen. -/
structure Layout.Sorting.Sorts (r : Layout.Sorting) (seen : List Leaf) : Prop where
  kept : r.kept ⊆ seen
  ids : (r.kept.map Leaf.id ++ r.dropped).Perm (seen.map Leaf.id)
  /-- Leaves without a session are all kept. -/
  blank : r.kept.countP Leaf.blank = seen.countP Leaf.blank
  /-- No session is lost. -/
  covered : ∀ l ∈ seen, ∃ k ∈ r.kept, k.session = l.session
  /-- No session is kept twice. -/
  single : ∀ x, r.kept.countP (fun k => k.shows x) ≤ 1

namespace Layout.Sorting

variable {r : Sorting} {seen : List Leaf} {l : Leaf}

theorem Sorts.keep (h : r.Sorts seen)
    (hnew : ∀ x, l.session = some x → ∀ k ∈ r.kept, k.session ≠ some x) :
    Sorts { r with kept := r.kept ++ [l] } (seen ++ [l]) where
  kept := by
    intro k hk
    rcases List.mem_append.mp hk with hk | hk
    · exact List.mem_append_left _ (h.kept hk)
    · exact List.mem_append_right _ hk
  ids := by
    simp only [List.map_append, List.append_assoc]
    refine (List.perm_append_comm.append_left _).trans ?_
    rw [← List.append_assoc]
    exact h.ids.append_right _
  blank := by rw [List.countP_append, List.countP_append, h.blank]
  covered k hk := by
    rcases List.mem_append.mp hk with hk | hk
    · obtain ⟨k', hk', he⟩ := h.covered k hk
      exact ⟨k', List.mem_append_left _ hk', he⟩
    · exact ⟨k, List.mem_append_right _ hk, rfl⟩
  single x := by
    rw [List.countP_append, List.countP_singleton]
    split
    · rename_i hl
      have hzero : r.kept.countP (fun k => k.shows x) = 0 := by
        refine List.countP_eq_zero.mpr fun k hk => ?_
        rw [Leaf.shows_iff]
        exact hnew x (Leaf.shows_iff.mp hl) k hk
      omega
    · exact h.single x

theorem Sorts.drop (h : r.Sorts seen) {k : Leaf} (hk : k ∈ r.kept) (hl : k.session = l.session)
    (hsome : l.session ≠ none) : Sorts { r with dropped := r.dropped ++ [l.id] } (seen ++ [l]) where
  kept _ hl' := List.mem_append_left _ (h.kept hl')
  ids := by
    rw [← List.append_assoc, List.map_append]
    exact h.ids.append_right _
  blank := by
    rw [List.countP_append, h.blank, List.countP_singleton, Leaf.blank_eq_false hsome]
    rfl
  covered k' hk' := by
    rcases List.mem_append.mp hk' with hk' | hk'
    · exact h.covered k' hk'
    · obtain rfl : k' = l := by simpa using hk'
      exact ⟨k, hk, hl⟩
  single := h.single

/-- A primary leaf takes the place of the one kept before. -/
theorem Sorts.replace (h : r.Sorts seen) {as bs : List Leaf} {k : Leaf}
    (hk : r.kept = as ++ k :: bs) (hl : k.session = l.session) (hsome : l.session ≠ none) :
    Sorts { kept := as ++ l :: bs, dropped := r.dropped ++ [k.id] } (seen ++ [l]) where
  kept := by
    intro k' hk'
    have hother : k' = l ∨ k' ∈ r.kept := by
      simp only [List.mem_append, List.mem_cons] at hk'
      simp only [hk, List.mem_append, List.mem_cons]
      tauto
    rcases hother with rfl | hother
    · simp
    · exact List.mem_append_left _ (h.kept hother)
  ids := by
    have hids := h.ids
    rw [hk] at hids
    simp only [List.map_append, List.map_cons, List.map_nil] at hids ⊢
    have hswap : (as.map Leaf.id ++ l.id :: bs.map Leaf.id ++ (r.dropped ++ [k.id])).Perm
        (l.id :: (as.map Leaf.id ++ k.id :: bs.map Leaf.id ++ r.dropped)) := by
      simp only [List.append_assoc, List.cons_append]
      refine List.perm_middle.trans (.cons _ (List.Perm.append_left _ ?_))
      rw [← List.append_assoc]
      exact List.perm_append_singleton _ _
    exact hswap.trans ((hids.cons _).trans (List.perm_append_singleton _ _).symm)
  blank := by
    have hblank := h.blank
    have hk' : k.blank = false := Leaf.blank_eq_false (hl ▸ hsome)
    simp only [hk, List.countP_append, List.countP_cons, hk'] at hblank
    simp only [List.countP_append, List.countP_cons, Leaf.blank_eq_false hsome, List.countP_nil]
    exact hblank
  covered k' hk' := by
    rcases List.mem_append.mp hk' with hk' | hk'
    · obtain ⟨k'', hold, he⟩ := h.covered k' hk'
      simp only [hk, List.mem_append, List.mem_cons] at hold
      rcases hold with hold | rfl | hold
      · exact ⟨k'', by simp [hold], he⟩
      · exact ⟨l, by simp, hl.symm.trans he⟩
      · exact ⟨k'', by simp [hold], he⟩
    · exact ⟨k', by simp at hk'; simp [hk'], rfl⟩
  single x := by
    have hsingle := h.single x
    rw [hk] at hsingle
    simpa only [List.countP_append, List.countP_cons, Leaf.shows, hl] using hsingle

theorem Sorts.add (h : r.Sorts seen) (hnodup : (seen.map Leaf.id).Nodup) (l : Leaf) :
    (r.add l).Sorts (seen ++ [l]) := by
  unfold Sorting.add
  cases hl : l.session with
  | none => exact h.keep (by simp [hl])
  | some session =>
    have hsome : l.session ≠ none := by simp [hl]
    cases hk : r.kept.find? fun k => k.shows session with
    | none =>
      have hnew : ∀ x, l.session = some x → ∀ k ∈ r.kept, k.session ≠ some x := by
        intro x hx k hkept
        obtain rfl : session = x := by simpa [hl] using hx
        have hshows := List.find?_eq_none.mp hk k hkept
        simpa [Leaf.shows] using hshows
      simpa [hk] using h.keep hnew
    | some k =>
      have hmem := List.mem_of_find?_eq_some hk
      have hsame : k.session = l.session := by
        have hshows := List.find?_some hk
        simpa [Leaf.shows, hl] using hshows
      by_cases hp : l.primary = true
      · obtain ⟨as, bs, hkept⟩ := List.append_of_mem hmem
        have hids := (List.nodup_append.mp (h.ids.nodup_iff.mpr hnodup)).1
        rw [hkept, List.map_append, List.map_cons, List.nodup_middle, List.nodup_cons,
          ← List.map_append] at hids
        have helse : ∀ k' ∈ as ++ bs, k'.id ≠ k.id :=
          fun k' hk' he => hids.1 (he ▸ List.mem_map_of_mem hk')
        have hmap : r.kept.map (fun k' => if k'.id = k.id then l else k') = as ++ l :: bs := by
          rw [hkept, List.map_append, List.map_cons, if_pos rfl,
            map_elsewhere (fun _ => l) fun k' hk' => helse k' (List.mem_append_left _ hk'),
            map_elsewhere (fun _ => l) fun k' hk' => helse k' (List.mem_append_right _ hk')]
        simp only [hk, hp, if_true, hmap]
        exact h.replace hkept hsame hsome
      · simp only [hk, hp]
        exact h.drop hmem hsame hsome

/-- Sorting a list of leaves with different ids. -/
theorem sorts (ls : List Leaf) (h : (ls.map Leaf.id).Nodup) :
    (ls.foldl Sorting.add {}).Sorts ls := by
  induction ls using List.reverseRecOn with
  | nil => exact ⟨by simp, by simp, by simp, by simp, by simp⟩
  | append_singleton ls l ih =>
    rw [List.map_append] at h
    have hls := (List.nodup_append.mp h).1
    rw [List.foldl_append]
    exact (ih hls).add hls l

end Layout.Sorting

/-- Tabs that leaves become: for each session one, which is primary, and one for each leaf
without a session. -/
structure Plan.Collapses (q : Plan) (tabs : List Leaf) : Prop where
  kept : ∀ k ∈ tabs, ∃ l ∈ q.leaves, k.id = l.id ∧ k.session = l.session ∧
    k.focused = l.focused ∧ (l.session = none → k.primary = l.primary)
  blank : tabs.countP Leaf.blank = q.leaves.countP Leaf.blank
  single : ∀ x, tabs.countP (fun k => k.shows x) ≤ 1
  primary : ∀ x, q.Shows x → ∃ k ∈ tabs, k.session = some x ∧ k.primary = true

namespace Layout

variable {s : Layout} {tree : Option SplitTree} {bg : List Leaf}

/-- All leaves of a layout in tree mode may become tabs. -/
theorem Represents.candidates_eq (h : s.Represents ⟨tree, [], bg⟩) :
    s.candidates = (⟨tree, [], bg⟩ : Plan).panes.filterMap Pane.leaf? := by
  have hbehind : s.background.filterMap s.leaf? = (Plan.parked bg).filterMap Pane.leaf? := by
    have hleaf : ∀ k ∈ bg, s.leaf? k.id = some { k with parent := none } := by
      intro k hk
      have hpane : s.pane? k.id = some (.leaf { k with parent := none }) := by
        refine h.pane?_eq.mpr ⟨?_, rfl⟩
        rw [Plan.panes_eq]
        exact List.mem_append_right _ (List.mem_map_of_mem hk)
      simp [leaf?, hpane, Pane.leaf?]
    rw [h.background, List.filterMap_map, Plan.parked, List.filterMap_map]
    exact List.filterMap_congr fun k hk => hleaf k hk
  rw [candidates, h.leaves_eq, hbehind, Plan.panes_eq, List.filterMap_append]
  simp [List.filterMap_flatMap]

theorem Represents.nodup_candidates (h : s.Represents ⟨tree, [], bg⟩) :
    (s.candidates.map Leaf.id).Nodup := by
  rw [h.candidates_eq]
  refine List.Nodup.sublist (map_id_leaves_sublist _) ?_
  rw [Plan.map_id_panes]
  exact h.nodup

theorem filter_leaves (ps : List Pane) (keep : PaneId → Bool) :
    ps.filter (fun p => p.isLeaf && keep p.id) =
      ((ps.filterMap Pane.leaf?).filter fun l => keep l.id).map .leaf := by
  induction ps with
  | nil => rfl
  | cons p ps ih =>
    cases p with
    | leaf l => cases hk : keep l.id <;> simp [hk, ih]
    | container c => simp [ih, List.filterMap_cons]

/-- What is not dropped is kept. -/
theorem Sorting.Sorts.perm_kept {r : Sorting} {seen : List Leaf} (h : r.Sorts seen)
    (hnodup : (seen.map Leaf.id).Nodup) :
    (seen.filter fun l => !r.dropped.contains l.id).Perm r.kept := by
  have hids := h.ids.nodup_iff.mpr hnodup
  obtain ⟨hkept, -, hapart⟩ := List.nodup_append.mp hids
  refine (List.perm_ext_iff_of_nodup (hnodup.of_map _ |>.filter _) (hkept.of_map _)).mpr fun l => ?_
  simp only [List.mem_filter, List.contains_eq_mem, Bool.not_eq_eq_eq_not, Bool.not_true,
    decide_eq_false_iff_not]
  constructor
  · rintro ⟨hl, hdropped⟩
    have hid : l.id ∈ r.kept.map Leaf.id ++ r.dropped :=
      h.ids.mem_iff.mpr (List.mem_map_of_mem hl)
    rcases List.mem_append.mp hid with hid | hid
    · obtain ⟨k, hk, he⟩ := List.mem_map.mp hid
      rwa [← List.inj_on_of_nodup_map hnodup (h.kept hk) hl he]
    · exact absurd hid hdropped
  · intro hl
    exact ⟨h.kept hl, fun hd => hapart _ (List.mem_map_of_mem hl) _ hd rfl⟩

/-- The leaves that sorting keeps as tabs, before primary flags are given out. -/
def retabbed (s : Layout) : Layout :=
  let r := s.candidates.foldl Sorting.add {}
  let tabs := r.kept.map Leaf.id
  ({ s with
    panes := s.panes.filter fun p => p.isLeaf && !r.dropped.contains p.id
    background := [], root := none, tabs } : Layout).mapLeaves fun l =>
      if l.id ∈ tabs then l.hide else l

/-- Focus on a pane that is gone is no focus. -/
def dropFocus (s : Layout) : Layout :=
  if s.focused.any fun id => (s.pane? id).isNone then { s with focused := none } else s

theorem unroot_eq (s : Layout) :
    let kept := (s.candidates.foldl Sorting.add {}).kept
    s.unroot = ((kept.filterMap Leaf.session).foldl promote s.retabbed).dropFocus := by
  intro kept
  have hhide := foldl_modifyLeaf Leaf.hide (fun _ => rfl) (fun _ => rfl) (kept.map Leaf.id)
    { s with
      panes := s.panes.filter fun p =>
        p.isLeaf && !(s.candidates.foldl Sorting.add {}).dropped.contains p.id
      background := [], root := none, tabs := kept.map Leaf.id }
  exact congrArg (fun s : Layout => ((kept.filterMap Leaf.session).foldl promote s).dropFocus) hhide

theorem map_kept (kept : List Leaf) :
    (kept.map Pane.leaf).map (Pane.mapLeaf fun l =>
      if l.id ∈ kept.map Leaf.id then l.hide else l) = Plan.parked (kept.map Leaf.hide) := by
  unfold Plan.parked
  rw [List.map_map, List.map_map]
  refine List.map_congr_left fun l hl => congrArg Pane.leaf ?_
  have hmem : l.id ∈ kept.map Leaf.id := List.mem_map_of_mem hl
  simp only [hmem, if_true]
  rfl

theorem Represents.retabbed (h : s.Represents ⟨tree, [], bg⟩) : s.retabbed.Represents
    ⟨none, (s.candidates.foldl Sorting.add {}).kept.map Leaf.hide, []⟩ := by
  let r := s.candidates.foldl Sorting.add {}
  have hsorts : r.Sorts s.candidates := Sorting.sorts _ h.nodup_candidates
  have hkept : (s.panes.filter fun p => p.isLeaf && !r.dropped.contains p.id).Perm
      (r.kept.map .leaf) := by
    refine (h.panes.filter _).trans ?_
    rw [filter_leaves _ fun id => !r.dropped.contains id, ← h.candidates_eq]
    exact (hsorts.perm_kept h.nodup_candidates).map _
  have hids : (⟨none, r.kept.map Leaf.hide, []⟩ : Plan).ids = r.kept.map Leaf.id := by
    rw [Plan.ids_eq]
    simp [Function.comp_def, Leaf.hide]
  refine ⟨?_, rfl, ?_, rfl, ?_, ?_, .inl rfl, fun _ => rfl⟩
  · have hmap := hkept.map (Pane.mapLeaf fun l =>
      if l.id ∈ r.kept.map Leaf.id then l.hide else l)
    rw [map_kept] at hmap
    rw [Plan.panes_eq, List.append_nil]
    exact hmap
  · show r.kept.map Leaf.id = _
    rw [List.map_map]
    rfl
  · rw [hids]
    exact (List.nodup_append.mp (hsorts.ids.nodup_iff.mpr h.nodup_candidates)).1
  · rw [hids]
    intro id hid
    obtain ⟨l, hl, rfl⟩ := List.mem_map.mp hid
    refine h.fresh l.id ?_
    have hmem := (map_id_leaves_sublist _).subset
      (h.candidates_eq ▸ List.mem_map_of_mem (hsorts.kept hl))
    rwa [Plan.map_id_panes] at hmem

theorem Represents.promoted {q : Plan} (h : s.Represents q) {x : SessionId} (hshows : q.Shows x) :
    (q.map (Leaf.crown (s.heir? x).toList)).HasPrimary x := by
  cases hheir : s.heir? x with
  | none => exact (h.heir?_eq_none hheir hshows).crown _
  | some id =>
    obtain ⟨-, l, hl, rfl, hs⟩ := h.heir?_eq_some hheir
    refine ⟨{ l with primary := true }, ?_, hs, rfl⟩
    rw [Plan.leaves_map]
    exact List.mem_map.mpr ⟨l, hl, by simp [Leaf.crown]⟩

/-- Promoting for some sessions crowns one leaf for each that is shown and has no primary leaf. -/
theorem Represents.foldl_promote {q : Plan} (h : s.Represents q) (sessions : List SessionId) :
    ∃ heirs : List PaneId, sessions.foldl Layout.promote s = s.mapLeaves (Leaf.crown heirs) ∧
      (∀ id ∈ heirs, ∃ l ∈ q.leaves, l.id = id ∧ l.session ≠ none) ∧
      ∀ x ∈ sessions, q.Shows x → (q.map (Leaf.crown heirs)).HasPrimary x := by
  induction sessions generalizing s q with
  | nil => exact ⟨[], by rw [Leaf.crown_nil, mapLeaves_id]; rfl, by simp, by simp⟩
  | cons x sessions ih =>
    let f := Leaf.crown (s.heir? x).toList
    obtain ⟨heirs, hfold, hheirs, hprimary⟩ := ih (h.promote x)
    have hboth : Leaf.crown heirs ∘ f = Leaf.crown ((s.heir? x).toList ++ heirs) := by
      funext l
      by_cases hx : l.id ∈ (s.heir? x).toList <;> by_cases hl : l.id ∈ heirs <;>
        simp [f, Leaf.crown, hx, hl]
    have hmap : (q.map f).map (Leaf.crown heirs) =
        q.map (Leaf.crown ((s.heir? x).toList ++ heirs)) := by
      rw [Plan.map_map, hboth]
    refine ⟨(s.heir? x).toList ++ heirs, ?_, ?_, ?_⟩
    · rw [List.foldl_cons, hfold, promote_eq, mapLeaves_mapLeaves, hboth]
    · intro id hid
      rcases List.mem_append.mp hid with hid | hid
      · obtain ⟨-, l, hl, he, hs⟩ := h.heir?_eq_some (Option.mem_toList.mp hid)
        exact ⟨l, hl, he, by simp [hs]⟩
      · obtain ⟨l, hl, he, hs⟩ := hheirs id hid
        rw [Plan.leaves_map] at hl
        obtain ⟨k, hk, rfl⟩ := List.mem_map.mp hl
        exact ⟨k, hk, by rw [← he, (Leaf.FlagChange.ofCrown _).id],
          by rwa [(Leaf.FlagChange.ofCrown _).session] at hs⟩
    · intro y hy hshows
      rw [← hmap]
      rcases List.mem_cons.mp hy with rfl | hy
      · exact (h.promoted hshows).crown heirs
      · exact hprimary y hy ((q.shows_map (.ofCrown _) y).mpr hshows)

theorem Represents.dropFocus {tabs : List Leaf} (h : s.Represents ⟨none, tabs, []⟩) :
    s.dropFocus.Represents ⟨none, tabs, []⟩ ∧ s.dropFocus.activeTab = s.activeTab ∧
      s.dropFocus.focused = s.focused.filter fun id => id ∈ tabs.map Leaf.id := by
  have hpane : ∀ id, (s.pane? id).isNone = true ↔ id ∉ tabs.map Leaf.id := by
    intro id
    have hids : (⟨none, tabs, []⟩ : Plan).ids = tabs.map Leaf.id := by simp [Plan.ids_eq]
    rw [← hids, ← Plan.map_id_panes, ← (h.panes.map Pane.id).mem_iff]
    simp [pane?]
  unfold Layout.dropFocus
  cases hfocus : s.focused with
  | none => exact ⟨h, rfl, hfocus⟩
  | some id =>
    rw [Option.any_some, Option.filter_some]
    by_cases hgone : (s.pane? id).isNone = true
    · rw [if_pos hgone, if_neg (by simpa using (hpane id).mp hgone)]
      exact ⟨h.withFocus none s.activeTab, rfl, rfl⟩
    · rw [if_neg hgone, if_pos (by simpa using mt (hpane id).mpr hgone)]
      exact ⟨h, rfl, hfocus⟩

theorem Represents.map_hide_candidates (h : s.Represents ⟨tree, [], bg⟩) :
    s.candidates.map Leaf.hide = (⟨tree, [], bg⟩ : Plan).cards := by
  rw [h.candidates_eq]
  exact Plan.leaf?_panes Leaf.hide (fun _ _ => rfl) _

/-- The leaves that sorting keeps are such tabs once one of them is crowned for each session. -/
theorem Represents.collapses (h : s.Represents ⟨tree, [], bg⟩) {heirs : List PaneId} :
    let kept := (s.candidates.foldl Sorting.add {}).kept
    let q : Plan := ⟨none, kept.map Leaf.hide, []⟩
    (∀ id ∈ heirs, ∃ l ∈ q.leaves, l.id = id ∧ l.session ≠ none) →
    (∀ x ∈ kept.filterMap Leaf.session, q.Shows x → (q.map (Leaf.crown heirs)).HasPrimary x) →
    (⟨tree, [], bg⟩ : Plan).Collapses (kept.map fun l => l.hide.crown heirs) := by
  intro kept q hheirs hprimary
  have hsorts : Sorting.Sorts _ s.candidates := Sorting.sorts _ h.nodup_candidates
  have hq : q.leaves = kept.map Leaf.hide := by simp [q, Plan.leaves_eq]
  have hcards := h.map_hide_candidates
  have hids : (kept.map Leaf.id).Nodup :=
    (List.nodup_append.mp (hsorts.ids.nodup_iff.mpr h.nodup_candidates)).1
  have hcrown : ∀ l : Leaf, (l.hide.crown heirs).id = l.id ∧
      (l.hide.crown heirs).session = l.session ∧ (l.hide.crown heirs).focused = l.focused :=
    fun l => ⟨(Leaf.FlagChange.ofCrown heirs).id _, (Leaf.FlagChange.ofCrown heirs).session _,
      Leaf.focused_crown heirs _⟩
  have hcountP : ∀ p : Leaf → Bool, (∀ l, p (l.hide.crown heirs) = p l) →
      (kept.map fun l => l.hide.crown heirs).countP p = kept.countP p := by
    intro p hp
    rw [List.countP_map]
    exact congrArg (kept.countP ·) (funext hp)
  refine ⟨fun k hk => ?_, ?_, fun x => ?_, fun x hx => ?_⟩
  · obtain ⟨l, hl, rfl⟩ := List.mem_map.mp hk
    have hcard : l.hide ∈ (⟨tree, [], bg⟩ : Plan).cards :=
      hcards ▸ List.mem_map_of_mem (hsorts.kept hl)
    obtain ⟨l', hl', he⟩ := List.mem_map.mp hcard
    obtain ⟨hid, hsession, hfocused⟩ := hcrown l
    refine ⟨l', hl', ?_, ?_, ?_, fun hnone => ?_⟩
    · exact hid.trans (congrArg Leaf.id he).symm
    · exact hsession.trans (congrArg Leaf.session he).symm
    · exact hfocused.trans (congrArg Leaf.focused he).symm
    · -- An heir has a session, so a leaf without one keeps its flag.
      have hl_none : l.session = none := (congrArg Leaf.session he).symm.trans hnone
      have hnot : l.hide.id ∉ heirs := by
        intro hmem
        obtain ⟨k, hk, hkid, hks⟩ := hheirs _ hmem
        rw [hq] at hk
        obtain ⟨k', hk', rfl⟩ := List.mem_map.mp hk
        exact hks ((List.inj_on_of_nodup_map hids hk' hl hkid) ▸ hl_none)
      unfold Leaf.crown
      rw [if_neg hnot]
      exact (congrArg Leaf.primary he).symm
  · rw [hcountP _ fun l => congrArg Option.isNone (hcrown l).2.1, hsorts.blank,
      ← Plan.countP_cards (fun _ => rfl), ← hcards, List.countP_map]
    rfl
  · rw [hcountP _ fun l => by simp [Leaf.shows, (hcrown l).2.1]]
    exact hsorts.single x
  · obtain ⟨l, hl, hs⟩ := (Plan.exists_cards (fun _ => .rfl) _).mpr hx
    rw [← hcards] at hl
    obtain ⟨l', hl', rfl⟩ := List.mem_map.mp hl
    obtain ⟨k, hk, he⟩ := hsorts.covered l' hl'
    have hks : k.session = some x := he.trans hs
    have hshows : q.Shows x := ⟨k.hide, hq ▸ List.mem_map_of_mem hk, hks⟩
    obtain ⟨k', hk', hprimary'⟩ := hprimary x (List.mem_filterMap.mpr ⟨k, hk, hks⟩) hshows
    rw [Plan.leaves_map, hq, List.map_map] at hk'
    exact ⟨k', hk', hprimary'⟩

/-- Unrooting makes tabs of the leaves that sorting keeps. -/
theorem Represents.unroot (h : s.Represents ⟨tree, [], bg⟩) : ∃ tabs : List Leaf,
    s.unroot.Represents ⟨none, tabs, []⟩ ∧ (⟨tree, [], bg⟩ : Plan).Collapses tabs ∧
      s.unroot.activeTab = s.activeTab ∧
      s.unroot.focused = s.focused.filter fun id => id ∈ tabs.map Leaf.id := by
  let kept := (s.candidates.foldl Sorting.add {}).kept
  obtain ⟨heirs, hfold, hheirs, hprimary⟩ := h.retabbed.foldl_promote (kept.filterMap Leaf.session)
  have htabs : (⟨none, kept.map Leaf.hide, []⟩ : Plan).map (Leaf.crown heirs) =
      ⟨none, kept.map fun l => l.hide.crown heirs, []⟩ := by
    simp [Plan.map, Function.comp_def]
  have hcrowned := h.retabbed.mapLeaves (.ofCrown heirs)
  rw [htabs] at hcrowned
  obtain ⟨hrepresents, hactive, hfocus⟩ := hcrowned.dropFocus
  have hunroot : s.unroot = (s.retabbed.mapLeaves (Leaf.crown heirs)).dropFocus :=
    (unroot_eq s).trans (congrArg Layout.dropFocus hfold)
  rw [hunroot]
  exact ⟨_, hrepresents, h.collapses hheirs hprimary, hactive, hfocus⟩

/-- A new tab at the end. -/
theorem Represents.appendTab {tabs : List Leaf} (h : s.Represents ⟨none, tabs, []⟩) (l : Leaf)
    (hl : l.id = ⟨s.nextId⟩) (hparent : l.parent = none) :
    Represents { ({ s with nextId := s.nextId + 1 } : Layout).add (.leaf l) with
      tabs := s.tabs ++ [l.id] } ⟨none, tabs ++ [l], []⟩ where
  panes := by
    have hpanes := h.panes
    have hsame : { l with parent := none } = l := by rw [← hparent]
    rw [Plan.panes_eq, List.append_nil] at hpanes
    have hadd := hpanes.append_right [.leaf l]
    simpa [Plan.panes_eq, Plan.parked, add, hsame] using hadd
  root := h.root
  tabs := by
    show s.tabs ++ [l.id] = _
    rw [h.tabs, List.map_append]
    rfl
  background := h.background
  nodup := by
    have hids : (tabs.map Leaf.id).Nodup := by simpa [Plan.ids_eq] using h.nodup
    have hnew : l.id ∉ tabs.map Leaf.id := by
      intro hmem
      have hlt := h.fresh l.id (by simpa [Plan.ids_eq] using hmem)
      rw [hl] at hlt
      exact Nat.lt_irrefl _ hlt
    have hboth : (l.id :: tabs.map Leaf.id).Nodup := List.nodup_cons.mpr ⟨hnew, hids⟩
    have hlast := (List.perm_append_singleton l.id (tabs.map Leaf.id)).nodup_iff.mpr hboth
    simpa [Plan.ids_eq] using hlast
  fresh id hid := by
    show id.number < s.nextId + 1
    have hid' : id ∈ tabs.map Leaf.id ∨ id = l.id := by simpa [Plan.ids_eq, eq_comm] using hid
    rcases hid' with hid' | rfl
    · have := h.fresh id (by simpa [Plan.ids_eq] using hid')
      omega
    · rw [hl]
      exact Nat.lt_succ_self _
  mode := .inl rfl
  behind _ := rfl

end Layout

end Multiplexer
