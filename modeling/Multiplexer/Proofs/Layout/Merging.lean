import Multiplexer.Proofs.Layout.Focus
import Multiplexer.Proofs.Layout.Primary

/-!
# Merging

Which tabs come of a tree, and in which order. A leaf without a session stays
where it is in the row of leaves; the leaves of one session become one tab, which
has the place of the first of them and is the primary one.
-/

namespace Multiplexer

namespace Leaf

/-- Whether two leaves show the same session. -/
def rivals (k l : Leaf) : Bool := k.session.isSome && k.session == l.session

/-- The leaves without a session, and of those of each session the first. -/
def firsts : List Leaf → List Leaf
  | [] => []
  | l :: ls => l :: (firsts ls).filter fun k => !l.rivals k

/-- Which of some leaves is kept for a leaf: the primary one of its session, or itself. -/
def standIn (ls : List Leaf) (l : Leaf) : Leaf :=
  match l.session with
  | none => l
  | some x => (ls.find? fun k => k.heads x).getD l

/-- For each session one leaf, and all leaves without a session. -/
def merge (ls : List Leaf) : List Leaf := (firsts ls).map (standIn ls)

section Merge

variable {ls : List Leaf} {k l : Leaf}

theorem rivals_iff : k.rivals l = true ↔ ∃ x, k.session = some x ∧ l.session = some x := by
  cases hk : k.session with
  | none => simp [Leaf.rivals, hk]
  | some x => simp [Leaf.rivals, hk, @eq_comm _ l.session]

theorem firsts_subset (ls : List Leaf) : firsts ls ⊆ ls := by
  induction ls with
  | nil => exact List.Subset.refl []
  | cons l ls ih =>
    intro k hk
    rcases List.mem_cons.mp hk with rfl | hk
    · exact List.mem_cons_self
    · exact List.mem_cons_of_mem l (ih (List.mem_of_mem_filter hk))

theorem exists_firsts (hl : l ∈ ls) : ∃ k ∈ firsts ls, k.session = l.session := by
  induction ls with
  | nil => cases hl
  | cons a ls ih =>
    rcases List.mem_cons.mp hl with rfl | hl
    · exact ⟨l, List.mem_cons_self, rfl⟩
    · obtain ⟨k, hk, hsession⟩ := ih hl
      by_cases hrivals : a.rivals k = true
      · obtain ⟨x, ha, hx⟩ := rivals_iff.mp hrivals
        exact ⟨a, List.mem_cons_self, (ha.trans hx.symm).trans hsession⟩
      · have hkept : k ∈ (firsts ls).filter fun k => !a.rivals k :=
          List.mem_filter.mpr ⟨hk, by simpa using hrivals⟩
        exact ⟨k, List.mem_cons_of_mem a hkept, hsession⟩

/-- No session is first twice. -/
theorem eq_of_firsts {x : SessionId} (hk : k ∈ firsts ls) (hl : l ∈ firsts ls)
    (hkx : k.session = some x) (hlx : l.session = some x) : k = l := by
  induction ls with
  | nil => cases hk
  | cons a ls ih =>
    have hlater : a.session = some x → ∀ b ∈ (firsts ls).filter fun k => !a.rivals k,
        b.session ≠ some x := by
      intro ha b hb hbx
      have hrivals := rivals_iff.mpr ⟨x, ha, hbx⟩
      simp [hrivals] at hb
    rcases List.mem_cons.mp hk with rfl | hk <;> rcases List.mem_cons.mp hl with rfl | hl
    · rfl
    · exact absurd hlx (hlater hkx l hl)
    · exact absurd hkx (hlater hlx k hk)
    · exact ih (List.mem_of_mem_filter hk) (List.mem_of_mem_filter hl)

theorem firsts_concat (ls : List Leaf) (l : Leaf) :
    firsts (ls ++ [l]) =
      if ls.any fun k => k.rivals l then firsts ls else firsts ls ++ [l] := by
  induction ls with
  | nil => rfl
  | cons a ls ih =>
    rw [List.cons_append, firsts, ih, List.any_cons, firsts]
    cases hany : ls.any fun k => k.rivals l with
    | true => simp
    | false =>
      cases hrivals : a.rivals l <;> simp [hrivals]

theorem session_standIn (ls : List Leaf) (l : Leaf) : (standIn ls l).session = l.session := by
  unfold standIn
  cases hl : l.session with
  | none => exact hl
  | some x =>
    cases hfind : ls.find? fun k => k.heads x with
    | none => simpa [hfind] using hl
    | some k =>
      have hheads : k.heads x = true := by simpa using List.find?_some hfind
      simpa [hfind] using (Leaf.heads_iff.mp hheads).1

theorem standIn_mem (hl : l ∈ ls) : standIn ls l ∈ ls := by
  unfold standIn
  cases l.session with
  | none => exact hl
  | some x =>
    cases hfind : ls.find? fun k => k.heads x with
    | none => simpa [hfind] using hl
    | some k => simpa [hfind] using List.mem_of_find?_eq_some hfind

/-- A leaf that is not primary for the session of another does not stand for it. -/
theorem standIn_concat_of_not {k : Leaf} (h : ∀ x, k.session = some x → l.heads x = false) :
    standIn (ls ++ [l]) k = standIn ls k := by
  unfold standIn
  cases hk : k.session with
  | none => rfl
  | some x => simp [List.find?_append, h x hk]

/-- The first primary leaf of a session stands for all of its leaves. -/
theorem standIn_concat_of_heads {x : SessionId} (hk : k.session = some x) (hl : l.heads x = true)
    (hnone : ∀ k ∈ ls, k.heads x = false) : standIn (ls ++ [l]) k = l := by
  have hfind : ls.find? (fun k => k.heads x) = none := by simpa using hnone
  simp [standIn, hk, List.find?_append, hfind, hl]

theorem merge_subset (ls : List Leaf) : merge ls ⊆ ls := by
  intro k hk
  obtain ⟨l, hl, rfl⟩ := List.mem_map.mp hk
  exact standIn_mem (firsts_subset ls hl)

theorem exists_merge (hl : l ∈ ls) : ∃ k ∈ merge ls, k.session = l.session := by
  obtain ⟨k, hk, hsession⟩ := exists_firsts hl
  exact ⟨standIn ls k, List.mem_map_of_mem hk, (session_standIn ls k).trans hsession⟩

/-- A leaf of a new session, or of none, comes at the end. -/
theorem merge_concat_of_new (hnew : ∀ x, l.session = some x → ∀ k ∈ ls, k.session ≠ some x) :
    merge (ls ++ [l]) = merge ls ++ [l] := by
  have hrivals : (ls.any fun k => k.rivals l) = false := by
    refine List.any_eq_false.mpr fun k hk hrivals => ?_
    obtain ⟨x, hkx, hlx⟩ := rivals_iff.mp hrivals
    exact hnew x hlx k hk hkx
  have hself : standIn (ls ++ [l]) l = l := by
    cases hl : l.session with
    | none => simp [standIn, hl]
    | some x =>
      have hfind : ls.find? (fun k => k.heads x) = none := by
        refine List.find?_eq_none.mpr fun k hk hheads => ?_
        exact hnew x hl k hk (Leaf.heads_iff.mp hheads).1
      cases hheads : l.heads x <;> simp [standIn, hl, List.find?_append, hfind, hheads]
  have hothers : ∀ k ∈ firsts ls, standIn (ls ++ [l]) k = standIn ls k := by
    intro k hk
    refine standIn_concat_of_not fun x hkx => ?_
    by_contra hheads
    exact hnew x (Leaf.heads_iff.mp (by simpa using hheads)).1 k (firsts_subset ls hk) hkx
  rw [merge, firsts_concat, hrivals, if_neg (by simp), List.map_append, List.map_singleton, hself,
    List.map_congr_left hothers]
  rfl

/-- A leaf that is not primary changes nothing if its session is there already. -/
theorem merge_concat_of_not_primary {x : SessionId} (hl : l.session = some x)
    (hprimary : l.primary = false) (hold : ∃ k ∈ ls, k.session = some x) :
    merge (ls ++ [l]) = merge ls := by
  obtain ⟨k, hk, hkx⟩ := hold
  have hrivals : (ls.any fun k => k.rivals l) = true :=
    List.any_eq_true.mpr ⟨k, hk, rivals_iff.mpr ⟨x, hkx, hl⟩⟩
  rw [merge, firsts_concat, if_pos hrivals]
  refine List.map_congr_left fun k _ => standIn_concat_of_not fun y _ => ?_
  simp [Leaf.heads, hprimary]

/-- A primary leaf takes the place of the leaf of its session. -/
theorem merge_concat_of_primary {x : SessionId} (hids : (ls.map Leaf.id).Nodup)
    (hl : l.heads x = true) (hnone : ∀ k ∈ ls, k.heads x = false) (hk : k ∈ merge ls)
    (hkx : k.session = some x) :
    merge (ls ++ [l]) = (merge ls).map fun k' => if k'.id = k.id then l else k' := by
  obtain ⟨f, hf, rfl⟩ := List.mem_map.mp hk
  rw [session_standIn] at hkx
  have hlx := (Leaf.heads_iff.mp hl).1
  have hrivals : (ls.any fun k => k.rivals l) = true :=
    List.any_eq_true.mpr ⟨f, firsts_subset ls hf, rivals_iff.mpr ⟨x, hkx, hlx⟩⟩
  rw [merge, merge, firsts_concat, if_pos hrivals, List.map_map]
  refine List.map_congr_left fun g hg => ?_
  rw [Function.comp_apply]
  by_cases hgx : g.session = some x
  · obtain rfl := eq_of_firsts hg hf hgx hkx
    rw [if_pos rfl, standIn_concat_of_heads hgx hl hnone]
  · -- A leaf of another session is another leaf.
    have hne : (standIn ls g).id ≠ (standIn ls f).id := by
      intro hid
      have hsame := List.inj_on_of_nodup_map hids (standIn_mem (firsts_subset ls hg))
        (standIn_mem (firsts_subset ls hf)) hid
      have hsession := congrArg Leaf.session hsame
      rw [session_standIn, session_standIn, hkx] at hsession
      exact hgx hsession
    rw [if_neg hne]
    refine standIn_concat_of_not fun y hgy => ?_
    have hother : l.session ≠ some y := by
      rintro hly
      rw [hlx] at hly
      exact hgx (hgy.trans hly.symm)
    simp [Leaf.heads, Leaf.shows, hother]

end Merge

end Leaf

namespace Layout

open Leaf (merge firsts standIn)

/-- The leaves that become tabs when a tree is given up, in order. -/
def merged (s : Layout) : List Leaf := merge s.candidates

variable {s : Layout} {σ : Scene} {tree : Option SplitTree} {bg : List Leaf} {ls : List Leaf}

/-- What is kept of some leaves whose sessions have one primary leaf each at most. -/
theorem Sorting.kept_eq (hids : (ls.map Leaf.id).Nodup)
    (hheads : ∀ x, ls.countP (fun k => k.heads x) ≤ 1) :
    (ls.foldl Sorting.add {}).kept = merge ls := by
  induction ls using List.reverseRecOn with
  | nil => rfl
  | append_singleton ls l ih =>
    have hids' : (ls.map Leaf.id).Nodup := by
      rw [List.map_append] at hids
      exact (List.nodup_append.mp hids).1
    have hcount : ∀ x, ls.countP (fun k => k.heads x) + [l].countP (fun k => k.heads x) ≤ 1 := by
      intro x
      rw [← List.countP_append]
      exact hheads x
    have hkept := ih hids' fun x => Nat.le_trans (Nat.le_add_right _ _) (hcount x)
    rw [List.foldl_append, List.foldl_cons, List.foldl_nil]
    generalize ls.foldl Sorting.add {} = r at hkept ⊢
    unfold Sorting.add
    rw [hkept]
    cases hl : l.session with
    | none => exact (Leaf.merge_concat_of_new (by simp [hl])).symm
    | some x =>
      cases hfind : (merge ls).find? fun k => k.shows x with
      | none =>
        have hnew : ∀ k ∈ ls, k.session ≠ some x := by
          intro k hk hkx
          obtain ⟨k', hk', hsession⟩ := Leaf.exists_merge hk
          have hshows := List.find?_eq_none.mp hfind k' hk'
          simp [hsession, hkx] at hshows
        simp only [hfind]
        refine (Leaf.merge_concat_of_new fun y hy => ?_).symm
        obtain rfl : x = y := Option.some.inj (hl.symm.trans hy)
        exact hnew
      | some k =>
        have hmem := List.mem_of_find?_eq_some hfind
        have hkx : k.session = some x := by simpa using List.find?_some hfind
        cases hprimary : l.primary with
        | true =>
          have hlheads : l.heads x = true := Leaf.heads_iff.mpr ⟨hl, hprimary⟩
          have hzero : ls.countP (fun k => k.heads x) = 0 := by
            have hone := hcount x
            rw [List.countP_singleton, if_pos hlheads] at hone
            omega
          have hnone : ∀ k ∈ ls, k.heads x = false := by simpa using hzero
          simp only [hfind, if_true]
          exact (Leaf.merge_concat_of_primary hids' hlheads hnone hmem hkx).symm
        | false =>
          simp only [hfind, Bool.false_eq_true, if_false]
          have hold : ∃ k ∈ ls, k.session = some x := ⟨k, Leaf.merge_subset ls hmem, hkx⟩
          exact (Leaf.merge_concat_of_not_primary hl hprimary hold).symm

theorem Represents.countP_candidates (h : s.Represents ⟨tree, [], bg⟩) {p : Leaf → Bool}
    (hp : ∀ l, p l.hide = p l) :
    s.candidates.countP p = (⟨tree, [], bg⟩ : Plan).leaves.countP p := by
  rw [← Plan.countP_cards hp, ← h.map_hide_candidates, List.countP_map]
  exact congrArg (s.candidates.countP ·) (funext fun l => (hp l).symm)

theorem Represents.kept_eq (h : s.Represents ⟨tree, [], bg⟩)
    (hheaded : (⟨tree, [], bg⟩ : Plan).Headed) :
    (s.candidates.foldl Sorting.add {}).kept = s.merged := by
  refine Sorting.kept_eq h.nodup_candidates fun x => ?_
  rw [h.countP_candidates fun _ => rfl]
  exact hheaded.single x

theorem Represents.shows_of_candidates (h : s.Represents ⟨tree, [], bg⟩) (x : SessionId) :
    (∃ l ∈ s.candidates, l.session = some x) ↔ (⟨tree, [], bg⟩ : Plan).Shows x := by
  unfold Plan.Shows
  rw [← Plan.exists_cards fun _ => .rfl, ← h.map_hide_candidates]
  simp [Leaf.hide]

/-- What becomes a tab for a session is primary for it. -/
theorem Represents.primary_of_merged (h : s.Represents ⟨tree, [], bg⟩)
    (hheaded : (⟨tree, [], bg⟩ : Plan).Headed) {l : Leaf} (hl : l ∈ s.merged) {x : SessionId}
    (hx : l.session = some x) : l.primary = true := by
  obtain ⟨f, hf, rfl⟩ := List.mem_map.mp hl
  rw [Leaf.session_standIn] at hx
  have hshows := (h.shows_of_candidates x).mp ⟨f, Leaf.firsts_subset _ hf, hx⟩
  have hpos : 0 < s.candidates.countP fun k => k.heads x := by
    rw [h.countP_candidates fun _ => rfl, hheaded.countP_eq_one hshows]
    exact Nat.one_pos
  obtain ⟨k, hk, hheads⟩ := List.countP_pos_iff.mp hpos
  cases hfind : s.candidates.find? fun k => k.heads x with
  | none => exact absurd hheads (List.find?_eq_none.mp hfind k hk)
  | some k' =>
    have hheads' : k'.heads x = true := by simpa using List.find?_some hfind
    simpa [standIn, hx, hfind] using (Leaf.heads_iff.mp hheads').2

theorem promote_of_hasPrimary {x : SessionId} (h : s.hasPrimary x = true) : s.promote x = s := by
  simp [promote, h]

/-- Nobody is crowned where all sessions have primary leaves. -/
theorem Represents.foldl_promote_eq {q : Plan} (h : s.Represents q) {sessions : List SessionId}
    (hprimary : ∀ x ∈ sessions, q.HasPrimary x) : sessions.foldl Layout.promote s = s := by
  induction sessions with
  | nil => rfl
  | cons x sessions ih =>
    rw [List.foldl_cons, promote_of_hasPrimary (h.hasPrimary_iff.mpr (hprimary x (by simp)))]
    exact ih fun y hy => hprimary y (List.mem_cons_of_mem x hy)

/-- The tabs that come of a tree are the merged leaves. -/
theorem Represents.unroot_merged (h : s.Represents ⟨tree, [], bg⟩)
    (hheaded : (⟨tree, [], bg⟩ : Plan).Headed) :
    s.unroot.Represents ⟨none, s.merged.map Leaf.hide, []⟩ ∧ s.unroot.activeTab = s.activeTab ∧
      (s.unroot.focused = s.focused.filter fun id => id ∈ s.merged.map Leaf.id) ∧
      s.unroot.nextId = s.nextId := by
  have hretabbed := h.retabbed
  have hunroot : s.unroot =
      (((s.candidates.foldl Sorting.add {}).kept.filterMap Leaf.session).foldl Layout.promote
        s.retabbed).dropFocus := unroot_eq s
  rw [h.kept_eq hheaded] at hretabbed hunroot
  have hprimary : ∀ x ∈ s.merged.filterMap Leaf.session,
      (⟨none, s.merged.map Leaf.hide, []⟩ : Plan).HasPrimary x := by
    intro x hx
    obtain ⟨l, hl, hlx⟩ := List.mem_filterMap.mp hx
    have hp : l.primary = true := h.primary_of_merged hheaded hl hlx
    refine ⟨l.hide, ?_, hlx, hp⟩
    simpa [Plan.leaves_eq] using ⟨l, hl, rfl⟩
  rw [hretabbed.foldl_promote_eq hprimary] at hunroot
  obtain ⟨hrepresents, hactive, hfocused⟩ := hretabbed.dropFocus
  rw [show s.retabbed.focused = s.focused from rfl] at hfocused
  rw [hunroot]
  refine ⟨hrepresents, hactive, by simpa [Function.comp_def, Leaf.hide] using hfocused, ?_⟩
  unfold Layout.dropFocus
  split <;> rfl

structure Fronts (s : Layout) (ls : List Leaf) (front : PaneId) : Prop where
  tabs : s.tabs = ls.map Leaf.id
  panes : s.panes.Perm (ls.map fun l =>
    .leaf { l with parent := none, visible := l.id == front, focused := l.id == front })
  root : s.root = none
  background : s.background = []
  activeTab : s.activeTab = some front
  focused : s.focused = some front

theorem refocus_front {ids : List PaneId} {old : Option PaneId} {front : PaneId} {l : Leaf}
    (hl : l.id ∈ ids) (hmark : l.focused = true ↔ old = some l.id) :
    Leaf.refocus old (some front) (Leaf.front ids front l) =
      { l with visible := l.id == front, focused := l.id == front } := by
  have hfocused : l.focused = (old == some l.id) := by
    rw [Bool.eq_iff_iff, hmark, beq_iff_eq]
  unfold Leaf.refocus Leaf.front
  rw [if_pos hl]
  by_cases hsame : old = some front
  · have hflag : l.focused = (l.id == front) := by
      rw [hfocused, hsame, Bool.eq_iff_iff, beq_iff_eq, beq_iff_eq, Option.some_inj, eq_comm]
    rw [if_pos hsame, ← hflag]
  · by_cases hfront : l.id = front
    · subst hfront
      simp [hsame]
    · by_cases hold : old = some l.id <;> simp [hsame, hfront, Ne.symm hfront, hold, hfocused]

theorem Presents.fronts {ls : List Leaf} {active focused : Option PaneId} {front : PaneId}
    (h : s.Presents ⟨⟨none, ls, []⟩, active, focused⟩)
    (hmarked : Plan.Marked ⟨none, ls, []⟩ focused) :
    ((s.showTab front).refocus (some front)).Fronts ls front := by
  obtain ⟨hrepresents, hactive, hfocused⟩ := (h.showTab front).refocus (some front)
  have hleaf : ∀ l ∈ ls, Leaf.refocus focused (some front) (Leaf.front (ls.map Leaf.id) front l) =
      { l with visible := l.id == front, focused := l.id == front } := fun l hl =>
    refocus_front (List.mem_map_of_mem hl) (hmarked l (by simpa [Plan.leaves_eq] using hl))
  have hls : (Scene.refocus (Scene.front ⟨⟨none, ls, []⟩, active, focused⟩ front)
      (some front)).plan.tabs =
        ls.map fun l => { l with visible := l.id == front, focused := l.id == front } := by
    simp only [Scene.refocus, Scene.front, Plan.map, List.map_map]
    exact List.map_congr_left hleaf
  refine ⟨?_, ?_, hrepresents.root, hrepresents.background, hactive, hfocused⟩
  · rw [hrepresents.tabs, hls, List.map_map]
    rfl
  · have hpanes := hrepresents.panes
    rw [Plan.panes_eq, hls] at hpanes
    simpa [Plan.parked, Scene.refocus, Scene.front, Plan.map, Function.comp_def] using hpanes

theorem Represents.leaf?_of_merged (h : s.Represents ⟨tree, [], bg⟩) {l : Leaf}
    (hl : l ∈ s.merged) : s.leaf? l.id = some l := by
  rcases List.mem_append.mp (Leaf.merge_subset s.candidates hl) with hl | hl
  · simp [leaf?, (h.pane?_of_mem_leaves hl).1, Pane.leaf?]
  · obtain ⟨id, -, hid⟩ := List.mem_filterMap.mp hl
    obtain ⟨-, -, -, rfl⟩ := h.leaf?_eq_some hid
    exact hid

/-- The leaves that become tabs bear the mark of the focus if they have it. -/
theorem Represents.marked_merged {focused : Option PaneId} (h : s.Represents ⟨tree, [], bg⟩)
    (hmarked : (⟨tree, [], bg⟩ : Plan).Marked focused) :
    Plan.Marked ⟨none, s.merged.map Leaf.hide, []⟩
      (focused.filter fun id => id ∈ s.merged.map Leaf.id) := by
  have hcandidates : ∀ l ∈ s.candidates, (l.focused = true ↔ focused = some l.id) := by
    have hcards := (Plan.forall_cards (P := fun l => (l.focused = true ↔ focused = some l.id))
      (fun _ => .rfl) ⟨tree, [], bg⟩).mpr hmarked
    rw [← h.map_hide_candidates] at hcards
    exact fun l hl => hcards l.hide (List.mem_map_of_mem hl)
  intro l hl
  obtain ⟨k, hk, rfl⟩ : ∃ k ∈ s.merged, k.hide = l := by simpa [Plan.leaves_eq] using hl
  have hmem : k.hide.id ∈ s.merged.map Leaf.id := List.mem_map.mpr ⟨k, hk, rfl⟩
  refine (hcandidates k (Leaf.merge_subset _ hk)).trans ?_
  rw [Option.filter_eq_some_iff]
  exact (and_iff_left (by simpa using hmem)).symm

theorem Fronts.unhide {ls ks : List Leaf} {front : PaneId}
    (h : s.Fronts (ls.map Leaf.hide ++ ks) front) : s.Fronts (ls ++ ks) front where
  tabs := by simpa [Function.comp_def, Leaf.hide] using h.tabs
  panes := by simpa [Function.comp_def, Leaf.hide] using h.panes
  root := h.root
  background := h.background
  activeTab := h.activeTab
  focused := h.focused

/-- How a tree gives way to tabs: which leaves they are, and what the operations that bring this
about leave. -/
structure Merges (s : Layout) : Prop where
  kept : ∀ l ∈ s.merged, s.leaf? l.id = some l ∧ ∀ x, l.session = some x → l.primary = true
  focused : s.unroot.focused = s.focused.filter fun id => id ∈ s.merged.map Leaf.id
  createTab : ∀ x, ∃ new s' told, s.run (Layout.createTab x) = (.ok new.id, s', told) ∧
    new.id = ⟨s.nextId⟩ ∧ new.session = some x ∧ s'.Fronts (s.merged ++ [new]) new.id
  activate : ∀ x, (∀ l ∈ s.leaves, l.session ≠ some x) →
    (∃ id ∈ s.background, s.showsAt x id = true) →
    ∃ l ∈ s.merged, l.session = some x ∧
      ∃ s' told, s.run (Layout.activate x) = (.ok l.id, s', told) ∧ s'.Fronts s.merged l.id

/-- The tabs that have come of a tree, with what is left of the focus. -/
structure Unrooted (s : Layout) (active focused : Option PaneId) : Prop where
  presents : s.unroot.Presents ⟨⟨none, s.merged.map Leaf.hide, []⟩, active, focused⟩
  marked : Plan.Marked ⟨none, s.merged.map Leaf.hide, []⟩ focused
  focused : focused = s.focused.filter fun id => id ∈ s.merged.map Leaf.id
  nextId : s.unroot.nextId = s.nextId

theorem Represents.unrooted (h : s.Represents ⟨tree, [], bg⟩)
    (hheaded : (⟨tree, [], bg⟩ : Plan).Headed)
    (hmarked : (⟨tree, [], bg⟩ : Plan).Marked s.focused) :
    s.Unrooted s.activeTab (s.focused.filter fun id => id ∈ s.merged.map Leaf.id) := by
  obtain ⟨hunroot, hactive, hfocused, hnext⟩ := h.unroot_merged hheaded
  exact ⟨⟨hunroot, hactive, hfocused⟩, h.marked_merged hmarked, rfl, hnext⟩

section Unrooted

variable {active focused : Option PaneId} (h : s.Unrooted active focused)
  (htabbed : s.tabbed = false) (x : SessionId)

include h htabbed

theorem Unrooted.createTab : ∃ new s' told, s.run (createTab x) = (.ok new.id, s', told) ∧
    new.id = ⟨s.nextId⟩ ∧ new.session = some x ∧ s'.Fronts (s.merged ++ [new]) new.id := by
  obtain ⟨hpresents, hmarked, hfocused, hnext⟩ := h
  let new := s.unroot.tabLeaf x
  have hjoins : Plan.Joins ⟨none, s.merged.map Leaf.hide, []⟩ new :=
    hpresents.represents.joins (Nat.le_refl _) (some x)
  have hpresents' : (s.unroot.withTab new).Presents
      ⟨⟨none, s.merged.map Leaf.hide ++ [new], []⟩, active, focused⟩ :=
    ⟨hpresents.represents.appendTab new rfl rfl, hpresents.active, hpresents.focused⟩
  have hnew : ¬focused = some new.id := by
    intro hfocus
    rw [hfocused, Option.filter_eq_some_iff, decide_eq_true_eq] at hfocus
    obtain ⟨l, hl, hid⟩ := List.mem_map.mp hfocus.2
    exact hjoins.apart l.hide (by simpa [Plan.leaves_eq] using ⟨l, hl, rfl⟩) hid
  have hmarked' : Plan.Marked ⟨none, s.merged.map Leaf.hide ++ [new], []⟩ focused :=
    (Plan.Marked.adds (Plan.adds_newTab _ new)).mpr
      ⟨by simpa [hjoins.unfocused] using hnew, hmarked⟩
  have hrun := exec_createTab s x
  rw [show s.asTabs = s.unroot from if_neg (by simp [htabbed])] at hrun
  exact ⟨new, _, _, by rw [run_eq, hrun], congrArg PaneId.mk hnext, rfl,
    (hpresents'.fronts hmarked').unhide⟩

theorem Unrooted.activate (hroot : s.root.isNone = false)
    (hleaves : ∀ l ∈ s.leaves, l.session ≠ some x)
    (hbehind : ∃ id ∈ s.background, s.showsAt x id = true)
    (hshown : ∃ l ∈ s.merged, l.session = some x) :
    ∃ l ∈ s.merged, l.session = some x ∧
      ∃ s' told, s.run (Layout.activate x) = (.ok l.id, s', told) ∧ s'.Fronts s.merged l.id := by
  obtain ⟨hpresents, hmarked, -, -⟩ := h
  have hr := hpresents.represents
  have hshows : ∀ l ∈ s.merged, (s.unroot.showsAt x l.id = true ↔ l.session = some x) := by
    intro l hl
    have hmem : l.hide ∈ (⟨none, s.merged.map Leaf.hide, []⟩ : Plan).leaves := by
      simpa [Plan.leaves_eq] using ⟨l, hl, rfl⟩
    exact hr.showsAt_iff (l := l.hide) hmem
  have htabs : s.unroot.tabs = s.merged.map Leaf.id := by
    rw [hr.tabs, List.map_map]
    rfl
  obtain ⟨target, hfind⟩ : ∃ id, s.unroot.tabs.find? (s.unroot.showsAt x) = some id := by
    obtain ⟨l, hl, hx⟩ := hshown
    rw [← Option.isSome_iff_exists, List.find?_isSome, htabs]
    exact ⟨l.id, List.mem_map_of_mem hl, (hshows l hl).mpr hx⟩
  have htarget := List.mem_of_find?_eq_some hfind
  rw [htabs] at htarget
  obtain ⟨l, hl, rfl⟩ := List.mem_map.mp htarget
  have hrun : Edit.exec (Layout.activate x) ⟨s, []⟩ = Edit.exec (activateTab x) ⟨s.unroot, []⟩ := by
    have hnone : (s.leaves.find? fun l => l.shows x) = none := by simpa using hleaves
    have hany : s.background.any (s.showsAt x) = true := List.any_eq_true.mpr hbehind
    simp only [Layout.activate, Edit.exec_bind _ _ ⟨s, []⟩, Edit.exec_layout, htabbed, hroot, hnone,
      hany]
    rfl
  rw [exec_activateTab hfind] at hrun
  have hfronts : (((s.unroot.showTab l.id).refocus (some l.id)).Fronts
      (s.merged.map Leaf.hide ++ []) l.id) := by
    rw [List.append_nil]
    exact hpresents.fronts hmarked
  refine ⟨l, hl, (hshows l hl).mp (List.find?_some hfind), _, _, by rw [run_eq, hrun], ?_⟩
  simpa using hfronts.unhide

end Unrooted

theorem Presents.merges (h : s.Presents σ) (htabbed : s.tabbed = false) (ho : σ.Orderly)
    (hheaded : σ.plan.Headed) : s.Merges := by
  obtain ⟨⟨tree, tabs, bg⟩, active, focused⟩ := σ
  have hr : s.Represents ⟨tree, tabs, bg⟩ := h.represents
  obtain rfl : tabs = [] := by simpa [tabbed, hr.tabs] using htabbed
  have hmarked : (⟨tree, [], bg⟩ : Plan).Marked s.focused := by
    rw [h.focused]
    exact ho.marked
  have hunrooted := hr.unrooted hheaded hmarked
  refine ⟨fun l hl => ⟨hr.leaf?_of_merged hl, fun x hx => hr.primary_of_merged hheaded hl hx⟩,
    hunrooted.presents.focused, hunrooted.createTab htabbed, fun x hleaves hbehind => ?_⟩
  have hroot : s.root.isNone = false := by
    obtain ⟨id, hid, -⟩ := hbehind
    rw [hr.background] at hid
    rw [hr.root]
    cases tree with
    | some t => rfl
    | none =>
      obtain rfl : bg = [] := hr.behind rfl
      cases hid
  refine hunrooted.activate htabbed x hroot hleaves hbehind ?_
  -- A session that waits in the background is shown, so it has a tab.
  have hdisplays : s.displays x = true := by
    rw [hr.displays_tree htabbed, Bool.or_eq_true, List.any_eq_true, List.any_eq_true]
    exact .inr hbehind
  obtain ⟨l, hl, hx⟩ := (hr.shows_of_candidates x).mpr (hr.displays_iff.mp hdisplays)
  obtain ⟨k, hk, hsession⟩ := Leaf.exists_merge hl
  exact ⟨k, hk, hsession.trans hx⟩

/-- Whatever was asked of an empty layout, a tree gives way to the tabs that are due. -/
theorem merges_after_operations (splitRatio : Binary64) (nextId : Nat) (ops : List Operation)
    (htabbed : (ops.foldl apply { splitRatio, nextId }).tabbed = false) :
    (ops.foldl apply { splitRatio, nextId }).Merges := by
  obtain ⟨σ, h, ho, hheaded⟩ := presents_of_operations
    (P := fun σ => σ.Orderly ∧ σ.plan.Headed) ⟨.empty, Plan.headed_empty⟩
    (fun σ _ _ σ' hσ hstep => ⟨Scene.Step.orderly hstep hσ.1, hstep.headed hσ.2⟩)
    splitRatio nextId ops
  exact h.merges htabbed ho hheaded

/-- Behind a tree wait the primary leaf of a session that the tree shows too, and the only leaf of
another session. When this one is activated, the first has the place of its mirror. -/
theorem merged_behind_mirror :
    let s := [.createTab ⟨7⟩, .createTab ⟨9⟩, .createTab ⟨8⟩, .split ⟨3⟩ .vertical (some ⟨7⟩),
      .split ⟨3⟩ .horizontal none].foldl apply {}
    s.tabbed = false ∧ s.leafIds = [⟨3⟩, ⟨7⟩, ⟨5⟩] ∧ s.background = [⟨1⟩, ⟨2⟩] ∧
      ∃ s' told, s.run (activate ⟨9⟩) = (.ok ⟨2⟩, s', told) ∧
        s'.tabs = [⟨3⟩, ⟨7⟩, ⟨1⟩, ⟨2⟩] := by
  intro s
  have htabbed : s.tabbed = false := by decide
  have hmerged : s.merged.map Leaf.id = [⟨3⟩, ⟨7⟩, ⟨1⟩, ⟨2⟩] := by decide
  have htarget : ∀ l ∈ s.merged, l.session = some ⟨9⟩ → l.id = ⟨2⟩ := by decide
  obtain ⟨l, hl, hx, s', told, hrun, hfronts⟩ :=
    (merges_after_operations .half 1 _ htabbed).activate ⟨9⟩ (by decide) (by decide)
  rw [htarget l hl hx] at hrun
  exact ⟨htabbed, by decide, by decide, s', told, hrun, hfronts.tabs.trans hmerged⟩

end Layout

end Multiplexer
