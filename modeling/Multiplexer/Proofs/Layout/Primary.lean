import Multiplexer.Proofs.Layout.Operations

/-!
# Primary leaves

Of the leaves that show a session one is primary. A new leaf is primary only if
its session has no such leaf, one that goes passes the flag on, and where tabs
are made of a tree the one leaf that is kept for a session has it.
-/

namespace Multiplexer

namespace Leaf

/-- Primary for a session. -/
def heads (l : Leaf) (x : SessionId) : Bool := l.shows x && l.primary

theorem heads_iff {l : Leaf} {x : SessionId} :
    l.heads x = true ↔ l.session = some x ∧ l.primary = true := by simp [heads]

end Leaf

namespace Plan

structure Headed (q : Plan) : Prop where
  single : ∀ x, q.leaves.countP (fun l => l.heads x) ≤ 1
  every : ∀ x, q.Shows x → q.HasPrimary x
  blank : ∀ l ∈ q.leaves, l.session = none → l.primary = false

variable {q q' : Plan} {l : Leaf}

theorem countP_heads_eq_zero {x : SessionId} (h : ¬q.HasPrimary x) :
    q.leaves.countP (fun l => l.heads x) = 0 :=
  List.countP_eq_zero.mpr fun l hl he => h ⟨l, hl, Leaf.heads_iff.mp he⟩

theorem Headed.countP_eq_one (h : q.Headed) {x : SessionId} (hshows : q.Shows x) :
    q.leaves.countP (fun l => l.heads x) = 1 := by
  obtain ⟨l, hl, he⟩ := h.every x hshows
  have hpos : 0 < q.leaves.countP fun l => l.heads x :=
    List.countP_pos_iff.mpr ⟨l, hl, Leaf.heads_iff.mpr he⟩
  exact Nat.le_antisymm (h.single x) hpos

theorem headed_empty : Headed {} where
  single x := by simp [leaves_eq]
  every x h := by simp [Shows, leaves_eq] at h
  blank := by simp [leaves_eq]

/-- Where leaves stand, and the order among them, is no matter of their heads. -/
theorem Headed.ofAdds (h : q.Headed) (hadds : q.Adds [] q') : q'.Headed where
  single x := by
    rw [hadds.countP_eq (p := fun l => l.heads x) fun _ => rfl]
    simpa using h.single x
  every x hshows := by
    have hq : q.Shows x := by simpa using (hadds.shows_iff x).mp hshows
    exact (hadds.hasPrimary_iff x).mpr (.inr (h.every x hq))
  blank := ((hadds.forall_iff fun _ => .rfl).mpr ⟨by simp, h.blank⟩)

/-- Focus and sight are no matter of the heads. -/
theorem Headed.map {f : Leaf → Leaf} (h : q.Headed) (hsession : ∀ l, (f l).session = l.session)
    (hprimary : ∀ l, (f l).primary = l.primary) : (q.map f).Headed where
  single x := by
    rw [leaves_map, List.countP_map]
    refine le_of_eq_of_le (congrArg (q.leaves.countP ·) (funext fun l => ?_)) (h.single x)
    simp [Leaf.heads, Leaf.shows, hsession, hprimary]
  every x hshows := by
    have hprimary' := h.every x (by simpa [Shows, hsession] using hshows)
    simpa [HasPrimary, hsession, hprimary] using hprimary'
  blank := by
    simp only [leaves_map, List.forall_mem_map, hsession, hprimary]
    exact h.blank

/-- A leaf that comes in leaves every session with one head. -/
theorem Headed.join (h : q.Headed) (hjoins : q.Joins l) (hadds : q.Adds [l] q') :
    q'.Headed where
  single x := by
    rw [hadds.countP_eq (p := fun l => l.heads x) fun _ => rfl, List.countP_singleton]
    split
    · rename_i hheads
      obtain ⟨hx, hprimary⟩ := Leaf.heads_iff.mp hheads
      obtain ⟨y, hy, hnone⟩ := hjoins.yields hprimary
      obtain rfl : x = y := Option.some.inj (hx.symm.trans hy)
      exact Nat.le_of_eq (congrArg (1 + ·) (countP_heads_eq_zero hnone))
    · rw [Nat.zero_add]
      exact h.single x
  every x hshows := by
    rw [hadds.hasPrimary_iff]
    have hq : q.Shows x → q.HasPrimary x := h.every x
    rcases (hadds.shows_iff x).mp hshows with ⟨k, hk, hx⟩ | hshows
    · obtain rfl := List.mem_singleton.mp hk
      rcases hjoins.heads x hx with hshows | hprimary
      · exact .inr (hq hshows)
      · exact .inl ⟨k, hk, hx, hprimary⟩
    · exact .inr (hq hshows)
  blank := by
    refine (hadds.forall_iff (P := fun k => k.session = none → k.primary = false)
      fun _ => .rfl).mpr ⟨fun k hk hnone => ?_, h.blank⟩
    obtain rfl := List.mem_singleton.mp hk
    by_contra hprimary
    obtain ⟨x, hx, -⟩ := hjoins.yields (by simpa using hprimary)
    simp [hnone] at hx

/-- Tabs made of a tree leave every session with one head. -/
theorem Headed.collapse {tabs : List Leaf} (h : q.Headed) (hcollapses : q.Collapses tabs) :
    Headed ⟨none, tabs, []⟩ := by
  have hleaves : (⟨none, tabs, []⟩ : Plan).leaves = tabs := by simp [leaves_eq]
  refine ⟨fun x => ?_, fun x hshows => ?_, fun k hk hnone => ?_⟩
  · rw [hleaves]
    refine Nat.le_trans (List.countP_mono_left fun k _ hk => ?_) (hcollapses.single x)
    exact Leaf.shows_iff.mpr (Leaf.heads_iff.mp hk).1
  · rw [Shows, hleaves] at hshows
    obtain ⟨k, hk, hx⟩ := hshows
    obtain ⟨l, hl, -, hsession, -⟩ := hcollapses.kept k hk
    rw [HasPrimary, hleaves]
    exact hcollapses.primary x ⟨l, hl, hsession.symm.trans hx⟩
  · rw [hleaves] at hk
    obtain ⟨l, hl, -, hsession, -, hprimary⟩ := hcollapses.kept k hk
    have hl_none : l.session = none := hsession.symm.trans hnone
    rw [hprimary hl_none, h.blank l hl hl_none]

/-- Crowning a leaf by its id leaves the others as they are. -/
theorem leaves_map_crown {heir : Leaf} (hmem : heir ∈ q.leaves)
    (hnodup : (q.leaves.map Leaf.id).Nodup) :
    ∃ as bs, q.leaves = as ++ heir :: bs ∧ (q.map (Leaf.crown [heir.id])).leaves =
      as ++ { heir with primary := true } :: bs := by
  obtain ⟨as, bs, hleaves⟩ := List.append_of_mem hmem
  rw [hleaves, List.map_append, List.map_cons, List.nodup_middle, List.nodup_cons,
    ← List.map_append] at hnodup
  have helse : ∀ k ∈ as ++ bs, Leaf.crown [heir.id] k = k := by
    intro k hk
    have hne : k.id ≠ heir.id := fun he => hnodup.1 (he ▸ List.mem_map_of_mem hk)
    simp [Leaf.crown, hne]
  have hheir : Leaf.crown [heir.id] heir = { heir with primary := true } := by simp [Leaf.crown]
  refine ⟨as, bs, hleaves, ?_⟩
  rw [leaves_map, hleaves, List.map_append, List.map_cons, hheir,
    List.map_congr_left fun k hk => helse k (List.mem_append_left _ hk),
    List.map_congr_left fun k hk => helse k (List.mem_append_right _ hk), List.map_id',
    List.map_id']

/-- A leaf that goes leaves no session without a head. -/
theorem Headed.bequeath {p : Plan} (h : p.Headed) (hadds : q.Adds [l] p)
    (hbequeaths : q.Bequeaths l q') : q'.Headed := by
  have hsingle : ∀ x, q.leaves.countP (fun l => l.heads x) ≤ 1 := by
    intro x
    refine Nat.le_trans ?_ (h.single x)
    rw [hadds.countP_eq (p := fun l => l.heads x) fun _ => rfl]
    exact Nat.le_add_left _ _
  have hblank : ∀ k ∈ q.leaves, k.session = none → k.primary = false :=
    ((hadds.forall_iff fun _ => .rfl).mp h.blank).2
  -- Only the session of the leaf that goes may be without a head.
  have hsome : ∀ x, q.Shows x → q.HasPrimary x ∨ l.session = some x ∧ l.primary = true := by
    intro x hshows
    have hprimary := h.every x ((hadds.shows_iff x).mpr (.inr hshows))
    rcases (hadds.hasPrimary_iff x).mp hprimary with ⟨k, hk, hx, hp⟩ | hprimary
    · obtain rfl := List.mem_singleton.mp hk
      exact .inr ⟨hx, hp⟩
    · exact .inl hprimary
  cases hbequeaths with
  | keep hkeep =>
    refine ⟨hsingle, fun x hshows => ?_, hblank⟩
    rcases hsome x hshows with hprimary | ⟨hx, hp⟩
    · exact hprimary
    · exact hkeep x hx hp hshows
  | pass x heir hx hnone hmem hheir hnodup =>
    obtain ⟨as, bs, hleaves, hcrowned⟩ := leaves_map_crown hmem hnodup
    refine ⟨fun y => ?_, fun y hshows => ?_, fun k hk hk_none => ?_⟩
    · by_cases hxy : heir.session = some y
      · obtain rfl : x = y := Option.some.inj (hheir.symm.trans hxy)
        have hzero := countP_heads_eq_zero hnone
        rw [hleaves, List.countP_append, List.countP_cons] at hzero
        rw [hcrowned, List.countP_append, List.countP_cons]
        split_ifs <;> omega
      · have hcount := hsingle y
        rw [hleaves, List.countP_append, List.countP_cons] at hcount
        rw [hcrowned, List.countP_append, List.countP_cons]
        simpa [Leaf.heads, Leaf.shows, hxy] using hcount
    · have hq := (q.shows_map (.ofCrown _) y).mp hshows
      rcases hsome y hq with hprimary | ⟨hy, -⟩
      · exact hprimary.crown _
      · obtain rfl : x = y := Option.some.inj (hx.symm.trans hy)
        rw [HasPrimary, hcrowned]
        exact ⟨{ heir with primary := true }, by simp, hheir, rfl⟩
    · rw [hcrowned, List.mem_append, List.mem_cons] at hk
      have hother : k = { heir with primary := true } ∨ k ∈ q.leaves := by
        rw [hleaves, List.mem_append, List.mem_cons]
        tauto
      rcases hother with rfl | hk
      · simp [hheir] at hk_none
      · exact hblank k hk hk_none

end Plan

namespace Scene

variable {σ σ' : Scene}

theorem headed_refocus (h : σ.plan.Headed) (target : Option PaneId) :
    (σ.refocus target).plan.Headed :=
  h.map (Leaf.FlagChange.ofRefocus _ _).session (Leaf.primary_refocus _ _)

theorem headed_front (h : σ.plan.Headed) (id : PaneId) : (σ.front id).plan.Headed :=
  h.map (Leaf.FlagChange.ofFront _ _).session (Leaf.primary_front _ _)

theorem Gathered.headed {tabs : List Leaf} {focused : Option PaneId}
    (hgathered : σ.Gathered tabs focused) (h : σ.plan.Headed) : Plan.Headed ⟨none, tabs, []⟩ := by
  cases hgathered with
  | tabs tabs hplan => rwa [← hplan]
  | tree tree tabs bg hplan hcollapses => exact h.collapse hcollapses

/-- Every step leaves every session with one head. -/
theorem Step.headed {c : Change} {told : List Notice} (hstep : σ.Step c told σ')
    (h : σ.plan.Headed) : σ'.plan.Headed := by
  cases hstep with
  | idle => exact h
  | cleared => exact Plan.headed_empty
  | rooted l hplan hjoins =>
    refine headed_refocus (h.join hjoins ?_) _
    rw [hplan]
    exact List.Perm.refl _
  | split ctx l new bg active box o r hready hjoins =>
    exact headed_refocus ((h.ofAdds hready.adds).join hjoins
      (Plan.adds_split ctx box o r l new bg)) _
  | tab tabs new focused hgathered hjoins =>
    have hjoined := (hgathered.headed h).join hjoins (Plan.adds_newTab tabs new)
    exact headed_refocus (headed_front hjoined _) _
  | closed l q q' active focus htaken hbequeaths =>
    exact headed_refocus (h.bequeath htaken.adds hbequeaths) _
  | moved t bg l => exact headed_refocus h _
  | fronted tabs l focused hgathered =>
    exact headed_refocus (headed_front (hgathered.headed h) _) _
  | resized ctx id o old new a b bg hplan =>
    refine h.ofAdds ?_
    rw [hplan]
    simp [Plan.Adds, Plan.cards, Plan.leaves_eq, Context.leaves_fill, SplitTree.leaves]

end Scene

namespace Layout

/-- Every session that is shown has one primary leaf, and no other leaf is primary. -/
structure Headed (s : Layout) : Prop where
  one : ∀ l ∈ s.held, ∀ x, l.session = some x → s.held.countP (fun k => k.heads x) = 1
  blank : ∀ l ∈ s.held, l.session = none → l.primary = false
  found : ∀ x, (s.primaryFor x).isSome = s.displays x

variable {s : Layout} {q : Plan}

theorem Represents.headed (h : s.Represents q) (hq : q.Headed) : s.Headed where
  one := by
    refine (h.forall_held fun _ _ => .rfl).mpr fun l hl x hx => ?_
    rw [h.countP_held fun _ _ => rfl]
    exact hq.countP_eq_one ⟨l, hl, hx⟩
  blank := (h.forall_held fun _ _ => .rfl).mpr hq.blank
  found x := by
    have hprimary : (s.primaryFor x).isSome = true ↔ q.HasPrimary x := h.hasPrimary_iff
    rw [Bool.eq_iff_iff, hprimary, h.displays_iff]
    exact ⟨fun ⟨l, hl, hx, _⟩ => ⟨l, hl, hx⟩, hq.every x⟩

/-- Whatever is asked of an empty layout, every session that is shown has one primary leaf. -/
theorem headed_of_operations (splitRatio : Binary64) (nextId : Nat) (ops : List Operation) :
    (ops.foldl apply { splitRatio, nextId }).Headed := by
  obtain ⟨σ, h, hheaded⟩ := presents_of_operations (P := fun σ => σ.plan.Headed) Plan.headed_empty
    (fun σ _ _ σ' hheaded hstep => hstep.headed hheaded) splitRatio nextId ops
  exact h.represents.headed hheaded

end Layout

end Multiplexer
