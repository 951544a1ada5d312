import Mathlib.Tactic.SplitIfs
import Multiplexer.Proofs.Layout.Operations

/-!
# Proportions

Every container divides its space in a proper ratio. A new container starts at the
ratio of its layout, a ratio that is set is checked first, and nothing else touches
ratios, so that each step of an edit keeps them proper, also of one that fails.
-/

namespace Multiplexer

def Pane.Proper (p : Pane) : Prop := ∀ c, p = .container c → properRatio c.ratio = true

namespace Pane

theorem proper_leaf (l : Leaf) : Proper (.leaf l) := by
  rintro c ⟨⟩

theorem proper_container {c : Container} : Proper (.container c) ↔ properRatio c.ratio = true :=
  ⟨fun h => h c rfl, fun h c' he => by cases he; exact h⟩

theorem Proper.withParent {p : Pane} (h : p.Proper) (parent : Option PaneId) :
    (p.withParent parent).Proper := by
  cases p with
  | leaf l => exact proper_leaf _
  | container c => exact proper_container.2 (proper_container (c := c).1 h)

theorem Proper.mapLeaf {p : Pane} (h : p.Proper) (f : Leaf → Leaf) : (p.mapLeaf f).Proper := by
  cases p with
  | leaf l => exact proper_leaf _
  | container c => exact h

end Pane

namespace Layout

/-- Whether all containers are in proportion, and those to come will be. -/
structure Proportioned (s : Layout) : Prop where
  next : properRatio s.splitRatio = true
  panes : ∀ p ∈ s.panes, p.Proper

namespace Proportioned

variable {s : Layout} (h : s.Proportioned)

include h

/-- Neither the ratio for new containers nor a pane is touched. -/
theorem same {t : Layout} (hratio : t.splitRatio = s.splitRatio) (hpanes : t.panes = s.panes) :
    t.Proportioned := ⟨hratio ▸ h.next, hpanes ▸ h.panes⟩

theorem modify {f : Pane → Pane} (hf : ∀ p, p.Proper → (f p).Proper) (id : PaneId) :
    (s.modify id f).Proportioned := by
  refine ⟨h.next, fun p hp => ?_⟩
  obtain ⟨q, hq, rfl⟩ := List.mem_map.1 hp
  split
  · exact hf q (h.panes q hq)
  · exact h.panes q hq

theorem modifyLeaf (f : Leaf → Leaf) (id : PaneId) : (s.modifyLeaf id f).Proportioned :=
  h.modify (fun p hp => by cases p <;> exact hp.mapLeaf f) id

theorem remove (id : PaneId) : (s.remove id).Proportioned :=
  ⟨h.next, fun p hp => h.panes p (List.mem_of_mem_filter hp)⟩

theorem add {p : Pane} (hp : p.Proper) : (s.add p).Proportioned := by
  refine ⟨h.next, fun q hq => ?_⟩
  rcases List.mem_append.1 hq with hq | hq
  · exact h.panes q hq
  · exact List.mem_singleton.1 hq ▸ hp

/-- Any number of leaves are changed. -/
theorem modifyLeaves {α : Type} (xs : List α) (id : α → PaneId) (f : α → Leaf → Leaf) :
    (xs.foldl (fun s x => s.modifyLeaf (id x) (f x)) s).Proportioned := by
  induction xs generalizing s with
  | nil => exact h
  | cons x xs ih => exact ih (h.modifyLeaf (f x) (id x))

theorem mapLeaves (f : Leaf → Leaf) : (s.mapLeaves f).Proportioned := by
  refine ⟨h.next, fun p hp => ?_⟩
  obtain ⟨q, hq, rfl⟩ := List.mem_map.1 hp
  exact (h.panes q hq).mapLeaf f

theorem refocus (target : Option PaneId) : (s.refocus target).Proportioned := by
  rw [refocus_eq]
  exact (h.mapLeaves _).same rfl rfl

theorem showTab (active : PaneId) : (s.showTab active).Proportioned :=
  (h.modifyLeaves s.tabs (fun id => id) _).same rfl rfl

theorem promote (session : SessionId) : (s.promote session).Proportioned := by
  unfold Layout.promote
  split
  · exact h
  · split
    · exact h.modifyLeaf _ _
    · exact h

theorem plant (chosen : PaneId) : (s.plant chosen).Proportioned :=
  ((h.modifyLeaves _ (fun id => id) _).modifyLeaf _ chosen).same rfl rfl

theorem promoteAll (sessions : List SessionId) :
    (sessions.foldl Layout.promote s).Proportioned := by
  induction sessions generalizing s with
  | nil => exact h
  | cons x sessions ih => exact ih (h.promote x)

theorem unroot : s.unroot.Proportioned := by
  let sorted := s.candidates.foldl Sorting.add {}
  let gathered : Layout := { s with
    panes := s.panes.filter fun p => p.isLeaf && !sorted.dropped.contains p.id
    background := [], root := none, tabs := sorted.kept.map Leaf.id }
  have hgathered : gathered.Proportioned :=
    ⟨h.next, fun p hp => h.panes p (List.mem_of_mem_filter hp)⟩
  have htabs := (hgathered.modifyLeaves (sorted.kept.map Leaf.id) (fun id => id) fun _ l =>
    { l with parent := none, visible := false }).promoteAll (sorted.kept.filterMap Leaf.session)
  unfold Layout.unroot
  dsimp only
  split
  · exact htabs.same rfl rfl
  · exact htabs

theorem restore : s.restore.2.Proportioned := by
  unfold Layout.restore
  split
  · exact h
  · exact (h.modifyLeaf _ _).same rfl rfl

end Proportioned

open Edit

/-- Whether an edit leaves a proportioned layout of every proportioned one. -/
def KeepsRatios {α : Type} (e : Edit α) : Prop :=
  ∀ d, d.layout.Proportioned → (exec e d).2.layout.Proportioned

namespace KeepsRatios

variable {α β : Type}

theorem pure (a : α) : KeepsRatios (pure a : Edit α) := fun _ h => h

theorem throw (x : LayoutError) : KeepsRatios (throw x : Edit α) := fun _ h => h

/-- One such edit after the other keeps ratios proper. -/
theorem bind {e : Edit α} {f : α → Edit β} (he : KeepsRatios e) (hf : ∀ a, KeepsRatios (f a)) :
    KeepsRatios (e >>= f) := by
  intro d h
  have hd := he d h
  rw [exec_bind]
  rcases hrun : exec e d with ⟨r | a, d'⟩
  · rwa [hrun] at hd
  · rw [hrun] at hd
    exact hf a d' hd

/-- Nothing comes after a refusal. -/
theorem refuse (x : LayoutError) (f : α → Edit β) : KeepsRatios (MonadExcept.throw x >>= f) :=
  fun _ h => h

theorem ite {p : Prop} [Decidable p] {e₁ e₂ : Edit α} (h₁ : p → KeepsRatios e₁)
    (h₂ : ¬p → KeepsRatios e₂) : KeepsRatios (if p then e₁ else e₂) := by
  split
  · exact h₁ ‹p›
  · exact h₂ ‹¬p›

theorem layout : KeepsRatios layout := fun _ h => h

theorem send (n : Notice) : KeepsRatios (send n) := fun _ h => h

theorem newId : KeepsRatios newId := fun _ h => h.same rfl rfl

theorem update {f : Layout → Layout} (hf : ∀ s : Layout, s.Proportioned → (f s).Proportioned) :
    KeepsRatios (update f) := fun d h => hf d.layout h

/-- The layout at the start of the rest of an edit is proportioned. -/
theorem fromLayout {f : Layout → Edit β} (hf : ∀ s : Layout, s.Proportioned → KeepsRatios (f s)) :
    KeepsRatios (Edit.layout >>= f) := fun d h => by
  rw [exec_bind, exec_layout]
  exact hf d.layout h d h

theorem requireLeaf (id : PaneId) : KeepsRatios (requireLeaf id) := by
  intro d h
  rw [exec_requireLeaf]
  split <;> exact h

theorem finish (id : PaneId) : KeepsRatios (finish id) := fun d h => by
  rw [exec_finish]
  exact h.refocus _

theorem settle (target : Option PaneId) : KeepsRatios (settle target) := fun d h => by
  rw [exec_settle]
  exact h.refocus _

theorem attach (id : PaneId) (parent : Option PaneId) (previous : PaneId) :
    KeepsRatios (attach id parent previous) := by
  have hlink : KeepsRatios (do
      if ((← Edit.layout).pane? id).isNone then MonadExcept.throw (LayoutError.paneNotFound id)
      Edit.update (·.modify id (Pane.withParent parent))) :=
    .bind .layout fun s => .ite (fun _ => .refuse _ _) fun _ =>
      .update fun _ ht => ht.modify (fun _ hp => hp.withParent parent) id
  unfold Layout.attach
  cases parent with
  | none => exact .bind (.update fun _ hs => hs.same rfl rfl) fun _ => hlink
  | some p =>
    refine .fromLayout fun s hs => ?_
    cases hp : s.pane? p with
    | none => exact .refuse _ _
    | some x =>
      cases x with
      | leaf l => exact .refuse _ _
      | container c =>
        have hc : properRatio c.ratio = true := hs.panes _ (List.mem_of_find?_eq_some hp) c rfl
        refine .bind (.update fun _ ht => ht.modify (fun _ _ => ?_) p) fun _ => hlink
        refine Pane.proper_container.2 ?_
        unfold Container.replaceChild
        split_ifs <;> exact hc

/-- A new container starts with the ratio of its layout. -/
theorem insertSplit (target : PaneId) (orientation : Orientation) (session : Option SessionId)
    (primary : Bool) : KeepsRatios (insertSplit target orientation session primary) := by
  refine .fromLayout fun s hs => ?_
  cases s.pane? target with
  | none => exact .throw _
  | some pane =>
    refine .bind .newId fun box => .bind .newId fun new => ?_
    refine .bind (.update fun _ ht => ht.add (Pane.proper_container.2 hs.next)) fun _ => ?_
    refine .bind (.update fun _ ht => ht.add (Pane.proper_leaf _)) fun _ => ?_
    refine .bind (.attach box _ target) fun _ => ?_
    refine .bind (.update fun _ ht => ht.modify (fun _ hp => hp.withParent _) target) fun _ => ?_
    exact .pure new

theorem prepareSplit (id : PaneId) : KeepsRatios (prepareSplit id) :=
  .bind (.requireLeaf id) fun _ => .bind .layout fun _ => .ite (fun _ => .refuse _ _) fun _ =>
    .ite (fun _ => .update fun _ ht => ht.plant id) fun _ => .pure _

theorem createRoot (session : Option SessionId) : KeepsRatios (createRoot session) :=
  .bind .layout fun _ => .ite (fun _ => .refuse _ _) fun _ => .bind .newId fun id =>
    .bind (.update fun _ ht => (ht.add (Pane.proper_leaf _)).same rfl rfl) fun _ => .finish id

theorem reset : KeepsRatios Layout.reset :=
  .bind .layout fun s => .bind (.update fun _ ht => ⟨ht.next, by simp⟩) fun _ =>
    .bind (.send _) fun _ => .ite (fun _ => .send _) fun _ => .pure _

theorem split (id : PaneId) (orientation : Orientation) (session : Option SessionId) :
    KeepsRatios (split id orientation session) :=
  .bind (.prepareSplit id) fun _ => .bind .layout fun _ =>
    .bind (.insertSplit id orientation session _) fun new => .finish new

theorem mirror (id : PaneId) (orientation : Orientation) : KeepsRatios (mirror id orientation) :=
  .bind (.requireLeaf id) fun l => .ite (fun _ => .pure _) fun _ =>
    .bind (.prepareSplit id) fun _ =>
      .bind (.insertSplit id orientation l.session false) fun new => .finish new

theorem closeTab (id : PaneId) : KeepsRatios (closeTab id) := by
  refine .bind (.update fun _ ht => (ht.remove id).same rfl rfl) fun _ => .bind .layout fun s => ?_
  refine .ite (fun _ => .bind (.update fun _ ht => ht.same rfl rfl) fun _ => .pure _) fun _ => ?_
  refine .ite (fun _ => ?_) fun _ => .pure _
  cases s.tabs.getLast? with
  | none => exact .throw _
  | some next => exact .bind (.update fun _ ht => ht.showTab next) fun _ => .pure _

theorem closeTreeLeaf (l : Leaf) : KeepsRatios (closeTreeLeaf l) := by
  refine .bind (.update fun _ ht => ht.remove l.id) fun _ => .fromLayout fun s hs => ?_
  cases l.parent with
  | none =>
    have hrest : Proportioned { s with root := none } := hs.same rfl rfl
    exact .bind (.update fun _ _ => hrest.restore) fun _ => .pure _
  | some p =>
    dsimp only
    cases s.pane? p with
    | none => exact .throw _
    | some x =>
      cases x with
      | leaf k => exact .bind (.update fun _ ht => ht.remove p) fun _ => .throw _
      | container c =>
        refine .bind (.update fun _ ht => ht.remove p) fun _ => .bind (.attach _ _ _) fun _ => ?_
        refine .ite (fun _ => .bind .layout fun t => ?_) fun _ => .pure _
        exact .ite (fun _ => .pure _) fun _ => .pure _

theorem close (id : PaneId) : KeepsRatios (close id) := by
  refine .bind (.requireLeaf id) fun l => .bind .layout fun s => ?_
  have htold (focus : Option PaneId) (session : Option SessionId) : KeepsRatios (do
      Layout.settle focus
      let s ← Edit.layout
      return ({ pane := id, session, stillDisplayed := session.any s.displays } : ClosedPane)) :=
    .bind (.settle focus) fun _ => .bind .layout fun _ => .pure _
  refine .ite (fun _ => .bind (.closeTab id) fun focus => ?_) fun _ => .ite (fun _ =>
    .bind (.update fun _ ht => (ht.remove id).same rfl rfl) fun _ =>
      .bind (.pure s.focused) fun focus => ?_) fun _ => .bind (.closeTreeLeaf l) fun focus => ?_
  -- However the leaf was taken out, what follows is the same.
  all_goals
    cases l.session with
    | none => exact htold focus none
    | some session =>
      exact .ite (fun _ => .bind (.update fun _ ht => ht.promote session) fun _ => htold focus _)
        fun _ => htold focus _

theorem setFocused (id : PaneId) : KeepsRatios (setFocused id) := by
  refine .bind (.requireLeaf id) fun _ => .bind .layout fun s => ?_
  refine .ite (fun _ => .refuse _ _) fun _ => .ite (fun _ => .pure _) fun _ => ?_
  have hfinish : KeepsRatios (do let _ ← Layout.finish id) := .bind (.finish id) fun _ => .pure _
  exact .ite (fun _ => .bind (.update fun _ ht => ht.showTab id) fun _ => hfinish) fun _ => hfinish

theorem navigate (d : Direction) : KeepsRatios (navigate d) := by
  refine .bind .layout fun s => ?_
  dsimp only
  split
  · exact .pure _
  · rename_i target _
    have hfinish : KeepsRatios (do
        let _ ← Layout.finish target
        return some target) := .bind (.finish target) fun _ => .pure _
    refine .ite (fun _ => ?_) fun _ => .pure _
    exact .ite (fun _ => .bind (.update fun _ ht => ht.showTab target) fun _ => hfinish)
      fun _ => hfinish

theorem createTab (session : SessionId) : KeepsRatios (createTab session) := by
  have hadd : KeepsRatios (do
      let s ← Edit.layout
      let id ← Edit.newId
      Edit.update fun s' =>
        let s' := s'.add (.leaf { id, session := some session, primary := !s.hasPrimary session })
        { s' with tabs := s'.tabs ++ [id] }
      Edit.update (·.showTab id)
      Layout.finish id) :=
    .bind .layout fun s => .bind .newId fun id =>
      .bind (.update fun _ ht => (ht.add (Pane.proper_leaf _)).same rfl rfl) fun _ =>
        .bind (.update fun _ ht => ht.showTab id) fun _ => .finish id
  refine .bind .layout fun s => ?_
  exact .ite (fun _ => .bind (.update fun _ ht => ht.unroot) fun _ => hadd) fun _ => hadd

theorem activateTab (session : SessionId) : KeepsRatios (activateTab session) := by
  refine .bind .layout fun s => ?_
  cases s.tabs.find? (s.showsAt session) with
  | none => exact .throw _
  | some target =>
    exact .bind (.update fun _ ht => ht.showTab target) fun _ =>
      .bind (.settle (some target)) fun _ => .pure target

theorem activate (session : SessionId) : KeepsRatios (activate session) := by
  refine .bind .layout fun s => .ite (fun _ => .activateTab session) fun _ => ?_
  refine .ite (fun _ => .throw _) fun _ => ?_
  cases s.leaves.find? fun l => l.shows session with
  | some l => exact .bind (.setFocused l.id) fun _ => .pure l.id
  | none =>
    refine .ite (fun _ => .bind (.update fun _ ht => ht.unroot) fun _ => ?_) fun _ => .throw _
    exact .activateTab session

/-- Only here a ratio is changed, and it is checked before. -/
theorem setRatio (id : PaneId) (ratio : Binary64) : KeepsRatios (setRatio id ratio) := by
  refine .ite (fun _ => .refuse _ _) fun hproper => .bind .layout fun s => ?_
  cases s.pane? id with
  | none => exact .refuse _ _
  | some p =>
    cases p with
    | leaf l => exact .refuse _ _
    | container c =>
      have hratio : properRatio ratio = true := by simpa using hproper
      exact .bind (.update fun _ ht => ht.modify (fun _ _ => Pane.proper_container.2 hratio) id)
        fun _ => .send _

/-- Every operation keeps ratios proper. -/
theorem perform (op : Operation) : KeepsRatios (perform op) := by
  have hmap {α β : Type} (f : α → β) {e : Edit α} (he : KeepsRatios e) : KeepsRatios (f <$> e) :=
    he.bind fun _ => .pure _
  cases op with
  | createRoot session => exact hmap _ (.createRoot session)
  | reset => exact hmap _ .reset
  | split pane o session => exact hmap _ (.split pane o session)
  | mirror pane o => exact hmap _ (.mirror pane o)
  | close pane => exact hmap _ (.close pane)
  | setFocused pane => exact hmap _ (.setFocused pane)
  | navigate d => exact hmap _ (.navigate d)
  | createTab session => exact hmap _ (.createTab session)
  | activate session => exact hmap _ (.activate session)
  | setRatio pane ratio => exact hmap _ (.setRatio pane ratio)

end KeepsRatios

/-- What any operations leave of a proportioned layout is proportioned. -/
theorem Proportioned.after {s : Layout} (h : s.Proportioned) (ops : List Operation) :
    (ops.foldl apply s).Proportioned := by
  induction ops generalizing s with
  | nil => exact h
  | cons op ops ih =>
    refine ih ?_
    rw [apply_eq]
    exact KeepsRatios.perform op ⟨s, []⟩ h

end Layout

end Multiplexer
