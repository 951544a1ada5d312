import Multiplexer.Proofs.Layout.Operations

/-!
# Refusals

An operation is refused for what it finds, before it changes anything: once it
has begun, no step of it fails. So a refused operation leaves the layout as it
was, gives no id away and tells nothing.
-/

namespace Multiplexer

namespace Layout

open Edit

def Succeeds {α : Type} (s : Layout) (e : Edit α) : Prop :=
  ∃ a s' told, s.run e = (.ok a, s', told)

structure Atomic (s : Layout) : Prop where
  unchanged : ∀ op x s' told, s.run (perform op) = (.error x, s', told) → s' = s ∧ told = []
  /-- The errors are those that are seen at the start. -/
  refused : ∀ op x, (∃ s' told, s.run (perform op) = (.error x, s', told)) ↔ s.refusal? op = some x
  /-- A close that found its leaf. -/
  closed : ∀ l ∈ s.held, s.Succeeds (close l.id)
  closeTab : ∀ id ∈ s.tabs, s.Succeeds (closeTab id)
  closeTreeLeaf : ∀ l ∈ s.leaves, s.Succeeds (closeTreeLeaf l)
  /-- A new leaf is attached wherever there was a leaf to split. -/
  insertSplit : ∀ id s' told, s.run (prepareSplit id) = (.ok (), s', told) →
    ∀ o session primary, s'.Succeeds (insertSplit id o session primary)
  /-- A session that is shown in the tree or behind it is found among the tabs made of them. -/
  activateTab : s.tabbed = false → ∀ x, s.displays x = true → s.unroot.Succeeds (activateTab x)
  setFocused : ∀ l ∈ s.leaves, s.Succeeds (setFocused l.id)

variable {s s' : Layout} {σ : Scene} {q : Plan}

theorem Succeeds.ofExec {α : Type} {e : Edit α} {a : α} {d : Draft}
    (h : exec e ⟨s, []⟩ = (.ok a, d)) : s.Succeeds e := ⟨a, d.layout, d.outbox, by rw [run_eq, h]⟩

/-- What is not refused succeeds. -/
theorem Decides.succeeds {α : Type} {e : Edit α} {post : α → Layout → List Notice → Prop}
    (h : s.Decides e none post) : s.Succeeds e := by
  obtain ⟨a, s', told, hrun, -⟩ := h
  exact ⟨a, s', told, hrun⟩

theorem Represents.pane?_of_mem_held (h : s.Represents q) {l : Leaf} (hl : l ∈ s.held) :
    s.pane? l.id = some (.leaf l) := (pane?_eq_some_iff h.nodup_ids).mpr ⟨mem_held.mp hl, rfl⟩

/-- A leaf that is there can be taken out. -/
theorem Presents.takeOut_succeeds (h : s.Presents σ) {l : Leaf}
    (hl : s.pane? l.id = some (.leaf l)) : s.Succeeds (takeOut s l) := by
  obtain ⟨focus, s', q, active, hrun, -⟩ := exec_takeOut h hl
  exact .ofExec hrun

/-- A leaf that was prepared for it can be split. -/
theorem Presents.insertSplit_succeeds (h : s.Presents σ) {id : PaneId} {told : List Notice}
    (hprepare : s.run (prepareSplit id) = (.ok (), s', told)) (o : Orientation)
    (session : Option SessionId) (primary : Bool) :
    s'.Succeeds (Layout.insertSplit id o session primary) := by
  have hexec := exec_prepareSplit h id
  cases hrefusal : s.screenRefusal? id with
  | some x =>
    rw [hrefusal] at hexec
    simp [run_eq, hexec] at hprepare
  | none =>
    rw [hrefusal] at hexec
    obtain ⟨s₁, ctx, l, bg, active, hexec, rfl, -, h₁⟩ := hexec
    obtain ⟨rfl, -⟩ : s₁ = s' ∧ [] = told := by simpa [run_eq, hexec] using hprepare
    obtain ⟨ps, r, hinsert, -⟩ := exec_insertSplit h₁.represents o session primary []
    exact .ofExec hinsert

/-- A refused operation leaves no trace. -/
theorem Presents.atomic (h : s.Presents σ) : s.Atomic where
  unchanged op x s' told hrun := ((h.decides op).of_error hrun).2
  refused op x := by
    constructor
    · rintro ⟨s', told, hrun⟩
      exact ((h.decides op).of_error hrun).1
    · intro hrefusal
      have hdecides := h.decides op
      rw [hrefusal] at hdecides
      exact ⟨s, [], hdecides⟩
  closed l hl := by
    have hclose := close_decides h l.id
    rw [leafRefusal?, h.represents.pane?_of_mem_held hl] at hclose
    exact hclose.succeeds
  closeTab id hid := by
    have hmem : id ∈ s.everyLeaf := by simp [everyLeaf, hid]
    rw [h.represents.everyLeaf_eq] at hmem
    obtain ⟨k, hk, rfl⟩ := List.mem_map.mp hmem
    obtain ⟨p, hp⟩ := Plan.exists_leaf_mem_panes hk
    have htake := h.takeOut_succeeds (l := { k with parent := p })
      (h.represents.pane?_eq.mpr ⟨hp, rfl⟩)
    simpa [takeOut, hid] using htake
  closeTreeLeaf l hl := by
    obtain ⟨hpane, hbg⟩ := h.represents.pane?_of_mem_leaves hl
    have htab : l.id ∉ s.tabs := by
      have hnodup := h.represents.nodup_everyLeaf
      rw [everyLeaf, List.append_assoc] at hnodup
      intro hid
      exact (List.nodup_append.mp hnodup).2.2 l.id (List.mem_map_of_mem hl) l.id
        (List.mem_append_left _ hid) rfl
    simpa [takeOut, htab, hbg] using h.takeOut_succeeds hpane
  insertSplit id s' told hprepare := h.insertSplit_succeeds hprepare
  activateTab htabs x hshown := by
    obtain ⟨target, s', told, hrun, -⟩ := exec_activateTab_asTabs h hshown
    rw [Layout.asTabs, if_neg (by simp [htabs])] at hrun
    exact .ofExec hrun
  setFocused l hl := by
    have hfocus := setFocused_decides h l.id
    rw [screenRefusal?_eq_none.mpr ⟨l, h.represents.pane?_of_mem_leaves hl⟩] at hfocus
    exact hfocus.succeeds

/-- Whatever was asked of an empty layout, what is refused leaves it as it is. -/
theorem atomic_after_operations (splitRatio : Binary64) (nextId : Nat) (ops : List Operation) :
    (ops.foldl apply { splitRatio, nextId }).Atomic := by
  obtain ⟨σ, h⟩ := (foldl_apply_planned (planned_empty splitRatio nextId) ops).presents
  exact h.atomic

end Layout

end Multiplexer
