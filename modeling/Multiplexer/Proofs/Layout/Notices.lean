import Multiplexer.Proofs.Layout.Focus

/-!
# Notices

What is told of an operation is what became of the layout: nothing if it stayed
as it was, that it changed, and also where the focus went if it moved. A new leaf
comes with an id that was never given out, so that focusing it is always a move.
-/

namespace Multiplexer

/-- What is told when the focus was on one pane and is on another. -/
inductive Announces (old : Option PaneId) : Option PaneId → List Notice → Prop where
  | silent : Announces old old []
  | still : Announces old old [.changed]
  | moved (new : Option PaneId) : new ≠ old → Announces old new [.changed, .focus new]

namespace Announces

variable {old new : Option PaneId} {told : List Notice}

theorem cases_told (h : Announces old new told) :
    told = [] ∨ told = [.changed] ∨ told = [.changed, .focus new] := by
  cases h <;> simp

theorem focus_iff (h : Announces old new told) (f : Option PaneId) :
    told = [.changed, .focus f] ↔ new ≠ old ∧ f = new := by
  cases h with
  | silent => simp
  | still => simp
  | moved new hne => simp [hne, eq_comm]

end Announces

namespace Scene

variable {σ σ' : Scene} {c : Change} {told : List Notice}

/-- The news of a focus say whether it moved, and where to. -/
theorem announces_news (σ : Scene) (target : Option PaneId) :
    Announces σ.focused target (σ.news target) := by
  unfold news
  split
  · rename_i hsame
    exact hsame ▸ .still
  · rename_i hne
    exact .moved target (Ne.symm hne)

/-- Of the tabs that are gathered, one that has the focus had it before. -/
theorem Gathered.focused_eq_iff {tabs : List Leaf} {focused : Option PaneId}
    (h : σ.Gathered tabs focused) {l : Leaf} (hl : l ∈ tabs) :
    focused = some l.id ↔ σ.focused = some l.id := by
  cases h with
  | tabs tabs hplan => exact .rfl
  | tree tree tabs bg hplan hcollapses =>
    have hmem : l.id ∈ tabs.map Leaf.id := List.mem_map_of_mem hl
    simp only [Option.filter_eq_some_iff, hmem, decide_true, and_true]

/-- A step that adds a leaf has to be told of as one that moves the focus. -/
theorem Step.announces (hstep : σ.Step c told σ')
    (hgrown : ∀ session, c = .grown session → σ'.focused ≠ σ.focused) :
    Announces σ.focused σ'.focused told := by
  cases hstep with
  | idle => exact .silent
  | cleared => exact σ.announces_news none
  | rooted l => exact .moved _ (hgrown _ rfl)
  | split ctx l new => exact .moved _ (hgrown _ rfl)
  | tab tabs new => exact .moved _ (hgrown _ rfl)
  | closed l q q' active focus => exact σ.announces_news focus
  | moved t bg l => exact σ.announces_news (some l.id)
  | fronted tabs l focused hgathered hl =>
    have hnews : news ⟨⟨none, tabs, []⟩, σ.active, focused⟩ (some l.id) = σ.news (some l.id) := by
      simp only [news, hgathered.focused_eq_iff hl]
    rw [hnews]
    exact σ.announces_news (some l.id)
  | resized => exact .still

theorem Step.rearranged_of_silent (hstep : σ.Step c told σ') (hsilent : told = []) :
    c = .rearranged := by
  have hnews : ∀ (σ : Scene) (target : Option PaneId), σ.news target ≠ [] := by
    intro σ target
    unfold news
    split <;> simp
  cases hstep with
  | idle | resized | moved | fronted => rfl
  | rooted | split | tab => simp at hsilent
  | cleared => exact absurd hsilent (hnews σ none)
  | closed l q q' active focus => exact absurd hsilent (hnews σ focus)

end Scene

/-- An edit of two steps that went through did so step by step. -/
theorem Edit.exec_bind_ok {α β : Type} {e : Edit α} {f : α → Edit β} {b : β} {d d' : Draft}
    (h : exec (e >>= f) d = (.ok b, d')) :
    ∃ a d₁, exec e d = (.ok a, d₁) ∧ exec (f a) d₁ = (.ok b, d') := by
  rw [exec_bind] at h
  rcases hstep : exec e d with ⟨_ | a, d₁⟩
  · simp [hstep] at h
  · exact ⟨a, d₁, rfl, by simpa [hstep] using h⟩

theorem Edit.exec_map_ok {α β : Type} {e : Edit α} {f : α → β} {b : β} {d d' : Draft}
    (h : exec (f <$> e) d = (.ok b, d')) : ∃ a, exec e d = (.ok a, d') := by
  rw [map_eq_pure_bind] at h
  obtain ⟨a, d₁, he, hpure⟩ := exec_bind_ok h
  obtain rfl := (Prod.mk.inj hpure).2
  exact ⟨a, he⟩

namespace Layout

open Edit

/-- What an operation tells. -/
def told (s : Layout) (op : Operation) : List Notice := (s.run (perform op)).2.2

variable {s s' : Layout} {σ : Scene} {ns : List Notice}

section Growing

/-! The leaf that an operation adds has an id that was not given out before. -/

/-- The focus is on a pane that was not there. -/
def Debuts (s s' : Layout) : Prop := ∃ new, s'.focused = some new ∧ s.nextId ≤ new.number

theorem nextId_plant (s : Layout) (id : PaneId) : (s.plant id).nextId = s.nextId := by
  rw [plant_eq]
  rfl

theorem nextId_asTabs (s : Layout) : s.asTabs.nextId = s.nextId := by
  have hpromote : ∀ (xs : List SessionId) (t : Layout),
      (xs.foldl promote t).nextId = t.nextId := by
    intro xs
    induction xs with
    | nil => simp
    | cons x xs ih =>
      intro t
      rw [List.foldl_cons, ih, promote_eq]
      rfl
  have hdrop : ∀ t : Layout, t.dropFocus.nextId = t.nextId := by
    intro t
    unfold dropFocus
    split <;> rfl
  unfold asTabs
  split
  · rfl
  · rw [unroot_eq, hdrop, hpromote]
    rfl

theorem debuts_refocus (s₁ : Layout) {new : PaneId} (hnew : s.nextId ≤ new.number) :
    s.Debuts (s₁.refocus (some new)) := ⟨new, by rw [refocus_eq], hnew⟩

theorem exec_requireLeaf_ok {id : PaneId} {l : Leaf} {d d' : Draft}
    (h : exec (requireLeaf id) d = (.ok l, d')) :
    d' = d ∧ d.layout.pane? id = some (.leaf l) := by
  rw [exec_requireLeaf] at h
  split at h <;> simp_all

theorem exec_prepareSplit_ok {id : PaneId} {d : Draft}
    (h : exec (prepareSplit id) ⟨s, []⟩ = (.ok (), d)) :
    d.layout = if s.tabs.contains id then s.plant id else s := by
  obtain ⟨l, d₁, hleaf, h⟩ := exec_bind_ok h
  obtain ⟨rfl, -⟩ := exec_requireLeaf_ok hleaf
  simp only [exec_bind, exec_layout, exec_ite, exec_throw, exec_update, exec_pure] at h
  by_cases hbg : s.background.contains id = true
  · rw [if_pos hbg] at h
    exact absurd (Prod.mk.inj h).1 (by simp)
  · rw [if_neg hbg] at h
    split_ifs at h ⊢ <;> exact congrArg Draft.layout (Prod.mk.inj h).2.symm

theorem nextId_prepareSplit {id : PaneId} {d : Draft}
    (h : exec (prepareSplit id) ⟨s, []⟩ = (.ok (), d)) : d.layout.nextId = s.nextId := by
  rw [exec_prepareSplit_ok h]
  split
  · exact s.nextId_plant id
  · rfl

theorem number_insertSplit {target new : PaneId} {o : Orientation} {session : Option SessionId}
    {primary : Bool} {d d' : Draft}
    (h : exec (insertSplit target o session primary) d = (.ok new, d')) :
    new.number = d.layout.nextId + 1 := by
  simp only [insertSplit, exec_bind, exec_layout] at h
  cases hpane : d.layout.pane? target with
  | none => simp [hpane] at h
  | some p =>
    simp only [hpane, exec_bind, exec_newId, exec_update, exec_pure] at h
    split at h
    · obtain rfl := Except.ok.inj (Prod.mk.inj h).1
      rfl
    · simp at h

/-- A split puts the focus on the leaf that it adds. -/
theorem debuts_insertSplit {id new new' : PaneId} {o : Orientation} {session : Option SessionId}
    {primary : Bool} {d₁ d₂ d : Draft} (hprepare : exec (prepareSplit id) ⟨s, []⟩ = (.ok (), d₁))
    (hinsert : exec (insertSplit id o session primary) d₁ = (.ok new, d₂))
    (hfinish : exec (finish new) d₂ = (.ok new', d)) : s.Debuts d.layout := by
  rw [exec_finish] at hfinish
  obtain rfl := (Prod.mk.inj hfinish).2
  have hnumber := number_insertSplit hinsert
  have hnext := nextId_prepareSplit hprepare
  exact debuts_refocus d₂.layout (by omega)

/-- The leaf that a split adds comes into focus. -/
theorem debuts_split {id new : PaneId} {o : Orientation} {session : Option SessionId} {d : Draft}
    (h : exec (split id o session) ⟨s, []⟩ = (.ok new, d)) : s.Debuts d.layout := by
  obtain ⟨_, d₁, hprepare, h⟩ := exec_bind_ok h
  obtain ⟨s₁, d₂, hlayout, h⟩ := exec_bind_ok h
  obtain ⟨new', d₃, hinsert, hfinish⟩ := exec_bind_ok h
  obtain rfl := (Prod.mk.inj hlayout).2
  exact debuts_insertSplit hprepare hinsert hfinish

theorem debuts_mirror {id new : PaneId} {o : Orientation} {session : Option SessionId} {d : Draft}
    (hgrown : s.mirrorChange id = .grown session)
    (h : exec (mirror id o) ⟨s, []⟩ = (.ok new, d)) : s.Debuts d.layout := by
  obtain ⟨l, d₁, hleaf, h⟩ := exec_bind_ok h
  obtain ⟨rfl, hpane⟩ := exec_requireLeaf_ok hleaf
  cases hsession : l.session with
  | none => simp [mirrorChange, leaf?, hpane, Pane.leaf?, hsession] at hgrown
  | some x =>
    simp only [hsession] at h
    obtain ⟨_, d₁, hprepare, h⟩ := exec_bind_ok h
    obtain ⟨new', d₂, hinsert, hfinish⟩ := exec_bind_ok h
    exact debuts_insertSplit hprepare hinsert hfinish

theorem debuts_createRoot {session : Option SessionId} {new : PaneId} {d : Draft}
    (h : exec (createRoot session) ⟨s, []⟩ = (.ok new, d)) : s.Debuts d.layout := by
  simp only [createRoot, exec_bind, exec_layout, exec_ite, exec_throw, exec_newId, exec_update,
    exec_finish] at h
  split_ifs at h with hbusy
  · exact absurd (Prod.mk.inj h).1 (by simp)
  · obtain rfl := (Prod.mk.inj h).2
    exact debuts_refocus _ (Nat.le_refl s.nextId)

theorem debuts_createTab {session : SessionId} {new : PaneId} {d : Draft}
    (h : exec (createTab session) ⟨s, []⟩ = (.ok new, d)) : s.Debuts d.layout := by
  rw [exec_createTab] at h
  obtain rfl := (Prod.mk.inj h).2
  exact debuts_refocus _ (Nat.le_of_eq s.nextId_asTabs.symm)

/-- What an operation adds comes into focus. -/
theorem debuts_perform {op : Operation} {session : Option SessionId} {a : Answer} {d : Draft}
    (hgrown : s.change op = .grown session)
    (h : exec (perform op) ⟨s, []⟩ = (.ok a, d)) : s.Debuts d.layout := by
  cases op with
  | createRoot x =>
    obtain ⟨b, h⟩ := exec_map_ok h
    exact debuts_createRoot h
  | split id o x =>
    obtain ⟨b, h⟩ := exec_map_ok h
    exact debuts_split h
  | mirror id o =>
    obtain ⟨b, h⟩ := exec_map_ok h
    exact debuts_mirror hgrown h
  | createTab x =>
    obtain ⟨b, h⟩ := exec_map_ok h
    exact debuts_createTab h
  | close id =>
    simp only [change, closeChange] at hgrown
    split at hgrown <;> simp at hgrown
  | reset | setFocused | navigate | activate | setRatio => simp [change] at hgrown

end Growing

section Silence

/-! An operation of which nothing is told did nothing. -/

/-- A move that tells nothing has changed nothing. -/
theorem unchanged_navigate {dir : Direction} {a : Option PaneId} {d : Draft}
    (h : exec (navigate dir) ⟨s, []⟩ = (.ok a, d)) (hsilent : d.outbox = []) : d.layout = s := by
  rw [exec_navigate] at h
  split at h
  · obtain rfl := (Prod.mk.inj h).2
    rfl
  · split at h
    · obtain rfl := (Prod.mk.inj h).2
      rfl
    · obtain rfl := (Prod.mk.inj h).2
      simp at hsilent

theorem unchanged_setFocused {id : PaneId} {d : Draft}
    (h : exec (setFocused id) ⟨s, []⟩ = (.ok (), d)) (hsilent : d.outbox = []) : d.layout = s := by
  obtain ⟨l, d₁, hleaf, h⟩ := exec_bind_ok h
  obtain ⟨rfl, -⟩ := exec_requireLeaf_ok hleaf
  by_cases hbg : id ∈ s.background
  · simp [hbg] at h
  · by_cases hfocus : s.focused = some id
    · simp only [exec_bind, exec_layout] at h
      simp [hbg, hfocus] at h
      rw [← h]
    · by_cases htab : id ∈ s.tabs <;> simp [hbg, hfocus, htab] at h <;> simp [← h] at hsilent

theorem outbox_activateTab {session : SessionId} {a : PaneId} {d : Draft}
    (h : exec (activateTab session) ⟨s, []⟩ = (.ok a, d)) : d.outbox ≠ [] := by
  cases hfind : s.tabs.find? (s.showsAt session) with
  | none => simp [activateTab, hfind] at h
  | some target =>
    rw [exec_activateTab hfind] at h
    obtain rfl := (Prod.mk.inj h).2
    split <;> simp

theorem unchanged_tree {id a : PaneId} {d : Draft}
    (h : exec (do setFocused id; return id) ⟨s, []⟩ = (.ok a, d)) (hsilent : d.outbox = []) :
    d.layout = s := by
  obtain ⟨_, d₁, hfocus, hpure⟩ := exec_bind_ok h
  obtain rfl := (Prod.mk.inj hpure).2
  exact unchanged_setFocused hfocus hsilent

theorem unchanged_mirror {id a : PaneId} {o : Orientation} {d : Draft}
    (hchange : s.mirrorChange id = .rearranged)
    (h : exec (mirror id o) ⟨s, []⟩ = (.ok a, d)) : d.layout = s := by
  obtain ⟨l, d₁, hleaf, h⟩ := exec_bind_ok h
  obtain ⟨rfl, hpane⟩ := exec_requireLeaf_ok hleaf
  cases hsession : l.session with
  | none =>
    simp only [hsession] at h
    obtain rfl := (Prod.mk.inj h).2
    rfl
  | some x => simp [mirrorChange, leaf?, hpane, Pane.leaf?, hsession] at hchange

theorem unchanged_activate {session : SessionId} {a : PaneId} {d : Draft}
    (h : exec (activate session) ⟨s, []⟩ = (.ok a, d)) (hsilent : d.outbox = []) :
    d.layout = s := by
  simp only [activate, exec_bind, exec_layout, exec_ite] at h
  cases hfind : s.leaves.find? fun l => l.shows session with
  | some l =>
    simp only [hfind, exec_throw] at h
    split_ifs at h with htabs hroot
    · exact absurd hsilent (outbox_activateTab h)
    · exact absurd (Prod.mk.inj h).1 (by simp)
    all_goals exact unchanged_tree h hsilent
  | none =>
    simp only [hfind, exec_throw] at h
    split_ifs at h with htabs hroot hbehind
    · exact absurd hsilent (outbox_activateTab h)
    · exact absurd (Prod.mk.inj h).1 (by simp)
    · -- A session behind the tree is brought to the front as a tab.
      obtain ⟨_, d₁, hunroot, h⟩ := exec_bind_ok h
      obtain rfl := (Prod.mk.inj hunroot).2
      exact absurd hsilent (outbox_activateTab h)
    · exact absurd (Prod.mk.inj h).1 (by simp)

theorem outbox_setRatio {id : PaneId} {ratio : Binary64} {d : Draft}
    (h : exec (setRatio id ratio) ⟨s, []⟩ = (.ok (), d)) : d.outbox ≠ [] := by
  by_cases hproper : properRatio ratio = true
  · cases hpane : s.pane? id with
    | none => simp [setRatio, hproper, hpane] at h
    | some p =>
      cases p with
      | leaf l => simp [setRatio, hproper, hpane] at h
      | container c =>
        simp [setRatio, hproper, hpane] at h
        simp [← h]
  · simp [setRatio, hproper] at h

/-- An operation that adds no leaf and tells nothing has changed nothing. -/
theorem unchanged_perform {op : Operation} {a : Answer} {d : Draft} (hchange : s.change op = .rearranged)
    (h : exec (perform op) ⟨s, []⟩ = (.ok a, d)) (hsilent : d.outbox = []) : d.layout = s := by
  cases op with
  | createRoot | split | createTab | reset => simp [change] at hchange
  | mirror id o =>
    obtain ⟨b, h⟩ := exec_map_ok h
    exact unchanged_mirror hchange h
  | close id =>
    obtain ⟨b, h⟩ := exec_map_ok h
    obtain ⟨l, d₁, hleaf, -⟩ := exec_bind_ok h
    obtain ⟨-, hpane⟩ := exec_requireLeaf_ok hleaf
    simp [change, closeChange, leaf?, hpane, Pane.leaf?] at hchange
  | setFocused id =>
    obtain ⟨b, h⟩ := exec_map_ok h
    exact unchanged_setFocused h hsilent
  | navigate dir =>
    obtain ⟨b, h⟩ := exec_map_ok h
    exact unchanged_navigate h hsilent
  | activate x =>
    obtain ⟨b, h⟩ := exec_map_ok h
    exact unchanged_activate h hsilent
  | setRatio id r =>
    obtain ⟨b, h⟩ := exec_map_ok h
    exact absurd hsilent (outbox_setRatio h)

end Silence

/-- What is told of an operation says where the focus was and is, and is nothing only if the
layout is the same. -/
theorem Presents.announces (h : s.Presents σ) (ho : σ.Orderly) (op : Operation) :
    Announces s.focused (s.apply op).focused (s.told op) ∧ (s.told op = [] → s.apply op = s) := by
  rw [apply_eq, told]
  rcases hrun : s.run (perform op) with ⟨x | a, s', ns⟩
  · obtain ⟨-, rfl, rfl⟩ := (h.decides op).of_error hrun
    exact ⟨.silent, fun _ => rfl⟩
  · obtain ⟨-, σ', h', hstep⟩ := (h.decides op).of_run hrun
    obtain ⟨d, hexec, rfl, rfl⟩ : ∃ d, exec (perform op) ⟨s, []⟩ = (.ok a, d) ∧
        d.layout = s' ∧ d.outbox = ns := by
      rw [run_eq] at hrun
      exact ⟨_, Prod.ext (Prod.mk.inj hrun).1 rfl, (Prod.mk.inj (Prod.mk.inj hrun).2).1,
        (Prod.mk.inj (Prod.mk.inj hrun).2).2⟩
    have hgrown : ∀ session, s.change op = .grown session → σ'.focused ≠ σ.focused := by
      intro session hc hfocus
      obtain ⟨new, hnew, hnumber⟩ := debuts_perform hc hexec
      rw [h'.focused, hfocus] at hnew
      obtain ⟨l, hl, rfl⟩ := ho.focus_mem hnew
      exact Nat.not_lt.mpr hnumber (h.represents.fresh l.id (Plan.id_mem_ids hl))
    rw [h.focused, h'.focused]
    exact ⟨hstep.announces hgrown,
      fun hsilent => unchanged_perform (hstep.rearranged_of_silent hsilent) hexec hsilent⟩

end Layout

end Multiplexer
