import Multiplexer.Proofs.Layout.Primary

/-!
# A leaf that comes and goes

A leaf is opened for a new session and closed again. Between the two the layout
may have changed from a tree to tabs, which keeps the primary leaf of each
session and every leaf without one. What is gone for good are other views of
sessions that are shown still.
-/

namespace Multiplexer

namespace Plan

/-- A leaf with the given id shows the given session, or none. -/
def Has (q : Plan) (id : PaneId) (session : Option SessionId) : Prop :=
  ∃ l ∈ q.leaves, l.id = id ∧ l.session = session

variable {q q' : Plan} {id : PaneId} {session : Option SessionId}

theorem has_map {f : Leaf → Leaf} (hf : Leaf.FlagChange f) :
    (q.map f).Has id session ↔ q.Has id session := by
  simp [Has, hf.id, hf.session]

theorem Adds.has_iff {ls : List Leaf} (h : q.Adds ls q') :
    q'.Has id session ↔ (∃ l ∈ ls, l.id = id ∧ l.session = session) ∨ q.Has id session :=
  h.exists_iff fun _ => .rfl

end Plan

namespace Scene

variable {σ σ' : Scene} {id : PaneId} {session : Option SessionId} {told : List Notice}

theorem has_refocus (target : Option PaneId) :
    (σ.refocus target).plan.Has id session ↔ σ.plan.Has id session :=
  Plan.has_map (.ofRefocus _ _)

theorem not_mem_around {as bs : List PaneId} {id : PaneId} (h : (as ++ id :: bs).Nodup) :
    id ∉ as ++ bs := (List.nodup_cons.mp (List.nodup_middle.mp h)).1

theorem not_mem_tabs {as bs : List Leaf} {l : Leaf}
    (h : (⟨none, as ++ l :: bs, []⟩ : Plan).ids.Nodup) :
    l.id ∉ (⟨none, as ++ bs, []⟩ : Plan).ids := by
  have hids : (as.map Leaf.id ++ l.id :: bs.map Leaf.id).Nodup := by simpa [Plan.ids_eq] using h
  simpa [Plan.ids_eq] using not_mem_around hids

/-- What is taken out is not there any more, as a leaf or as a container. -/
theorem Taken.not_mem_ids {l : Leaf} {q : Plan} {active focus : Option PaneId}
    (h : σ.Taken l q active focus) (hnodup : σ.plan.ids.Nodup) : l.id ∉ q.ids := by
  cases h with
  | lastTab l hplan => simp [Plan.ids_eq]
  | frontTab as bs l k hplan =>
    rw [hplan] at hnodup
    rw [Plan.ids_map (.ofFront _ _)]
    exact not_mem_tabs (l := l) hnodup
  | otherTab as bs l hplan =>
    rw [hplan] at hnodup
    exact not_mem_tabs (l := l) hnodup
  | hidden t as bs l hplan =>
    rw [hplan] at hnodup
    have hids : ((t.ids ++ as.map Leaf.id) ++ l.id :: bs.map Leaf.id).Nodup := by
      simpa [Plan.ids_eq] using hnodup
    simpa [Plan.ids_eq] using not_mem_around hids
  | root l bg hplan =>
    rw [hplan] at hnodup
    have hids : ([] ++ l.id :: bg.map Leaf.id).Nodup := by
      simpa [Plan.ids_eq, SplitTree.ids] using hnodup
    rcases List.eq_nil_or_concat' bg with rfl | ⟨bg, k, rfl⟩
    · simp [Plan.restored, Plan.ids_eq]
    · simpa [Plan.restored, Plan.ids_eq, SplitTree.ids, or_comm] using not_mem_around hids
  | tree f ctx l bg hplan =>
    rw [hplan] at hnodup
    have hplug : (f.plug (.leaf l)).ids.Perm (l.id :: f.id :: f.other.ids) := by
      unfold Frame.plug
      cases f.toFirst with
      | true => exact .swap _ _ _
      | false => exact (List.Perm.cons _ (List.perm_append_singleton _ _)).trans (.swap _ _ _)
    have hfill : (Context.fill (f :: ctx) (.leaf l)).ids.Perm
        (ctx.ids ++ l.id :: f.id :: f.other.ids) :=
      (Context.ids_fill ctx _).trans (hplug.append_left _)
    have hids : (ctx.ids ++ l.id :: (f.id :: f.other.ids ++ bg.map Leaf.id)).Nodup := by
      have hall := (hfill.append_right (bg.map Leaf.id)).nodup_iff.mp
        (by simpa [Plan.ids_eq] using hnodup)
      simpa using hall
    have hnot := not_mem_around hids
    simp only [List.mem_append, List.mem_cons] at hnot
    simp only [Plan.ids_eq, Option.toList_some, List.flatMap_singleton, List.nil_append,
      List.mem_append, (Context.ids_fill ctx f.other).mem_iff]
    tauto

/-- After a close exactly the closed leaf is missing. -/
theorem Step.has_closed {l : Leaf} (h : σ.Step (.closed l) told σ') (id : PaneId)
    (session : Option SessionId) :
    σ.plan.Has id session ↔ l.id = id ∧ l.session = session ∨ σ'.plan.Has id session := by
  cases h with
  | closed l q q' active focus htaken hbequeaths =>
    obtain ⟨heirs, rfl⟩ := hbequeaths.eq_map
    rw [has_refocus, Plan.has_map (.ofCrown heirs), htaken.adds.has_iff]
    simp

theorem Step.not_mem_ids {l : Leaf} (h : σ.Step (.closed l) told σ') (hnodup : σ.plan.ids.Nodup) :
    l.id ∉ σ'.plan.ids := by
  cases h with
  | closed l q q' active focus htaken hbequeaths =>
    obtain ⟨heirs, rfl⟩ := hbequeaths.eq_map
    have hids : (refocus ⟨q.map (Leaf.crown heirs), active, σ.focused⟩ focus).plan.ids = q.ids :=
      (Plan.ids_map (.ofRefocus _ _) _).trans (Plan.ids_map (.ofCrown heirs) q)
    rw [hids]
    exact htaken.not_mem_ids hnodup

/-- What is to be split stays, and so does all around it. -/
theorem Ready.mem_ids {ctx : Context} {l : Leaf} {bg : List Leaf} {active : Option PaneId}
    (h : σ.Ready ctx l bg active) {id : PaneId} (hid : id ∈ σ.plan.ids) :
    id ∈ (⟨some (ctx.fill (.leaf l)), [], bg⟩ : Plan).ids := by
  cases h with
  | tree ctx l bg hplan => rwa [← hplan]
  | tab as bs l hplan =>
    rw [hplan] at hid
    have hfront : id ∈ l.id :: (as ++ bs).map Leaf.id := by
      simp only [Plan.ids_eq, Option.toList_none, List.flatMap_nil, List.nil_append,
        List.append_nil] at hid
      exact (List.perm_middle.map Leaf.id).mem_iff.mp hid
    simpa [Plan.ids_eq, Context.fill, SplitTree.ids, Function.comp_def, Leaf.hide, Leaf.expose]
      using hfront

end Scene

namespace Layout.Sorting

/-- Sorting keeps a leaf that is primary or shows no session, where no session has two primary
leaves. -/
theorem mem_kept (ls : List Leaf) (hnodup : (ls.map Leaf.id).Nodup)
    (hsingle : ∀ x, ls.countP (fun l => l.heads x) ≤ 1) :
    ∀ l ∈ ls, l.session = none ∨ l.primary = true → l ∈ (ls.foldl Sorting.add {}).kept := by
  induction ls using List.reverseRecOn with
  | nil => simp
  | append_singleton ls new ih =>
    rw [List.map_append] at hnodup
    have hls := (List.nodup_append.mp hnodup).1
    have hkept := ih hls fun x => by
      have hcount := hsingle x
      rw [List.countP_append] at hcount
      omega
    have hsorts := sorts ls hls
    rw [List.foldl_append]
    generalize ls.foldl Sorting.add {} = r at hkept hsorts
    -- Only the leaf that a primary one replaces leaves the kept ones.
    have hstays : ∀ l ∈ ls, l.session = none ∨ l.primary = true → ∀ k : Leaf,
        new.primary = true → k ∈ r.kept → k.session = new.session → new.session ≠ none →
        l.id ≠ k.id := by
      intro l hl hmatters k hnew hk hsame hsome he
      obtain rfl := List.inj_on_of_nodup_map hls hl (hsorts.kept hk) he
      obtain ⟨x, hx⟩ := Option.ne_none_iff_exists'.mp hsome
      have hprimary : l.primary = true := by
        rcases hmatters with hnone | hprimary
        · exact absurd (hsame.symm.trans hnone) hsome
        · exact hprimary
      have hcount := hsingle x
      have hpos : 0 < ls.countP fun l => l.heads x :=
        List.countP_pos_iff.mpr ⟨l, hl, Leaf.heads_iff.mpr ⟨hsame.trans hx, hprimary⟩⟩
      rw [List.countP_append, List.countP_singleton, if_pos (Leaf.heads_iff.mpr ⟨hx, hnew⟩)]
        at hcount
      omega
    intro l hl hmatters
    show l ∈ (r.add new).kept
    rw [List.mem_append, List.mem_singleton] at hl
    unfold Sorting.add
    cases hx : new.session with
    | none =>
      rcases hl with hl | rfl
      · exact List.mem_append_left _ (hkept l hl hmatters)
      · simp
    | some x =>
      dsimp only
      cases hk : r.kept.find? fun k => k.shows x with
      | none =>
        rcases hl with hl | rfl
        · exact List.mem_append_left _ (hkept l hl hmatters)
        · simp
      | some k =>
        have hmem := List.mem_of_find?_eq_some hk
        have hsame : k.session = new.session := by
          simpa [hx] using List.find?_some hk
        by_cases hnew : new.primary = true
        · simp only [hnew, if_true, List.mem_map]
          rcases hl with hl | rfl
          · have hne := hstays l hl hmatters k hnew hmem hsame (by simp [hx])
            exact ⟨l, hkept l hl hmatters, if_neg hne⟩
          · exact ⟨k, hmem, if_pos rfl⟩
        · simp only [hnew]
          rcases hl with hl | rfl
          · exact hkept l hl hmatters
          · simp [hx, hnew] at hmatters

end Layout.Sorting

namespace Layout

variable {s s' : Layout} {q : Plan} {σ : Scene} {told : List Notice}

/-- A leaf with the given id shows the given session, or none. -/
def Has (s : Layout) (id : PaneId) (session : Option SessionId) : Prop :=
  ∃ l, s.leaf? id = some l ∧ l.session = session

theorem Represents.has_iff (h : s.Represents q) {id : PaneId} {session : Option SessionId} :
    s.Has id session ↔ q.Has id session := by
  constructor
  · rintro ⟨l, hl, hsession⟩
    obtain ⟨k, hk, he, rfl⟩ := h.leaf?_eq_some hl
    exact ⟨k, hk, (congrArg Leaf.id he).symm, (congrArg Leaf.session he).symm.trans hsession⟩
  · rintro ⟨l, hl, rfl, hsession⟩
    obtain ⟨p, hp⟩ := h.exists_leaf? hl
    exact ⟨_, hp, hsession⟩

theorem Represents.pane?_eq_none (h : s.Represents q) {id : PaneId} (hid : id ∉ q.ids) :
    s.pane? id = none := by
  rw [← q.map_id_panes, ← (h.panes.map Pane.id).mem_iff] at hid
  simpa [pane?] using hid

/-- A leaf of a plan is the only one with its id. -/
theorem Represents.has_leaf (h : s.Represents q) {l : Leaf} {session : Option SessionId}
    (hl : l ∈ q.leaves) (hhas : q.Has l.id session) : l.session = session := by
  obtain ⟨k, hk, he, rfl⟩ := hhas
  have hnodup : (q.leaves.map Leaf.id).Nodup := h.everyLeaf_eq ▸ h.nodup_everyLeaf
  exact congrArg Leaf.session (List.inj_on_of_nodup_map hnodup hl hk he.symm)

/-- What may become of the leaves where a layout has to turn into tabs. -/
structure Condenses (s s' : Layout) : Prop where
  old : ∀ id session, s'.Has id session → s.Has id session
  /-- Only a view of a session beside the primary one may go. -/
  kept : ∀ id l, s.leaf? id = some l →
    s'.Has id l.session ∨ l.primary = false ∧ ∃ x, l.session = some x

section Unroot

variable {tree : Option SplitTree} {bg : List Leaf}

theorem Represents.unroot_keeps (h : s.Represents ⟨tree, [], bg⟩) :
    s.unroot.tabs = (s.candidates.foldl Sorting.add {}).kept.map Leaf.id ∧
      s.unroot.nextId = s.nextId := by
  obtain ⟨heirs, hfold, -⟩ := h.retabbed.foldl_promote
    ((s.candidates.foldl Sorting.add {}).kept.filterMap Leaf.session)
  rw [(unroot_eq s).trans (congrArg Layout.dropFocus hfold)]
  unfold Layout.dropFocus
  split <;> exact ⟨rfl, rfl⟩

/-- A leaf that is primary or shows no session becomes a tab. -/
theorem Represents.mem_tabs_unroot (h : s.Represents ⟨tree, [], bg⟩)
    (hheaded : (⟨tree, [], bg⟩ : Plan).Headed) {l : Leaf}
    (hl : l ∈ (⟨tree, [], bg⟩ : Plan).leaves) (hmatters : l.session = none ∨ l.primary = true) :
    l.id ∈ s.unroot.tabs := by
  have hsingle : ∀ x, s.candidates.countP (fun k => k.heads x) ≤ 1 := by
    intro x
    have hcount : (s.candidates.map Leaf.hide).countP (fun k => k.heads x) =
        s.candidates.countP fun k => k.heads x := List.countP_map
    rw [← hcount, h.map_hide_candidates, Plan.countP_cards fun _ => rfl]
    exact hheaded.single x
  have hcard : l.hide ∈ s.candidates.map Leaf.hide :=
    h.map_hide_candidates ▸ List.mem_map_of_mem hl
  obtain ⟨c, hc, hcl⟩ := List.mem_map.mp hcard
  have hid : c.id = l.id := (congrArg Leaf.id hcl :)
  have hsession : c.session = l.session := (congrArg Leaf.session hcl :)
  have hprimary : c.primary = l.primary := (congrArg Leaf.primary hcl :)
  rw [h.unroot_keeps.1, ← hid]
  exact List.mem_map_of_mem
    (Sorting.mem_kept _ h.nodup_candidates hsingle c hc (by rwa [hsession, hprimary]))

end Unroot

/-- Tabs keep the primary leaves and those without a session. -/
theorem Presents.asTabs_condenses (h : s.Presents σ) (hheaded : σ.plan.Headed) :
    s.Condenses s.asTabs ∧ s.asTabs.nextId = s.nextId := by
  cases htabs : s.tabbed with
  | true =>
    have hsame : s.asTabs = s := if_pos htabs
    rw [hsame]
    exact ⟨⟨fun _ _ hhas => hhas, fun _ l hl => .inl ⟨l, hl, rfl⟩⟩, rfl⟩
  | false =>
    obtain ⟨⟨tree, tabs, bg⟩, active, focused⟩ := σ
    have hr : s.Represents ⟨tree, tabs, bg⟩ := h.represents
    obtain rfl : tabs = [] := by simpa [tabbed, hr.tabs] using htabs
    obtain ⟨tabs, hr', hcollapses, -⟩ := hr.unroot
    rw [show s.asTabs = s.unroot from if_neg (by simp [htabs])]
    have hold : ∀ id session, s.unroot.Has id session → s.Has id session := by
      intro id session hhas
      obtain ⟨k, hk, rfl, rfl⟩ := hr'.has_iff.mp hhas
      obtain ⟨l, hl, hid, hsession, -⟩ := hcollapses.kept k (by simpa [Plan.leaves_eq] using hk)
      exact hr.has_iff.mpr ⟨l, hl, hid.symm, hsession.symm⟩
    refine ⟨⟨hold, fun id l hl => ?_⟩, hr.unroot_keeps.2⟩
    obtain ⟨k, hk, he, rfl⟩ := hr.leaf?_eq_some hl
    obtain ⟨hid, hsession, hprimary⟩ :
        l.id = k.id ∧ l.session = k.session ∧ l.primary = k.primary := by
      rw [he]
      exact ⟨rfl, rfl, rfl⟩
    by_cases hmatters : k.session = none ∨ k.primary = true
    · have htab := hr.mem_tabs_unroot hheaded hk hmatters
      rw [hr'.tabs] at htab
      obtain ⟨k', hk', hid'⟩ := List.mem_map.mp htab
      have hhas : s.unroot.Has k.id k'.session :=
        hr'.has_iff.mpr ⟨k', by simpa [Plan.leaves_eq] using hk', hid', rfl⟩
      rw [hid, hsession, hr.has_leaf hk (hr.has_iff.mp (hold _ _ hhas))]
      exact .inl hhas
    · push Not at hmatters
      rw [hsession, hprimary]
      exact .inr ⟨by simpa using hmatters.2, Option.ne_none_iff_exists'.mp hmatters.1⟩

structure Opens (s : Layout) (new : PaneId) (session : SessionId) (s' : Layout) : Prop where
  planned : s'.Planned
  unused : s.pane? new = none
  shown : s'.Has new (some session)
  sessions : ∀ x, x ∈ s'.sessions ↔ x ∈ s.sessions ∨ x = session
  brought : ∀ id x, s'.Has id x → id = new ∨ s.Has id x
  kept : ∀ id l, s.leaf? id = some l →
    s'.Has id l.session ∨ l.primary = false ∧ ∃ x, l.session = some x

/-- A layout that shows what another one showed, without a pane that came meanwhile. -/
structure Restores (s : Layout) (gone : PaneId) (s' : Layout) : Prop where
  gone : s'.pane? gone = none
  sessions : ∀ x, x ∈ s'.sessions ↔ x ∈ s.sessions
  brought : ∀ id x, s'.Has id x → s.Has id x
  /-- Earlier leaves are there, but for views of sessions that are shown still. -/
  kept : ∀ id l, s.leaf? id = some l →
    s'.Has id l.session ∨ l.primary = false ∧ ∃ x ∈ s'.sessions, l.session = some x

/-- The leaf that an edit adds to a layout which is condensed first. -/
theorem Condenses.opens {s₁ : Layout} {q₁ q' : Plan} {l : Leaf} {session : SessionId}
    (h : s.Condenses s₁) (h₁ : s₁.Represents q₁) (h' : s'.Represents q')
    (hsession : l.session = some session) (hunused : s.pane? l.id = none)
    (hadds : ∀ id x, q'.Has id x ↔ l.id = id ∧ l.session = x ∨ q₁.Has id x)
    (hsessions : ∀ x, x ∈ s'.sessions ↔ x ∈ s.sessions ∨ some session = some x) :
    s.Opens l.id session s' where
  planned := h'.planned
  unused := hunused
  shown := h'.has_iff.mpr ((hadds _ _).mpr (.inl ⟨rfl, hsession⟩))
  sessions x := by rw [hsessions, Option.some.injEq, eq_comm]
  brought id x hhas := by
    rcases (hadds id x).mp (h'.has_iff.mp hhas) with ⟨hid, -⟩ | hhas
    · exact .inl hid.symm
    · exact .inr (h.old id x (h₁.has_iff.mpr hhas))
  kept id k hk := (h.kept id k hk).imp_left fun hhas =>
    h'.has_iff.mpr ((hadds _ _).mpr (.inr (h₁.has_iff.mp hhas)))

theorem split_opens (h : s.Presents σ) {id new : PaneId} {o : Orientation} {session : SessionId}
    (hrun : s.run (split id o (some session)) = (.ok new, s', told)) : s.Opens new session s' := by
  obtain ⟨hrefusal, hfollows⟩ := (split_decides h id o (some session)).of_run hrun
  have hprepare := exec_prepareSplit h id
  rw [hrefusal] at hprepare
  obtain ⟨s₁, ctx, l, bg, active, hprepare, rfl, hready, h₁⟩ := hprepare
  let primary := (some session).any fun x => !s₁.hasPrimary x
  obtain ⟨ps, r, hinsert, h₂⟩ := exec_insertSplit h₁.represents o (some session) primary []
  let k : Leaf := { id := ⟨s₁.nextId + 1⟩, session := some session, primary }
  have hran : Edit.exec (split l.id o (some session)) ⟨s, []⟩ = (.ok k.id,
      ⟨Layout.refocus { s₁ with panes := ps, root := r, nextId := s₁.nextId + 2 } (some k.id),
        [.changed, .focus (some k.id)]⟩) := by
    simp only [split, Edit.exec_bind, hprepare, Edit.exec_layout, hinsert, exec_finish,
      List.nil_append, k, primary]
  rw [run_eq, hran] at hrun
  obtain ⟨rfl, rfl, rfl⟩ : k.id = new ∧ _ = s' ∧ _ = told := by simpa using hrun
  have hsame : ∀ i x, s₁.Has i x ↔ s.Has i x := fun i x => by
    rw [h₁.represents.has_iff, h.represents.has_iff, hready.adds.has_iff]
    simp
  refine Condenses.opens ⟨fun i x => (hsame i x).mp, fun i j hj => .inl ?_⟩ h₁.represents
    (h₂.refocus (some k.id)) rfl ?_ (fun i x => ?_) (hfollows.grown h).2
  · exact (hsame i j.session).mpr ⟨j, hj, rfl⟩
  · refine h.represents.pane?_eq_none fun hid => ?_
    exact absurd (h₁.represents.fresh _ (hready.mem_ids hid)) (Nat.not_lt.mpr (Nat.le_succ _))
  · rw [Plan.has_map (.ofRefocus _ _), (Plan.adds_split ctx _ o _ l k bg).has_iff]
    simp

theorem createTab_opens (h : s.Presents σ) (hheaded : σ.plan.Headed) {new : PaneId}
    {session : SessionId} (hrun : s.run (createTab session) = (.ok new, s', told)) :
    s.Opens new session s' := by
  obtain ⟨-, hfollows⟩ := (createTab_decides h session).of_run hrun
  obtain ⟨tabs, focused, -, h₁⟩ := h.asTabs
  obtain ⟨hcondenses, hnext⟩ := h.asTabs_condenses hheaded
  let l := s.asTabs.tabLeaf session
  have h₂ := h₁.represents.appendTab l rfl rfl
  rw [run_eq, exec_createTab] at hrun
  obtain ⟨rfl, rfl, rfl⟩ : l.id = new ∧ _ = s' ∧ _ = told := by simpa using hrun
  refine hcondenses.opens h₁.represents ((h₂.showTab l.id).refocus (some l.id)) rfl ?_
    (fun i x => ?_) (hfollows.grown h).2
  · refine h.represents.pane?_eq_none fun hid => ?_
    have hlt := h.represents.fresh _ hid
    rw [show l.id.number = s.nextId from hnext] at hlt
    exact Nat.lt_irrefl _ hlt
  · rw [Plan.has_map (.ofRefocus _ _), Plan.has_map (.ofFront _ _), (Plan.adds_newTab tabs l).has_iff]
    simp

/-- Closing the leaf that was opened for a new session brings everything back, but for views of
other sessions that went when the layout turned into tabs. -/
theorem Opens.close_restores {new : PaneId} {session : SessionId} (h : s.Opens new session s')
    (hs : s.Planned) (hnew : session ∉ s.sessions) :
    ∃ s'' told, s'.run (close new) = (.ok ⟨new, some session, false⟩, s'', told) ∧
      s.Restores new s'' := by
  obtain ⟨q, hq⟩ := hs
  obtain ⟨σ', h'⟩ := h.planned.presents
  have hdecides := close_decides h' new
  obtain ⟨l, hl, hsession⟩ := h.shown
  have hpane : s'.pane? new = some (.leaf l) := by
    obtain ⟨p, hp, hpl⟩ := Option.bind_eq_some_iff.mp hl
    cases p with
    | leaf k => rwa [show k = l by simpa [Pane.leaf?] using hpl] at hp
    | container c => cases hpl
  rw [show s'.leafRefusal? new = none by simp [leafRefusal?, hpane]] at hdecides
  obtain ⟨c, s'', told, hrun, k, hk, rfl, hfollows⟩ := hdecides
  obtain rfl : l = k := by simpa [hpane] using hk
  have hid : l.id = new := (h'.represents.holds hpane).2
  obtain ⟨-, hclosed⟩ := hfollows.closed h'
  obtain ⟨σ'', h'', hstep⟩ := hfollows
  have hhas : ∀ id x, s'.Has id x ↔ l.id = id ∧ l.session = x ∨ s''.Has id x := fun id x => by
    rw [h'.represents.has_iff, h''.represents.has_iff, hstep.has_closed]
  have hgone : s''.pane? new = none :=
    hid ▸ h''.represents.pane?_eq_none (hstep.not_mem_ids h'.represents.nodup)
  have hbrought : ∀ id x, s''.Has id x → s.Has id x := by
    intro id x hx
    rcases h.brought id x ((hhas id x).mpr (.inr hx)) with rfl | hx'
    · obtain ⟨k, hk, -⟩ := hx
      simp [leaf?, hgone] at hk
    · exact hx'
  have hlost : session ∉ s''.sessions := by
    intro hshown
    obtain ⟨k, hk, hks⟩ := h''.represents.mem_sessions_iff.mp hshown
    obtain ⟨p, hp, hps⟩ := hbrought k.id _ (h''.represents.has_iff.mpr ⟨k, hk, rfl, rfl⟩)
    exact hnew (hq.mem_sessions_of_leaf? hp (hps.trans hks))
  have hsessions : ∀ x, x ∈ s''.sessions ↔ x ∈ s.sessions := by
    intro x
    have hgrown := h.sessions x
    rw [hclosed, hsession, Option.some.injEq] at hgrown
    by_cases hx : session = x
    · subst hx
      exact iff_of_false hlost hnew
    · simpa [hx, Ne.symm hx] using hgrown
  refine ⟨s'', told, ?_, hgone, hsessions, hbrought, fun id k hk => ?_⟩
  · have hstill : s''.displays session = false := by
      rw [← Bool.not_eq_true, h''.represents.displays_iff, ← h''.represents.mem_sessions_iff]
      exact hlost
    rw [hrun, hsession]
    simp [hstill]
  · rcases h.kept id k hk with hx | ⟨hprimary, x, hx⟩
    · rcases (hhas id _).mp hx with ⟨hid', -⟩ | hx
      · have hnone := h.unused
        rw [← hid, hid'] at hnone
        simp [leaf?, hnone] at hk
      · exact .inl hx
    · exact .inr ⟨hprimary, x, (hsessions x).mpr (hq.mem_sessions_of_leaf? hk hx), hx⟩

end Layout

end Multiplexer
