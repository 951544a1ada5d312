import Multiplexer.Proofs.Layout.Modes

/-!
# Scenes

A scene is a plan with the tab in front and the pane that has the focus. What an
operation may do to it, and what it tells, is one relation; whatever holds of
every layout is shown by the cases of this relation.
-/

namespace Multiplexer

namespace Plan

/-- The leaves of another plan are those of the plan and some more, wherever they stand. -/
def Adds (q : Plan) (ls : List Leaf) (q' : Plan) : Prop :=
  q'.cards.Perm (ls.map Leaf.hide ++ q.cards)

namespace Adds

variable {q q' : Plan} {ls : List Leaf}

theorem refl (q : Plan) : q.Adds [] q := List.Perm.refl _

/-- Leaves may be added in several steps. -/
theorem trans {q'' : Plan} {ls' : List Leaf} (h : q.Adds ls q') (h' : q'.Adds ls' q'') :
    q.Adds (ls' ++ ls) q'' := by
  unfold Adds
  rw [List.map_append, List.append_assoc]
  exact List.Perm.trans h' (List.Perm.append_left _ h)

theorem symm (h : q.Adds [] q') : q'.Adds [] q := List.Perm.symm h

theorem exists_iff (h : q.Adds ls q') {P : Leaf → Prop} (hP : ∀ l, P l.hide ↔ P l) :
    (∃ l ∈ q'.leaves, P l) ↔ (∃ l ∈ ls, P l) ∨ ∃ l ∈ q.leaves, P l := by
  rw [← exists_cards hP, ← exists_cards hP]
  simp only [List.Perm.mem_iff h, List.mem_append, List.mem_map, or_and_right, exists_or]
  simp [hP]

theorem forall_iff (h : q.Adds ls q') {P : Leaf → Prop} (hP : ∀ l, P l.hide ↔ P l) :
    (∀ l ∈ q'.leaves, P l) ↔ (∀ l ∈ ls, P l) ∧ ∀ l ∈ q.leaves, P l := by
  rw [← forall_cards hP, ← forall_cards hP]
  simp only [List.Perm.mem_iff h, List.mem_append, List.mem_map, or_imp, forall_and]
  simp [hP]

/-- What is counted among the leaves grows by the new ones. -/
theorem countP_eq (h : q.Adds ls q') {p : Leaf → Bool} (hp : ∀ l, p l.hide = p l) :
    q'.leaves.countP p = ls.countP p + q.leaves.countP p := by
  rw [← countP_cards hp, ← countP_cards hp, List.Perm.countP_eq _ h, List.countP_append,
    List.countP_map]
  exact congrArg (ls.countP · + _) (funext hp)

/-- A plan with more leaves shows what they show as well. -/
theorem shows_iff (h : q.Adds ls q') (x : SessionId) :
    q'.Shows x ↔ (∃ l ∈ ls, l.session = some x) ∨ q.Shows x := h.exists_iff fun _ => .rfl

theorem hasPrimary_iff (h : q.Adds ls q') (x : SessionId) :
    q'.HasPrimary x ↔ (∃ l ∈ ls, l.session = some x ∧ l.primary = true) ∨ q.HasPrimary x :=
  h.exists_iff fun _ => .rfl

end Adds

theorem adds_split (ctx : Context) (box : PaneId) (o : Orientation) (r : Binary64)
    (l new : Leaf) (bg : List Leaf) : Adds ⟨some (ctx.fill (.leaf l)), [], bg⟩ [new]
      ⟨some (ctx.fill (.node box o r (.leaf l) (.leaf new))), [], bg⟩ := by
  simp only [Adds, cards, leaves_eq, Option.toList_some, List.flatMap_singleton, List.nil_append,
    Context.leaves_fill, SplitTree.leaves, List.map_append, List.map_cons, List.map_nil,
    List.append_assoc, List.cons_append]
  refine List.Perm.trans (List.Perm.append_left _ (List.Perm.swap _ _ _)) ?_
  exact List.perm_middle

/-- When a leaf goes and its sibling takes the place of their parent, only the leaf is gone. -/
theorem adds_sibling (f : Frame) (ctx : Context) (l : Leaf) (bg : List Leaf) :
    Adds ⟨some (ctx.fill f.other), [], bg⟩ [l]
      ⟨some (Context.fill (f :: ctx) (.leaf l)), [], bg⟩ := by
  simp only [Adds, cards, leaves_eq, Option.toList_some, List.flatMap_singleton, List.nil_append,
    Context.leaves_fill, Context.before, Context.after, SplitTree.leaves]
  simp only [List.map_append, List.map_cons, List.map_nil, List.append_assoc,
    List.singleton_append]
  cases f.toFirst with
  | true => simp
  | false =>
    simp only [Bool.false_eq_true, if_false, List.map_nil, List.nil_append]
    refine List.Perm.trans (List.Perm.append_left _ List.perm_middle) ?_
    exact List.perm_middle

theorem adds_restored (l : Leaf) (bg : List Leaf) :
    (restored bg).Adds [l] ⟨some (.leaf l), [], bg⟩ := by
  rcases List.eq_nil_or_concat' bg with rfl | ⟨bg, k, rfl⟩
  · simp [restored, Adds, cards, leaves_eq, SplitTree.leaves]
  · simp only [restored, List.getLast?_concat, List.dropLast_concat, Adds, cards, leaves_eq,
      Option.toList_some, List.flatMap_singleton, SplitTree.leaves, List.map_append, List.map_cons,
      List.map_nil, List.nil_append, List.singleton_append]
    exact (List.perm_append_singleton _ _).cons _

theorem adds_tab (as bs : List Leaf) (l : Leaf) :
    Adds ⟨none, as ++ bs, []⟩ [l] ⟨none, as ++ l :: bs, []⟩ := by
  simp only [Adds, cards, leaves_eq, Option.toList_none, List.flatMap_nil, List.nil_append,
    List.append_nil, List.map_append, List.map_cons, List.map_nil]
  exact List.perm_middle

theorem adds_newTab (tabs : List Leaf) (l : Leaf) :
    Adds ⟨none, tabs, []⟩ [l] ⟨none, tabs ++ [l], []⟩ := by
  have h := adds_tab tabs [] l
  rwa [List.append_nil] at h

theorem adds_hidden (t : SplitTree) (as bs : List Leaf) (l : Leaf) :
    Adds ⟨some t, [], as ++ bs⟩ [l] ⟨some t, [], as ++ l :: bs⟩ := by
  simp only [Adds, cards, leaves_eq, Option.toList_some, List.flatMap_singleton, List.nil_append,
    List.map_append, List.map_cons, List.map_nil, ← List.append_assoc]
  refine List.perm_middle.trans ?_
  simp only [List.append_assoc]
  exact List.Perm.refl _

/-- Tabs become a tree of one of them with the others behind it. -/
theorem adds_planted (as bs : List Leaf) (l : Leaf) : Adds ⟨none, as ++ l :: bs, []⟩ []
    ⟨some (.leaf l.expose), [], (as ++ bs).map Leaf.hide⟩ := by
  simp only [Adds, cards, leaves_eq, Option.toList_some, Option.toList_none, List.flatMap_singleton,
    List.flatMap_nil, SplitTree.leaves, List.nil_append, List.append_nil, List.map_append,
    List.map_cons, List.map_nil, List.map_map, List.singleton_append]
  exact List.perm_middle.symm

/-- What is in sight is not a matter of the cards. -/
theorem adds_map {f : Leaf → Leaf} (hf : ∀ l, (f l).hide = l.hide) (q : Plan) :
    q.Adds [] (q.map f) := by
  have hcards : (q.map f).cards = q.cards := by
    rw [cards, leaves_map, List.map_map]
    exact List.map_congr_left fun l _ => hf l
  rw [Adds, hcards]
  exact List.Perm.refl _

theorem adds_front (tabs : List PaneId) (id : PaneId) (q : Plan) :
    q.Adds [] (q.map (Leaf.front tabs id)) := by
  refine adds_map (fun l => ?_) q
  unfold Leaf.front
  split <;> rfl

/-- How a new leaf comes to a plan: with an id of its own, in sight, without the focus, and as the
primary leaf of its session if this has none. -/
structure Joins (q : Plan) (l : Leaf) : Prop where
  apart : ∀ k ∈ q.leaves, k.id ≠ l.id
  unfocused : l.focused = false
  visible : l.visible = true
  /-- It takes the primary flag from nobody. -/
  yields : l.primary = true → ∃ x, l.session = some x ∧ ¬q.HasPrimary x
  heads : ∀ x, l.session = some x → q.Shows x ∨ l.primary = true

/-- What becomes of the primary flag of a leaf that is gone. -/
inductive Bequeaths (l : Leaf) (q : Plan) : Plan → Prop where
  | keep : (∀ x, l.session = some x → l.primary = true → q.Shows x → q.HasPrimary x) →
    Bequeaths l q q
  | pass (x : SessionId) (heir : Leaf) : l.session = some x → ¬q.HasPrimary x →
    heir ∈ q.leaves → heir.session = some x → (q.leaves.map Leaf.id).Nodup →
    Bequeaths l q (q.map (Leaf.crown [heir.id]))

theorem Bequeaths.eq_map {l : Leaf} {q q' : Plan} (h : q.Bequeaths l q') :
    ∃ heirs, q' = q.map (Leaf.crown heirs) := by
  cases h with
  | keep => exact ⟨[], by rw [Leaf.crown_nil, map_same]⟩
  | pass x heir => exact ⟨_, rfl⟩

theorem Bequeaths.shows_iff {l : Leaf} {q q' : Plan} (h : q.Bequeaths l q') (x : SessionId) :
    q'.Shows x ↔ q.Shows x := by
  obtain ⟨heirs, rfl⟩ := h.eq_map
  exact q.shows_map (.ofCrown heirs) x

end Plan

structure Scene where
  plan : Plan := {}
  active : Option PaneId := none
  focused : Option PaneId := none

namespace Scene

inductive Change where
  | rearranged
  | cleared
  | grown (session : Option SessionId)
  | closed (l : Leaf)

/-- Move the focus flag. -/
def refocus (σ : Scene) (target : Option PaneId) : Scene where
  plan := σ.plan.map (Leaf.refocus σ.focused target)
  active := σ.active
  focused := target

/-- Make a tab the active and only visible one. -/
def front (σ : Scene) (id : PaneId) : Scene where
  plan := σ.plan.map (Leaf.front (σ.plan.tabs.map Leaf.id) id)
  active := some id
  focused := σ.focused

/-- What is told when the focus goes somewhere; it may be there already. -/
def news (σ : Scene) (target : Option PaneId) : List Notice :=
  if σ.focused = target then [.changed] else [.changed, .focus target]

variable (σ : Scene)

/-- A leaf that may be split, with its place: it is in the tree, or a tab that becomes a tree with
the other tabs behind it. -/
inductive Ready : Context → Leaf → List Leaf → Option PaneId → Prop where
  | tree (ctx : Context) (l : Leaf) (bg : List Leaf) :
    σ.plan = ⟨some (ctx.fill (.leaf l)), [], bg⟩ → Ready ctx l bg σ.active
  | tab (as bs : List Leaf) (l : Leaf) : σ.plan = ⟨none, as ++ l :: bs, []⟩ →
    Ready [] l.expose ((as ++ bs).map Leaf.hide) none

/-- What is left when a leaf is taken out: the plan, the active tab, and where the focus is to
go. -/
inductive Taken : Leaf → Plan → Option PaneId → Option PaneId → Prop where
  | lastTab (l : Leaf) : σ.plan = ⟨none, [l], []⟩ → Taken { l with parent := none } {} none none
  | frontTab (as bs : List Leaf) (l k : Leaf) : σ.plan = ⟨none, as ++ l :: bs, []⟩ →
    σ.active = some l.id → (as ++ bs).getLast? = some k →
    Taken { l with parent := none }
      (Plan.map (Leaf.front ((as ++ bs).map Leaf.id) k.id) ⟨none, as ++ bs, []⟩)
      (some k.id) (some k.id)
  | otherTab (as bs : List Leaf) (l : Leaf) : σ.plan = ⟨none, as ++ l :: bs, []⟩ →
    σ.active ≠ some l.id → as ++ bs ≠ [] →
    Taken { l with parent := none } ⟨none, as ++ bs, []⟩ σ.active σ.focused
  | hidden (t : SplitTree) (as bs : List Leaf) (l : Leaf) :
    σ.plan = ⟨some t, [], as ++ l :: bs⟩ →
    Taken { l with parent := none } ⟨some t, [], as ++ bs⟩ σ.active σ.focused
  | root (l : Leaf) (bg : List Leaf) : σ.plan = ⟨some (.leaf l), [], bg⟩ →
    Taken { l with parent := none } (Plan.restored bg) σ.active (bg.getLast?.map Leaf.id)
  | tree (f : Frame) (ctx : Context) (l : Leaf) (bg : List Leaf) :
    σ.plan = ⟨some (Context.fill (f :: ctx) (.leaf l)), [], bg⟩ →
    Taken { l with parent := some f.id } ⟨some (ctx.fill f.other), [], bg⟩ σ.active
      (if σ.focused = some l.id then (ctx.fill f.other).successor f.other else σ.focused)

/-- The tabs of a scene, which may have to be made of a tree, and the focus among them. -/
inductive Gathered : List Leaf → Option PaneId → Prop where
  | tabs (tabs : List Leaf) : σ.plan = ⟨none, tabs, []⟩ → Gathered tabs σ.focused
  | tree (tree : Option SplitTree) (tabs bg : List Leaf) :
    σ.plan = ⟨tree, [], bg⟩ → σ.plan.Collapses tabs →
    Gathered tabs (σ.focused.filter fun id => id ∈ tabs.map Leaf.id)

/-- What an operation that succeeds may do to a scene, and what it tells. -/
inductive Step : Change → List Notice → Scene → Prop where
  | idle : Step .rearranged [] σ
  | cleared : Step .cleared (σ.news none) {}
  | rooted (l : Leaf) : σ.plan = {} → σ.plan.Joins l →
    Step (.grown l.session) [.changed, .focus (some l.id)]
      (refocus ⟨⟨some (.leaf l), [], []⟩, σ.active, σ.focused⟩ (some l.id))
  | split (ctx : Context) (l new : Leaf) (bg : List Leaf) (active : Option PaneId) (box : PaneId)
      (o : Orientation) (r : Binary64) :
    σ.Ready ctx l bg active → Plan.Joins ⟨some (ctx.fill (.leaf l)), [], bg⟩ new →
    Step (.grown new.session) [.changed, .focus (some new.id)]
      (refocus ⟨⟨some (ctx.fill (.node box o r (.leaf l) (.leaf new))), [], bg⟩, active, σ.focused⟩
        (some new.id))
  | tab (tabs : List Leaf) (new : Leaf) (focused : Option PaneId) :
    σ.Gathered tabs focused → Plan.Joins ⟨none, tabs, []⟩ new →
    Step (.grown new.session) [.changed, .focus (some new.id)]
      (refocus (front ⟨⟨none, tabs ++ [new], []⟩, σ.active, focused⟩ new.id) (some new.id))
  | closed (l : Leaf) (q q' : Plan) (active focus : Option PaneId) :
    σ.Taken l q active focus → q.Bequeaths l q' →
    Step (.closed l) (σ.news focus) (refocus ⟨q', active, σ.focused⟩ focus)
  | moved (t : SplitTree) (bg : List Leaf) (l : Leaf) : σ.plan = ⟨some t, [], bg⟩ → l ∈ t.leaves →
    Step .rearranged (σ.news (some l.id)) (σ.refocus (some l.id))
  | fronted (tabs : List Leaf) (l : Leaf) (focused : Option PaneId) :
    σ.Gathered tabs focused → l ∈ tabs →
    Step .rearranged (news ⟨⟨none, tabs, []⟩, σ.active, focused⟩ (some l.id))
      (refocus (front ⟨⟨none, tabs, []⟩, σ.active, focused⟩ l.id) (some l.id))
  | resized (ctx : Context) (id : PaneId) (o : Orientation) (old new : Binary64)
      (a b : SplitTree) (bg : List Leaf) :
    σ.plan = ⟨some (ctx.fill (.node id o old a b)), [], bg⟩ →
    Step .rearranged [.changed]
      ⟨⟨some (ctx.fill (.node id o new a b)), [], bg⟩, σ.active, σ.focused⟩

section Sessions

/-! What becomes of the sessions. -/

variable {σ σ' : Scene} {l : Leaf} {told : List Notice}

theorem Ready.adds {ctx : Context} {bg : List Leaf} {active : Option PaneId}
    (h : σ.Ready ctx l bg active) : σ.plan.Adds [] ⟨some (ctx.fill (.leaf l)), [], bg⟩ := by
  cases h with
  | tree ctx l bg hplan => exact hplan ▸ .refl _
  | tab as bs l hplan => exact hplan ▸ Plan.adds_planted as bs l

theorem Taken.adds {q : Plan} {active focus : Option PaneId} (h : σ.Taken l q active focus) :
    q.Adds [l] σ.plan := by
  cases h with
  | lastTab l hplan => exact hplan ▸ Plan.adds_tab [] [] l
  | frontTab as bs l k hplan =>
    have hfront := Plan.adds_front ((as ++ bs).map Leaf.id) k.id ⟨none, as ++ bs, []⟩
    exact hplan ▸ hfront.symm.trans (Plan.adds_tab as bs l)
  | otherTab as bs l hplan => exact hplan ▸ Plan.adds_tab as bs l
  | hidden t as bs l hplan => exact hplan ▸ Plan.adds_hidden t as bs l
  | root l bg hplan => exact hplan ▸ Plan.adds_restored l bg
  | tree f ctx l bg hplan => exact hplan ▸ Plan.adds_sibling f ctx l bg

theorem Gathered.shows_iff {tabs : List Leaf} {focused : Option PaneId}
    (h : σ.Gathered tabs focused) (x : SessionId) :
    (⟨none, tabs, []⟩ : Plan).Shows x ↔ σ.plan.Shows x := by
  cases h with
  | tabs tabs hplan => exact hplan ▸ .rfl
  | tree tree tabs bg hplan hcollapses =>
    rw [Plan.Shows, Plan.leaves_eq]
    constructor
    · rintro ⟨k, hk, hs⟩
      obtain ⟨l, hl, -, he, -⟩ := hcollapses.kept k (by simpa using hk)
      exact ⟨l, hl, he.symm.trans hs⟩
    · intro hx
      obtain ⟨k, hk, hs, -⟩ := hcollapses.primary x hx
      exact ⟨k, by simpa using hk, hs⟩

theorem shows_refocus (σ : Scene) (target : Option PaneId) (x : SessionId) :
    (σ.refocus target).plan.Shows x ↔ σ.plan.Shows x := σ.plan.shows_map (.ofRefocus _ _) x

theorem shows_front (σ : Scene) (id : PaneId) (x : SessionId) :
    (σ.front id).plan.Shows x ↔ σ.plan.Shows x := σ.plan.shows_map (.ofFront _ _) x

/-- A rearrangement shows the same sessions. -/
theorem Step.shows_rearranged (h : σ.Step .rearranged told σ') (x : SessionId) :
    σ'.plan.Shows x ↔ σ.plan.Shows x := by
  cases h with
  | idle => exact .rfl
  | moved t bg l => rw [shows_refocus]
  | fronted tabs l focused hgathered => rw [shows_refocus, shows_front, hgathered.shows_iff]
  | resized ctx id o old new a b bg hplan =>
    rw [hplan, Plan.Shows, Plan.Shows, Plan.leaves_eq, Plan.leaves_eq]
    simp [Context.leaves_fill, SplitTree.leaves]

theorem Step.shows_grown {session : Option SessionId} (h : σ.Step (.grown session) told σ')
    (x : SessionId) : σ'.plan.Shows x ↔ σ.plan.Shows x ∨ session = some x := by
  cases h with
  | rooted l hplan =>
    rw [shows_refocus, hplan, Plan.Shows, Plan.Shows, Plan.leaves_eq, Plan.leaves_eq]
    simp [SplitTree.leaves]
  | split ctx l new bg active box o r hready =>
    have hadds := hready.adds.trans (Plan.adds_split ctx box o r l new bg)
    rw [shows_refocus, hadds.shows_iff]
    simp [or_comm]
  | tab tabs new focused hgathered =>
    rw [shows_refocus, shows_front, (Plan.adds_newTab tabs new).shows_iff, hgathered.shows_iff]
    simp [or_comm]

/-- A step that closes a leaf hides its session at most. -/
theorem Step.shows_closed (h : σ.Step (.closed l) told σ') (x : SessionId) :
    σ.plan.Shows x ↔ σ'.plan.Shows x ∨ l.session = some x := by
  cases h with
  | closed l q q' active focus htaken hbequeaths =>
    rw [shows_refocus, hbequeaths.shows_iff, htaken.adds.shows_iff]
    simp [or_comm]

end Sessions

end Scene

end Multiplexer
