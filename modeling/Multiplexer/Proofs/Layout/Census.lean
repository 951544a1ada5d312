import Multiplexer.Proofs.Layout.Operations

/-!
# Which leaves there are

Leaves come by an operation that is to make one and go by a close. A change of
mode keeps one leaf for each session and every leaf without a session, so that no
session is lost, and what is told of a closed leaf's session is true.
-/

namespace Multiplexer

namespace Plan

/-- How many leaves have no session. -/
def blanks (q : Plan) : Nat := q.leaves.countP Leaf.blank

theorem blanks_map {f : Leaf → Leaf} (hf : Leaf.FlagChange f) (q : Plan) :
    (q.map f).blanks = q.blanks := by
  unfold blanks
  rw [leaves_map, List.countP_map]
  exact congrArg (q.leaves.countP ·) (funext fun l => by simp [Leaf.blank, hf.session])

theorem Adds.blanks_eq {q q' : Plan} {l : Leaf} (h : q.Adds [l] q') :
    q'.blanks = q.blanks + [l.session].count none := by
  unfold blanks
  rw [h.countP_eq fun _ => rfl, Nat.add_comm, List.countP_singleton, List.count_singleton]
  cases hs : l.session <;> simp [Leaf.blank, hs]

end Plan

namespace Scene

namespace Change

/-- What new leaves show. -/
def opened : Change → List (Option SessionId)
  | .grown session => [session]
  | .rearranged | .cleared | .closed _ => []

/-- The leaf that is gone. -/
def gone : Change → Option Leaf
  | .closed l => some l
  | .rearranged | .cleared | .grown _ => none

end Change

variable {σ σ' : Scene} {c : Change} {told : List Notice}

/-- What is left without a leaf shows what the other leaves show. -/
theorem Taken.shows_iff {l : Leaf} {q : Plan} {active focus : Option PaneId}
    (h : σ.Taken l q active focus) (hnodup : (σ.plan.leaves.map Leaf.id).Nodup) (x : SessionId) :
    q.Shows x ↔ ∃ k ∈ σ.plan.leaves, k.session = some x ∧ k.id ≠ l.id := by
  have hids : (σ.plan.cards.map Leaf.id).Perm (l.id :: q.cards.map Leaf.id) :=
    h.adds.map Leaf.id
  have hmap : ∀ p : Plan, p.cards.map Leaf.id = p.leaves.map Leaf.id := fun p => by
    simp [Plan.cards, Function.comp_def, Leaf.hide]
  rw [hmap, hmap] at hids
  have hnot := (List.nodup_cons.mp (hids.nodup_iff.mp hnodup)).1
  rw [h.adds.exists_iff (P := fun k => k.session = some x ∧ k.id ≠ l.id) fun _ => .rfl]
  constructor
  · rintro ⟨k, hk, hx⟩
    exact .inr ⟨k, hk, hx, fun he => hnot (he ▸ List.mem_map_of_mem hk)⟩
  · rintro (⟨k, hk, -, hne⟩ | ⟨k, hk, hx, -⟩)
    · exact absurd (congrArg Leaf.id (List.mem_singleton.mp hk)) hne
    · exact ⟨k, hk, hx⟩

/-- What is shown after a close is what other leaves show. -/
theorem Step.shows_left {l : Leaf} (h : σ.Step (.closed l) told σ')
    (hnodup : (σ.plan.leaves.map Leaf.id).Nodup) (x : SessionId) :
    σ'.plan.Shows x ↔ ∃ k ∈ σ.plan.leaves, k.session = some x ∧ k.id ≠ l.id := by
  cases h with
  | closed l q q' active focus htaken hbequeaths =>
    rw [shows_refocus, hbequeaths.shows_iff, htaken.shows_iff hnodup]

/-- The sessions that are shown after a step. -/
theorem Step.shows_iff (h : σ.Step c told σ') (hc : c ≠ .cleared)
    (hnodup : (σ.plan.leaves.map Leaf.id).Nodup) (x : SessionId) : σ'.plan.Shows x ↔
      (σ.plan.Shows x ∨ some x ∈ c.opened) ∧ ¬∃ l, c.gone = some l ∧ l.session = some x ∧
        ∀ k ∈ σ.plan.leaves, k.session = some x → k.id = l.id := by
  cases c with
  | rearranged => simp [h.shows_rearranged, Change.opened, Change.gone]
  | cleared => exact absurd rfl hc
  | grown session => simp [h.shows_grown, Change.opened, Change.gone, eq_comm]
  | closed l =>
    have hleft := h.shows_left hnodup x
    have hclosed := h.shows_closed x
    simp only [Change.opened, Change.gone, List.not_mem_nil, or_false, Option.some.injEq,
      exists_eq_left']
    constructor
    · intro hshows
      obtain ⟨k, hk, hx, hne⟩ := hleft.mp hshows
      exact ⟨hclosed.mpr (.inl hshows), fun hlast => hne (hlast.2 k hk hx)⟩
    · rintro ⟨hshows, hlast⟩
      rcases hclosed.mp hshows with hshows' | hx
      · exact hshows'
      · by_contra hnone
        exact hlast ⟨hx, fun k hk hk' => by_contra fun hne => hnone (hleft.mpr ⟨k, hk, hk', hne⟩)⟩

theorem blanks_refocus (σ : Scene) (target : Option PaneId) :
    (σ.refocus target).plan.blanks = σ.plan.blanks := σ.plan.blanks_map (.ofRefocus _ _)

theorem blanks_front (σ : Scene) (id : PaneId) : (σ.front id).plan.blanks = σ.plan.blanks :=
  σ.plan.blanks_map (.ofFront _ _)

theorem Gathered.blanks_eq {tabs : List Leaf} {focused : Option PaneId}
    (h : σ.Gathered tabs focused) : (⟨none, tabs, []⟩ : Plan).blanks = σ.plan.blanks := by
  cases h with
  | tabs tabs hplan => rw [hplan]
  | tree tree tabs bg hplan hcollapses => simpa [Plan.blanks, Plan.leaves_eq] using hcollapses.blank

/-- The leaves without a session after a step. -/
theorem Step.blanks_eq (h : σ.Step c told σ') (hc : c ≠ .cleared) :
    σ'.plan.blanks + (c.gone.toList.map Leaf.session).count none =
      σ.plan.blanks + c.opened.count none := by
  cases h with
  | idle => rfl
  | cleared => exact absurd rfl hc
  | rooted l hplan =>
    have hadds : σ.plan.Adds [l] ⟨some (.leaf l), [], []⟩ := hplan ▸ List.Perm.refl _
    rw [blanks_refocus]
    exact hadds.blanks_eq
  | split ctx l new bg active box o r hready =>
    have hadds := hready.adds.trans (Plan.adds_split ctx box o r l new bg)
    rw [blanks_refocus]
    exact hadds.blanks_eq
  | tab tabs new focused hgathered =>
    rw [blanks_refocus, blanks_front, ← hgathered.blanks_eq]
    exact (Plan.adds_newTab tabs new).blanks_eq
  | closed l q q' active focus htaken hbequeaths =>
    obtain ⟨heirs, rfl⟩ := hbequeaths.eq_map
    rw [blanks_refocus, Plan.blanks_map (.ofCrown heirs)]
    exact htaken.adds.blanks_eq.symm
  | moved t bg l =>
    rw [blanks_refocus]
    rfl
  | fronted tabs l focused hgathered =>
    rw [blanks_refocus, blanks_front, ← hgathered.blanks_eq]
    rfl
  | resized ctx id o old new a b bg hplan =>
    rw [hplan]
    simp [Plan.blanks, Plan.leaves_eq, Context.leaves_fill, SplitTree.leaves, Change.gone,
      Change.opened]

end Scene

namespace Layout

/-- The session, if any, that a new leaf is asked for with. -/
def Operation.passed : Operation → List (Option SessionId)
  | .createRoot session | .split _ _ session => [session]
  | .createTab session => [some session]
  | _ => []

def closes (s : Layout) : Operation → Option Leaf
  | .close id => s.leaf? id
  | _ => none

def blanks (s : Layout) : Nat := s.held.countP Leaf.blank

/-- An operation closes the last leaf of a session. -/
def Loses (s : Layout) (op : Operation) (x : SessionId) : Prop :=
  ∃ l, s.closes op = some l ∧ l.session = some x ∧ ∀ k ∈ s.held, k.session = some x → k.id = l.id

/-- What an operation makes of the leaves, and what a close says of the session. -/
structure Accounts (s : Layout) (op : Operation) (a : Answer) (s' : Layout) : Prop where
  sessions : ∀ x, x ∈ s'.sessions ↔ (x ∈ s.sessions ∨ some x ∈ op.passed) ∧ ¬s.Loses op x
  blanks : s'.blanks + ((s.closes op).toList.map Leaf.session).count none =
    s.blanks + op.passed.count none
  closed : ∀ id, op = .close id → ∃ l still, s.closes op = some l ∧ l.id = id ∧
    a = .closed ⟨id, l.session, still⟩ ∧
    (still = true ↔ ∃ x, l.session = some x ∧ ∃ k ∈ s'.held, k.session = some x)

structure Lasts (s : Layout) (ops : List Operation) : Prop where
  kept : ∀ x ∈ s.sessions, x ∈ (ops.foldl apply s).sessions ∨ ∃ before op after,
    ops = before ++ op :: after ∧ (op = .reset ∨ (before.foldl apply s).Loses op x)
  brought : ∀ x ∈ (ops.foldl apply s).sessions, x ∈ s.sessions ∨ ∃ op ∈ ops, some x ∈ op.passed
  blanks : (∀ op ∈ ops, op ≠ .reset ∧ (∀ id, op ≠ .close id) ∧ none ∉ op.passed) →
    (ops.foldl apply s).blanks = s.blanks

variable {s s' : Layout} {σ : Scene} {q : Plan}

theorem Represents.blanks_eq (h : s.Represents q) : s.blanks = q.blanks :=
  h.countP_held fun _ _ => rfl

theorem Represents.mem_sessions_held (h : s.Represents q) (x : SessionId) :
    x ∈ s.sessions ↔ ∃ l ∈ s.held, l.session = some x := by
  rw [h.mem_sessions_iff, h.exists_held (P := fun l => l.session = some x) fun _ _ => .rfl]
  rfl

theorem gone_change (s : Layout) (op : Operation) : (s.change op).gone = s.closes op := by
  cases op with
  | mirror pane o =>
    show (s.mirrorChange pane).gone = none
    unfold mirrorChange
    split
    · split <;> rfl
    · rfl
  | close pane =>
    show (s.closeChange pane).gone = s.leaf? pane
    unfold closeChange
    cases s.leaf? pane <;> rfl
  | _ => rfl

theorem change_ne_cleared {op : Operation} (hop : op ≠ .reset) : s.change op ≠ .cleared := by
  cases op with
  | reset => exact absurd rfl hop
  | mirror pane o =>
    show s.mirrorChange pane ≠ .cleared
    unfold mirrorChange
    split
    · split <;> simp
    · simp
  | close pane =>
    show s.closeChange pane ≠ .cleared
    unfold closeChange
    split <;> simp
  | _ => simp [change]

/-- What a mirror shows is shown already. -/
theorem Represents.opened_mirror (h : s.Represents q) (pane : PaneId) :
    (∀ x, some x ∈ (s.mirrorChange pane).opened → x ∈ s.sessions) ∧
      none ∉ (s.mirrorChange pane).opened := by
  unfold mirrorChange
  cases hleaf : s.leaf? pane with
  | none => simp [Scene.Change.opened]
  | some l =>
    cases hsession : l.session with
    | none => simp [hsession, Scene.Change.opened]
    | some session =>
      have hshown := h.mem_sessions_of_leaf? hleaf hsession
      simpa [hsession, Scene.Change.opened] using hshown

theorem Represents.opened_change (h : s.Represents q) (op : Operation) :
    (∀ x, x ∈ s.sessions ∨ some x ∈ (s.change op).opened ↔ x ∈ s.sessions ∨ some x ∈ op.passed) ∧
      (s.change op).opened.count none = op.passed.count none := by
  cases op with
  | mirror pane o =>
    obtain ⟨hshown, hblank⟩ := h.opened_mirror pane
    refine ⟨fun x => ?_, List.count_eq_zero.mpr hblank⟩
    show x ∈ s.sessions ∨ some x ∈ (s.mirrorChange pane).opened ↔ x ∈ s.sessions ∨ some x ∈ []
    simpa using hshown x
  | close pane =>
    have hopened : (s.closeChange pane).opened = [] := by
      unfold closeChange
      split <;> rfl
    show (∀ x, _ ∨ some x ∈ (s.closeChange pane).opened ↔ _) ∧
      (s.closeChange pane).opened.count none = _
    rw [hopened]
    exact ⟨fun _ => .rfl, rfl⟩
  | _ => exact ⟨fun _ => .rfl, rfl⟩

theorem Represents.loses_iff (h : s.Represents q) (op : Operation) (x : SessionId) :
    s.Loses op x ↔ ∃ l, (s.change op).gone = some l ∧ l.session = some x ∧
      ∀ k ∈ q.leaves, k.session = some x → k.id = l.id := by
  rw [gone_change]
  refine exists_congr fun l => and_congr_right fun _ => and_congr_right fun _ => ?_
  exact h.forall_held fun _ _ => .rfl

/-- Every operation but a reset keeps account of the leaves. -/
theorem Presents.accounts (h : s.Presents σ) {op : Operation} {a : Answer} {told : List Notice}
    (hop : op ≠ .reset) (hrun : s.run (perform op) = (.ok a, s', told)) :
    s.Accounts op a s' := by
  have hr := h.represents
  have hc : s.change op ≠ .cleared := change_ne_cleared hop
  obtain ⟨-, σ', h', hstep⟩ := (h.decides op).of_run hrun
  obtain ⟨hopened, hcount⟩ := hr.opened_change op
  have hnodup : (σ.plan.leaves.map Leaf.id).Nodup := hr.everyLeaf_eq ▸ hr.nodup_everyLeaf
  refine ⟨fun x => ?_, ?_, ?_⟩
  · rw [h'.represents.mem_sessions_iff, hstep.shows_iff hc hnodup, ← hr.loses_iff,
      ← hr.mem_sessions_iff, hopened]
  · rw [h'.represents.blanks_eq, hr.blanks_eq, ← gone_change, ← hcount]
    exact hstep.blanks_eq hc
  · rintro id rfl
    rw [perform, run_map] at hrun
    cases hclose : s.run (close id) with
    | mk r rest =>
      rw [hclose] at hrun
      cases r with
      | error x => simp [Except.map] at hrun
      | ok c =>
        obtain ⟨ha, rfl⟩ : Answer.closed c = a ∧ rest = (s', told) := by
          simpa [Except.map] using hrun
        obtain ⟨-, l, hl, rfl, -⟩ := (close_decides h id).of_run hclose
        refine ⟨l, _, by simp [closes, leaf?, hl, Pane.leaf?], (hr.holds hl).2, ha.symm, ?_⟩
        simp only [Option.any_eq_true, h'.represents.displays_iff, ← h'.represents.mem_sessions_iff,
          h'.represents.mem_sessions_held]

/-- What an operation leaves is as before or accounted for. -/
theorem Planned.apply_accounts (h : s.Planned) {op : Operation} (hop : op ≠ .reset) :
    s.apply op = s ∨ ∃ a, s.Accounts op a (s.apply op) := by
  obtain ⟨σ, h⟩ := h.presents
  rw [apply_eq]
  rcases hrun : s.run (perform op) with ⟨x | a, s', told⟩
  · exact .inl ((h.decides op).of_error hrun).2.1
  · exact .inr ⟨a, h.accounts hop hrun⟩

/-- One operation loses a session only by a reset or when it closes the last leaf of it. -/
theorem Planned.apply_kept (h : s.Planned) (op : Operation) {x : SessionId} (hx : x ∈ s.sessions) :
    x ∈ (s.apply op).sessions ∨ op = .reset ∨ s.Loses op x := by
  by_cases hop : op = .reset
  · exact .inr (.inl hop)
  · by_cases hlast : s.Loses op x
    · exact .inr (.inr hlast)
    · rcases h.apply_accounts hop with hsame | ⟨a, haccounts⟩
      · exact .inl (by rwa [hsame])
      · exact .inl ((haccounts.sessions x).mpr ⟨.inl hx, hlast⟩)

theorem Planned.apply_brought (h : s.Planned) (op : Operation) {x : SessionId}
    (hx : x ∈ (s.apply op).sessions) : x ∈ s.sessions ∨ some x ∈ op.passed := by
  by_cases hop : op = .reset
  · have hnil : (s.apply op).sessions = [] := by
      rw [hop, apply, run_reset]
      rfl
    simp [hnil] at hx
  · rcases h.apply_accounts hop with hsame | ⟨a, haccounts⟩
    · exact .inl (hsame ▸ hx)
    · exact ((haccounts.sessions x).mp hx).1

theorem Planned.apply_blanks (h : s.Planned) {op : Operation} (hop : op ≠ .reset)
    (hclose : ∀ id, op ≠ .close id) (hpassed : none ∉ op.passed) :
    (s.apply op).blanks = s.blanks := by
  rcases h.apply_accounts hop with hsame | ⟨a, haccounts⟩
  · rw [hsame]
  · have hcloses : s.closes op = none := by
      cases op with
      | close id => exact absurd rfl (hclose id)
      | _ => rfl
    have hblanks := haccounts.blanks
    rw [hcloses, List.count_eq_zero.mpr hpassed] at hblanks
    exact hblanks

/-- Many operations, one after the other, keep account of the leaves. -/
theorem Planned.lasts (h : s.Planned) (ops : List Operation) : s.Lasts ops := by
  induction ops generalizing s with
  | nil => exact ⟨fun x hx => .inl hx, fun x hx => .inl hx, fun _ => rfl⟩
  | cons op ops ih =>
    have hrest := ih (apply_planned h op)
    refine ⟨fun x hx => ?_, fun x hx => ?_, fun hops => ?_⟩
    · rcases h.apply_kept op hx with hx' | hlost
      · rcases hrest.kept x hx' with hx'' | ⟨before, lost, after, rfl, hlost⟩
        · exact .inl hx''
        · exact .inr ⟨op :: before, lost, after, rfl, hlost⟩
      · exact .inr ⟨[], op, ops, rfl, hlost⟩
    · rcases hrest.brought x hx with hx' | ⟨op', hop', hpassed⟩
      · rcases h.apply_brought op hx' with hx'' | hpassed
        · exact .inl hx''
        · exact .inr ⟨op, List.mem_cons_self, hpassed⟩
      · exact .inr ⟨op', List.mem_cons_of_mem op hop', hpassed⟩
    · obtain ⟨hop, hclose, hpassed⟩ := hops op List.mem_cons_self
      have hblanks := hrest.blanks fun op' hop' => hops op' (List.mem_cons_of_mem op hop')
      exact hblanks.trans (h.apply_blanks hop hclose hpassed)

/-- Whatever was asked of an empty layout, what is asked next keeps account of the leaves. -/
theorem accounts_after_operations (splitRatio : Binary64) (nextId : Nat) (ops : List Operation) :
    let s := ops.foldl apply { splitRatio, nextId }
    (∀ op a s' told, op ≠ .reset → s.run (perform op) = (.ok a, s', told) → s.Accounts op a s') ∧
      ∀ more, s.Lasts more := by
  intro s
  have hs : s.Planned := foldl_apply_planned (planned_empty splitRatio nextId) ops
  refine ⟨fun op a s' told hop hrun => ?_, hs.lasts⟩
  obtain ⟨σ, h⟩ := hs.presents
  exact h.accounts hop hrun

/-- Of two tabs one was split, so that the other waits in the background. -/
theorem accounts_after_split :
    let s := [.createTab ⟨7⟩, .createTab ⟨8⟩, .split ⟨2⟩ .vertical none].foldl apply {}
    s.Accounts (.close ⟨2⟩) (.closed ⟨⟨2⟩, some ⟨8⟩, false⟩) (s.apply (.close ⟨2⟩)) :=
  (accounts_after_operations .half 1 _).1 _ _ _ [.changed] nofun rfl

end Layout

end Multiplexer
