import Multiplexer.Proofs.Reopen.Entries

/-!
# Loops and requests

On each entry at most one loop runs, and exactly when the entry says so. What
the reopening of lines is told for a session touches the entry of that session
only, and a loop that was called off stays so.
-/

namespace Multiplexer

/-- What a request can do to an entry: a loop on it is not disturbed but for being called off. -/
structure Standing.Leads (k k' : Standing) : Prop where
  reconnecting : k'.reconnecting = k.reconnecting
  token : k.token ≤ k'.token
  tripped : k.tripped = false → k'.tripped = false
  cancelled : k.cancelled = true → k'.cancelled = true ∨ k.token < k'.token

namespace Standing.Leads

variable (k : Standing)

theorem refl : k.Leads k := ⟨rfl, Nat.le_refl _, fun h => h, .inl⟩

theorem cancel : k.Leads k.cancel := ⟨rfl, Nat.le_refl _, fun h => h, fun _ => .inl rfl⟩

theorem reset : k.Leads k.reset := by
  refine ⟨rfl, ?_, fun _ => rfl, fun h => .inr ?_⟩
  · simp only [Standing.reset]
    split <;> omega
  · simp [Standing.reset, h]

end Standing.Leads

namespace Reopener

variable {r r' : Reopener} {loops loops' : List ReopenLoop} {l l' : ReopenLoop}

structure Sound (r : Reopener) (loops : List ReopenLoop) : Prop where
  bound : ∀ n k, r.standing n = some k → n < r.nextNumber
  known : ∀ id n, r.registered.lookup id = some n → ∃ k, r.standing n = some k
  injective : ∀ i j n, r.registered.lookup i = some n → r.registered.lookup j = some n → i = j
  /-- An entry that no session has any more is cancelled. -/
  orphan : ∀ n k, r.standing n = some k → (∀ id, r.registered.lookup id ≠ some n) →
    k.cancelled = true
  running : ∀ l ∈ loops, ∃ k, r.standing l.entry = some k ∧ k.reconnecting = true ∧
    l.token ≤ k.token
  apart : (loops.map ReopenLoop.entry).Nodup
  busy : ∀ n k, r.standing n = some k → k.reconnecting = true → ∃ l ∈ loops, l.entry = n
  owner : ∀ l ∈ loops, ∀ id, r.registered.lookup id = some l.entry → l.session = id

structure Ordered (i : SessionId) (r r' : Reopener) : Prop where
  lookup : ∀ j, j ≠ i → r'.registered.lookup j = r.registered.lookup j
  fresh : ∀ n, r'.registered.lookup i = some n → r.registered.lookup i = some n ∨
    n = r.nextNumber ∧ r'.standing n = some {}
  standing : ∀ n k, r.standing n = some k → ∃ k', r'.standing n = some k' ∧ k.Leads k' ∧
    (r.registered.lookup i ≠ some n → k' = k)
  /-- The entry that the session had before is cancelled when the session has it no more. -/
  orphan : ∀ n k, r.registered.lookup i = some n → r'.registered.lookup i ≠ some n →
    r'.standing n = some k → k.cancelled = true
  made : ∀ n k, r'.standing n = some k → (∃ k, r.standing n = some k) ∨
    n = r.nextNumber ∧ r'.registered.lookup i = some n ∧ k = {} ∧ r.nextNumber < r'.nextNumber
  bound : r.nextNumber ≤ r'.nextNumber

namespace Ordered

variable {i : SessionId}

theorem setPolicy (p : ReopenPolicy) : r.Ordered i (r.setPolicy p) where
  lookup _ _ := rfl
  fresh _ h := .inl h
  standing _ k h := ⟨k, h, .refl k, fun _ => rfl⟩
  orphan _ _ h h' := absurd h h'
  made _ k h := .inl ⟨k, h⟩
  bound := Nat.le_refl _

theorem refl : r.Ordered i r := setPolicy r.policy

/-- A change of the entry that the session has is the effect of a request. -/
theorem altered {n : Nat} {g : Standing → Standing} (h : Altered n g r r')
    (hlookup : r.registered.lookup i = some n) (hg : ∀ k : Standing, k.Leads (g k)) :
    r.Ordered i r' where
  lookup _ _ := by rw [h.registered]
  fresh _ hm := .inl (by rwa [h.registered] at hm)
  standing m k hk := by
    rw [h.standing, hk]
    by_cases hm : m = n
    · subst hm
      exact ⟨g k, by simp, hg k, fun hne => absurd hlookup hne⟩
    · exact ⟨k, by simp [hm], .refl k, fun _ => rfl⟩
  orphan m k hm hm' := by
    rw [h.registered] at hm'
    exact absurd hm hm'
  made m k hk := by
    rw [h.standing] at hk
    split at hk
    · cases hk' : r.standing m with
      | none => simp [hk'] at hk
      | some k₀ => exact .inl ⟨k₀, rfl⟩
    · exact .inl ⟨k, hk⟩
  bound := Nat.le_of_eq h.nextNumber.symm

theorem onEntry {f : ReopenEntry → ReopenEntry} {g : Standing → Standing}
    (hf : ∀ e, (f e).number = e.number) (hfg : ∀ e, (f e).standing = g e.standing)
    (hg : ∀ k : Standing, k.Leads (g k)) : r.Ordered i (r.onEntry i f) := by
  unfold Reopener.onEntry
  split
  · next n hlookup => exact .altered (.update hf hfg) hlookup hg
  · exact .refl

theorem cancel : r.Ordered i (r.cancel i) :=
  .onEntry (g := Standing.cancel) (fun _ => rfl) (fun _ => rfl) Standing.Leads.cancel

theorem reset : r.Ordered i (r.reset i) :=
  .onEntry (g := Standing.reset) (fun _ => rfl) (fun _ => rfl) Standing.Leads.reset

/-- What is done to the entry of a session shows in its standing. -/
theorem standing_onEntry {f : ReopenEntry → ReopenEntry} {g : Standing → Standing}
    (hf : ∀ e, (f e).number = e.number) (hfg : ∀ e, (f e).standing = g e.standing) (n : Nat) :
    (r.onEntry i f).standing n =
      if r.registered.lookup i = some n then (r.standing n).map g else r.standing n := by
  unfold Reopener.onEntry
  split
  · next m hlookup =>
    have haltered : Altered m g r (r.update m f) := .update hf hfg
    rw [haltered.standing, hlookup]
    by_cases hn : n = m <;> simp [hn, eq_comm]
  · next hlookup => simp [hlookup]

theorem standing_cancel (n : Nat) : (r.cancel i).standing n =
    if r.registered.lookup i = some n then (r.standing n).map Standing.cancel
    else r.standing n := by
  unfold Reopener.cancel
  refine standing_onEntry ?_ ?_ n <;> exact fun _ => rfl

theorem standing_reset (n : Nat) : (r.reset i).standing n =
    if r.registered.lookup i = some n then (r.standing n).map Standing.reset
    else r.standing n := by
  unfold Reopener.reset
  refine standing_onEntry ?_ ?_ n <;> exact fun _ => rfl

/-- The entry of the session is cancelled and the session has it no more. -/
theorem unregister : r.Ordered i (r.unregister i) where
  lookup j hj := by
    have hlookup := lookup_erase (r.cancel i).registered i j
    rw [if_neg hj, cancel.lookup j hj] at hlookup
    exact hlookup
  fresh n hn := by
    have hlookup := lookup_erase (r.cancel i).registered i i
    rw [if_pos rfl] at hlookup
    cases hlookup.symm.trans hn
  standing := cancel.standing
  orphan n k hn _ hk := by
    have hstanding := (standing_cancel (r := r) (i := i) n).symm.trans hk
    rw [if_pos hn] at hstanding
    obtain ⟨k₀, -, rfl⟩ := Option.map_eq_some_iff.1 hstanding
    rfl
  made n k hk := by
    have hstanding := (standing_cancel (r := r) (i := i) n).symm.trans hk
    split at hstanding
    · obtain ⟨k₀, hk₀, -⟩ := Option.map_eq_some_iff.1 hstanding
      exact .inl ⟨k₀, hk₀⟩
    · exact .inl ⟨k, hstanding⟩
  bound := cancel.bound

/-- A session that is registered anew leaves its old entry cancelled. -/
theorem standing_register (params : SerialParams) (n : Nat) :
    (r.register i params).standing n = ((r.cancel i).standing n).or
      (if n = (r.cancel i).nextNumber then some {} else none) := by
  have hentry : (r.register i params).entryAt n = ((r.cancel i).entryAt n).or
      (if n = (r.cancel i).nextNumber then some { number := (r.cancel i).nextNumber, params }
        else none) := by
    have happend : ∀ entry : ReopenEntry,
        ((r.cancel i).entries ++ [entry]).find? (fun e => e.number == n) =
          ((r.cancel i).entryAt n).or ([entry].find? fun e => e.number == n) :=
      fun _ => List.find?_append
    refine (happend { number := (r.cancel i).nextNumber, params }).trans (congrArg _ ?_)
    by_cases hn : n = (r.cancel i).nextNumber
    · subst hn
      simp
    · simp [hn, Ne.symm hn]
  unfold Reopener.standing
  rw [hentry]
  cases (r.cancel i).entryAt n with
  | some e => rfl
  | none => split <;> rfl

theorem nextNumber_cancel : (r.cancel i).nextNumber = r.nextNumber := by
  unfold Reopener.cancel Reopener.onEntry
  split <;> rfl

theorem lookup_register (params : SerialParams) :
    (r.register i params).registered.lookup i = some r.nextNumber := by
  rw [← nextNumber_cancel (i := i)]
  exact List.lookup_cons_self

theorem standing_fresh (hfree : r.standing r.nextNumber = none) (params : SerialParams) :
    (r.register i params).standing r.nextNumber = some {} := by
  rw [standing_register, standing_cancel, hfree, nextNumber_cancel]
  simp

/-- The session gets a fresh entry, and the one that it had is cancelled. -/
theorem register (hfree : r.standing r.nextNumber = none) (params : SerialParams) :
    r.Ordered i (r.register i params) := by
  have hnumber : (r.cancel i).nextNumber = r.nextNumber := nextNumber_cancel
  have hself := lookup_register (r := r) (i := i) params
  have hfresh := standing_fresh (i := i) hfree params
  refine ⟨fun j hj => ?_, fun n hn => ?_, fun n k hk => ?_, fun n k hn hne hk => ?_, fun n k hk => ?_,
    ?_⟩
  · have hne : (j == i) = false := by simpa using hj
    refine Eq.trans ?_ (unregister.lookup j hj)
    exact List.lookup_cons.trans (by rw [hne])
  · obtain rfl := Option.some.inj (hself.symm.trans hn)
    exact .inr ⟨rfl, hfresh⟩
  · obtain ⟨k', hk', hleads⟩ := cancel.standing (i := i) n k hk
    exact ⟨k', by rw [standing_register, hk']; rfl, hleads⟩
  · rw [standing_register] at hk
    rw [standing_cancel, if_pos hn] at hk
    cases hk₀ : r.standing n with
    | some k₀ =>
      obtain rfl : k₀.cancel = k := by simpa [hk₀] using hk
      rfl
    | none =>
      rw [hself, ne_eq, Option.some.injEq, eq_comm] at hne
      simp [hk₀, hnumber, hne] at hk
  · rw [standing_register, standing_cancel, hnumber] at hk
    cases hk₀ : r.standing n with
    | some k₀ => exact .inl ⟨k₀, rfl⟩
    | none =>
      refine .inr ?_
      obtain ⟨rfl, rfl⟩ : n = r.nextNumber ∧ {} = k := by simpa [hk₀] using hk
      exact ⟨rfl, hself, rfl, hnumber ▸ Nat.lt_succ_self _⟩
  · exact Nat.le_of_lt (hnumber ▸ Nat.lt_succ_self _)

end Ordered

namespace Sound

/-- The order of the loops makes no difference. -/
theorem perm (h : r.Sound loops) (hperm : loops.Perm loops') : r.Sound loops' where
  bound := h.bound
  known := h.known
  injective := h.injective
  orphan := h.orphan
  running l hl := h.running l (hperm.mem_iff.2 hl)
  apart := (hperm.map _).nodup_iff.1 h.apart
  busy n k hn hk := by
    obtain ⟨l, hl, heq⟩ := h.busy n k hn hk
    exact ⟨l, hperm.mem_iff.1 hl, heq⟩
  owner l hl := h.owner l (hperm.mem_iff.2 hl)

/-- There is no entry under the next number. -/
theorem standing_nextNumber (h : r.Sound loops) : r.standing r.nextNumber = none := by
  cases hk : r.standing r.nextNumber with
  | none => rfl
  | some k => exact absurd (h.bound _ k hk) (Nat.lt_irrefl _)

/-- A request leaves the entries in order. -/
theorem ordered {i : SessionId} (h : r.Sound loops) (ho : r.Ordered i r') : r'.Sound loops where
  bound n k hn := by
    obtain ⟨k₀, hk₀⟩ | ⟨rfl, -, -, hlt⟩ := ho.made n k hn
    · exact Nat.lt_of_lt_of_le (h.bound n k₀ hk₀) ho.bound
    · exact hlt
  known j n hj := by
    have hkept : ∀ m, r.registered.lookup m = some n → ∃ k, r'.standing n = some k := by
      intro m hm
      obtain ⟨k, hk⟩ := h.known m n hm
      obtain ⟨k', hk', -⟩ := ho.standing n k hk
      exact ⟨k', hk'⟩
    by_cases hji : j = i
    · subst hji
      obtain hj | ⟨-, hk⟩ := ho.fresh n hj
      · exact hkept j hj
      · exact ⟨_, hk⟩
    · exact hkept j (by rwa [ho.lookup j hji] at hj)
  injective j m n hj hm := by
    have hlast : ∀ j, j ≠ i → r'.registered.lookup j = some n →
        r'.registered.lookup i = some n → False := by
      intro j hji hj hi
      rw [ho.lookup j hji] at hj
      obtain hi | ⟨rfl, -⟩ := ho.fresh n hi
      · exact hji (h.injective j i n hj hi)
      · obtain ⟨k, hk⟩ := h.known j _ hj
        simp [h.standing_nextNumber] at hk
    by_cases hji : j = i
    · by_cases hmi : m = i
      · rw [hji, hmi]
      · subst hji
        exact (hlast m hmi hm hj).elim
    · by_cases hmi : m = i
      · subst hmi
        exact (hlast j hji hj hm).elim
      · rw [ho.lookup j hji] at hj
        rw [ho.lookup m hmi] at hm
        exact h.injective j m n hj hm
  orphan n k hn hnone := by
    obtain ⟨k₀, hk₀⟩ | ⟨-, hlookup, -⟩ := ho.made n k hn
    · by_cases hlookup : r.registered.lookup i = some n
      · exact ho.orphan n k hlookup (hnone i) hn
      · obtain ⟨k', hk', -, hsame⟩ := ho.standing n k₀ hk₀
        obtain rfl : k' = k := Option.some.inj (hk'.symm.trans hn)
        rw [hsame hlookup]
        refine h.orphan n k₀ hk₀ fun j hj => ?_
        by_cases hji : j = i
        · exact hlookup (hji ▸ hj)
        · exact hnone j (by rw [ho.lookup j hji]; exact hj)
    · exact absurd hlookup (hnone i)
  running l hl := by
    obtain ⟨k, hk, hreconnecting, htoken⟩ := h.running l hl
    obtain ⟨k', hk', hleads, -⟩ := ho.standing _ k hk
    exact ⟨k', hk', hleads.reconnecting.trans hreconnecting, Nat.le_trans htoken hleads.token⟩
  apart := h.apart
  busy n k hn hreconnecting := by
    obtain ⟨k₀, hk₀⟩ | ⟨-, -, rfl, -⟩ := ho.made n k hn
    · obtain ⟨k', hk', hleads, -⟩ := ho.standing n k₀ hk₀
      obtain rfl : k' = k := Option.some.inj (hk'.symm.trans hn)
      exact h.busy n k₀ hk₀ (hleads.reconnecting.symm.trans hreconnecting)
    · cases hreconnecting
  owner l hl j hj := by
    by_cases hji : j = i
    · subst hji
      obtain hj | ⟨hn, -⟩ := ho.fresh _ hj
      · exact h.owner l hl j hj
      · obtain ⟨k, hk, -⟩ := h.running l hl
        simp [hn, h.standing_nextNumber] at hk
    · exact h.owner l hl j (by rwa [ho.lookup j hji] at hj)

/-- No loop runs on an entry that says so. -/
theorem entry_ne (h : r.Sound loops) {n : Nat} {k : Standing} (hk : r.standing n = some k)
    (hidle : k.reconnecting = false) (hl : l ∈ loops) : l.entry ≠ n := by
  intro heq
  obtain ⟨k', hk', hreconnecting, -⟩ := h.running l hl
  rw [heq, hk] at hk'
  obtain rfl := Option.some.inj hk'
  rw [hidle] at hreconnecting
  cases hreconnecting

/-- A change of one entry that leaves its token alone, with the loops that run after it. -/
theorem altered {n : Nat} {g : Standing → Standing} (h : r.Sound loops) (ha : Altered n g r r')
    (hg : ∀ k, (g k).token = k.token ∧ (g k).cancelled = k.cancelled)
    (hrunning : ∀ l ∈ loops', ∃ k, r'.standing l.entry = some k ∧ k.reconnecting = true ∧
      l.token ≤ k.token)
    (hapart : (loops'.map ReopenLoop.entry).Nodup)
    (hbusy : ∀ m k, r'.standing m = some k → k.reconnecting = true → ∃ l ∈ loops', l.entry = m)
    (howner : ∀ l ∈ loops', ∀ j, r.registered.lookup j = some l.entry → l.session = j) :
    r'.Sound loops' := by
  have hold : ∀ m k, r'.standing m = some k →
      ∃ k₀, r.standing m = some k₀ ∧ k.cancelled = k₀.cancelled := by
    intro m k hk
    rw [ha.standing] at hk
    split at hk
    · obtain ⟨k₀, hk₀, rfl⟩ := Option.map_eq_some_iff.1 hk
      exact ⟨k₀, hk₀, (hg k₀).2⟩
    · exact ⟨k, hk, rfl⟩
  refine ⟨fun m k hk => ?_, fun j m hj => ?_, ?_, fun m k hk hnone => ?_, hrunning, hapart, hbusy,
    fun l hl j hj => howner l hl j (by rwa [ha.registered] at hj)⟩
  · obtain ⟨k₀, hk₀, -⟩ := hold m k hk
    rw [ha.nextNumber]
    exact h.bound m k₀ hk₀
  · rw [ha.registered] at hj
    obtain ⟨k, hk⟩ := h.known j m hj
    rw [ha.standing, hk]
    split
    · exact ⟨g k, rfl⟩
    · exact ⟨k, rfl⟩
  · rw [ha.registered]
    exact h.injective
  · obtain ⟨k₀, hk₀, hcancelled⟩ := hold m k hk
    rw [ha.registered] at hnone
    rw [hcancelled]
    exact h.orphan m k₀ hk₀ hnone

end Sound

/-- What a turn of a loop for a session does to the entries, with the loop before and after. -/
inductive Runs (i : SessionId) (r : Reopener) :
    Option ReopenLoop → Reopener → Option ReopenLoop → Prop where
  | rests (l : Option ReopenLoop) : Runs i r l r l
  | starts (n : Nat) (k : Standing) (l : ReopenLoop) (r' : Reopener) :
    r.registered.lookup i = some n → r.standing n = some k → k.reconnecting = false →
    Altered n Standing.start r r' → l.session = i → l.entry = n → l.token = k.token →
    Runs i r none r' (some l)
  | declines (n : Nat) (k : Standing) (r' : Reopener) :
    r.registered.lookup i = some n → r.standing n = some k → k.reconnecting = false →
    Altered n Standing.giveUp r r' → Runs i r none r' none
  | goesOn (l l' : ReopenLoop) (r' : Reopener) : Altered l.entry (fun k => k) r r' →
    l'.session = l.session → l'.entry = l.entry → l'.token = l.token →
    Runs i r (some l) r' (some l')
  | ends (l : ReopenLoop) (g : Standing → Standing) (r' : Reopener) : Altered l.entry g r r' →
    (∀ k, (g k).reconnecting = false ∧ (g k).token = k.token ∧ (g k).cancelled = k.cancelled) →
    Runs i r (some l) r' none

section Runs

variable {i : SessionId} {own own' : Option ReopenLoop}

/-- A turn leaves the loop with its session. -/
theorem Runs.session (h : r.Runs i own r' own') (hown : ∀ l ∈ own, l.session = i) :
    ∀ l ∈ own', l.session = i := by
  cases h with
  | rests => exact hown
  | starts n k l r' _ _ _ _ hsession => simpa using hsession
  | declines | ends => simp
  | goesOn l l' r' _ hsession => simpa [hsession] using hown

/-- A turn of a loop leaves the entries in order. -/
theorem Sound.runs (h : r.Sound (own.toList ++ loops)) (hruns : r.Runs i own r' own')
    (hown : ∀ l ∈ own, l.session = i) : r'.Sound (own'.toList ++ loops) := by
  cases hruns with
  | rests => exact h
  | starts n k l r' hlookup hk hidle haltered hsession hentry htoken =>
    subst hentry
    have hother : ∀ m ∈ loops, m.entry ≠ l.entry := fun m hm => h.entry_ne hk hidle hm
    refine h.altered haltered (fun _ => ⟨rfl, rfl⟩) ?_ ?_ ?_ ?_
    · intro m hm
      obtain rfl | hm := List.mem_cons.1 hm
      · exact ⟨k.start, by simp [haltered.standing, hk], rfl, Nat.le_of_eq htoken⟩
      · rw [haltered.standing, if_neg (hother m hm)]
        exact h.running m hm
    · exact List.nodup_cons.2 ⟨fun hmem => by
        obtain ⟨m, hm, heq⟩ := List.mem_map.1 hmem
        exact hother m hm heq, h.apart⟩
    · intro m k' hk' hreconnecting
      by_cases hm : m = l.entry
      · exact ⟨l, List.mem_cons_self, hm.symm⟩
      · rw [haltered.standing, if_neg hm] at hk'
        obtain ⟨l', hl', heq⟩ := h.busy m k' hk' hreconnecting
        exact ⟨l', List.mem_cons_of_mem _ hl', heq⟩
    · intro m hm j hj
      obtain rfl | hm := List.mem_cons.1 hm
      · exact hsession.trans (h.injective i j _ hlookup hj)
      · exact h.owner m hm j hj
  | declines n k r' hlookup hk hidle haltered =>
    have hother : ∀ m ∈ loops, m.entry ≠ n := fun m hm => h.entry_ne hk hidle hm
    refine h.altered haltered (fun _ => ⟨rfl, rfl⟩) ?_ h.apart ?_ h.owner
    · intro m hm
      rw [haltered.standing, if_neg (hother m hm)]
      exact h.running m hm
    · intro m k' hk' hreconnecting
      rw [haltered.standing] at hk'
      split at hk'
      · obtain ⟨k₀, -, rfl⟩ := Option.map_eq_some_iff.1 hk'
        cases hreconnecting
      · exact h.busy m k' hk' hreconnecting
  | goesOn l l' r' haltered hsession hentry htoken =>
    have hstanding : ∀ m, r'.standing m = r.standing m := by
      intro m
      rw [haltered.standing]
      split <;> simp
    refine h.altered haltered (fun _ => ⟨rfl, rfl⟩) ?_ ?_ ?_ ?_
    · intro m hm
      rw [hstanding]
      obtain rfl | hm := List.mem_cons.1 hm
      · rw [hentry, htoken]
        exact h.running l List.mem_cons_self
      · exact h.running m (List.mem_cons_of_mem _ hm)
    · have hapart := h.apart
      simp only [Option.toList_some, List.cons_append, List.map_cons, List.nil_append, hentry] at hapart ⊢
      exact hapart
    · intro m k hk hreconnecting
      rw [hstanding] at hk
      obtain ⟨l₀, hl₀, heq⟩ := h.busy m k hk hreconnecting
      obtain rfl | hl₀ := List.mem_cons.1 hl₀
      · exact ⟨l', List.mem_cons_self, hentry.trans heq⟩
      · exact ⟨l₀, List.mem_cons_of_mem _ hl₀, heq⟩
    · intro m hm j hj
      obtain rfl | hm := List.mem_cons.1 hm
      · rw [hentry] at hj
        exact hsession.trans (h.owner l List.mem_cons_self j hj)
      · exact h.owner m (List.mem_cons_of_mem _ hm) j hj
  | ends l g r' haltered hg =>
    have hapart : l.entry ∉ loops.map ReopenLoop.entry ∧ (loops.map ReopenLoop.entry).Nodup :=
      List.nodup_cons.1 h.apart
    refine h.altered haltered (fun k => (hg k).2) ?_ hapart.2 ?_
      fun m hm => h.owner m (List.mem_cons_of_mem _ hm)
    · intro m hm
      have hne : m.entry ≠ l.entry := fun heq => hapart.1 (List.mem_map.2 ⟨m, hm, heq⟩)
      rw [haltered.standing, if_neg hne]
      exact h.running m (List.mem_cons_of_mem _ hm)
    · intro m k hk hreconnecting
      rw [haltered.standing] at hk
      split at hk
      · obtain ⟨k₀, -, rfl⟩ := Option.map_eq_some_iff.1 hk
        rw [(hg k₀).1] at hreconnecting
        cases hreconnecting
      · next hm =>
        obtain ⟨l₀, hl₀, heq⟩ := h.busy m k hk hreconnecting
        obtain rfl | hl₀ := List.mem_cons.1 hl₀
        · exact absurd heq.symm hm
        · exact ⟨l₀, hl₀, heq⟩

/-- The loops of other tasks are not disturbed. -/
theorem Runs.others (hruns : r.Runs i own r' own') (h : r.Sound (own.toList ++ loops))
    (hl : l ∈ loops) : r'.standing l.entry = r.standing l.entry := by
  cases hruns with
  | rests => rfl
  | starts n k₀ _ _ _ hk₀ hidle haltered | declines n k₀ _ _ hk₀ hidle haltered =>
    exact (haltered.standing _).trans (if_neg (h.entry_ne hk₀ hidle hl))
  | goesOn l₀ _ _ haltered | ends l₀ _ _ haltered =>
    refine (haltered.standing _).trans (if_neg fun heq => ?_)
    exact (List.nodup_cons.1 h.apart).1 (List.mem_map.2 ⟨l, hl, heq⟩)

/-- The entries of other sessions are left alone. -/
theorem Runs.current (hruns : r.Runs i own r' own') (h : r.Sound (own.toList ++ loops))
    (hown : ∀ l ∈ own, l.session = i) {j : SessionId} (hj : j ≠ i) :
    r'.current j = r.current j := by
  have haltered : ∀ n g, Altered n g r r' → r.registered.lookup j ≠ some n →
      r'.current j = r.current j := fun n g ha hne => by rw [ha.current, if_neg hne]
  cases hruns with
  | rests => rfl
  | starts n _ _ _ hlookup _ _ ha | declines n _ _ hlookup _ _ ha =>
    exact haltered n _ ha fun hi => hj (h.injective j i n hi hlookup)
  | goesOn l _ _ ha | ends l _ _ ha =>
    refine haltered _ _ ha fun hi => hj ?_
    rw [← h.owner l List.mem_cons_self j hi]
    exact hown l rfl

end Runs

section Ordered

variable {i : SessionId}

/-- Only loops of the session itself can be called off by what is told for it. -/
theorem Ordered.others (ho : r.Ordered i r') (h : r.Sound loops) (hl : l ∈ loops) :
    ∃ k k', r.standing l.entry = some k ∧ r'.standing l.entry = some k' ∧
      l.token ≤ k.token ∧ k.Leads k' ∧ (l.session ≠ i → k' = k) := by
  obtain ⟨k, hk, -, htoken⟩ := h.running l hl
  obtain ⟨k', hk', hleads, hkept⟩ := ho.standing _ k hk
  exact ⟨k, k', hk, hk', htoken, hleads,
    fun hne => hkept fun hlookup => hne (h.owner l hl i hlookup)⟩

/-- Nothing happens to the entries that the loops of other sessions run on. -/
theorem Ordered.standing_of_ne (ho : r.Ordered i r') (h : r.Sound loops) (hl : l ∈ loops)
    (hne : l.session ≠ i) : r'.standing l.entry = r.standing l.entry := by
  obtain ⟨k, k', hk, hk', -, -, hsame⟩ := ho.others h hl
  rw [hk, hk', hsame hne]

/-- What is told for a session leaves the entries of the others alone. -/
theorem Ordered.current (ho : r.Ordered i r') (h : r.Sound loops) {j : SessionId} (hj : j ≠ i) :
    r'.current j = r.current j := by
  unfold Reopener.current
  rw [ho.lookup j hj]
  cases hlookup : r.registered.lookup j with
  | none => rfl
  | some n =>
    obtain ⟨k, hk⟩ := h.known j n hlookup
    obtain ⟨k', hk', -, hkept⟩ := ho.standing n k hk
    rw [Option.bind_some, Option.bind_some, hk, hk',
      hkept fun hi => hj (h.injective j i n hlookup hi)]

end Ordered

/-- What a turn for a session does to the entries, with the loop of its task before and after. -/
inductive Stir (i : SessionId) (r : Reopener) (own : Option ReopenLoop) (r' : Reopener)
    (own' : Option ReopenLoop) : Prop where
  | orders : r.Ordered i r' → own' = own → Stir i r own r' own'
  | runs : r.Runs i own r' own' → Stir i r own r' own'

namespace Stir

variable {i : SessionId} {own own' : Option ReopenLoop}

theorem session (h : r.Stir i own r' own') (hown : ∀ l ∈ own, l.session = i) :
    ∀ l ∈ own', l.session = i := by
  cases h with
  | orders _ heq => exact heq ▸ hown
  | runs h => exact h.session hown

/-- A turn for a session leaves the entries in order. -/
theorem sound (hstir : r.Stir i own r' own') (h : r.Sound (own.toList ++ loops))
    (hown : ∀ l ∈ own, l.session = i) : r'.Sound (own'.toList ++ loops) := by
  cases hstir with
  | orders ho heq => exact heq ▸ h.ordered ho
  | runs hruns => exact h.runs hruns hown

/-- The loops of other tasks are not disturbed but for being called off, and those of other
sessions not at all. -/
theorem others (hstir : r.Stir i own r' own') (h : r.Sound (own.toList ++ loops))
    (hl : l ∈ loops) : ∃ k k', r.standing l.entry = some k ∧ r'.standing l.entry = some k' ∧
      l.token ≤ k.token ∧ k.Leads k' ∧ (l.session ≠ i → k' = k) := by
  cases hstir with
  | orders ho => exact ho.others h (List.mem_append_right _ hl)
  | runs hruns =>
    obtain ⟨k, hk, -, htoken⟩ := h.running l (List.mem_append_right _ hl)
    exact ⟨k, k, hk, (hruns.others h hl).trans hk, htoken, .refl k, fun _ => rfl⟩

theorem standing_of_ne (hstir : r.Stir i own r' own') (h : r.Sound (own.toList ++ loops))
    (hl : l ∈ loops) (hne : l.session ≠ i) : r'.standing l.entry = r.standing l.entry := by
  obtain ⟨k, k', hk, hk', -, -, hsame⟩ := hstir.others h hl
  rw [hk, hk', hsame hne]

/-- A turn for a session leaves the entries alone that other sessions have now. -/
theorem current (hstir : r.Stir i own r' own') (h : r.Sound (own.toList ++ loops))
    (hown : ∀ l ∈ own, l.session = i) {j : SessionId} (hj : j ≠ i) :
    r'.current j = r.current j := by
  cases hstir with
  | orders ho => exact ho.current h hj
  | runs hruns => exact hruns.current h hown hj

end Stir

/-- A loop that was called off stays so. -/
theorem isCancelled_of_leads {k k' : Standing} (hk : r.standing l.entry = some k)
    (hk' : r'.standing l.entry = some k') (htoken : l.token ≤ k.token) (hleads : k.Leads k')
    (h : r.isCancelled l = true) : r'.isCancelled l = true := by
  simp only [isCancelled_eq, hk, hk', Bool.or_eq_true, decide_eq_true_eq] at h ⊢
  obtain h | h := h
  · exact .inl (Nat.lt_of_lt_of_le h hleads.token)
  · obtain h | h := hleads.cancelled h
    · exact .inr h
    · exact .inl (Nat.lt_of_le_of_lt htoken h)

end Reopener

end Multiplexer
