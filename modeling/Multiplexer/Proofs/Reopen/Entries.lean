import Mathlib.Data.List.Nodup
import Mathlib.Data.List.Perm.Basic
import Multiplexer.Proofs.Connector.Slot
import Multiplexer.Reopen.Reopener

/-!
# Entries and loops

Of an entry only little decides what becomes of its loop: whether a loop runs,
whether the latch is tripped, and the token. What the steps of a loop do is said
in terms of this, once for each way in which a step can end.
-/

namespace Multiplexer

/-- What decides about the loop of an entry. -/
structure Standing where
  reconnecting : Bool := false
  tripped : Bool := false
  token : Nat := 0
  cancelled : Bool := false
  deriving DecidableEq

def ReopenEntry.standing (e : ReopenEntry) : Standing :=
  ⟨e.reconnecting, e.latch.tripped, e.token, e.cancelled⟩

namespace Standing

def start (k : Standing) : Standing := { k with reconnecting := true }

def cancel (k : Standing) : Standing := { k with cancelled := true }

def finish (k : Standing) : Standing := { k with reconnecting := false }

def giveUp (k : Standing) : Standing := { k with tripped := true, reconnecting := false }

def recover (k : Standing) : Standing := { k with tripped := false, reconnecting := false }

def reset (k : Standing) : Standing :=
  { k with
    tripped := false
    token := if k.cancelled then k.token + 1 else k.token
    cancelled := false }

end Standing

namespace Reopener

variable {r r' r'' : Reopener}

def entryAt (r : Reopener) (n : Nat) : Option ReopenEntry := r.entries.find? fun e => e.number == n

def standing (r : Reopener) (n : Nat) : Option Standing :=
  (r.entryAt n).map ReopenEntry.standing

/-- The standing of the entry that a session has now. -/
def current (r : Reopener) (id : SessionId) : Option Standing :=
  (r.registered.lookup id).bind r.standing

/-- The entry of a session is found by the number that it is registered with. -/
theorem entry?_eq (id : SessionId) : r.entry? id = (r.registered.lookup id).bind r.entryAt := rfl

theorem number_of_entryAt {n : Nat} {e : ReopenEntry} (h : r.entryAt n = some e) : e.number = n := by
  simpa using List.find?_some h

/-- To change an entry changes no other. -/
theorem entryAt_update {f : ReopenEntry → ReopenEntry} (hf : ∀ e, (f e).number = e.number)
    (n m : Nat) :
    (r.update n f).entryAt m = if m = n then (r.entryAt m).map f else r.entryAt m := by
  have hnumber : ∀ e : ReopenEntry, (if e.number = n then f e else e).number = e.number := by
    intro e
    split
    · exact hf e
    · rfl
  have hfind : (r.update n f).entryAt m =
      (r.entryAt m).map fun e => if e.number = n then f e else e := by
    unfold entryAt update
    rw [List.find?_map]
    congr 1
    refine congrArg (List.find? · r.entries) (funext fun e => ?_)
    simp [hnumber]
  rw [hfind]
  cases he : r.entryAt m with
  | none => simp
  | some e =>
    have hm := number_of_entryAt he
    by_cases hn : m = n <;> simp [hm, hn]

structure Altered (n : Nat) (g : Standing → Standing) (r r' : Reopener) : Prop where
  registered : r'.registered = r.registered
  nextNumber : r'.nextNumber = r.nextNumber
  standing : ∀ m, r'.standing m = if m = n then (r.standing m).map g else r.standing m

namespace Altered

variable {n : Nat} {g g' : Standing → Standing}

theorem refl : Altered n id r r := ⟨rfl, rfl, fun m => by simp⟩

theorem trans (h : Altered n g r r') (h' : Altered n g' r' r'') :
    Altered n (g' ∘ g) r r'' where
  registered := h'.registered.trans h.registered
  nextNumber := h'.nextNumber.trans h.nextNumber
  standing m := by
    rw [h'.standing, h.standing]
    split <;> simp

theorem congr (h : Altered n g r r') (hg : ∀ k, r.standing n = some k → g k = g' k) :
    Altered n g' r r' where
  registered := h.registered
  nextNumber := h.nextNumber
  standing m := by
    rw [h.standing]
    split
    · next hm =>
      subst hm
      cases hk : r.standing m with
      | none => rfl
      | some k => simp [hg k hk]
    · rfl

/-- A change that keeps the number alters one entry. -/
theorem update {f : ReopenEntry → ReopenEntry} (hf : ∀ e, (f e).number = e.number)
    (hg : ∀ e, (f e).standing = g e.standing) : Altered n g r (r.update n f) where
  registered := rfl
  nextNumber := rfl
  standing m := by
    unfold Reopener.standing
    rw [entryAt_update hf]
    split
    · cases r.entryAt m <;> simp [hg]
    · rfl

/-- A change shows in the standing of a session if the entry is its own. -/
theorem current (h : Altered n g r r') (id : SessionId) :
    r'.current id =
      if r.registered.lookup id = some n then (r.current id).map g else r.current id := by
  unfold Reopener.current
  rw [h.registered]
  cases r.registered.lookup id with
  | none => simp
  | some m =>
    by_cases hm : m = n <;> simp [h.standing, hm]

end Altered

/-- A loop is called off when its entry is, or has a newer token, or is gone. -/
theorem isCancelled_eq (l : ReopenLoop) :
    r.isCancelled l =
      match r.standing l.entry with
      | some k => decide (l.token < k.token) || k.cancelled
      | none => true := by
  unfold isCancelled standing entryAt
  cases r.entries.find? fun e => e.number == l.entry <;> rfl

section Steps

variable (l : ReopenLoop) (events : List ReopenEvent) {k : Standing}

/-- To give up trips the latch, and reports if it was not tripped before. -/
theorem giveUp_eq {n : Nat} (hk : r.standing n = some k) :
    (r.giveUp n).1 = !k.tripped ∧
      Altered n (fun k => { k with tripped := true }) r (r.giveUp n).2 := by
  unfold standing entryAt at hk
  unfold giveUp
  cases he : r.entries.find? fun e => e.number == n with
  | none => simp [he] at hk
  | some e =>
    obtain rfl : e.standing = k := by simpa [he] using hk
    refine ⟨rfl, Altered.congr (g := fun k => { k with tripped := true }) ?_ fun _ _ => rfl⟩
    exact .update (fun _ => rfl) fun _ => rfl

/-- How a step of a loop can end. -/
inductive Stepped (r : Reopener) (l : ReopenLoop) (k : Standing) : Reopener.Step → Prop where
  | waits (r' : Reopener) (events : List ReopenEvent) (l' : ReopenLoop) : Altered l.entry id r r' →
    l'.session = l.session → l'.entry = l.entry → l'.token = l.token →
    Stepped r l k (r', events, .delayed l')
  | gaveUp (r' : Reopener) (events : List ReopenEvent) : Altered l.entry Standing.giveUp r r' →
    Stepped r l k (r', events, .ended (.gaveUp !k.tripped))

/-- A loop that ends leaves its entry without a loop. -/
theorem finish_altered (n : Nat) (o : ReopenOutcome) :
    Altered n Standing.finish r (r.finish n events o).1 :=
  .update (fun _ => rfl) fun _ => rfl

/-- A loop that fails gives up. -/
theorem fail_stepped (hk : r.standing l.entry = some k) : Stepped r l k (r.fail l events) := by
  let r₁ := r.update l.entry fun e => { e with state := .failed }
  have h₁ : Altered l.entry id r r₁ := .update (fun _ => rfl) fun _ => rfl
  have hk₁ : r₁.standing l.entry = some k := by simp [h₁.standing, hk]
  obtain ⟨hnotify, h₂⟩ := giveUp_eq hk₁
  have h₃ := (h₁.trans h₂).trans (finish_altered [] l.entry (.gaveUp (r₁.giveUp l.entry).1))
  have hstepped := Stepped.gaveUp (r := r) (l := l) (k := k) _
    (if !k.tripped then events ++ [.failed l.session
      (((r₁.entries.find? fun e => e.number == l.entry).map ReopenEntry.attempts).getD 0)] else events)
    h₃
  rw [← hnotify] at hstepped
  exact hstepped

/-- A loop that goes on waits for its next attempt, or gives up if there is none. -/
theorem next_stepped (hk : r.standing l.entry = some k) : Stepped r l k (r.next l events) := by
  unfold next
  dsimp only
  split
  · exact .waits _ _ _ (.update (fun _ => rfl) fun _ => rfl) rfl rfl rfl
  · exact fail_stepped l events hk

theorem calledOff_altered : Altered l.entry Standing.finish r (r.calledOff l).1 := by
  have h : Altered l.entry id r (r.update l.entry fun e => { e with state := .cancelled }) :=
    .update (fun _ => rfl) fun _ => rfl
  exact h.trans (finish_altered [.cancelled l.session] l.entry .cancelled)

theorem succeeded_altered : Altered l.entry Standing.recover r (r.succeeded l).1 := by
  have h : Altered l.entry (fun k => { k with tripped := false }) r (r.update l.entry fun e =>
      { e with attempts := 0, latch := e.latch.rearm, state := .reconnected }) :=
    .update (fun _ => rfl) fun _ => rfl
  exact h.trans (finish_altered [.success l.session l.attempt] l.entry (.reconnected l.attempt))

theorem attempt_altered : Altered l.entry id r (r.attempt l).1 :=
  .update (fun _ => rfl) fun _ => rfl

theorem attempt_params (hk : r.standing l.entry = some k) : (r.attempt l).2.2 ≠ none := by
  have h := (attempt_altered l).standing (r := r) l.entry
  intro hnone
  have hentry : ((r.attempt l).1.entries.find? fun e => e.number == l.entry) = none := by
    simpa [attempt] using hnone
  rw [hk] at h
  simp [standing, entryAt, hentry] at h

/-- What happens after an attempt has failed. -/
theorem refused_cases (hk : r.standing l.entry = some k) (e : ConnectError) :
    ((r.isCancelled l = true ∨ e = .cancelled) ∧ r.refused l e = r.calledOff l) ∨
      (r.isCancelled l = false ∧ Stepped r l k (r.refused l e)) := by
  unfold refused
  split
  · next h => exact .inl ⟨by simpa using h, rfl⟩
  · next h =>
    refine .inr ⟨by simp at h; exact h.1, ?_⟩
    dsimp only
    split
    · exact next_stepped l _ hk
    · exact fail_stepped l _ hk

/-- What happens at a drop. -/
theorem drop_cases (r : Reopener) (id : SessionId) :
    (r.current id = none ∧ r.drop id = (r, [], .ended .notRegistered)) ∨
      ∃ n k, r.registered.lookup id = some n ∧ r.standing n = some k ∧
        ((k.reconnecting = true ∧ r.drop id = (r, [], .ended .alreadyReconnecting)) ∨
          k.reconnecting = false ∧
            ((∃ r' events l, r.drop id = (r', events, .delayed l) ∧ Altered n Standing.start r r' ∧
                l.session = id ∧ l.entry = n ∧ l.token = k.token) ∨
              ∃ r' events, r.drop id = (r', events, .ended (.gaveUp !k.tripped)) ∧
                Altered n Standing.giveUp r r')) := by
  cases hentry : r.entry? id with
  | none =>
    refine .inl ⟨?_, by simp [drop, hentry]⟩
    rw [entry?_eq] at hentry
    unfold current standing
    cases hlookup : r.registered.lookup id with
    | none => rfl
    | some n => simpa [hlookup] using hentry
  | some e =>
    obtain ⟨n, hlookup, he⟩ : ∃ n, r.registered.lookup id = some n ∧ r.entryAt n = some e := by
      rw [entry?_eq] at hentry
      exact Option.bind_eq_some_iff.1 hentry
    obtain rfl := number_of_entryAt he
    have hk : r.standing e.number = some e.standing := by simp [standing, he]
    refine .inr ⟨e.number, e.standing, hlookup, hk, ?_⟩
    cases hreconnecting : e.reconnecting with
    | true => exact .inl ⟨hreconnecting, by simp [drop, hentry, hreconnecting]⟩
    | false =>
      refine .inr ⟨hreconnecting, ?_⟩
      let r₁ := r.update e.number fun e => { e with reconnecting := true }
      have h₁ : Altered e.number Standing.start r r₁ := .update (fun _ => rfl) fun _ => rfl
      have hk₁ : r₁.standing e.number = some e.standing.start := by simp [h₁.standing, hk]
      cases henabled : r₁.policy.enabled with
      | true =>
        let l : ReopenLoop :=
          { session := id, entry := e.number, token := e.token, policy := r₁.policy, attempt := 0 }
        have hdrop : r.drop id =
            r₁.next l (if e.attempts < r₁.policy.maxAttempts then [.starting id] else []) := by
          unfold drop
          simp only [hentry, hreconnecting, Bool.false_eq_true, if_false]
          exact if_pos henabled
        have hstepped := next_stepped l
          (if e.attempts < r₁.policy.maxAttempts then [.starting id] else []) hk₁
        rw [← hdrop] at hstepped
        generalize r.drop id = step at hstepped ⊢
        cases hstepped with
        | waits r' events l' h₂ hsession hlentry htoken =>
          exact .inl ⟨r', events, l', rfl, h₁.trans h₂, hsession, hlentry, htoken⟩
        | gaveUp r' events h₂ => exact .inr ⟨r', events, rfl, h₁.trans h₂⟩
      | false =>
        obtain ⟨hnotify, h₂⟩ := giveUp_eq hk₁
        have hdrop : r.drop id = (r₁.giveUp e.number).2.finish e.number []
            (.gaveUp (r₁.giveUp e.number).1) := by
          unfold drop
          simp only [hentry, hreconnecting, Bool.false_eq_true, if_false]
          exact if_neg (by simpa using henabled)
        refine .inr ⟨_, [], ?_,
          (h₁.trans h₂).trans (finish_altered [] e.number (.gaveUp (r₁.giveUp e.number).1))⟩
        rw [hdrop, hnotify]
        rfl

end Steps

end Reopener

end Multiplexer
