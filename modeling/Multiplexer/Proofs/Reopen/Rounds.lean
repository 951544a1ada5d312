import Multiplexer.Proofs.Reopen.Calls

/-!
# Rounds

What one round of a call does: to the entry of the call, by how it ends, to all
other entries, which is nothing, and what it tells of a failure.
-/

namespace Multiplexer

def ReopenEvent.failure? : ReopenEvent → Option SessionId
  | .failed s _ => some s
  | _ => none

namespace Reopener

variable {r r' r'' : Reopener} {n : Nat} {i : SessionId}

structure OnlyAt (n : Nat) (r r' : Reopener) : Prop where
  registered : r'.registered = r.registered
  nextNumber : r'.nextNumber = r.nextNumber
  entryAt : ∀ m, m ≠ n → r'.entryAt m = r.entryAt m

namespace OnlyAt

theorem refl (n : Nat) (r : Reopener) : OnlyAt n r r := ⟨rfl, rfl, fun _ _ => rfl⟩

theorem trans (h : OnlyAt n r r') (h' : OnlyAt n r' r'') : OnlyAt n r r'' :=
  ⟨h'.1.trans h.1, h'.2.trans h.2, fun m hm => (h'.3 m hm).trans (h.3 m hm)⟩

theorem update {f : ReopenEntry → ReopenEntry} (hf : ∀ e, (f e).number = e.number) :
    OnlyAt n r (r.update n f) :=
  ⟨rfl, rfl, fun m hm => by rw [entryAt_update hf, if_neg hm]⟩

theorem giveUp (r : Reopener) (n : Nat) : OnlyAt n r (r.giveUp n).2 := by
  unfold Reopener.giveUp
  split
  · exact .update fun _ => rfl
  · exact .refl n r

theorem finish (r : Reopener) (n : Nat) (events : List ReopenEvent) (o : ReopenOutcome) :
    OnlyAt n r (r.finish n events o).1 := .update fun _ => rfl

theorem fail (r : Reopener) (l : ReopenLoop) (events : List ReopenEvent) :
    OnlyAt l.entry r (r.fail l events).1 := by
  let r₁ := r.update l.entry fun e => { e with state := .failed }
  have h₁ : OnlyAt l.entry r r₁ := .update fun _ => rfl
  exact (h₁.trans (.giveUp r₁ l.entry)).trans (.finish _ _ [] (.gaveUp false))

theorem next (r : Reopener) (l : ReopenLoop) (events : List ReopenEvent) :
    OnlyAt l.entry r (r.next l events).1 := by
  unfold Reopener.next
  dsimp only
  split
  · exact .update fun _ => rfl
  · exact .fail r l events

theorem attempt (r : Reopener) (l : ReopenLoop) : OnlyAt l.entry r (r.attempt l).1 :=
  .update fun _ => rfl

theorem calledOff (r : Reopener) (l : ReopenLoop) : OnlyAt l.entry r (r.calledOff l).1 := by
  have h : OnlyAt l.entry r (r.update l.entry fun e => { e with state := .cancelled }) :=
    .update fun _ => rfl
  exact h.trans (.finish _ _ [.cancelled l.session] .cancelled)

theorem succeeded (r : Reopener) (l : ReopenLoop) : OnlyAt l.entry r (r.succeeded l).1 := by
  have h : OnlyAt l.entry r (r.update l.entry fun e =>
      { e with attempts := 0, latch := e.latch.rearm, state := .reconnected }) :=
    .update fun _ => rfl
  exact h.trans (.finish _ _ [.success l.session l.attempt] (.reconnected l.attempt))

/-- An attempt that failed touches the entry of its loop only. -/
theorem refused (r : Reopener) (l : ReopenLoop) (e : ConnectError) :
    OnlyAt l.entry r (r.refused l e).1 := by
  unfold Reopener.refused
  dsimp only
  split_ifs
  · exact .calledOff r l
  · exact .next r l _
  · exact .fail r l _

/-- A drop touches the entry of its session only. -/
theorem drop (hlookup : r.registered.lookup i = some n) : OnlyAt n r (r.drop i).1 := by
  unfold Reopener.drop
  cases hentry : r.entry? i with
  | none => exact .refl n r
  | some e =>
    obtain rfl : e.number = n := by
      rw [entry?_eq, hlookup] at hentry
      exact number_of_entryAt hentry
    have hstart : OnlyAt e.number r
        (r.update e.number fun e => { e with reconnecting := true }) := .update fun _ => rfl
    dsimp only
    split_ifs
    · exact .refl _ r
    · exact hstart.trans (.next _ ⟨i, e.number, e.token, _, 0⟩ _)
    · exact hstart.trans (.next _ ⟨i, e.number, e.token, _, 0⟩ _)
    · exact (hstart.trans (.giveUp _ _)).trans (.finish _ _ _ _)

end OnlyAt

/-- A step tells of a failure only with a give-up that is to be reported, and then once. -/
def Tells (i : SessionId) (step : Reopener.Step) : Prop :=
  step.2.1.filterMap ReopenEvent.failure? = [] ∨
    step.2.1.filterMap ReopenEvent.failure? = [i] ∧ step.2.2 = .ended (.gaveUp true)

section Tells

variable (l : ReopenLoop) {events : List ReopenEvent}

/-- A loop that fails tells so with its give-up. -/
theorem fail_tells (r : Reopener) (h : events.filterMap ReopenEvent.failure? = []) :
    Tells l.session (r.fail l events) := by
  unfold fail Tells finish
  dsimp only
  split
  · next hnotify => exact .inr ⟨by simp [h, ReopenEvent.failure?], by rw [hnotify]⟩
  · exact .inl h

/-- A loop that goes on tells of a failure only if it has no attempts left. -/
theorem next_tells (r : Reopener) (h : events.filterMap ReopenEvent.failure? = []) :
    Tells l.session (r.next l events) := by
  unfold next
  dsimp only
  split
  · exact .inl (by simp [h, ReopenEvent.failure?])
  · exact fail_tells l r h

/-- A failed attempt tells of a failure only if it was the last. -/
theorem refused_tells (r : Reopener) (e : ConnectError) : Tells l.session (r.refused l e) := by
  unfold refused
  dsimp only
  split_ifs
  · exact .inl rfl
  · exact next_tells l r rfl
  · exact fail_tells l r rfl

/-- A drop tells of a failure only if it gives up at once. -/
theorem drop_tells (r : Reopener) (i : SessionId) : Tells i (r.drop i) := by
  unfold drop
  cases r.entry? i with
  | none => exact .inl rfl
  | some e =>
    dsimp only
    split_ifs
    · exact .inl rfl
    · exact next_tells ⟨i, e.number, e.token, _, 0⟩ _ rfl
    · exact next_tells ⟨i, e.number, e.token, _, 0⟩ _ rfl
    · exact .inl rfl

end Tells

/-- How a round of a call for a session leaves the entry of the call, and the call. -/
inductive Resolves (r : Reopener) (i : SessionId) (n : Nat) (k : Standing) :
    Reopener → CallStage → Prop where
  | waits (g : Standing → Standing) (r' : Reopener) (stage : CallStage) (l : ReopenLoop) :
    Altered n g r r' → (∀ k, (g k).tripped = k.tripped) → stage.loop? = some l →
    Resolves r i n k r' stage
  /-- Only the entry that the session has now is given up. -/
  | gaveUp (r' : Reopener) : r.registered.lookup i = some n → Altered n Standing.giveUp r r' →
    Resolves r i n k r' (.ended (.gaveUp !k.tripped))
  | cancelled (r' : Reopener) : Altered n Standing.finish r r' →
    Resolves r i n k r' (.ended .cancelled)
  | reconnected (r' : Reopener) (attempt : Nat) : Altered n Standing.recover r r' →
    Resolves r i n k r' (.ended (.reconnected attempt))
  | refused : r.registered.lookup i = some n → k.reconnecting = true →
    Resolves r i n k r (.ended .alreadyReconnecting)

end Reopener

namespace Supervision

open Reopener

variable {s : Supervision} {e : Event} {q : Round}

structure Unknown (s : Supervision) (q : Round) : Prop where
  entry : q.entry = none
  reopener : q.reopener = s.reopener
  told : q.told = []
  stage : q.stage = .ended .notRegistered

/-- A loop that was not called off runs on the entry that its session has now. -/
theorem Tidy.lookup_of_call (h : s.Tidy) {l : ReopenLoop} (hl : l ∈ s.loops)
    (hoff : s.reopener.isCancelled l = false) :
    s.reopener.registered.lookup l.session = some l.entry := by
  obtain ⟨k, hk, -⟩ := h.sound.running l hl
  have hkept : k.cancelled = false := by
    rw [isCancelled_eq, hk] at hoff
    exact (Bool.or_eq_false_iff.1 hoff).2
  by_contra hnone
  have hcancelled := h.sound.orphan l.entry k hk fun j hj => by
    rw [h.sound.owner l hl j hj] at hnone
    exact hnone hj
  rw [hkept] at hcancelled
  cases hcancelled

/-- A round is for an unknown session, or it leaves the entry of its call in one of the ways there
are. -/
theorem Tidy.resolves (h : s.Tidy) (hq : s.Rounds e q) : s.Unknown q ∨
    ∃ n k, q.entry = some n ∧ s.reopener.standing n = some k ∧
      s.reopener.Resolves q.session n k q.reopener q.stage := by
  cases hq with
  | arrives id =>
    obtain ⟨hcurrent, hdrop⟩ | ⟨n, k, hlookup, hk, hcase⟩ := s.reopener.drop_cases id
    · have hnone : s.reopener.registered.lookup id = none := by
        cases hlookup : s.reopener.registered.lookup id with
        | none => rfl
        | some n =>
          obtain ⟨k, hk⟩ := h.sound.known id n hlookup
          simp [current, hlookup, hk] at hcurrent
      simp only [roundOf, hdrop]
      exact .inl ⟨hnone, rfl, rfl, rfl⟩
    · refine .inr ⟨n, k, hlookup, hk, ?_⟩
      obtain ⟨hbusy, hdrop⟩ | ⟨-, ⟨r', told, l, hdrop, ha, -⟩ | ⟨r', told, hdrop, ha⟩⟩ := hcase
      · simp only [roundOf, hdrop]
        exact .refused hlookup hbusy
      · simp only [roundOf, hdrop]
        exact .waits _ r' _ l ha (fun _ => rfl) rfl
      · simp only [roundOf, hdrop]
        exact .gaveUp r' hlookup ha
  | tries n l due hn =>
    obtain ⟨k, hk, -⟩ := h.sound.running l (mem_loops (loopOf_eq hn))
    exact .inr ⟨l.entry, k, rfl, hk, .waits _ _ _ l (attempt_altered l) (fun _ => rfl) rfl⟩
  | calledOff n l due hn =>
    obtain ⟨k, hk, -⟩ := h.sound.running l (mem_loops (loopOf_eq hn))
    exact .inr ⟨l.entry, k, rfl, hk, .cancelled _ (calledOff_altered l)⟩
  | succeeds n l hn =>
    obtain ⟨k, hk, -⟩ := h.sound.running l (mem_loops (loopOf_eq hn))
    exact .inr ⟨l.entry, k, rfl, hk, .reconnected _ l.attempt (succeeded_altered l)⟩
  | refused n l e hn =>
    obtain ⟨k, hk, -⟩ := h.sound.running l (mem_loops (loopOf_eq hn))
    refine .inr ⟨l.entry, k, rfl, hk, ?_⟩
    simp only [roundOf]
    obtain ⟨-, hoff⟩ | ⟨hoff, hstepped⟩ := refused_cases l hk e
    · rw [hoff]
      exact .cancelled _ (calledOff_altered l)
    · have hlookup := h.lookup_of_call (mem_loops (loopOf_eq hn)) hoff
      generalize s.reopener.refused l e = step at hstepped ⊢
      cases hstepped with
      | waits r' told l' ha => exact .waits _ r' _ l' ha (fun _ => rfl) rfl
      | gaveUp r' told ha => exact .gaveUp r' hlookup ha

/-- A round touches no entry but that of its call. -/
theorem Rounds.onlyAt (hq : s.Rounds e q) {n : Nat} (hn : q.entry = some n) :
    OnlyAt n s.reopener q.reopener := by
  cases hq with
  | arrives id => exact .drop hn
  | tries m l due => exact Option.some.inj hn ▸ .attempt s.reopener l
  | calledOff m l due => exact Option.some.inj hn ▸ .calledOff s.reopener l
  | succeeds m l => exact Option.some.inj hn ▸ .succeeded s.reopener l
  | refused m l e => exact Option.some.inj hn ▸ .refused s.reopener l e

/-- A round tells of a failure only with a give-up that is to be reported. -/
theorem Rounds.tells (hq : s.Rounds e q) : q.told.filterMap ReopenEvent.failure? = [] ∨
    q.told.filterMap ReopenEvent.failure? = [q.session] ∧ q.stage = .ended (.gaveUp true) := by
  have htells : ∀ {step : Reopener.Step} {i : SessionId}, Tells i step →
      step.2.1.filterMap ReopenEvent.failure? = [] ∨
        step.2.1.filterMap ReopenEvent.failure? = [i] ∧
          step.2.2.stage s.now = .ended (.gaveUp true) :=
    fun h => h.imp_right fun h => ⟨h.1, by rw [h.2]; rfl⟩
  cases hq with
  | arrives id => exact htells (drop_tells s.reopener id)
  | tries | calledOff | succeeds => exact .inl rfl
  | refused n l e => exact htells (refused_tells l s.reopener e)

end Supervision

end Multiplexer
