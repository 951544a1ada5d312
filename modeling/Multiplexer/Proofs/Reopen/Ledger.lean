import Multiplexer.Proofs.Reopen.Exclusion

/-!
# What becomes of an entry

What each step of a loop tells, where it pauses and how it leaves the entry. While
a loop runs, nothing else touches its entry but what calls the loop off.
-/

namespace Multiplexer

/-- Whether an order calls off what runs for its session. -/
def Order.callsOff : Order → Bool
  | .cancel | .unregister | .register _ => true
  | .reset => false

namespace ReopenEntry

variable (e : ReopenEntry)

/-- What is told of a failure after some attempts: the first to give up since the entry was armed
tells it. -/
def failure (id : SessionId) (used : Nat) : List ReopenEvent :=
  if e.latch.tripped then [] else [.failed id used]

def gaveUp : ReopenOutcome := .gaveUp !e.latch.tripped

end ReopenEntry

namespace Reopener

/-- What a step tells, where it pauses, and how it leaves an entry. -/
structure Leaves (step : Reopener.Step) (n : Nat) (told : List ReopenEvent) (pause : ReopenPause)
    (e : ReopenEntry) : Prop where
  told : step.2.1 = told
  pause : step.2.2 = pause
  entry : step.1.entryAt n = some e

variable {r : Reopener} {l : ReopenLoop} {e : ReopenEntry} {n : Nat} {id : SessionId}

theorem entryAt_update_self {f : ReopenEntry → ReopenEntry} (hf : ∀ e, (f e).number = e.number)
    (he : r.entryAt n = some e) : (r.update n f).entryAt n = some (f e) := by
  rw [entryAt_update hf, if_pos rfl, he, Option.map_some]

/-- To give up trips the latch and tells whether it was armed. -/
theorem giveUp_of_entry (he : r.entryAt n = some e) :
    r.giveUp n = (!e.latch.tripped, r.update n fun e => { e with latch := ⟨true⟩ }) := by
  unfold entryAt at he
  simp only [giveUp, he, Latch.trip]

section Steps

variable (events : List ReopenEvent)

/-- A loop that ends leaves its entry idle. -/
theorem finish_leaves (he : r.entryAt n = some e) (o : ReopenOutcome) :
    Leaves (r.finish n events o) n events (.ended o) { e with reconnecting := false } :=
  ⟨rfl, rfl, entryAt_update_self (fun _ => rfl) he⟩

/-- A loop that fails tells the failure and gives up. -/
theorem fail_leaves (he : r.entryAt l.entry = some e) :
    Leaves (r.fail l events) l.entry (events ++ e.failure l.session e.attempts) (.ended e.gaveUp)
      { e with state := .failed, latch := ⟨true⟩, reconnecting := false } := by
  have hfailed : (r.update l.entry fun e => { e with state := .failed }).entryAt l.entry =
      some { e with state := .failed } := entryAt_update_self (fun _ => rfl) he
  have hgiven := entryAt_update_self (f := fun e => { e with latch := ⟨true⟩ }) (fun _ => rfl)
    hfailed
  have hfind := hfailed
  unfold entryAt at hfind
  simp only [fail, giveUp_of_entry hfailed, hfind]
  refine ⟨?_, rfl, (finish_leaves [] hgiven (.gaveUp false)).entry⟩
  cases htripped : e.latch.tripped <;> simp [finish, ReopenEntry.failure, htripped]

/-- With attempts left, a loop waits for the next one. -/
theorem next_leaves (he : r.entryAt l.entry = some e) (hleft : e.attempts < l.policy.maxAttempts) :
    Leaves (r.next l events) l.entry
      (events ++ [.waiting l.session l.policy.delayMs (e.attempts + 1)])
      (.delayed { l with attempt := e.attempts + 1 })
      { e with attempts := e.attempts + 1, state := .waiting } := by
  have hfind := he
  unfold entryAt at hfind
  simp only [next, hfind, Option.map_some, Option.getD_some, if_pos hleft]
  exact ⟨rfl, rfl, entryAt_update_self (f := fun e' => { e' with
    attempts := e.attempts + 1, state := .waiting }) (fun _ => rfl) he⟩

/-- Without attempts left, a loop fails. -/
theorem next_eq_fail (he : r.entryAt l.entry = some e)
    (hspent : l.policy.maxAttempts ≤ e.attempts) : r.next l events = r.fail l events := by
  unfold entryAt at he
  simp only [next, he, Option.map_some, Option.getD_some, if_neg (Nat.not_lt.2 hspent)]

end Steps

/-- An attempt is counted before it is made. -/
theorem attempt_leaves (he : r.entryAt l.entry = some e) :
    (r.attempt l).1.entryAt l.entry = some { e with state := .attempting } ∧
      (r.attempt l).2.2 = some e.params := by
  have hentry : (r.attempt l).1.entryAt l.entry = some { e with state := .attempting } :=
    entryAt_update_self (fun _ => rfl) he
  refine ⟨hentry, ?_⟩
  unfold entryAt at hentry
  simp only [attempt] at hentry ⊢
  rw [hentry]
  rfl

/-- A loop that was called off tells so and ends. -/
theorem calledOff_leaves (he : r.entryAt l.entry = some e) :
    Leaves (r.calledOff l) l.entry [.cancelled l.session] (.ended .cancelled)
      { e with state := .cancelled, reconnecting := false } :=
  finish_leaves _ (entryAt_update_self (f := fun e => { e with state := .cancelled })
    (fun _ => rfl) he) .cancelled

/-- A success is told and leaves all attempts for the next drop. -/
theorem succeeded_leaves (he : r.entryAt l.entry = some e) :
    Leaves (r.succeeded l) l.entry [.success l.session l.attempt] (.ended (.reconnected l.attempt))
      { e with attempts := 0, latch := ⟨false⟩, state := .reconnected, reconnecting := false } :=
  finish_leaves _ (entryAt_update_self (f := fun e =>
    { e with attempts := 0, latch := e.latch.rearm, state := .reconnected })
    (fun _ => rfl) he) (.reconnected l.attempt)

/-- An attempt that failed is the last one when the loop was called off. -/
theorem refused_of_off {error : ConnectError}
    (h : r.isCancelled l = true ∨ error = .cancelled) : r.refused l error = r.calledOff l := by
  unfold refused
  rw [if_pos (by simpa using h)]

/-- After a failure of the line a loop goes on, and after any other error it fails. -/
theorem refused_of_on {error : ConnectError} (hon : r.isCancelled l = false)
    (herror : error ≠ .cancelled) : r.refused l error =
      if error.isTransport then r.next l [.attemptFailed l.session l.attempt error.message]
      else r.fail l [.attemptFailed l.session l.attempt error.message] := by
  unfold refused
  rw [if_neg (by simp [hon, herror])]

/-! A drop. -/

/-- A drop in the middle of a loop changes nothing. -/
theorem drop_busy (he : r.entry? id = some e) (hbusy : e.reconnecting = true) :
    r.drop id = (r, [], .ended .alreadyReconnecting) := by
  simp only [drop, he, hbusy, if_true]

theorem entryAt_of_entry (he : r.entry? id = some e) :
    r.registered.lookup id = some e.number ∧ r.entryAt e.number = some e := by
  obtain ⟨n, hlookup, hentry⟩ := Option.bind_eq_some_iff.1 ((entry?_eq id).symm.trans he)
  obtain rfl := number_of_entryAt hentry
  exact ⟨hlookup, hentry⟩

/-- With reopening disabled, a drop gives up at once. -/
theorem drop_disabled (he : r.entry? id = some e) (hidle : e.reconnecting = false)
    (hdisabled : r.policy.enabled = false) :
    Leaves (r.drop id) e.number [] (.ended e.gaveUp)
      { e with latch := ⟨true⟩, reconnecting := false } := by
  have hstarted : (r.update e.number fun e => { e with reconnecting := true }).entryAt e.number =
      some { e with reconnecting := true } :=
    entryAt_update_self (fun _ => rfl) (entryAt_of_entry he).2
  have hgiven := entryAt_update_self (f := fun e => { e with latch := ⟨true⟩ }) (fun _ => rfl)
    hstarted
  have hpolicy : (r.update e.number fun e => { e with reconnecting := true }).policy.enabled =
      false := hdisabled
  simp only [drop, he, hidle, hpolicy, Bool.false_eq_true, if_false, giveUp_of_entry hstarted]
  exact finish_leaves [] hgiven _

/-- The loop that a drop starts. -/
def loopFor (r : Reopener) (id : SessionId) (e : ReopenEntry) : ReopenLoop :=
  ⟨id, e.number, e.token, r.policy, 0⟩

theorem drop_enabled (he : r.entry? id = some e) (hidle : e.reconnecting = false)
    (henabled : r.policy.enabled = true) :
    ∃ r' : Reopener, r'.entryAt e.number = some { e with reconnecting := true } ∧
      r.drop id = r'.next (r.loopFor id e)
        (if e.attempts < r.policy.maxAttempts then [.starting id] else []) := by
  refine ⟨r.update e.number fun e => { e with reconnecting := true },
    entryAt_update_self (fun _ => rfl) (entryAt_of_entry he).2, ?_⟩
  have hpolicy : (r.update e.number fun e => { e with reconnecting := true }).policy.enabled =
      true := henabled
  simp only [drop, he, hidle, hpolicy, Bool.false_eq_true, if_false, if_true]
  rfl

/-- With attempts left, a drop starts a loop that waits. -/
theorem drop_waits (he : r.entry? id = some e) (hidle : e.reconnecting = false)
    (henabled : r.policy.enabled = true) (hleft : e.attempts < r.policy.maxAttempts) :
    Leaves (r.drop id) e.number [.starting id, .waiting id r.policy.delayMs (e.attempts + 1)]
      (.delayed { r.loopFor id e with attempt := e.attempts + 1 })
      { e with attempts := e.attempts + 1, state := .waiting, reconnecting := true } := by
  obtain ⟨r', hentry, hdrop⟩ := drop_enabled he hidle henabled
  rw [hdrop, if_pos hleft]
  exact next_leaves (l := r.loopFor id e) [.starting id] hentry hleft

/-- Without attempts left, a drop fails at once. -/
theorem drop_spent (he : r.entry? id = some e) (hidle : e.reconnecting = false)
    (henabled : r.policy.enabled = true) (hspent : r.policy.maxAttempts ≤ e.attempts) :
    Leaves (r.drop id) e.number (e.failure id e.attempts) (.ended e.gaveUp)
      { e with state := .failed, latch := ⟨true⟩, reconnecting := false } := by
  obtain ⟨r', hentry, hdrop⟩ := drop_enabled he hidle henabled
  rw [hdrop, if_neg (Nat.not_lt.2 hspent), next_eq_fail (l := r.loopFor id e) [] hentry hspent]
  have hleaves := fail_leaves (l := r.loopFor id e) [] hentry
  exact hleaves

/-! A request. -/

/-- An order changes the entry of its session only. -/
theorem entryAt_onEntry {f : ReopenEntry → ReopenEntry} (hf : ∀ e, (f e).number = e.number)
    (n : Nat) : (r.onEntry id f).entryAt n =
      if r.registered.lookup id = some n then (r.entryAt n).map f else r.entryAt n := by
  unfold onEntry
  split
  · next m hlookup =>
    rw [entryAt_update hf, hlookup]
    by_cases hn : n = m <;> simp [hn, eq_comm]
  · next hlookup => simp [hlookup]

/-- What an order other than a reset does to an entry that there is. -/
theorem entryAt_carryOut (he : r.entryAt n = some e) {o : Order}
    (ho : r.registered.lookup id = some n → o.callsOff = true) :
    (o.carryOut id r).entryAt n = some
      (if r.registered.lookup id = some n then { e with cancelled := true } else e) := by
  have hcancel : (r.cancel id).entryAt n = some
      (if r.registered.lookup id = some n then { e with cancelled := true } else e) := by
    refine (entryAt_onEntry ?_ n).trans ?_
    · exact fun _ => rfl
    · rw [he]
      split <;> rfl
  cases o with
  | cancel | unregister => exact hcancel
  | reset =>
    have hother : r.registered.lookup id ≠ some n := fun hlookup => Bool.noConfusion (ho hlookup)
    refine (entryAt_onEntry ?_ n).trans ?_
    · exact fun _ => rfl
    · rw [if_neg hother, if_neg hother, he]
  | register params =>
    have happend : (r.register id params).entryAt n = ((r.cancel id).entryAt n).or
        ([{ number := (r.cancel id).nextNumber, params }].find? fun e => e.number == n) :=
      List.find?_append
    exact happend.trans (by rw [hcancel]; rfl)

end Reopener

namespace Supervision

variable {s : Supervision} {x : Event} {q : Round} {n : Nat} {l : ReopenLoop}

/-- No other call runs on the entry of a loop. -/
theorem Tidy.call_eq (h : s.Tidy) {m : Nat} {l' : ReopenLoop} (hl : s.loopOf n = some l)
    (hl' : s.loopOf m = some l') (hentry : l'.entry = l.entry) : m = n := by
  by_contra hne
  obtain ⟨stage, hn, hstage⟩ := Option.bind_eq_some_iff.1 hl
  obtain ⟨stage', hm, hstage'⟩ := Option.bind_eq_some_iff.1 hl'
  have hperm := ((perm_calls s.calls n).filterMap CallStage.loop?).map ReopenLoop.entry
  have happart := hperm.nodup_iff.1 h.sound.apart
  have hmem : stage' ∈ s.calls.eraseIdx n := List.mem_eraseIdx_iff_getElem?.2 ⟨m, hne, hm⟩
  rw [hn, Option.toList_some, List.singleton_append, List.filterMap_cons_some hstage,
    List.map_cons, List.nodup_cons] at happart
  exact happart.1 (hentry ▸ List.mem_map_of_mem (List.mem_filterMap.2 ⟨stage', hmem, hstage'⟩))

/-- The rounds of other calls leave the entry of a loop alone. -/
theorem Tidy.entryAt_round (h : s.Tidy) (hq : s.Rounds x q) (hl : s.loopOf n = some l)
    (hne : q.call ≠ n) : q.reopener.entryAt l.entry = s.reopener.entryAt l.entry := by
  by_cases hentry : q.entry = some l.entry
  · cases hq with
    | arrives id =>
      simp only [roundOf] at hentry ⊢
      rw [h.drop_running (mem_loops hl) hentry]
    | tries m l' due hm | calledOff m l' due hm | succeeds m l' hm | refused m l' e hm =>
      exact absurd (h.call_eq hl (loopOf_eq hm) (Option.some.inj hentry)) hne
  · obtain hunknown | ⟨m, k, hm, -⟩ := h.resolves hq
    · rw [hunknown.reopener]
    · exact (hq.onlyAt hm).entryAt _ fun heq => hentry (heq ▸ hm)

end Supervision

end Multiplexer
