import Multiplexer.Proofs.Reopen.Rounds

/-!
# Notification of a drop

A drop that cannot be repaired is to be reported once. Of all calls for a session
that give up, the first one since the entry was last armed is told to report it
and the later ones are not, whatever else happens to the session meanwhile.
-/

namespace Multiplexer

open Reopener

namespace CallStage

/-- Whether a call gave up, and if so, whether it is told to report the drop. -/
def gaveUp? : CallStage → Option Bool
  | .ended (.gaveUp notify) => some notify
  | _ => none

def reconnected : CallStage → Bool
  | .ended (.reconnected _) => true
  | _ => false

/-- A call that goes on has not given up. -/
theorem gaveUp?_of_loop {stage : CallStage} {l : ReopenLoop} (h : stage.loop? = some l) :
    stage.gaveUp? = none ∧ stage.reconnected = false := by
  cases stage with
  | delayed | trying => exact ⟨rfl, rfl⟩
  | ended o => cases h

end CallStage

namespace Supervision

/-- Whether an event arms the entry of a session: a registration, a reset, or a call that opened
the line again. -/
def arms (s : Supervision) (id : SessionId) : Event → Bool
  | .order i (.register _) => i == id
  | .order i .reset => i == id && s.reopener.isRegistered id
  | e => (s.round? e).any fun q =>
    q.stage.reconnected && q.entry == s.reopener.registered.lookup id

def armsIn (id : SessionId) : Supervision → List Event → Bool
  | _, [] => false
  | s, e :: es => s.arms id e || armsIn id (s.step e) es

def verdict (s : Supervision) (id : SessionId) (e : Event) : List Bool :=
  (s.round? e).toList.filterMap fun q => if q.session = id then q.stage.gaveUp? else none

def giveUps (id : SessionId) : Supervision → List Event → List Bool
  | _, [] => []
  | s, e :: es => s.verdict id e ++ giveUps id (s.step e) es

def failures (s : Supervision) (e : Event) : List SessionId :=
  ((s.round? e).toList.flatMap Round.told).filterMap ReopenEvent.failure?

def failuresIn : Supervision → List Event → List SessionId
  | _, [] => []
  | s, e :: es => s.failures e ++ (s.step e).failuresIn es

/-- Whoever gives up reports the drop if nobody has since the entry was armed. -/
structure NotifiesOnce (s : Supervision) : Prop where
  once : ∀ id e es, s.arms id e = true → armsIn id (s.step e) es = false →
    giveUps id (s.step e) es = [] ∨ ∃ n, giveUps id (s.step e) es = true :: List.replicate n false
  announced : ∀ e q, s.round? e = some q → ∀ id total, .failed id total ∈ q.told →
    id = q.session ∧ q.stage = .ended (.gaveUp true)
  failures : ∀ id es, (s.failuresIn es).count id ≤ (giveUps id s es).count true
  /-- A call that neither gives up nor succeeds leaves the notification to others. -/
  spared : ∀ e q, s.round? e = some q → q.stage.gaveUp? = none → q.stage.reconnected = false →
    ∀ n, (q.reopener.standing n).map Standing.tripped =
      (s.reopener.standing n).map Standing.tripped

variable {s : Supervision} {e : Event} {q : Round} {id : SessionId} {b : Bool}

/-- The latch of the entry that a session has now, if any. -/
def Latched (s : Supervision) (id : SessionId) (b : Bool) : Prop :=
  ∀ k, s.reopener.current id = some k → k.tripped = b

theorem Latched.altered {r' : Reopener} {n : Nat} {g : Standing → Standing}
    (h : s.Latched id b) (ha : Altered n g s.reopener r')
    (hg : s.reopener.registered.lookup id = some n → ∀ k, (g k).tripped = k.tripped) :
    ∀ k, r'.current id = some k → k.tripped = b := by
  intro k hk
  rw [ha.current] at hk
  split at hk
  · next hlookup =>
    obtain ⟨k₀, hk₀, rfl⟩ := Option.map_eq_some_iff.1 hk
    rw [hg hlookup]
    exact h k₀ hk₀
  · exact h k hk

/-- A call gives up in a round of its own. -/
theorem verdict_of_round (hq : s.round? e = some q) :
    s.verdict id e = if q.session = id then q.stage.gaveUp?.toList else [] := by
  unfold verdict
  rw [hq]
  by_cases hid : q.session = id
  · cases hstage : q.stage.gaveUp? <;> simp [hid, hstage]
  · simp [hid]

theorem verdict_of_none (hq : s.round? e = none) : s.verdict id e = [] := by
  simp [verdict, hq]

/-- A round arms the entry that the line was opened for. -/
theorem arms_of_round (hq : s.round? e = some q) :
    s.arms id e = (q.stage.reconnected && q.entry == s.reopener.registered.lookup id) := by
  cases e with
  | order | policy | pass => simp [round?] at hq
  | call | elapse | callOff | answer => simp only [arms, hq, Option.any_some]

/-- In a round that does not arm it, the latch stays, or the call gives up and trips it. -/
theorem Tidy.latched_round (h : s.Tidy) (hq : s.round? e = some q) (hlatched : s.Latched id b)
    (harms : q.stage.reconnected = true → q.entry ≠ s.reopener.registered.lookup id) :
    (s.verdict id e = [] ∧ (s.step e).Latched id b) ∨
      (s.verdict id e = [!b] ∧ (s.step e).Latched id true) := by
  rw [verdict_of_round hq, step_round hq]
  obtain hunknown | ⟨n, k, hentry, hk, hresolves⟩ := h.resolves (rounds_of_round? hq)
  · rw [hunknown.stage, hunknown.reopener]
    exact .inl ⟨by simp [CallStage.gaveUp?], hlatched⟩
  · generalize hr : q.reopener = r' at hresolves ⊢
    generalize hstage : q.stage = stage at hresolves harms ⊢
    cases hresolves with
    | waits g r' stage l ha hg hl =>
      refine .inl ⟨?_, hlatched.altered ha fun _ => hg⟩
      simp [(CallStage.gaveUp?_of_loop hl).1]
    | gaveUp r' hlookup ha =>
      by_cases hid : q.session = id
      · -- This is the entry that the session has now, so its latch tells the verdict.
        rw [hid] at hlookup
        have hcurrent : s.reopener.current id = some k := by rw [current, hlookup]; exact hk
        refine .inr ⟨by simp [hid, CallStage.gaveUp?, hlatched k hcurrent], fun k' hk' => ?_⟩
        have hgiven := ha.current id
        rw [if_pos hlookup, hcurrent] at hgiven
        obtain rfl := Option.some.inj (hgiven.symm.trans hk')
        rfl
      · refine .inl ⟨by simp [hid], hlatched.altered ha fun hother => ?_⟩
        exact absurd (h.sound.injective _ _ n hlookup hother) hid
    | cancelled r' ha => exact .inl ⟨by simp [CallStage.gaveUp?], hlatched.altered ha fun _ _ => rfl⟩
    | reconnected r' attempt ha =>
      refine .inl ⟨by simp [CallStage.gaveUp?], hlatched.altered ha fun hlookup => ?_⟩
      exact absurd (hentry.trans hlookup.symm) (harms rfl)
    | refused => exact .inl ⟨by simp [CallStage.gaveUp?], hlatched⟩

/-- An order is carried out on the entry that the session has now. -/
theorem current_onEntry {r : Reopener} {f : ReopenEntry → ReopenEntry} {g : Standing → Standing}
    (hf : ∀ e, (f e).number = e.number) (hfg : ∀ e, (f e).standing = g e.standing) :
    (r.onEntry id f).current id = (r.current id).map g := by
  unfold onEntry
  split
  · next n hlookup =>
    have ha : Altered n g r (r.update n f) := .update hf hfg
    rw [ha.current, if_pos hlookup]
  · next hlookup => simp [current, hlookup]

theorem current_cancel (r : Reopener) :
    (r.cancel id).current id = (r.current id).map Standing.cancel :=
  current_onEntry (fun _ => rfl) fun _ => rfl

theorem current_reset (r : Reopener) :
    (r.reset id).current id = (r.current id).map Standing.reset :=
  current_onEntry (fun _ => rfl) fun _ => rfl

theorem current_unregister (r : Reopener) : (r.unregister id).current id = none := by
  have hlookup := lookup_erase (r.cancel id).registered id id
  rw [if_pos rfl] at hlookup
  unfold current
  rw [show (r.unregister id).registered.lookup id = none from hlookup]
  rfl

theorem current_register {r : Reopener} {loops : List ReopenLoop} (h : r.Sound loops)
    (params : SerialParams) : (r.register id params).current id = some {} := by
  unfold current
  rw [Ordered.lookup_register, Option.bind_some, Ordered.standing_fresh h.standing_nextNumber]

theorem isRegistered_eq (r : Reopener) : r.isRegistered id = (r.current id).isSome := by
  unfold isRegistered current standing
  rw [entry?_eq]
  cases r.registered.lookup id <;> simp

/-- An order that does not arm the entry leaves its latch. -/
theorem Tidy.latched_order (h : s.Tidy) (i : SessionId) (o : Order) (hlatched : s.Latched id b)
    (harms : s.arms id (.order i o) = false) : (s.step (.order i o)).Latched id b := by
  intro k hk
  have hstep : (s.step (.order i o)).reopener = o.carryOut i s.reopener := rfl
  rw [hstep] at hk
  by_cases hid : id = i
  · subst hid
    cases o with
    | register params => simp [arms] at harms
    | reset =>
      have hnone : s.reopener.current id = none := by simpa [arms, isRegistered_eq] using harms
      rw [Order.carryOut, current_reset, hnone] at hk
      cases hk
    | cancel =>
      rw [Order.carryOut, current_cancel] at hk
      obtain ⟨k₀, hk₀, rfl⟩ := Option.map_eq_some_iff.1 hk
      exact hlatched k₀ hk₀
    | unregister =>
      rw [Order.carryOut, current_unregister] at hk
      cases hk
  · rw [(Exchange.ordered_carryOut h.sound i o).current h.sound hid] at hk
    exact hlatched k hk

/-- Unless it arms it, an event trips the latch of a session only with the verdict that the latch
stands for. -/
theorem Tidy.latched_step (h : s.Tidy) (hlatched : s.Latched id b) (harms : s.arms id e = false) :
    (s.verdict id e = [] ∧ (s.step e).Latched id b) ∨
      (s.verdict id e = [!b] ∧ (s.step e).Latched id true) := by
  cases hq : s.round? e with
  | some q =>
    rw [arms_of_round hq] at harms
    exact h.latched_round hq hlatched fun hreconnected hentry => by
      simp [hreconnected, hentry] at harms
  | none =>
    refine .inl ⟨verdict_of_none hq, ?_⟩
    cases e with
    | order i o => exact h.latched_order i o hlatched harms
    | call => simp [round?] at hq
    | policy p => exact hlatched
    | elapse | callOff | answer =>
      unfold Supervision.step
      rw [hq]
      exact hlatched
    | pass ms =>
      unfold Supervision.step
      simp only [round?]
      split <;> exact hlatched

/-- Behind a tripped latch no call reports. -/
theorem Tidy.giveUps_tripped (h : s.Tidy) (hlatched : s.Latched id true) (es : List Event)
    (harms : armsIn id s es = false) : ∃ n, giveUps id s es = List.replicate n false := by
  induction es generalizing s with
  | nil => exact ⟨0, rfl⟩
  | cons e es ih =>
    obtain ⟨harm, harms⟩ := Bool.or_eq_false_iff.1 harms
    obtain ⟨hverdict, hlatched⟩ | ⟨hverdict, hlatched⟩ := h.latched_step hlatched harm
    · obtain ⟨n, hn⟩ := ih (h.step e) hlatched harms
      exact ⟨n, by rw [giveUps, hverdict, hn, List.nil_append]⟩
    · obtain ⟨n, hn⟩ := ih (h.step e) hlatched harms
      exact ⟨n + 1, by rw [giveUps, hverdict, hn]; rfl⟩

/-- Of the calls that give up behind an armed latch, the first reports. -/
theorem Tidy.giveUps_armed (h : s.Tidy) (hlatched : s.Latched id false) (es : List Event)
    (harms : armsIn id s es = false) :
    giveUps id s es = [] ∨ ∃ n, giveUps id s es = true :: List.replicate n false := by
  induction es generalizing s with
  | nil => exact .inl rfl
  | cons e es ih =>
    obtain ⟨harm, harms⟩ := Bool.or_eq_false_iff.1 harms
    obtain ⟨hverdict, hlatched⟩ | ⟨hverdict, hlatched⟩ := h.latched_step hlatched harm
    · rw [giveUps, hverdict, List.nil_append]
      exact ih (h.step e) hlatched harms
    · -- From the first give-up on the latch is tripped.
      obtain ⟨n, hn⟩ := (h.step e).giveUps_tripped hlatched es harms
      exact .inr ⟨n, by rw [giveUps, hverdict, hn]; rfl⟩

/-- An event that arms the entry resets its latch. -/
theorem Tidy.latched_of_arms (h : s.Tidy) (harms : s.arms id e = true) :
    (s.step e).Latched id false := by
  intro k hk
  cases hq : s.round? e with
  | some q =>
    rw [arms_of_round hq, Bool.and_eq_true, beq_iff_eq] at harms
    rw [step_round hq] at hk
    obtain hunknown | ⟨n, k₀, hentry, hk₀, hresolves⟩ := h.resolves (rounds_of_round? hq)
    · rw [hunknown.stage] at harms
      cases harms.1
    · have hlookup := harms.2.symm.trans hentry
      generalize q.stage = stage at hresolves harms
      generalize q.reopener = r' at hresolves hk
      cases hresolves with
      | waits g r' stage l ha hg hl => simp [(CallStage.gaveUp?_of_loop hl).2] at harms
      | reconnected r' attempt ha =>
        rw [ha.current, if_pos hlookup] at hk
        obtain ⟨k₁, -, rfl⟩ := Option.map_eq_some_iff.1 hk
        rfl
      | gaveUp | cancelled | refused => cases harms.1
  | none =>
    cases e with
    | order i o =>
      have hstep : (s.step (.order i o)).reopener = o.carryOut i s.reopener := rfl
      rw [hstep] at hk
      cases o with
      | register params =>
        obtain rfl : i = id := by simpa [arms] using harms
        rw [Order.carryOut, current_register h.sound] at hk
        obtain rfl := Option.some.inj hk
        rfl
      | reset =>
        obtain ⟨rfl, -⟩ : i = id ∧ _ := by simpa [arms] using harms
        rw [Order.carryOut, current_reset] at hk
        obtain ⟨k₁, -, rfl⟩ := Option.map_eq_some_iff.1 hk
        rfl
      | unregister | cancel => simp [arms, hq] at harms
    | call | elapse | callOff | answer | policy | pass => simp [arms, hq] at harms

theorem failures_of_round (hq : s.round? e = some q) :
    s.failures e = q.told.filterMap ReopenEvent.failure? := by
  simp [failures, hq]

/-- A failure is told with a give-up that reports, and only so. -/
theorem count_failures_le (s : Supervision) (e : Event) (id : SessionId) :
    (s.failures e).count id ≤ (s.verdict id e).count true := by
  cases hq : s.round? e with
  | none => simp [failures, hq]
  | some q =>
    rw [failures_of_round hq, verdict_of_round hq]
    obtain hnone | ⟨hone, hstage⟩ := (rounds_of_round? hq).tells
    · rw [hnone]
      exact Nat.zero_le _
    · rw [hone, hstage]
      by_cases hid : q.session = id <;> simp [hid, CallStage.gaveUp?]

/-- In any run there are no more failures told than give-ups that report. -/
theorem count_failuresIn_le (s : Supervision) (es : List Event) (id : SessionId) :
    (s.failuresIn es).count id ≤ (giveUps id s es).count true := by
  induction es generalizing s with
  | nil => exact Nat.le_refl _
  | cons e es ih =>
    have hstep := count_failures_le s e id
    have hrest := ih (s.step e)
    rw [failuresIn, giveUps, List.count_append, List.count_append]
    omega

/-- A failure that is told is that of the session of the round. -/
theorem announced_of_round (hq : s.round? e = some q) {total : Nat}
    (h : .failed id total ∈ q.told) : id = q.session ∧ q.stage = .ended (.gaveUp true) := by
  have hmem : id ∈ q.told.filterMap ReopenEvent.failure? := List.mem_filterMap.2 ⟨_, h, rfl⟩
  obtain hnone | ⟨hone, hstage⟩ := (rounds_of_round? hq).tells
  · simp [hnone] at hmem
  · rw [hone] at hmem
    exact ⟨List.mem_singleton.1 hmem, hstage⟩

/-- A round in which the call neither gives up nor reconnects leaves all latches. -/
theorem Tidy.tripped_of_round (h : s.Tidy) (hq : s.round? e = some q)
    (hgaveUp : q.stage.gaveUp? = none) (hreconnected : q.stage.reconnected = false) (n : Nat) :
    (q.reopener.standing n).map Standing.tripped =
      (s.reopener.standing n).map Standing.tripped := by
  have haltered : ∀ {m : Nat} {g : Standing → Standing} {r' : Reopener},
      Altered m g s.reopener r' → (∀ k, (g k).tripped = k.tripped) →
      (r'.standing n).map Standing.tripped = (s.reopener.standing n).map Standing.tripped := by
    intro m g r' ha hg
    rw [ha.standing]
    split
    · cases s.reopener.standing n <;> simp [hg]
    · rfl
  obtain hunknown | ⟨m, k, -, -, hresolves⟩ := h.resolves (rounds_of_round? hq)
  · rw [hunknown.reopener]
  · generalize q.reopener = r' at hresolves ⊢
    generalize q.stage = stage at hresolves hgaveUp hreconnected
    cases hresolves with
    | waits g r' stage l ha hg hl => exact haltered ha hg
    | cancelled r' ha => exact haltered ha fun _ => rfl
    | refused => rfl
    | gaveUp => cases hgaveUp
    | reconnected => cases hreconnected

/-- Each drop is reported once. -/
theorem Tidy.notifiesOnce (h : s.Tidy) : s.NotifiesOnce where
  once _ e es harm harms := (h.step e).giveUps_armed (h.latched_of_arms harm) es harms
  announced _ _ hq _ _ := announced_of_round hq
  failures id es := count_failuresIn_le s es id
  spared _ _ hq := h.tripped_of_round hq

/-- Whatever calls are made, and however they overlap, each drop is reported once. -/
theorem notifies_once_after_events (p : ReopenPolicy) (es : List Event) :
    ((start p).run es).NotifiesOnce := ((Tidy.start p).run es).notifiesOnce

def goneLine : List Event :=
  [.call ⟨1⟩, .pass 5, .elapse 0, .answer 0 (some (.transport "no such device")), .call ⟨1⟩]

/-- Of two calls that give up, the first is told to report. -/
theorem notified_of_two :
    let s := start { maxAttempts := 1, delayMs := 5 }
    let e : Event := .order ⟨1⟩ (.register { device := "/dev/ttyUSB0", baudRate := 9600 })
    s.arms ⟨1⟩ e = true ∧ armsIn ⟨1⟩ (s.step e) goneLine = false ∧
      giveUps ⟨1⟩ (s.step e) goneLine = [true, false] ∧
      ∃ n, giveUps ⟨1⟩ (s.step e) goneLine = true :: List.replicate n false := by
  intro s e
  have harm : s.arms ⟨1⟩ e = true := by decide
  have harms : armsIn ⟨1⟩ (s.step e) goneLine = false := by decide
  have htwo : giveUps ⟨1⟩ (s.step e) goneLine = [true, false] := by decide
  have hs : s.NotifiesOnce := notifies_once_after_events { maxAttempts := 1, delayMs := 5 } []
  exact ⟨harm, harms, htwo, (hs.once ⟨1⟩ e goneLine harm harms).resolve_left (by rw [htwo]; simp)⟩

end Supervision

end Multiplexer
