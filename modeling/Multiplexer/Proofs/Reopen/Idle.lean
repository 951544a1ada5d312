import Multiplexer.Proofs.Reopen.Course
import Multiplexer.Proofs.Reopen.Notification

/-!
# Calling off what does not run

When no loop runs for a session, calling it off leaves the token of its entry
cancelled. The next drop begins as ever; if it comes to wait, it has been called off
from the start, and ends without an attempt unless there is nothing to wait for.
-/

namespace Multiplexer

open Reopener

namespace CallBrief

variable {b : CallBrief} {ts : List CallTurn} {t : CallTurn} {p : CallPhase}

def spoilt (b : CallBrief) : CallBrief := { b with entry := { b.entry with cancelled := true } }

/-- Where a call stands that waits for its first attempt, or was called off at its arrival. -/
def CutShort (b : CallBrief) (ts : List CallTurn) (p : CallPhase) : Prop :=
  ∃ t, b.Opens t (.waiting (b.entry.attempts + 1) b.time) ∧
    (ts = [t] ∧ p = .waiting (b.entry.attempts + 1) b.time ∨
      ts = [t, ⟨b.time, .calledOff, some b.time, [.cancelled b.session], none,
        b.entry.attempts + 1, .cancelled⟩] ∧ p = .ended .cancelled)

/-- The cancelled token does not show in the first turn. -/
theorem Opens.spoilt (h : b.Opens t p) : b.spoilt.Opens { t with off := some b.time } p := by
  cases h with
  | busy hbusy => exact .busy hbusy
  | disabled hidle hdisabled => exact .disabled hidle hdisabled
  | spent hidle henabled hspent => exact .spent hidle henabled hspent
  | begins hidle henabled hleft => exact .begins hidle henabled hleft

/-- A call that has been called off from the start, and that has to wait. -/
theorem Course.cutShort (h : b.Course ts p) (hoff : ∀ t ∈ ts, t.off = some b.time)
    (hidle : b.entry.reconnecting = false) (henabled : b.policy.enabled = true)
    (hleft : b.entry.attempts < b.policy.maxAttempts) (hdelay : 0 < b.policy.delayMs) :
    b.CutShort ts p := by
  induction h with
  | @opens t p h =>
    cases h with
    | busy hbusy => simp [hidle] at hbusy
    | disabled _ hdisabled => simp [henabled] at hdisabled
    | spent _ _ hspent => exact absurd hleft (Nat.not_lt.2 hspent)
    | begins => exact ⟨_, .begins hidle henabled hleft, .inl ⟨rfl, rfl⟩⟩
  | @goes ts p p' t _ hgoes ih =>
    obtain ⟨t₀, hopens, ⟨rfl, rfl⟩ | ⟨rfl, rfl⟩⟩ :=
      ih fun t ht => hoff t (List.mem_append_left _ ht)
    · have ht := hoff t (List.mem_append_right _ List.mem_cons_self)
      cases hgoes with
      | tries _ _ off hdue =>
        have hover := hdue b.time ht
        omega
      | calledOff _ _ c hle =>
        obtain rfl : c = b.time := Option.some.inj ht
        exact ⟨t₀, hopens, .inr ⟨by simp, rfl⟩⟩
    · cases hgoes

end CallBrief

namespace Supervision

open CallBrief

variable {s : Supervision} {id : SessionId} {e : ReopenEntry} {n : Nat} {x : Event}

theorem off_of_turn? {off : Option Nat} {t : CallTurn} (h : s.turn? n off x = some t) :
    t.off = off := by
  unfold turn? at h
  simp only [Option.bind_eq_bind, Option.bind_eq_some_iff] at h
  obtain ⟨q, -, e, -, hturn⟩ := h
  split at hturn
  · cases hturn
    rfl
  · cases hturn

/-- Once a call has been called off, it stays so after any event. -/
theorem offAfter_some (s : Supervision) (id : SessionId) (c : Nat) (x : Event) :
    s.offAfter id (some c) x = some c := by
  unfold offAfter
  split
  · split <;> rfl
  · rfl

/-- A call that has been called off stays so. -/
theorem off_of_watch {c : Nat} {w : CallRecord} (hoff : w.off = some c)
    (hturns : ∀ t ∈ w.turns, t.off = some c) (xs : List Event) :
    (watch n id s w xs).off = some c ∧ ∀ t ∈ (watch n id s w xs).turns, t.off = some c := by
  induction xs generalizing s w with
  | nil => exact ⟨hoff, hturns⟩
  | cons x xs ih =>
    refine ih (w := ⟨s.offAfter id w.off x, w.turns ++ (s.turn? n w.off x).toList⟩) ?_ ?_
    · rw [hoff, offAfter_some]
    · intro t ht
      obtain ht | ht := List.mem_append.1 ht
      · exact hturns t ht
      · rw [hoff] at ht
        exact off_of_turn? (Option.mem_toList.1 ht)

/-- What is left behind by calling off a session when no loop runs for it. -/
structure Spoils (s : Supervision) (id : SessionId) (e : ReopenEntry) : Prop where
  entry : Reopener.entry? (s.step (.order id .cancel)).reopener id =
    some { e with cancelled := true }
  /-- The next drop begins as it would have, and ends at once if it would have. -/
  opening : ∃ t p, s.turn? s.calls.length (s.brief id e).off (.call id) = some t ∧
    (s.step (.call id)).calls[s.calls.length]?.map CallStage.phase = some p ∧
    (s.step (.order id .cancel)).turn? s.calls.length (some s.now) (.call id) =
      some { t with off := some s.now } ∧
    ((s.step (.order id .cancel)).step (.call id)).calls[s.calls.length]?.map CallStage.phase =
      some p
  /-- If it has to wait, it never connects, and ends when it is to wait. -/
  cutShort : s.reopener.policy.enabled = true → e.attempts < s.reopener.policy.maxAttempts →
    0 < s.reopener.policy.delayMs → ∀ xs, (∀ x ∈ xs, x.resets id = false) →
    let c := s.step (.order id .cancel)
    let w := c.record id { e with cancelled := true } xs
    ∃ p, (c.run (.call id :: xs)).Meets (s.brief id e).spoilt s.calls.length w p ∧
      w.off = some s.now ∧ (s.brief id e).spoilt.CutShort w.turns p
  /-- It is over when the session is armed before the drop. -/
  undone : ∀ o, o = .reset ∨ (∃ params, o = .register params) →
    ∃ k, ((s.step (.order id .cancel)).step (.order id o)).reopener.current id = some k ∧
      k.cancelled = false

/-- To call off a session cancels the token of its entry. -/
theorem entry?_cancel (he : s.reopener.entry? id = some e) :
    Reopener.entry? (s.reopener.cancel id) id = some { e with cancelled := true } := by
  obtain ⟨hlookup, hentry⟩ := entryAt_of_entry he
  have hcancel : s.reopener.cancel id =
      s.reopener.update e.number fun e => { e with cancelled := true } := by
    simp only [Reopener.cancel, onEntry, hlookup]
  have hregistered : (s.reopener.cancel id).registered.lookup id = some e.number := by
    rw [hcancel]
    exact hlookup
  rw [entry?_eq, hregistered, hcancel, Option.bind_some]
  exact entryAt_update_self (fun _ => rfl) hentry

theorem brief_cancel (s : Supervision) (id : SessionId) (e : ReopenEntry) :
    (s.step (.order id .cancel)).brief id { e with cancelled := true } =
      (s.brief id e).spoilt := by
  have hpolicy : (s.reopener.cancel id).policy = s.reopener.policy := by
    unfold Reopener.cancel onEntry
    split <;> rfl
  simp only [brief, spoilt, CallBrief.mk.injEq, true_and]
  exact ⟨rfl, hpolicy⟩

/-- The next drop waits for an attempt that it does not make. -/
theorem Tidy.cutShort (h : s.Tidy) (he : s.reopener.entry? id = some e)
    (hidle : e.reconnecting = false) (hcancelled : e.cancelled = true)
    (henabled : s.reopener.policy.enabled = true)
    (hleft : e.attempts < s.reopener.policy.maxAttempts) (hdelay : 0 < s.reopener.policy.delayMs)
    (xs : List Event) (hxs : ∀ x ∈ xs, x.resets id = false) :
    ∃ p, (s.run (.call id :: xs)).Meets (s.brief id e) s.calls.length (s.record id e xs) p ∧
      (s.record id e xs).off = some s.now ∧ (s.brief id e).CutShort (s.record id e xs).turns p := by
  obtain ⟨p, hcourse, hs⟩ := h.course_of_call he xs hxs
  have hoff : (s.brief id e).off = some s.now := by
    simp [CallBrief.off, brief, hcancelled]
  obtain ⟨hrecord, hturns⟩ := off_of_watch (n := s.calls.length) (s := s)
    (w := ⟨(s.brief id e).off, []⟩) hoff (by simp) (.call id :: xs)
  exact ⟨p, (h.run _).meets hs hcourse, hrecord,
    hcourse.cutShort hturns hidle henabled hleft hdelay⟩

theorem Tidy.spoils (h : s.Tidy) (he : s.reopener.entry? id = some e)
    (hidle : e.reconnecting = false) : s.Spoils id e := by
  have hstep : (s.step (.order id .cancel)).reopener = s.reopener.cancel id := rfl
  have hentry : Reopener.entry? (s.step (.order id .cancel)).reopener id =
      some { e with cancelled := true } := entry?_cancel he
  have hbrief := brief_cancel s id e
  have hpolicy : (s.step (.order id .cancel)).reopener.policy = s.reopener.policy :=
    congrArg CallBrief.policy hbrief
  refine ⟨hentry, ?_, fun henabled hleft hdelay xs hxs => ?_, fun o ho => ?_⟩
  · obtain ⟨t, p, hopens⟩ := (s.brief id e).exists_opens
    obtain ⟨hturn, hs⟩ := opens_of_drop he hopens
    obtain ⟨hturn', hs'⟩ := opens_of_drop hentry (hbrief ▸ hopens.spoilt)
    rw [hbrief] at hturn'
    exact ⟨t, p, hturn, phase_of_stands hs, hturn', phase_of_stands hs'⟩
  · have hcut := (h.step (.order id .cancel)).cutShort hentry hidle rfl (hpolicy ▸ henabled)
      (hpolicy ▸ hleft) (hpolicy ▸ hdelay) xs hxs
    rw [hbrief] at hcut
    exact hcut
  · obtain rfl | ⟨params, rfl⟩ := ho
    · have hcurrent : (s.reopener.cancel id).current id = some ({ e with cancelled := true } :
          ReopenEntry).standing := by
        obtain ⟨hlookup, hat⟩ := entryAt_of_entry hentry
        simp only [current, Reopener.standing, hstep ▸ hlookup, hstep ▸ hat, Option.bind_some,
          Option.map_some]
      exact ⟨_, (current_reset _).trans (congrArg _ hcurrent), rfl⟩
    · exact ⟨{}, current_register (h.step (.order id .cancel)).sound params, rfl⟩

/-- Calling off a session for which no loop runs, after whatever has been asked before. -/
theorem idle_cancel_after_events (policy : ReopenPolicy) (es : List Event) (id : SessionId)
    (e : ReopenEntry) : let s := (start policy).run es
    s.reopener.entry? id = some e → e.reconnecting = false → s.Spoils id e :=
  fun he hidle => ((Tidy.start policy).run es).spoils he hidle

/-- A line that was called off while it was open, and then drops. -/
theorem idle_cancel_of_usbPort :
    let s := (start {}).run [.order ⟨1⟩ (.register usbPort)]
    ∃ e, s.reopener.entry? ⟨1⟩ = some e ∧ e.reconnecting = false ∧ s.Spoils ⟨1⟩ e := by
  intro s
  have he : s.reopener.entry? ⟨1⟩ = some { number := 0, params := usbPort } := by decide
  exact ⟨_, he, rfl, idle_cancel_after_events {} [.order ⟨1⟩ (.register usbPort)] ⟨1⟩ _ he rfl⟩

/-- The line opens again at the first attempt, but not after it was called off while no loop ran:
then no drop opens it, in whatever order things happen, and one attempt is used up. -/
theorem drop_spoilt_by_idle_cancel :
    let s := (start { maxAttempts := 1, delayMs := 5 }).run [.order ⟨1⟩ (.register usbPort)]
    let c := s.step (.order ⟨1⟩ .cancel)
    let alone := s.run [.call ⟨1⟩, .pass 5, .elapse 0, .answer 0 none]
    let after := c.run [.call ⟨1⟩, .callOff 0]
    s.loops = [] ∧ s.reopener.isRegistered ⟨1⟩ = true ∧
      alone.calls[0]?.map CallStage.phase = some (.ended (.reconnected 1)) ∧
      alone.reopener.attempts ⟨1⟩ = 0 ∧
      after.calls[0]?.map CallStage.phase = some (.ended .cancelled) ∧
      after.reopener.attempts ⟨1⟩ = 1 ∧
      ∀ xs, (∀ x ∈ xs, x.resets ⟨1⟩ = false) →
        (c.run (.call ⟨1⟩ :: xs)).calls[0]?.map CallStage.phase ≠
          some (.ended (.reconnected 1)) := by
  intro s c alone after
  refine ⟨by decide, by decide, by rfl, by decide, by rfl, by decide, fun xs hxs hended => ?_⟩
  have hc : c.Tidy := ((Tidy.start { maxAttempts := 1, delayMs := 5 }).run _).step _
  have he : c.reopener.entry? ⟨1⟩ =
      some { number := 0, params := usbPort, cancelled := true } := by decide
  obtain ⟨p, hmeets, -, t, -, ⟨-, rfl⟩ | ⟨-, rfl⟩⟩ := hc.cutShort he rfl rfl (by decide)
    (by decide) (by decide) xs hxs
  · cases Option.some.inj (hended.symm.trans hmeets.phase)
  · cases Option.some.inj (hended.symm.trans hmeets.phase)

end Supervision

end Multiplexer
