import Multiplexer.Proofs.Reopen.Rounds

/-!
# Exclusion of loops

At most one loop runs on an entry, and the flag of the entry says whether one
does. A loop whose session was registered anew has nothing to do with the new
entry and does not try again.
-/

namespace Multiplexer

open Reopener

namespace Supervision

/-- At most one loop at a time for what a session is registered with. -/
structure Exclusive (s : Supervision) : Prop where
  single : (s.loops.map ReopenLoop.entry).Nodup
  refused : ∀ id, ∀ l ∈ s.loops, s.reopener.registered.lookup id = some l.entry →
    s.round? (.call id) =
      some ⟨s.calls.length, id, some l.entry, s.reopener, [], .ended .alreadyReconnecting⟩
  reconnecting : ∀ id, s.reopener.isReconnecting id = true ↔
    ∃ l ∈ s.loops, s.reopener.registered.lookup id = some l.entry
  renewed : ∀ id params, (s.step (.order id (.register params))).reopener.registered.lookup id =
    some s.reopener.nextNumber
  /-- A loop from before a registration leaves the new entry alone, and does not try any more
  unless its delay is over just then. -/
  replaced : ∀ n l, s.loopOf n = some l → ∀ params es,
    let s' := (s.step (.order l.session (.register params))).run es
    ∀ e q, s'.round? e = some q → q.call = n →
      q.reopener.entryAt s.reopener.nextNumber = s'.reopener.entryAt s.reopener.nextNumber ∧
      ∀ l', q.stage = .trying l' → s'.now = s.now ∧ s.calls[n]? = some (.delayed l s.now)

variable {s : Supervision} {e : Event} {q : Round}

/-- The loop of a call runs on an entry that no session has any more. A delay that it is in is
from the time when the session lost the entry. -/
structure Replaced (s : Supervision) (n entry : Nat) (stage : CallStage) (since : Nat) : Prop where
  known : n < s.calls.length
  lost : ∀ id, s.reopener.registered.lookup id ≠ some entry
  old : entry < s.reopener.nextNumber
  runs : ∀ l, s.loopOf n = some l → l.entry = entry
  delayed : ∀ l due, s.calls[n]? = some (.delayed l due) → stage = .delayed l due ∧ s.now = since

/-- A loop whose entry no session has is called off. -/
theorem Tidy.isCancelled_of_lost (h : s.Tidy) {l : ReopenLoop} (hl : l ∈ s.loops)
    (hlost : ∀ id, s.reopener.registered.lookup id ≠ some l.entry) :
    s.reopener.isCancelled l = true := by
  obtain ⟨k, hk, -⟩ := h.sound.running l hl
  rw [isCancelled_eq, hk]
  simp [h.sound.orphan l.entry k hk hlost]

/-- A round changes no registration. -/
theorem Tidy.kept_of_round (h : s.Tidy) (hq : s.round? e = some q) :
    q.reopener.registered = s.reopener.registered ∧
      q.reopener.nextNumber = s.reopener.nextNumber := by
  have hrounds := rounds_of_round? hq
  obtain hunknown | ⟨n, k, hentry, -⟩ := h.resolves hrounds
  · rw [hunknown.reopener]
    exact ⟨rfl, rfl⟩
  · exact ⟨(hrounds.onlyAt hentry).registered, (hrounds.onlyAt hentry).nextNumber⟩

/-- A later round of a call is one of its loop. -/
theorem Rounds.exists_loop (hq : s.Rounds e q) (hlt : q.call < s.calls.length) :
    ∃ l, s.loopOf q.call = some l ∧ q.entry = some l.entry := by
  cases hq with
  | arrives => exact absurd hlt (Nat.lt_irrefl _)
  | tries n l due hn | calledOff n l due hn | succeeds n l hn | refused n l e hn =>
    exact ⟨l, loopOf_eq hn, rfl⟩

/-- A loop that was called off does no more than make the attempt that its delay was for. -/
theorem Rounds.of_isCancelled (hq : s.Rounds e q) {l : ReopenLoop} (hl : s.loopOf q.call = some l)
    (hoff : s.reopener.isCancelled l = true) :
    q.stage = .trying l ∧ (∃ due ≤ s.now, s.calls[q.call]? = some (.delayed l due)) ∨
      q.stage.loop? = none := by
  cases hq with
  | arrives => simp [roundOf, loopOf] at hl
  | tries n l' due hn hdue =>
    obtain rfl : l' = l := Option.some.inj ((loopOf_eq hn).symm.trans hl)
    exact .inl ⟨rfl, due, hdue, hn⟩
  | calledOff | succeeds => exact .inr rfl
  | refused n l' e hn =>
    obtain rfl : l' = l := Option.some.inj ((loopOf_eq hn).symm.trans hl)
    refine .inr ?_
    simp only [roundOf, loop?_stage, Reopener.refused, hoff, Bool.true_or, if_true]
    rfl

namespace Replaced

variable {n entry since : Nat} {stage : CallStage}

/-- A loop that was replaced is called off. -/
theorem isCancelled (hr : s.Replaced n entry stage since) (h : s.Tidy) {l : ReopenLoop}
    (hl : s.loopOf n = some l) : s.reopener.isCancelled l = true :=
  h.isCancelled_of_lost (mem_loops hl) (hr.runs l hl ▸ hr.lost)

/-- All that is left to such a loop is to end, or to make the attempt that is due. -/
theorem stage_of_round (hr : s.Replaced n entry stage since) (h : s.Tidy) (hq : s.Rounds e q)
    (hn : q.call = n) : (∀ l, q.stage.loop? = some l → l.entry = entry) ∧
      ∀ l due, q.stage ≠ .delayed l due := by
  subst hn
  obtain ⟨l, hl, -⟩ := hq.exists_loop hr.known
  obtain ⟨hstage, -⟩ | hstage := hq.of_isCancelled hl (hr.isCancelled h hl)
  · rw [hstage]
    refine ⟨fun l' hl' => ?_, fun l' due => by simp⟩
    obtain rfl : l = l' := Option.some.inj hl'
    exact hr.runs l hl
  · refine ⟨fun l' hl' => by simp [hstage] at hl', fun l' due hdelayed => ?_⟩
    simp [hdelayed, CallStage.loop?] at hstage

/-- A round of any call leaves the replaced loop apart. -/
theorem round (hr : s.Replaced n entry stage since) (h : s.Tidy) (hq : s.round? e = some q) :
    (s.step e).Replaced n entry stage since := by
  obtain ⟨hregistered, hnumber⟩ := h.kept_of_round hq
  have hrounds := rounds_of_round? hq
  have hget := getElem?_put hrounds.call_le q.stage n
  rw [step_round hq]
  refine ⟨Nat.lt_of_lt_of_le hr.known le_length_put, by simpa only [hregistered] using hr.lost,
    by simpa only [hnumber] using hr.old, fun l hl => ?_, fun l due hl => ?_⟩
  · simp only [loopOf, hget] at hl
    by_cases hn : n = q.call
    · rw [if_pos hn] at hl
      exact (hr.stage_of_round h hrounds hn.symm).1 l hl
    · rw [if_neg hn] at hl
      exact hr.runs l hl
  · simp only [hget] at hl
    by_cases hn : n = q.call
    · rw [if_pos hn] at hl
      exact absurd (Option.some.inj hl) ((hr.stage_of_round h hrounds hn.symm).2 l due)
    · rw [if_neg hn] at hl
      exact hr.delayed l due hl

/-- Every event leaves the replaced loop apart. -/
theorem step (hr : s.Replaced n entry stage since) (h : s.Tidy) (e : Event) :
    (s.step e).Replaced n entry stage since := by
  cases hq : s.round? e with
  | some q => exact hr.round h hq
  | none =>
    cases e with
    | order i o =>
      have ho := Exchange.ordered_carryOut h.sound i o
      have hstep : s.step (.order i o) = { s with reopener := o.carryOut i s.reopener } := rfl
      rw [hstep]
      refine ⟨hr.known, fun j hj => ?_, Nat.lt_of_lt_of_le hr.old ho.bound, hr.runs, hr.delayed⟩
      by_cases hji : j = i
      · subst hji
        obtain hj | ⟨hnew, -⟩ := ho.fresh entry hj
        · exact hr.lost j hj
        · exact Nat.ne_of_lt hr.old hnew
      · rw [ho.lookup j hji] at hj
        exact hr.lost j hj
    | call => simp [round?] at hq
    | policy p => exact ⟨hr.known, hr.lost, hr.old, hr.runs, hr.delayed⟩
    | elapse | callOff | answer =>
      unfold Supervision.step
      rw [hq]
      exact hr
    | pass ms =>
      unfold Supervision.step
      simp only [round?]
      split
      · next hidle =>
        refine ⟨hr.known, hr.lost, hr.old, hr.runs, fun l due hn => ?_⟩
        -- Time stands still until the loop has seen that it was called off.
        have hcall := List.all_eq_true.1 hidle _ (List.mem_of_getElem? hn)
        simp [idles, hr.isCancelled h (loopOf_eq hn)] at hcall
      · exact hr

/-- A replaced loop stays apart. -/
theorem run (hr : s.Replaced n entry stage since) (h : s.Tidy) (es : List Event) :
    (s.run es).Replaced n entry stage since := by
  induction es generalizing s with
  | nil => exact hr
  | cons e es ih => exact ih (hr.step h e) (h.step e)

end Replaced

/-- A session that is registered anew loses the entry that a loop runs on. -/
theorem Tidy.replaced (h : s.Tidy) {n : Nat} {l : ReopenLoop} (hl : s.loopOf n = some l)
    (params : SerialParams) {stage : CallStage} (hn : s.calls[n]? = some stage) :
    (s.step (.order l.session (.register params))).Replaced n l.entry stage s.now := by
  have ho := Exchange.ordered_carryOut h.sound l.session (.register params)
  obtain ⟨k, hk, -⟩ := h.sound.running l (mem_loops hl)
  have hold := h.sound.bound l.entry k hk
  obtain ⟨hlt, -⟩ := List.getElem?_eq_some_iff.1 hn
  refine ⟨hlt, fun j hj => ?_, Nat.lt_of_lt_of_le hold ho.bound, fun l' hl' => ?_,
    fun l' due hn' => ⟨Option.some.inj (hn.symm.trans hn'), rfl⟩⟩
  · by_cases hji : j = l.session
    · subst hji
      have hnew := Ordered.lookup_register (r := s.reopener) (i := l.session) params
      exact Nat.ne_of_lt hold (Option.some.inj (hj.symm.trans hnew))
    · rw [show (s.step (.order l.session (.register params))).reopener.registered.lookup j =
        s.reopener.registered.lookup j from ho.lookup j hji] at hj
      exact hji (h.sound.owner l (mem_loops hl) j hj).symm
  · obtain rfl : l = l' := Option.some.inj (hl.symm.trans hl')
    rfl

/-- A loop whose session is registered anew never touches the new entry. -/
theorem Tidy.replaced_run (h : s.Tidy) {n : Nat} {l : ReopenLoop} (hl : s.loopOf n = some l)
    (params : SerialParams) (es : List Event) :
    let s' := (s.step (.order l.session (.register params))).run es
    ∀ e q, s'.round? e = some q → q.call = n →
      q.reopener.entryAt s.reopener.nextNumber = s'.reopener.entryAt s.reopener.nextNumber ∧
      ∀ l', q.stage = .trying l' → s'.now = s.now ∧ s.calls[n]? = some (.delayed l s.now) := by
  intro s' e q hq hcall
  obtain ⟨stage, hn, -⟩ := Option.bind_eq_some_iff.1 hl
  have h' : s'.Tidy := (h.step _).run es
  have hr : s'.Replaced n l.entry stage s.now := (h.replaced hl params hn).run (h.step _) es
  have hrounds := rounds_of_round? hq
  subst hcall
  obtain ⟨l₁, hl₁, hentry⟩ := hrounds.exists_loop hr.known
  obtain ⟨k, hk, -⟩ := h.sound.running l (mem_loops hl)
  have hold := h.sound.bound l.entry k hk
  refine ⟨(hrounds.onlyAt hentry).entryAt _ ?_, fun l' hstage => ?_⟩
  · rw [hr.runs l₁ hl₁]
    exact Nat.ne_of_gt hold
  · obtain ⟨-, due, hdue, hdelayed⟩ | hended := hrounds.of_isCancelled hl₁ (hr.isCancelled h' hl₁)
    · obtain ⟨rfl, hnow⟩ := hr.delayed l₁ due hdelayed
      obtain rfl : l₁ = l := Option.some.inj ((loopOf_eq hn).symm.trans hl)
      have hahead := h.ahead l₁ due (List.mem_of_getElem? hn)
      obtain rfl : due = s.now := by omega
      exact ⟨hnow, hn⟩
    · simp [hstage, CallStage.loop?] at hended

/-- A drop of a session whose loop runs finds it running. -/
theorem Tidy.drop_running (h : s.Tidy) {id : SessionId} {l : ReopenLoop} (hl : l ∈ s.loops)
    (hlookup : s.reopener.registered.lookup id = some l.entry) :
    s.reopener.drop id = (s.reopener, [], .ended .alreadyReconnecting) := by
  obtain ⟨k, hk, hrunning, -⟩ := h.sound.running l hl
  obtain ⟨hnone, -⟩ | ⟨n, k', hn, hk', ⟨-, hdrop⟩ | ⟨hidle, -⟩⟩ := s.reopener.drop_cases id
  · simp [current, hlookup, hk] at hnone
  · exact hdrop
  · obtain rfl : l.entry = n := Option.some.inj (hlookup.symm.trans hn)
    obtain rfl : k = k' := Option.some.inj (hk.symm.trans hk')
    rw [hidle] at hrunning
    cases hrunning

/-- A session is being reconnected when its entry says so. -/
theorem isReconnecting_eq (r : Reopener) (id : SessionId) :
    r.isReconnecting id = (r.current id).any Standing.reconnecting := by
  unfold isReconnecting current standing
  rw [entry?_eq]
  cases r.registered.lookup id with
  | none => rfl
  | some n => cases hentry : r.entryAt n <;> simp [hentry, ReopenEntry.standing]

/-- A session is being reconnected exactly when a loop runs on its entry. -/
theorem Tidy.isReconnecting_iff (h : s.Tidy) (id : SessionId) :
    s.reopener.isReconnecting id = true ↔
      ∃ l ∈ s.loops, s.reopener.registered.lookup id = some l.entry := by
  rw [isReconnecting_eq, Option.any_eq_true]
  constructor
  · rintro ⟨k, hk, hrunning⟩
    obtain ⟨n, hlookup, hk⟩ := Option.bind_eq_some_iff.1 hk
    obtain ⟨l, hl, rfl⟩ := h.sound.busy n k hk hrunning
    exact ⟨l, hl, hlookup⟩
  · rintro ⟨l, hl, hlookup⟩
    obtain ⟨k, hk, hrunning, -⟩ := h.sound.running l hl
    exact ⟨k, by rw [current, hlookup]; exact hk, hrunning⟩

theorem Tidy.exclusive (h : s.Tidy) : s.Exclusive where
  single := h.sound.apart
  refused id l hl hlookup := by
    simp only [round?, roundOf, h.drop_running hl hlookup, hlookup]
    rfl
  reconnecting := h.isReconnecting_iff
  renewed id params := Ordered.lookup_register params
  replaced n l hl params es := h.replaced_run hl params es

/-- Whatever is asked of an empty reopener, loops stay apart. -/
theorem exclusive_after_events (p : ReopenPolicy) (es : List Event) :
    ((start p).run es).Exclusive := ((Tidy.start p).run es).exclusive

def usbPort : SerialParams := { device := "/dev/ttyUSB0", baudRate := 9600 }

/-- A session that is registered anew while a loop for it waits: the loop ends, and the new entry
is as it was. -/
theorem ended_by_renewal :
    let s := (start {}).run [.order ⟨1⟩ (.register usbPort), .call ⟨1⟩]
    let s' := s.step (.order ⟨1⟩ (.register usbPort))
    ∃ l q, s.loopOf 0 = some l ∧ s'.round? (.callOff 0) = some q ∧ q.call = 0 ∧
      q.reopener.entryAt 1 = s'.reopener.entryAt 1 := by
  intro s s'
  have hs : s.Exclusive :=
    exclusive_after_events {} [.order ⟨1⟩ (.register usbPort), .call ⟨1⟩]
  obtain ⟨l, hl⟩ : ∃ l, s.loopOf 0 = some l := Option.isSome_iff_exists.1 (by decide)
  obtain ⟨q, hq⟩ : ∃ q, s'.round? (.callOff 0) = some q := Option.isSome_iff_exists.1 (by decide)
  have hsession : l.session = ⟨1⟩ := by
    have hof : (s.loopOf 0).map ReopenLoop.session = some ⟨1⟩ := by decide
    simpa [hl] using hof
  have hcall : q.call = 0 := by
    have hof : (s'.round? (.callOff 0)).map Round.call = some 0 := by decide
    simpa [hq] using hof
  have hrenewed : s' = (s.step (.order l.session (.register usbPort))).run [] := by
    rw [hsession]
    rfl
  have hkept := (hs.replaced 0 l hl usbPort [] (.callOff 0) q (hrenewed ▸ hq) hcall).1
  rw [← hrenewed] at hkept
  exact ⟨l, q, hl, hq, hcall, hkept⟩

end Supervision

end Multiplexer
