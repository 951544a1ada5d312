import Multiplexer.Proofs.Reopen.Ledger

/-!
# The course of a call

What a call for a dropped session does in each of its turns: what it tells, what
it connects with, where it goes on from, and how it leaves the entry. Every call
takes such a course, whatever happens meanwhile, unless the attempts of its session
are allowed again.
-/

namespace Multiplexer

open Reopener

inductive CallCue where
  | dropped
  | elapsed
  | calledOff
  | answered (error : Option ConnectError)

structure CallTurn where
  time : Nat
  cue : CallCue
  /-- Since when the call has been called off, if it has. -/
  off : Option Nat
  told : List ReopenEvent
  /-- What the call connects with, if it does. -/
  tried : Option SerialParams
  /-- The entry after the turn. -/
  attempts : Nat
  state : ReopenState

inductive CallPhase where
  | waiting (attempt since : Nat)
  | trying (attempt : Nat)
  | ended (outcome : ReopenOutcome)

structure CallBrief where
  time : Nat
  session : SessionId
  entry : ReopenEntry
  policy : ReopenPolicy

/-- The count and the state of the entry while a call goes on. -/
def CallPhase.left : CallPhase → Option (Nat × ReopenState)
  | .waiting j _ => some (j, .waiting)
  | .trying j => some (j, .attempting)
  | .ended _ => none

namespace CallBrief

def off (b : CallBrief) : Option Nat := if b.entry.cancelled then some b.time else none

inductive Opens (b : CallBrief) : CallTurn → CallPhase → Prop
  | busy : b.entry.reconnecting = true →
    Opens b ⟨b.time, .dropped, b.off, [], none, b.entry.attempts, b.entry.state⟩
      (.ended .alreadyReconnecting)
  | disabled : b.entry.reconnecting = false → b.policy.enabled = false →
    Opens b ⟨b.time, .dropped, b.off, [], none, b.entry.attempts, b.entry.state⟩
      (.ended b.entry.gaveUp)
  | spent : b.entry.reconnecting = false → b.policy.enabled = true →
    b.policy.maxAttempts ≤ b.entry.attempts →
    Opens b ⟨b.time, .dropped, b.off, b.entry.failure b.session b.entry.attempts, none,
      b.entry.attempts, .failed⟩ (.ended b.entry.gaveUp)
  | begins : b.entry.reconnecting = false → b.policy.enabled = true →
    b.entry.attempts < b.policy.maxAttempts →
    Opens b ⟨b.time, .dropped, b.off,
      [.starting b.session, .waiting b.session b.policy.delayMs (b.entry.attempts + 1)], none,
      b.entry.attempts + 1, .waiting⟩ (.waiting (b.entry.attempts + 1) b.time)

/-- A later turn of a call. The delay of a call that was called off can only be over if it is just
then. -/
inductive Goes (b : CallBrief) : CallPhase → CallTurn → CallPhase → Prop
  | tries (j since : Nat) (off : Option Nat) :
    (∀ c ∈ off, since + b.policy.delayMs ≤ max since c) →
    Goes b (.waiting j since)
      ⟨since + b.policy.delayMs, .elapsed, off, [.attempting b.session j b.policy.maxAttempts],
        some b.entry.params, j, .attempting⟩ (.trying j)
  | calledOff (j since c : Nat) : max since c ≤ since + b.policy.delayMs →
    Goes b (.waiting j since)
      ⟨max since c, .calledOff, some c, [.cancelled b.session], none, j, .cancelled⟩
      (.ended .cancelled)
  | succeeds (j t : Nat) (off : Option Nat) :
    Goes b (.trying j)
      ⟨t, .answered none, off, [.success b.session j], none, 0, .reconnected⟩
      (.ended (.reconnected j))
  | superseded (j t : Nat) (off : Option Nat) (error : ConnectError) :
    off.isSome = true ∨ error = .cancelled →
    Goes b (.trying j)
      ⟨t, .answered (some error), off, [.cancelled b.session], none, j, .cancelled⟩
      (.ended .cancelled)
  | retries (j t : Nat) (error : ConnectError) : error ≠ .cancelled → error.isTransport = true →
    j < b.policy.maxAttempts →
    Goes b (.trying j)
      ⟨t, .answered (some error), none, [.attemptFailed b.session j error.message,
        .waiting b.session b.policy.delayMs (j + 1)], none, j + 1, .waiting⟩
      (.waiting (j + 1) t)
  | fails (j t : Nat) (error : ConnectError) : error ≠ .cancelled →
    (error.isTransport = true → b.policy.maxAttempts ≤ j) →
    Goes b (.trying j)
      ⟨t, .answered (some error), none, .attemptFailed b.session j error.message ::
        b.entry.failure b.session j, none, j, .failed⟩
      (.ended b.entry.gaveUp)

/-- The turns of a call up to where it stands. -/
inductive Course (b : CallBrief) : List CallTurn → CallPhase → Prop
  | opens {t : CallTurn} {p : CallPhase} : b.Opens t p → Course b [t] p
  | goes {ts : List CallTurn} {p p' : CallPhase} {t : CallTurn} : Course b ts p → b.Goes p t p' →
    Course b (ts ++ [t]) p'

end CallBrief

def ReopenEvent.attempting? : ReopenEvent → Option Nat
  | .attempting _ j _ => some j
  | _ => none

/-- The attempts that a turn tells the beginning of. -/
def CallTurn.begun (t : CallTurn) : List Nat := t.told.filterMap ReopenEvent.attempting?

namespace CallBrief

variable {b : CallBrief} {ts : List CallTurn} {p : CallPhase}

/-- The attempts begun are those after the ones used, one by one and as long as some are left. Each
of them connects once, with the parameters of the entry. -/
def InOrder (b : CallBrief) (ts : List CallTurn) (m : Nat) : Prop :=
  ts.flatMap CallTurn.begun = List.range' (b.entry.attempts + 1) m ∧
    ts.filterMap CallTurn.tried = List.replicate m b.entry.params

/-- How many attempts have been begun, of a call that goes on. -/
def Begun (b : CallBrief) (m : Nat) : CallPhase → Prop
  | .waiting j _ => j = b.entry.attempts + m + 1 ∧ j ≤ b.policy.maxAttempts
  | .trying j => j = b.entry.attempts + m ∧ j ≤ b.policy.maxAttempts
  | .ended _ => m = 0 ∨ b.entry.attempts + m ≤ b.policy.maxAttempts

/-- Every call has a first turn. -/
theorem exists_opens (b : CallBrief) : ∃ t p, b.Opens t p := by
  cases hreconnecting : b.entry.reconnecting with
  | true => exact ⟨_, _, .busy hreconnecting⟩
  | false =>
    cases henabled : b.policy.enabled with
    | false => exact ⟨_, _, .disabled hreconnecting henabled⟩
    | true =>
      obtain hleft | hspent := Nat.lt_or_ge b.entry.attempts b.policy.maxAttempts
      · exact ⟨_, _, .begins hreconnecting henabled hleft⟩
      · exact ⟨_, _, .spent hreconnecting henabled hspent⟩

theorem begun_failure (e : ReopenEntry) (id : SessionId) (used : Nat) :
    (e.failure id used).filterMap ReopenEvent.attempting? = [] := by
  unfold ReopenEntry.failure
  split <;> rfl

/-- The first turn begins no attempt. -/
theorem Opens.inOrder {t : CallTurn} (h : b.Opens t p) : b.InOrder [t] 0 ∧ b.Begun 0 p := by
  cases h with
  | busy | disabled => exact ⟨⟨rfl, rfl⟩, .inl rfl⟩
  | spent =>
    refine ⟨⟨?_, rfl⟩, .inl rfl⟩
    simp [CallTurn.begun, begun_failure]
  | begins _ _ hleft => exact ⟨⟨rfl, rfl⟩, rfl, hleft⟩

/-- The attempts of a course are begun in order and within the limit. -/
theorem Course.inOrder (h : b.Course ts p) : ∃ m, b.InOrder ts m ∧ b.Begun m p := by
  induction h with
  | opens h => exact ⟨0, h.inOrder⟩
  | @goes ts p p' t _ hgoes ih =>
    obtain ⟨m, ⟨hbegun, htried⟩, hm⟩ := ih
    -- Only a turn that connects begins an attempt.
    have hquiet : t.begun = [] → t.tried = none → b.InOrder (ts ++ [t]) m := by
      intro hnone hnot
      simp [InOrder, hbegun, htried, hnone, hnot]
    cases hgoes with
    | tries j since off =>
      obtain ⟨rfl, hle⟩ := hm
      refine ⟨m + 1, ⟨?_, ?_⟩, rfl, hle⟩
      · simp [hbegun, CallTurn.begun, ReopenEvent.attempting?, List.range'_concat]
        omega
      · simp [htried, List.replicate_succ']
    | calledOff j since c hle =>
      refine ⟨m, hquiet rfl rfl, ?_⟩
      obtain ⟨rfl, hmax⟩ := hm
      exact .inr (by omega)
    | succeeds | superseded =>
      refine ⟨m, hquiet rfl rfl, ?_⟩
      obtain ⟨rfl, hmax⟩ := hm
      exact .inr hmax
    | retries j t error _ _ hleft =>
      refine ⟨m, hquiet rfl rfl, ?_⟩
      obtain ⟨rfl, -⟩ := hm
      exact ⟨rfl, hleft⟩
    | fails j t error =>
      refine ⟨m, hquiet ?_ rfl, ?_⟩
      · exact begun_failure b.entry b.session j
      · obtain ⟨rfl, hmax⟩ := hm
        exact .inr hmax

end CallBrief

def CallStage.phase : CallStage → CallPhase
  | .delayed l due => .waiting l.attempt (due - l.policy.delayMs)
  | .trying l => .trying l.attempt
  | .ended o => .ended o

namespace Supervision

/-- Whether an event allows a session all attempts again. -/
def Event.resets (id : SessionId) : Event → Bool
  | .order i .reset => i == id
  | _ => false

def Event.cue : Event → CallCue
  | .elapse _ => .elapsed
  | .callOff _ => .calledOff
  | .answer _ error => .answered error
  | _ => .dropped

def tried (s : Supervision) : Event → Option SerialParams
  | .elapse n => (s.loopOf n).bind fun l => (s.reopener.attempt l).2.2
  | _ => none

/-- The turn of a call that an event brings about, if any. -/
def turn? (s : Supervision) (n : Nat) (off : Option Nat) (x : Event) : Option CallTurn := do
  let q ← s.round? x
  let e ← q.entry.bind q.reopener.entryAt
  if q.call = n then
    some ⟨s.now, x.cue, off, q.told, s.tried x, e.attempts, e.state⟩
  else none

/-- Since when a call for a session has been called off, after an event. -/
def offAfter (s : Supervision) (id : SessionId) (off : Option Nat) : Event → Option Nat
  | .order i o => if i = id ∧ o.callsOff = true then off.or (some s.now) else off
  | _ => off

structure CallRecord where
  off : Option Nat
  turns : List CallTurn := []

/-- What is seen of a call in the course of a run. -/
def watch (n : Nat) (id : SessionId) : Supervision → CallRecord → List Event → CallRecord
  | _, w, [] => w
  | s, w, x :: xs => watch n id (s.step x)
      ⟨s.offAfter id w.off x, w.turns ++ (s.turn? n w.off x).toList⟩ xs

def brief (s : Supervision) (id : SessionId) (e : ReopenEntry) : CallBrief :=
  ⟨s.now, id, e, s.reopener.policy⟩

/-- A call has done what it has to, and goes on when it has to. -/
structure Meets (s : Supervision) (b : CallBrief) (n : Nat) (w : CallRecord) (p : CallPhase) :
    Prop where
  course : b.Course w.turns p
  inOrder : ∃ m, b.InOrder w.turns m ∧ (m = 0 ∨ b.entry.attempts + m ≤ b.policy.maxAttempts)
  phase : s.calls[n]?.map CallStage.phase = some p
  /-- While a call goes on, nobody else touches the count and the state. -/
  kept : ∀ x ∈ p.left,
    (s.reopener.entryAt b.entry.number).map (fun e => (e.attempts, e.state)) = some x
  elapses : ∀ j since, p = .waiting j since → s.now ≤ since + b.policy.delayMs ∧
    (s.now = since + b.policy.delayMs → (s.turn? n w.off (.elapse n)).isSome = true)
  /-- A call that was called off is not kept waiting. -/
  stops : ∀ j since, p = .waiting j since → ∀ c ∈ w.off, s.now = max since c ∧
    (s.turn? n w.off (.callOff n)).isSome = true
  answers : ∀ j, p = .trying j → ∀ error, (s.turn? n w.off (.answer n error)).isSome = true

end Supervision

namespace CallBrief

variable (b : CallBrief)

def loop (j : Nat) : ReopenLoop := ⟨b.session, b.entry.number, b.entry.token, b.policy, j⟩

def held (off : Option Nat) (x : Nat × ReopenState) : ReopenEntry :=
  { b.entry with attempts := x.1, state := x.2, reconnecting := true, cancelled := off.isSome }

inductive Stands (s : Supervision) (n : Nat) (off : Option Nat) : CallPhase → Prop
  | waiting (j since : Nat) :
    s.calls[n]? = some (.delayed (b.loop j) (since + b.policy.delayMs)) →
    s.reopener.entryAt b.entry.number = some (b.held off (j, .waiting)) → since ≤ s.now →
    (∀ c ∈ off, s.now = max since c) → Stands s n off (.waiting j since)
  | trying (j : Nat) : s.calls[n]? = some (.trying (b.loop j)) →
    s.reopener.entryAt b.entry.number = some (b.held off (j, .attempting)) →
    Stands s n off (.trying j)
  | ended (o : ReopenOutcome) : s.calls[n]? = some (.ended o) → Stands s n off (.ended o)

end CallBrief

namespace Supervision

open CallBrief

variable {s : Supervision} {b : CallBrief} {n : Nat} {off : Option Nat} {x : Event} {q : Round}
  {p : CallPhase} {l : ReopenLoop}

/-- A loop is called off exactly when its call was. -/
theorem isCancelled_held {y : Nat × ReopenState}
    (he : s.reopener.entryAt b.entry.number = some (b.held off y)) (j : Nat) :
    s.reopener.isCancelled (b.loop j) = off.isSome := by
  have hstanding : s.reopener.standing (b.loop j).entry = some (b.held off y).standing := by
    simp only [Reopener.standing, loop, he, Option.map_some]
  rw [isCancelled_eq, hstanding]
  simp [ReopenEntry.standing, held, loop]

/-- A call stands where its stage says. -/
theorem phase_of_stands (hs : b.Stands s n off p) : s.calls[n]?.map CallStage.phase = some p := by
  cases hs with
  | waiting j since hn => simp [hn, CallStage.phase, loop]
  | trying j hn | ended o hn => simp [hn, CallStage.phase, loop]

/-- A turn is seen with what its round tells and leaves. -/
theorem turn?_of_round (hq : s.round? x = some q) {e : ReopenEntry} {m : Nat}
    (hm : q.entry = some m) (he : q.reopener.entryAt m = some e) : s.turn? q.call off x =
      some ⟨s.now, x.cue, off, q.told, s.tried x, e.attempts, e.state⟩ := by
  simp only [turn?, hq, hm, he, Option.bind_eq_bind, Option.bind_some, if_true]

/-- A round of another call is no turn. -/
theorem turn?_of_other (hq : ∀ q ∈ s.round? x, q.call ≠ n) : s.turn? n off x = none := by
  unfold turn?
  cases hround : s.round? x with
  | none => rfl
  | some q =>
    have hne := hq q hround
    simp [hne]

/-- A round that is not one of the call leaves it where it stands. -/
theorem Tidy.stands_round (h : s.Tidy) (hs : b.Stands s n off p) (hq : s.Rounds x q)
    (hne : q.call ≠ n) :
    b.Stands { s with reopener := q.reopener, calls := put s.calls q.call q.stage } n off p := by
  have hcalls := getElem?_put hq.call_le q.stage n
  rw [if_neg (Ne.symm hne)] at hcalls
  cases hs with
  | waiting j since hn he hsince hoff =>
    exact .waiting j since (hcalls.trans hn)
      ((h.entryAt_round hq (loopOf_eq hn) hne).trans he) hsince hoff
  | trying j hn he =>
    exact .trying j (hcalls.trans hn) ((h.entryAt_round hq (loopOf_eq hn) hne).trans he)
  | ended o hn => exact .ended o (hcalls.trans hn)

/-- An order other than a reset only calls off. -/
theorem Tidy.held_order (h : s.Tidy) {j : Nat} (hl : s.loopOf n = some (b.loop j))
    {y : Nat × ReopenState} (he : s.reopener.entryAt b.entry.number = some (b.held off y))
    {i : SessionId} {o : Order} (ho : (Event.order i o).resets b.session = false) :
    (o.carryOut i s.reopener).entryAt b.entry.number =
      some (b.held (s.offAfter b.session off (.order i o)) y) := by
  have howner : s.reopener.registered.lookup i = some b.entry.number → b.session = i :=
    h.sound.owner _ (mem_loops hl) i
  rw [entryAt_carryOut he fun hlookup => by
    cases o with
    | reset => simp [Event.resets, howner hlookup] at ho
    | register | unregister | cancel => rfl]
  by_cases hi : i = b.session ∧ o.callsOff = true
  · have hafter : (s.offAfter b.session off (.order i o)).isSome = true := by
      simp only [offAfter, if_pos hi]
      cases off <;> rfl
    by_cases hlookup : s.reopener.registered.lookup i = some b.entry.number
    · simp [hlookup, held, hafter]
    · -- The session has lost the entry before, and the loop was called off then.
      have hoff : off.isSome = true := by
        rw [← isCancelled_held he j]
        by_contra hon
        exact hlookup (hi.1 ▸ h.lookup_of_call (mem_loops hl) (by simpa using hon))
      simp [hlookup, held, hafter, hoff]
  · have hlookup : s.reopener.registered.lookup i ≠ some b.entry.number := by
      intro hlookup
      obtain rfl := howner hlookup
      cases o with
      | reset => simp [Event.resets] at ho
      | register | unregister | cancel => exact hi ⟨rfl, rfl⟩
    simp only [offAfter, if_neg hi, if_neg hlookup]

/-- What calls off a call stops the clock for it. -/
theorem now_offAfter {since : Nat} (hsince : since ≤ s.now) (hoff : ∀ c ∈ off, s.now = max since c)
    (id : SessionId) (x : Event) : ∀ c ∈ s.offAfter id off x, s.now = max since c := by
  unfold offAfter
  split
  · split
    · cases off with
      | none =>
        intro c hc
        obtain rfl : s.now = c := by simpa using hc
        exact (Nat.max_eq_right hsince).symm
      | some c => exact hoff
    · exact hoff
  · exact hoff

/-- Time does not pass for a call that was called off. -/
theorem stands_pass (hs : b.Stands s n off p) {ms : Nat}
    (hidle : s.calls.all (s.idles ms) = true) : b.Stands { s with now := s.now + ms } n off p := by
  cases hs with
  | waiting j since hn he hsince hoff =>
    refine .waiting j since hn he (Nat.le_add_right_of_le hsince) fun c hc => ?_
    have hcall := List.all_eq_true.1 hidle _ (List.mem_of_getElem? hn)
    simp [idles, isCancelled_held he, Option.mem_def.1 hc] at hcall
  | trying j hn he => exact .trying j hn he
  | ended o hn => exact .ended o hn

theorem offAfter_of_round (hround : s.round? x = some q) (id : SessionId) :
    s.offAfter id off x = off := by
  cases x with
  | order => simp [round?] at hround
  | policy | call | elapse | callOff | answer | pass => rfl

/-- An event that is no turn of the call leaves it where it stands. -/
theorem Tidy.stands_beside (h : s.Tidy) (hs : b.Stands s n off p)
    (hx : x.resets b.session = false) (hq : ∀ q ∈ s.round? x, q.call ≠ n) :
    b.Stands (s.step x) n (s.offAfter b.session off x) p := by
  cases hround : s.round? x with
  | some q =>
    rw [step_round hround, offAfter_of_round hround]
    exact h.stands_round hs (rounds_of_round? hround) (hq q hround)
  | none =>
    cases x with
    | call => simp [round?] at hround
    | order i o =>
      have hstep : s.step (.order i o) = { s with reopener := o.carryOut i s.reopener } := rfl
      rw [hstep]
      cases hs with
      | waiting j since hn he hsince hoff =>
        exact .waiting j since hn (h.held_order (loopOf_eq hn) he hx) hsince
          (now_offAfter hsince hoff b.session _)
      | trying j hn he => exact .trying j hn (h.held_order (loopOf_eq hn) he hx)
      | ended o hn => exact .ended o hn
    | policy => cases hs with
      | waiting j since hn he hsince hoff => exact .waiting j since hn he hsince hoff
      | trying j hn he => exact .trying j hn he
      | ended o hn => exact .ended o hn
    | elapse | callOff | answer =>
      simp only [Supervision.step, hround]
      exact hs
    | pass ms =>
      simp only [Supervision.step, round?]
      split
      · next hidle => exact stands_pass hs hidle
      · exact hs

section Leaves

variable {step : Reopener.Step} {told : List ReopenEvent} {pause : ReopenPause} {e : ReopenEntry}

/-- A turn tells and leaves what its step does. -/
theorem turn?_of_leaves
    (hround : s.round? x = some (s.roundOf n b.session (some b.entry.number) step))
    (hleaves : Leaves step b.entry.number told pause e) :
    s.turn? n off x = some ⟨s.now, x.cue, off, told, s.tried x, e.attempts, e.state⟩ := by
  have hturn : s.turn? n off x = _ :=
    turn?_of_round (q := s.roundOf n _ _ step) hround rfl hleaves.entry
  simpa only [roundOf, hleaves.told] using hturn

/-- The call goes on where its step pauses. -/
theorem step_of_leaves
    (hround : s.round? x = some (s.roundOf n b.session (some b.entry.number) step))
    (hleaves : Leaves step b.entry.number told pause e) :
    (s.step x).calls = put s.calls n (pause.stage s.now) ∧
      (s.step x).reopener.entryAt b.entry.number = some e ∧ (s.step x).now = s.now := by
  rw [step_round hround]
  simp only [roundOf, hleaves.pause, hleaves.entry, and_self]

end Leaves

theorem getElem?_put_self {calls : List CallStage} {stage : CallStage} (hn : n ≤ calls.length) :
    (put calls n stage)[n]? = some stage := by
  rw [getElem?_put hn, if_pos rfl]

/-- A call opens as its brief says. -/
theorem opens_of_drop {id : SessionId} {e : ReopenEntry} {t : CallTurn}
    (he : s.reopener.entry? id = some e) (h : (s.brief id e).Opens t p) :
    s.turn? s.calls.length (s.brief id e).off (.call id) = some t ∧
      (s.brief id e).Stands (s.step (.call id)) s.calls.length (s.brief id e).off p := by
  obtain ⟨hlookup, hentry⟩ := entryAt_of_entry he
  have hround : s.round? (.call id) = some (s.roundOf s.calls.length (s.brief id e).session
      (some (s.brief id e).entry.number) (s.reopener.drop id)) := by
    simp only [round?, hlookup]
    rfl
  have hself : ∀ stage : CallStage, (put s.calls s.calls.length stage)[s.calls.length]? =
      some stage := fun _ => getElem?_put_self (Nat.le_refl _)
  have hended : ∀ {told e' o}, Leaves (s.reopener.drop id) e.number told (.ended o) e' →
      (s.brief id e).Stands (s.step (.call id)) s.calls.length (s.brief id e).off (.ended o) :=
    fun hleaves => .ended _ ((step_of_leaves hround hleaves).1 ▸ hself _)
  cases h with
  | busy hbusy =>
    have hleaves : Leaves (s.reopener.drop id) e.number [] (.ended .alreadyReconnecting) e := by
      rw [drop_busy he hbusy]
      exact ⟨rfl, rfl, hentry⟩
    exact ⟨(turn?_of_leaves hround hleaves).trans rfl, hended hleaves⟩
  | disabled hidle hdisabled =>
    have hleaves := drop_disabled he hidle hdisabled
    exact ⟨(turn?_of_leaves hround hleaves).trans rfl, hended hleaves⟩
  | spent hidle henabled hspent =>
    have hleaves := drop_spent he hidle henabled hspent
    exact ⟨(turn?_of_leaves hround hleaves).trans rfl, hended hleaves⟩
  | begins hidle henabled hleft =>
    have hleaves := drop_waits he hidle henabled hleft
    obtain ⟨hcalls, hafter, hnow⟩ := step_of_leaves hround hleaves
    refine ⟨(turn?_of_leaves hround hleaves).trans rfl,
      .waiting _ _ (hcalls ▸ hself _) (hafter.trans ?_) (Nat.le_of_eq hnow.symm) fun c hc => ?_⟩
    · cases hoff : e.cancelled <;> simp [held, off, brief, hoff]
    · rw [hnow]
      cases hoff : e.cancelled <;> simp_all [off, brief]

section Goes

variable {j since : Nat}

theorem lt_of_stands {stage : CallStage} (hn : s.calls[n]? = some stage) : n ≤ s.calls.length :=
  Nat.le_of_lt (List.getElem?_eq_some_iff.1 hn).1

/-- When its delay is over, a call tries. -/
theorem goes_elapse (hs : b.Stands s n off (.waiting j since))
    (hnow : s.now = since + b.policy.delayMs) :
    ∃ t, s.turn? n off (.elapse n) = some t ∧ b.Goes (.waiting j since) t (.trying j) ∧
      b.Stands (s.step (.elapse n)) n off (.trying j) := by
  obtain @⟨_, _, hn, he, -, hoff⟩ := hs
  obtain ⟨hafter, hparams⟩ := attempt_leaves (l := b.loop j) he
  have hround : s.round? (.elapse n) = some ⟨n, b.session, some b.entry.number,
      (s.reopener.attempt (b.loop j)).1, (s.reopener.attempt (b.loop j)).2.1,
      .trying (b.loop j)⟩ := by
    simp only [round?, hn, Nat.le_of_eq hnow.symm, if_true]
    rfl
  refine ⟨_, turn?_of_round hround rfl hafter, ?_, ?_⟩
  · have htried : s.tried (.elapse n) = some b.entry.params := by
      simp only [tried, loopOf_eq hn, CallStage.loop?, Option.bind_some, hparams]
      rfl
    rw [htried, hnow]
    exact .tries j since off fun c hc => Nat.le_of_eq (hnow.symm.trans (hoff c hc))
  · rw [step_round hround]
    exact .trying j (getElem?_put_self (lt_of_stands hn)) hafter

/-- A call that was called off in its delay ends. -/
theorem goes_callOff (hs : b.Stands s n off (.waiting j since))
    (hahead : s.now ≤ since + b.policy.delayMs) {c : Nat} (hc : off = some c) :
    ∃ t, s.turn? n off (.callOff n) = some t ∧ b.Goes (.waiting j since) t (.ended .cancelled) ∧
      b.Stands (s.step (.callOff n)) n off (.ended .cancelled) := by
  obtain @⟨_, _, hn, he, -, hoff⟩ := hs
  have hnow := hoff c hc
  have hcancelled : s.reopener.isCancelled (b.loop j) = true := by
    rw [isCancelled_held he, hc]
    rfl
  have hround : s.round? (.callOff n) = some (s.roundOf n b.session (some b.entry.number)
      (s.reopener.calledOff (b.loop j))) := by
    simp only [round?, hn, hcancelled, if_true]
    rfl
  have hleaves := calledOff_leaves (l := b.loop j) he
  refine ⟨_, turn?_of_leaves hround hleaves, ?_, ?_⟩
  · rw [hnow, hc]
    exact .calledOff j since c (hnow ▸ hahead)
  · exact .ended _ ((step_of_leaves hround hleaves).1 ▸ getElem?_put_self (lt_of_stands hn))

theorem trying_of_stands (hs : b.Stands s n off (.trying j)) :
    s.calls[n]? = some (.trying (b.loop j)) ∧
      s.reopener.entryAt b.entry.number = some (b.held off (j, .attempting)) := by
  cases hs with
  | trying _ hn he => exact ⟨hn, he⟩

/-- An attempt that succeeds is the last one. -/
theorem goes_success (hs : b.Stands s n off (.trying j)) :
    ∃ t p, s.turn? n off (.answer n none) = some t ∧ b.Goes (.trying j) t p ∧
      b.Stands (s.step (.answer n none)) n off p := by
  obtain ⟨hn, he⟩ := trying_of_stands hs
  have hround : s.round? (.answer n none) = some (s.roundOf n b.session (some b.entry.number)
      (s.reopener.succeeded (b.loop j))) := by
    simp only [round?, hn]
    rfl
  have hleaves := succeeded_leaves (l := b.loop j) he
  exact ⟨_, _, turn?_of_leaves hround hleaves, .succeeds j s.now off,
    .ended _ ((step_of_leaves hround hleaves).1 ▸ getElem?_put_self (lt_of_stands hn))⟩

/-- An attempt that fails is followed by the next one, or is the last. -/
theorem goes_refused (hs : b.Stands s n off (.trying j)) (error : ConnectError) :
    ∃ t p, s.turn? n off (.answer n (some error)) = some t ∧ b.Goes (.trying j) t p ∧
      b.Stands (s.step (.answer n (some error))) n off p := by
  obtain ⟨hn, he⟩ := trying_of_stands hs
  have hself : ∀ stage : CallStage, (put s.calls n stage)[n]? = some stage :=
    fun _ => getElem?_put_self (lt_of_stands hn)
  have hround : s.round? (.answer n (some error)) = some (s.roundOf n b.session
      (some b.entry.number) (s.reopener.refused (b.loop j) error)) := by
    simp only [round?, hn]
    rfl
  by_cases hstop : off.isSome = true ∨ error = .cancelled
  · have hleaves := calledOff_leaves (l := b.loop j) he
    have hrefused : s.reopener.refused (b.loop j) error = s.reopener.calledOff (b.loop j) :=
      refused_of_off (by rwa [isCancelled_held he])
    rw [← hrefused] at hleaves
    exact ⟨_, _, turn?_of_leaves hround hleaves, .superseded j s.now off error hstop,
      .ended _ ((step_of_leaves hround hleaves).1 ▸ hself _)⟩
  · obtain ⟨hon, hne⟩ := not_or.1 hstop
    obtain rfl : off = none := by simpa using hon
    let failed : List ReopenEvent := [.attemptFailed b.session j error.message]
    have hrefused : s.reopener.refused (b.loop j) error =
        if error.isTransport then s.reopener.next (b.loop j) failed
        else s.reopener.fail (b.loop j) failed :=
      refused_of_on (by rw [isCancelled_held he]; rfl) hne
    by_cases hretry : error.isTransport = true ∧ j < b.policy.maxAttempts
    · have hleaves := next_leaves (l := b.loop j) failed he hretry.2
      rw [if_pos hretry.1] at hrefused
      rw [← hrefused] at hleaves
      obtain ⟨hcalls, hafter, hnow⟩ := step_of_leaves hround hleaves
      exact ⟨_, _, turn?_of_leaves hround hleaves, .retries j s.now error hne hretry.1 hretry.2,
        .waiting _ _ (hcalls ▸ hself _) hafter (Nat.le_of_eq hnow.symm) (by simp)⟩
    · have hspent : error.isTransport = true → b.policy.maxAttempts ≤ j :=
        fun htransport => Nat.not_lt.1 fun hlt => hretry ⟨htransport, hlt⟩
      have hfail : s.reopener.refused (b.loop j) error = s.reopener.fail (b.loop j) failed := by
        rw [hrefused]
        split
        · next htransport => exact next_eq_fail failed he (hspent htransport)
        · rfl
      have hleaves := fail_leaves (l := b.loop j) failed he
      rw [← hfail] at hleaves
      exact ⟨_, _, turn?_of_leaves hround hleaves, .fails j s.now error hne hspent,
        .ended _ ((step_of_leaves hround hleaves).1 ▸ hself _)⟩

/-- The answer to an attempt is a turn of the course. -/
theorem goes_answer (hs : b.Stands s n off (.trying j)) (error : Option ConnectError) :
    ∃ t p, s.turn? n off (.answer n error) = some t ∧ b.Goes (.trying j) t p ∧
      b.Stands (s.step (.answer n error)) n off p := by
  cases error with
  | none => exact goes_success hs
  | some error => exact goes_refused hs error

/-- A round of the call is a turn of its course. -/
theorem Tidy.goes (h : s.Tidy) (hs : b.Stands s n off p) (hround : s.round? x = some q)
    (hcall : q.call = n) : ∃ t p', s.turn? n off x = some t ∧ b.Goes p t p' ∧
      b.Stands (s.step x) n off p' := by
  have hrounds := rounds_of_round? hround
  cases hs with
  | waiting j since hn he hsince hoff =>
    have hstands := Stands.waiting j since hn he hsince hoff
    have hahead := h.ahead _ _ (List.mem_of_getElem? hn)
    cases hrounds with
    | arrives id => simp [← hcall, roundOf] at hn
    | tries m l due hm hdue =>
      obtain rfl : m = n := hcall
      obtain ⟨rfl, rfl⟩ := CallStage.delayed.inj (Option.some.inj (hm.symm.trans hn))
      obtain ⟨t, ht⟩ := goes_elapse hstands (Nat.le_antisymm hahead hdue)
      exact ⟨t, _, ht⟩
    | calledOff m l due hm hcancelled =>
      obtain rfl : m = n := hcall
      obtain ⟨rfl, rfl⟩ := CallStage.delayed.inj (Option.some.inj (hm.symm.trans hn))
      rw [isCancelled_held he] at hcancelled
      obtain ⟨c, hc⟩ := Option.isSome_iff_exists.1 hcancelled
      obtain ⟨t, ht⟩ := goes_callOff hstands hahead hc
      exact ⟨t, _, ht⟩
    | succeeds m l hm | refused m l error hm =>
      obtain rfl : m = n := hcall
      simp [hm] at hn
  | trying j hn he =>
    have hstands := Stands.trying j hn he
    cases hrounds with
    | arrives id => simp [← hcall, roundOf] at hn
    | tries m l due hm | calledOff m l due hm =>
      obtain rfl : m = n := hcall
      simp [hm] at hn
    | succeeds m l hm =>
      obtain rfl : m = n := hcall
      exact goes_answer hstands none
    | refused m l error hm =>
      obtain rfl : m = n := hcall
      exact goes_answer hstands (some error)
  | ended o hn =>
    cases hrounds with
    | arrives id => simp [← hcall, roundOf] at hn
    | tries m l due hm | calledOff m l due hm | succeeds m l hm | refused m l error hm =>
      obtain rfl : m = n := hcall
      simp [hm] at hn

end Goes

/-- What is seen of a call after an event is a course up to where the call then stands. -/
theorem Tidy.course_step (h : s.Tidy) {w : CallRecord} (hs : b.Stands s n w.off p)
    (hcourse : b.Course w.turns p) (hx : x.resets b.session = false) :
    ∃ p', b.Course (w.turns ++ (s.turn? n w.off x).toList) p' ∧
      b.Stands (s.step x) n (s.offAfter b.session w.off x) p' := by
  by_cases hown : ∃ q, s.round? x = some q ∧ q.call = n
  · obtain ⟨q, hround, hcall⟩ := hown
    obtain ⟨t, p', hturn, hgoes, hafter⟩ := h.goes hs hround hcall
    rw [hturn, offAfter_of_round hround]
    exact ⟨p', hcourse.goes hgoes, hafter⟩
  · have hother : ∀ q ∈ s.round? x, q.call ≠ n := fun q hq hcall => hown ⟨q, hq, hcall⟩
    rw [turn?_of_other hother, Option.toList_none, List.append_nil]
    exact ⟨p, hcourse, h.stands_beside hs hx hother⟩

/-- In any run what is seen of a call is a course up to where it stands. -/
theorem Tidy.course_run (h : s.Tidy) {w : CallRecord} (hs : b.Stands s n w.off p)
    (hcourse : b.Course w.turns p) (xs : List Event)
    (hxs : ∀ x ∈ xs, x.resets b.session = false) :
    ∃ p', b.Course (watch n b.session s w xs).turns p' ∧
      b.Stands (s.run xs) n (watch n b.session s w xs).off p' := by
  induction xs generalizing s w p with
  | nil => exact ⟨p, hcourse, hs⟩
  | cons x xs ih =>
    obtain ⟨p', hcourse', hs'⟩ := h.course_step hs hcourse (hxs x List.mem_cons_self)
    exact ih (w := ⟨s.offAfter b.session w.off x, w.turns ++ (s.turn? n w.off x).toList⟩)
      (h.step x) hs' hcourse' fun y hy => hxs y (List.mem_cons_of_mem x hy)

/-- A call that has taken its course has done what it has to. -/
theorem Tidy.meets (h : s.Tidy) {w : CallRecord} (hs : b.Stands s n w.off p)
    (hcourse : b.Course w.turns p) : s.Meets b n w p where
  course := hcourse
  inOrder := by
    obtain ⟨m, horder, hbegun⟩ := hcourse.inOrder
    refine ⟨m, horder, ?_⟩
    cases p with
    | waiting j since => exact .inr (by have := hbegun.1; have := hbegun.2; omega)
    | trying j => exact .inr (hbegun.1 ▸ hbegun.2)
    | ended o => exact hbegun
  phase := phase_of_stands hs
  kept := by
    cases hs with
    | waiting j since hn he | trying j hn he => simp [CallPhase.left, he, held]
    | ended o hn => simp [CallPhase.left]
  elapses := by
    rintro j since rfl
    have hahead : s.now ≤ since + b.policy.delayMs := by
      cases hs with
      | waiting _ _ hn => exact h.ahead _ _ (List.mem_of_getElem? hn)
    refine ⟨hahead, fun hnow => ?_⟩
    obtain ⟨t, hturn, -⟩ := goes_elapse hs hnow
    simp [hturn]
  stops := by
    rintro j since rfl c hc
    cases hs with
    | waiting _ _ hn he hsince hoff =>
      have hahead := h.ahead _ _ (List.mem_of_getElem? hn)
      obtain ⟨t, hturn, -⟩ := goes_callOff (.waiting j since hn he hsince hoff) hahead hc
      exact ⟨hoff c hc, by simp [hturn]⟩
  answers := by
    rintro j rfl error
    obtain ⟨t, p', hturn, -⟩ := goes_answer hs error
    simp [hturn]

def record (s : Supervision) (id : SessionId) (e : ReopenEntry) (xs : List Event) : CallRecord :=
  watch s.calls.length id s ⟨(s.brief id e).off, []⟩ (.call id :: xs)

/-- A call takes a course from its arrival on. -/
theorem Tidy.course_of_call (h : s.Tidy) {id : SessionId} {e : ReopenEntry}
    (he : s.reopener.entry? id = some e) (xs : List Event)
    (hxs : ∀ x ∈ xs, x.resets id = false) :
    ∃ p, (s.brief id e).Course (s.record id e xs).turns p ∧
      (s.brief id e).Stands (s.run (.call id :: xs)) s.calls.length (s.record id e xs).off p := by
  obtain ⟨t, p, hopens⟩ := (s.brief id e).exists_opens
  obtain ⟨hturn, hs⟩ := opens_of_drop he hopens
  have hcourse := Course.opens hopens
  obtain ⟨p', hrun⟩ := (h.step (.call id)).course_run (w := ⟨(s.brief id e).off, [t]⟩) hs hcourse
    xs hxs
  have hrecord : s.record id e xs =
      watch s.calls.length id (s.step (.call id)) ⟨(s.brief id e).off, [t]⟩ xs := by
    simp only [record, watch, hturn, Option.toList_some, List.nil_append]
    rfl
  rw [run_cons, hrecord]
  exact ⟨p', hrun⟩

/-- A call for a dropped session takes its course, whatever happens meanwhile, unless its session
is allowed all attempts again. -/
theorem course_after_events (policy : ReopenPolicy) (es : List Event) (id : SessionId)
    (e : ReopenEntry) (xs : List Event) :
    let s := (start policy).run es
    s.reopener.entry? id = some e → (∀ x ∈ xs, x.resets id = false) →
      ∃ p, (s.run (.call id :: xs)).Meets (s.brief id e) s.calls.length (s.record id e xs) p := by
  intro s he hxs
  have h : s.Tidy := (Tidy.start policy).run es
  obtain ⟨p, hcourse, hs⟩ := h.course_of_call he xs hxs
  exact ⟨p, (h.run (.call id :: xs)).meets hs hcourse⟩

def backLine : List Event :=
  [.pass 5, .elapse 0, .answer 0 (some (.transport "no such device")), .pass 5, .elapse 0,
    .answer 0 none]

/-- The course of a call that opens the line again. -/
theorem course_of_backLine :
    let s := (start { maxAttempts := 2, delayMs := 5 }).run [.order ⟨1⟩ (.register usbPort)]
    ∃ e p, s.reopener.entry? ⟨1⟩ = some e ∧
      (s.run (.call ⟨1⟩ :: backLine)).Meets (s.brief ⟨1⟩ e) 0 (s.record ⟨1⟩ e backLine) p ∧
      p = .ended (.reconnected 2) ∧
      (s.record ⟨1⟩ e backLine).turns.map CallTurn.time = [0, 5, 5, 10, 10] := by
  intro s
  let e : ReopenEntry := { number := 0, params := usbPort }
  have he : s.reopener.entry? ⟨1⟩ = some e := by decide
  have hxs : ∀ x ∈ backLine, x.resets ⟨1⟩ = false := by simp [backLine, Event.resets]
  obtain ⟨p, hmeets⟩ := course_after_events { maxAttempts := 2, delayMs := 5 }
    [.order ⟨1⟩ (.register usbPort)] ⟨1⟩ e backLine he hxs
  refine ⟨e, p, he, hmeets, ?_, by decide⟩
  exact Option.some.inj (hmeets.phase.symm.trans (by rfl))

end Supervision

end Multiplexer
