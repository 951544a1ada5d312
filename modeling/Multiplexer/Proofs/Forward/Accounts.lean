import Multiplexer.Proofs.Forward.Starts

/-!
# The accounts of a forwarder

Every forward that was ever started is listed for its session until the session is
stopped, and then told to stop, once, by the call that took it. Nothing else is
started, and nothing else is told.
-/

namespace Multiplexer

namespace Service

/-- The forward that an event starts, if any. -/
def opened? (s : Service) : Event → Option ForwardHandle
  | .answer n (.ok address) =>
    (s.binding? n).map fun (c, rule, _) => .active rule c.session address
  | _ => none

/-- The forwards started for a session since it was last stopped, by those before an event. -/
def openAfter (s : Service) (id : SessionId) (hs : List ForwardHandle) : Event → List ForwardHandle
  | .stop i _ => if i = id then [] else hs
  | x => hs ++ (s.opened? x).toList.filter fun h => h.session == id

def openSince (id : SessionId) : Service → List ForwardHandle → List Event → List ForwardHandle
  | _, hs, [] => hs
  | s, hs, x :: xs => openSince id (s.step x) (s.openAfter id hs x) xs

def taken (s : Service) : List RunningForward := s.stops.flatMap StopCall.taken

def told (s : Service) : List RunningForward := s.stops.flatMap StopCall.told

structure Genuine (r : RunningForward) : Prop where
  auto : r.rule.autoStart = true
  type : r.rule.type = .localPort
  handle : ∃ address, r.handle = .active r.rule r.handle.session address

structure Stops (s : Service) (m : Nat) (id : SessionId) (ran : List RunningForward)
    (c : StopCall) : Prop where
  call : s.stops[m]? = some c
  session : c.session = id
  taken : c.taken = ran
  told : c.told ++ c.pause.rest = ran

structure Orderly (s : Service) : Prop where
  starts : ∀ n c, s.starts[n]? = some c → ∃ rules answers,
    s.Starts n c.session rules answers c ∧ ∀ r ∈ rules, r.autoStart = true
  stops : ∀ m c, s.stops[m]? = some c → s.Stops m c.session c.taken c
  genuine : ∀ r ∈ s.taken ++ s.forwarder.running, Genuine r
  /-- Each forward runs, or has been taken by one call. -/
  once : ((s.taken ++ s.forwarder.running).map RunningForward.number).Perm
    (List.range s.forwarder.nextNumber)

variable {s : Service} {n m : Nat} {id : SessionId} {x : Event}

section Stopping

variable {ran : List RunningForward} {c : StopCall}

/-- What a stop has told and what it has still to tell make up what it took. -/
theorem told_goOn (c : StopCall) (rest : List RunningForward) :
    (c.goOn rest).told ++ (c.goOn rest).pause.rest = c.told ++ rest := by
  simp only [StopCall.goOn, List.append_assoc, StopPause.told_next]

theorem told_waited (c : StopCall) : c.waited.told ++ c.waited.pause.rest = c.told ++ c.pause.rest := by
  unfold StopCall.waited
  cases hpause : c.pause with
  | waiting rest => exact told_goOn c rest
  | ended => simp [hpause]

theorem taken_waited (c : StopCall) : c.waited.taken = c.taken := by
  unfold StopCall.waited
  split <;> rfl

theorem session_waited (c : StopCall) : c.waited.session = c.session := by
  unfold StopCall.waited
  split <;> rfl

/-- Each wait that is over brings a stop nearer to its end. -/
theorem left_waited (c : StopCall) : c.waited.pause.left ≤ c.pause.left - 1 := by
  unfold StopCall.waited
  cases hpause : c.pause with
  | waiting rest => exact StopPause.left_next_le c.cancelled rest
  | ended => simp [hpause, StopPause.left]

/-- A stop takes all forwards that run for its session. -/
theorem stops_stop (s : Service) (id : SessionId) (cancelled : Bool) :
    ∃ c, (s.step (.stop id cancelled)).Stops s.stops.length id (s.forwarder.runningFor id) c ∧
      c.pause.left ≤ (s.forwarder.runningFor id).length :=
  ⟨_, ⟨List.getElem?_concat_length, rfl, rfl, told_goOn _ _⟩, StopPause.left_next_le _ _⟩

theorem Stops.step (h : s.Stops m id ran c) (x : Event) :
    ∃ c', (s.step x).Stops m id ran c' ∧ c'.pause.left ≤ c.pause.left := by
  obtain ⟨hlt, -⟩ := List.getElem?_eq_some_iff.1 h.call
  have hsame : (s.step x).stops[m]? = some c →
      ∃ c', (s.step x).Stops m id ran c' ∧ c'.pause.left ≤ c.pause.left :=
    fun hcall => ⟨c, ⟨hcall, h.session, h.taken, h.told⟩, Nat.le_refl _⟩
  cases x with
  | addRule | start | cancelStart => exact hsame h.call
  | answer k a =>
    refine hsame ?_
    simp only [Service.step]
    split <;> exact h.call
  | stop => exact hsame ((List.getElem?_append_left hlt).trans h.call)
  | waited k =>
    by_cases hk : k = m
    · refine ⟨c.waited, ⟨?_, (session_waited c).trans h.session, (taken_waited c).trans h.taken,
        (told_waited c).trans h.told⟩, Nat.le_trans (left_waited c) (Nat.sub_le _ _)⟩
      simp [Service.step, h.call, hk]
    · exact hsame (by simp [Service.step, h.call, hk])
  | cancelStop k =>
    by_cases hk : k = m
    · refine ⟨{ c with cancelled := true }, ⟨?_, h.session, h.taken, h.told⟩, Nat.le_refl _⟩
      simp [Service.step, h.call, hk]
    · exact hsame (by simp [Service.step, h.call, hk])

/-- No event takes back what a stop has told, and none makes it longer. -/
theorem Stops.run (h : s.Stops m id ran c) (xs : List Event) :
    ∃ c', (s.run xs).Stops m id ran c' ∧ c'.pause.left ≤ c.pause.left := by
  induction xs generalizing s c with
  | nil => exact ⟨c, h, Nat.le_refl _⟩
  | cons x xs ih =>
    obtain ⟨c', h', hle⟩ := h.step x
    obtain ⟨c'', h'', hle'⟩ := ih h'
    exact ⟨c'', h'', Nat.le_trans hle' hle⟩

/-- A stop is complete when it need not wait any more, and has told what it took. -/
theorem Stops.result (h : s.Stops m id ran c) (hleft : c.pause.left = 0) :
    c.result? = some ran.length ∧ c.told = ran := by
  have htold := h.told
  cases hpause : c.pause with
  | waiting rest => simp [hpause, StopPause.left] at hleft
  | ended =>
    rw [hpause, StopPause.rest, List.append_nil] at htold
    exact ⟨by simp [StopCall.result?, hpause, h.taken], htold⟩

/-- A stop comes to its end when its waits are over. -/
theorem Stops.ends (h : s.Stops m id ran c) (k : Nat) (hk : c.pause.left ≤ k) :
    ∃ c', (s.run (List.replicate k (.waited m))).Stops m id ran c' ∧ c'.pause.left = 0 := by
  induction k generalizing s c with
  | zero => exact ⟨c, h, Nat.le_zero.1 hk⟩
  | succ k ih =>
    have hwaited : (s.step (.waited m)).Stops m id ran c.waited :=
      ⟨by simp [Service.step, h.call], (session_waited c).trans h.session,
        (taken_waited c).trans h.taken, (told_waited c).trans h.told⟩
    rw [List.replicate_succ, run_cons]
    exact ih hwaited (Nat.le_trans (left_waited c) (by omega))

end Stopping

section Orderly

structure Launches (s : Service) (x : Event) (r : RunningForward) : Prop where
  opened : s.opened? x = some r.handle
  genuine : Genuine r
  number : r.number = s.forwarder.nextNumber
  running : (s.step x).forwarder.running = s.forwarder.running ++ [r]
  nextNumber : (s.step x).forwarder.nextNumber = s.forwarder.nextNumber + 1
  taken : (s.step x).taken = s.taken
  stops : ∀ id cancelled, x ≠ .stop id cancelled

/-- An event that neither starts a forward nor stops a session. -/
structure Rests (s : Service) (x : Event) : Prop where
  opened : s.opened? x = none
  running : (s.step x).forwarder.running = s.forwarder.running
  nextNumber : (s.step x).forwarder.nextNumber = s.forwarder.nextNumber
  taken : (s.step x).taken = s.taken
  stops : ∀ id cancelled, x ≠ .stop id cancelled

theorem taken_modify {f : StopCall → StopCall} (hf : ∀ c, (f c).taken = c.taken)
    (l : List StopCall) (m : Nat) :
    (l.modify m f).flatMap StopCall.taken = l.flatMap StopCall.taken := by
  have hmap : (l.modify m f).map StopCall.taken = l.map StopCall.taken := by
    refine List.ext_getElem? fun k => ?_
    cases hk : l[k]? with
    | none => simp [List.getElem?_modify, hk]
    | some c => by_cases hm : m = k <;> simp [hk, hm, hf]
  rw [List.flatMap_def, List.flatMap_def, hmap]

/-- A start waits for binds of local rules alone, and for its own session. -/
theorem Orderly.pending (h : s.Orderly) {c : StartCall} {rule : ForwardRule} {rest : ForwardStart}
    (hbinding : s.binding? n = some (c, rule, rest)) :
    rest.session = c.session ∧ rule.type = .localPort ∧ rule.autoStart = true := by
  obtain ⟨hcall, hpause⟩ := binding?_eq_some.1 hbinding
  obtain ⟨rules, answers, hstarts, hauto⟩ := h.starts n c hcall
  have hstands := hstarts.stands
  rw [hpause] at hstands
  obtain ⟨hsession, hlocal, hmem, -⟩ := hstands.pending
  exact ⟨hsession, hlocal, hauto rule hmem⟩

/-- What an event does to the forwards. -/
theorem Orderly.step_cases (h : s.Orderly) (x : Event) :
    (∃ r, s.Launches x r) ∨ s.Rests x ∨ ∃ id cancelled, x = .stop id cancelled := by
  cases x with
  | stop id cancelled => exact .inr (.inr ⟨id, cancelled, rfl⟩)
  | addRule | start | cancelStart => exact .inr (.inl ⟨rfl, rfl, rfl, rfl, by simp⟩)
  | waited m => exact .inr (.inl ⟨rfl, rfl, rfl, taken_modify taken_waited s.stops m, by simp⟩)
  | cancelStop m =>
    have htaken := taken_modify (f := fun c => { c with cancelled := true }) (fun _ => rfl)
      s.stops m
    exact .inr (.inl ⟨rfl, rfl, rfl, htaken, by simp⟩)
  | answer n a =>
    cases hbinding : s.binding? n with
    | none =>
      have hstep : s.step (.answer n a) = s := by simp only [step, hbinding]
      refine .inr (.inl ⟨?_, by rw [hstep], by rw [hstep], by rw [hstep], by simp⟩)
      cases a <;> simp [opened?, hbinding]
    | some p =>
      obtain ⟨c, rule, rest⟩ := p
      obtain ⟨hsession, hlocal, hauto⟩ := h.pending hbinding
      cases a with
      | error fault =>
        refine .inr (.inl ⟨rfl, ?_, ?_, ?_, by simp⟩) <;>
          simp only [step, hbinding, Forwarder.bound, Service.taken]
      | ok address =>
        refine .inl ⟨⟨s.forwarder.nextNumber, rule, .active rule c.session address⟩,
          ⟨?_, ⟨hauto, hlocal, address, rfl⟩, rfl, ?_, ?_, ?_, by simp⟩⟩ <;>
          simp [opened?, step, hbinding, Forwarder.bound, Service.taken, hsession]

/-- A start is made by the event that asks for it, and by nothing else. -/
theorem new_start {c : StartCall} (hn : (s.step x).starts[n]? = some c)
    (hnew : s.starts[n]? = none) :
    ∃ id hostId cancelled, x = .start id hostId cancelled ∧ n = s.starts.length := by
  have hlength : s.starts.length ≤ n := List.getElem?_eq_none_iff.1 hnew
  obtain ⟨hlt, -⟩ := List.getElem?_eq_some_iff.1 hn
  cases x with
  | start id hostId cancelled =>
    refine ⟨id, hostId, cancelled, rfl, ?_⟩
    simp only [step, List.length_append, List.length_singleton] at hlt
    omega
  | answer m a =>
    simp only [step] at hlt
    split at hlt
    · rw [List.length_set] at hlt
      omega
    · omega
  | addRule | stop | waited | cancelStop =>
    simp only [step] at hlt
    omega
  | cancelStart m =>
    simp only [step, List.length_modify] at hlt
    omega

theorem new_stop {c : StopCall} (hm : (s.step x).stops[m]? = some c) (hnew : s.stops[m]? = none) :
    ∃ id cancelled, x = .stop id cancelled ∧ m = s.stops.length := by
  have hlength : s.stops.length ≤ m := List.getElem?_eq_none_iff.1 hnew
  obtain ⟨hlt, -⟩ := List.getElem?_eq_some_iff.1 hm
  cases x with
  | stop id cancelled =>
    refine ⟨id, cancelled, rfl, ?_⟩
    simp only [step, List.length_append, List.length_singleton] at hlt
    omega
  | answer n a =>
    have hstops : (s.step (.answer n a)).stops = s.stops := by
      simp only [step]
      split <;> rfl
    rw [hstops] at hlt
    omega
  | addRule | start | cancelStart =>
    simp only [step] at hlt
    omega
  | waited | cancelStop =>
    simp only [step, List.length_modify] at hlt
    omega

/-- A stop moves what runs for the session to what has been taken. -/
theorem perm_stop (s : Service) (id : SessionId) (cancelled : Bool) :
    ((s.step (.stop id cancelled)).taken ++ (s.step (.stop id cancelled)).forwarder.running).Perm
      (s.taken ++ s.forwarder.running) := by
  have hsplit := List.filter_append_perm (fun r => r.handle.session == id) s.forwarder.running
  have htaken : (s.step (.stop id cancelled)).taken = s.taken ++ s.forwarder.runningFor id := by
    simp [Service.taken, step, Forwarder.stop, StopCall.goOn]
  have hrunning : (s.step (.stop id cancelled)).forwarder.running =
      s.forwarder.running.filter fun r => !(r.handle.session == id) := by
    refine List.filter_congr fun r _ => ?_
    by_cases hr : r.handle.session = id <;> simp [hr]
  rw [htaken, hrunning, List.append_assoc]
  exact hsplit.append_left s.taken

theorem Orderly.start : ({} : Service).Orderly where
  starts := by simp
  stops := by simp
  genuine := by simp [Service.taken]
  once := by simp [Service.taken]

/-- Whatever happens next, every forward stays listed, taken or told where it belongs. -/
theorem Orderly.step (h : s.Orderly) (x : Event) : (s.step x).Orderly where
  starts n c hn := by
    cases hold : s.starts[n]? with
    | some c₀ =>
      obtain ⟨rules, answers, hstarts, hauto⟩ := h.starts n c₀ hold
      obtain ⟨c', hstarts', -⟩ := hstarts.step x
      obtain rfl : c' = c := Option.some.inj (hstarts'.call.symm.trans hn)
      exact ⟨rules, _, hstarts'.session ▸ hstarts', hauto⟩
    | none =>
      obtain ⟨id, hostId, cancelled, rfl, rfl⟩ := new_start hn hold
      have hstarts := starts_start s id hostId cancelled
      obtain rfl := Option.some.inj (hstarts.call.symm.trans hn)
      exact ⟨_, _, hstarts, fun r hr => (List.mem_filter.1 hr).2⟩
  stops m c hm := by
    cases hold : s.stops[m]? with
    | some c₀ =>
      obtain ⟨c', hstops', -⟩ := (h.stops m c₀ hold).step x
      obtain rfl : c' = c := Option.some.inj (hstops'.call.symm.trans hm)
      exact ⟨hm, rfl, rfl, hstops'.taken ▸ hstops'.told⟩
    | none =>
      obtain ⟨id, cancelled, rfl, rfl⟩ := new_stop hm hold
      obtain ⟨c', hstops, -⟩ := stops_stop s id cancelled
      obtain rfl : c' = c := Option.some.inj (hstops.call.symm.trans hm)
      exact ⟨hm, rfl, rfl, hstops.taken ▸ hstops.told⟩
  genuine := by
    obtain ⟨r, hr⟩ | hrests | ⟨id, cancelled, rfl⟩ := h.step_cases x
    · rw [hr.taken, hr.running, ← List.append_assoc]
      intro r' hr'
      obtain hr' | hr' := List.mem_append.1 hr'
      · exact h.genuine r' hr'
      · exact List.mem_singleton.1 hr' ▸ hr.genuine
    · rw [hrests.taken, hrests.running]
      exact h.genuine
    · exact fun r hr => h.genuine r ((perm_stop s id cancelled).mem_iff.1 hr)
  once := by
    obtain ⟨r, hr⟩ | hrests | ⟨id, cancelled, rfl⟩ := h.step_cases x
    · rw [hr.taken, hr.running, hr.nextNumber, ← List.append_assoc, List.map_append,
        List.map_singleton, hr.number, List.range_succ]
      exact h.once.append_right _
    · rw [hrests.taken, hrests.running, hrests.nextNumber]
      exact h.once
    · exact ((perm_stop s id cancelled).map RunningForward.number).trans h.once

theorem Orderly.run (h : s.Orderly) (xs : List Event) : (s.run xs).Orderly := by
  induction xs generalizing s with
  | nil => exact h
  | cons x xs ih => exact ih (h.step x)

/-- A stop leaves nothing listed for its session and everything for the others. -/
theorem activeFor_stop (s : Service) (id i : SessionId) (cancelled : Bool) :
    (s.step (.stop id cancelled)).forwarder.activeFor i =
      if i = id then [] else s.forwarder.activeFor i := by
  have hrunning : (s.step (.stop id cancelled)).forwarder.running =
      s.forwarder.running.filter fun r => r.handle.session ≠ id := rfl
  simp only [Forwarder.activeFor, Forwarder.runningFor, hrunning, List.filter_filter]
  by_cases hi : i = id
  · subst hi
    simp
  · rw [if_neg hi]
    congr 2
    funext r
    by_cases hr : r.handle.session = i <;> simp [hr, hi]

/-- An event that stops nothing adds the forward that it starts. -/
theorem openAfter_eq (hx : ∀ i cancelled, x ≠ .stop i cancelled) (id : SessionId)
    (hs : List ForwardHandle) :
    s.openAfter id hs x = hs ++ (s.opened? x).toList.filter fun h => h.session == id := by
  cases x with
  | stop i cancelled => exact absurd rfl (hx i cancelled)
  | addRule | start | answer | cancelStart | waited | cancelStop => rfl

theorem Orderly.activeFor_step (h : s.Orderly) (id : SessionId) (x : Event) :
    (s.step x).forwarder.activeFor id = s.openAfter id (s.forwarder.activeFor id) x := by
  obtain ⟨r, hr⟩ | hrests | ⟨i, cancelled, rfl⟩ := h.step_cases x
  · rw [openAfter_eq hr.stops, hr.opened]
    simp only [Forwarder.activeFor, Forwarder.runningFor, hr.running, List.filter_append,
      List.map_append, Option.toList_some]
    by_cases hsession : r.handle.session = id <;> simp [hsession]
  · rw [openAfter_eq hrests.stops, hrests.opened]
    simp only [Forwarder.activeFor, Forwarder.runningFor, hrests.running, Option.toList_none,
      List.filter_nil, List.append_nil]
  · rw [activeFor_stop]
    simp only [openAfter, eq_comm]

/-- The forwards listed for a session are those started since it was last stopped. -/
theorem Orderly.activeFor_run (h : s.Orderly) (id : SessionId) (xs : List Event) :
    (s.run xs).forwarder.activeFor id = openSince id s (s.forwarder.activeFor id) xs := by
  induction xs generalizing s with
  | nil => rfl
  | cons x xs ih =>
    rw [run_cons, ih (h.step x), h.activeFor_step id x]
    rfl

end Orderly

structure Started (s : Service) (id : SessionId) (hostId : String) (cancelled : Bool)
    (xs : List Event) (c : StartCall) : Prop where
  starts : let t := s.step (.start id hostId cancelled)
    (t.run xs).Starts s.starts.length id (s.autoRules hostId) (answersTo s.starts.length t xs) c
  cancelled_eq : c.cancelled = (cancelled || xs.any (·.cancelsStart s.starts.length))
  /-- A start that returns handles has one for each rule, in order. -/
  completed : let t := s.step (.start id hostId cancelled)
    ∀ hs, c.pause = .ended (.ok hs) →
      hs = reports id (s.autoRules hostId) (answersTo s.starts.length t xs) ∧
      hs.map ForwardHandle.ruleId = (s.autoRules hostId).map ForwardRule.id
  failed : ∀ e, c.pause = .ended (.error e) → e = .cancelled ∧ c.cancelled = true
  /-- A start waits for no more binds than it has local rules, and goes on with any answer. -/
  pending : let t := s.step (.start id hostId cancelled)
    ∀ rule rest, c.pause = .binding rule rest → rule ∈ s.autoRules hostId ∧
      (answersTo s.starts.length t xs).length < binds (s.autoRules hostId) ∧
      ∀ a, (t.run xs).answer? s.starts.length (.answer s.starts.length a) = some a

/-- What becomes of a call that stops a session: it returns how many forwards ran, and has told
each of them once. -/
structure Stopped (s : Service) (id : SessionId) (cancelled : Bool) (xs : List Event) : Prop where
  emptied : (s.step (.stop id cancelled)).forwarder.activeFor id = []
  others : ∀ i, i ≠ id →
    (s.step (.stop id cancelled)).forwarder.activeFor i = s.forwarder.activeFor i
  call : let s' := (s.step (.stop id cancelled)).run xs
    ∃ c, s'.Stops s.stops.length id (s.forwarder.runningFor id) c ∧
      (∀ k, c.result? = some k →
        k = (s.forwarder.activeFor id).length ∧ c.told = s.forwarder.runningFor id) ∧
      ∀ k, (s.forwarder.activeFor id).length ≤ k → ∃ c',
        (s'.run (List.replicate k (.waited s.stops.length))).stops[s.stops.length]? = some c' ∧
          c'.result? = some (s.forwarder.activeFor id).length
  /-- Stopping once more finds nothing and returns at once. -/
  again : ∀ cancelled', ∃ c, ((s.step (.stop id cancelled)).step (.stop id cancelled')).stops[
    s.stops.length + 1]? = some c ∧ c.result? = some 0 ∧ c.told = []

structure Accounted (xs : List Event) : Prop where
  active : ∀ id, (({} : Service).run xs).forwarder.activeFor id = openSince id {} [] xs
  genuine : ∀ r ∈ (({} : Service).run xs).taken ++ (({} : Service).run xs).forwarder.running,
    Genuine r
  /-- Every forward ever started runs or has been taken by one call that stops its session. -/
  once : let s := ({} : Service).run xs
    ((s.taken ++ s.forwarder.running).map RunningForward.number).Perm
      (List.range s.forwarder.nextNumber)
  /-- No forward is told to stop twice, nor while it is listed. -/
  told : let s := ({} : Service).run xs
    ((s.told ++ s.forwarder.running).map RunningForward.number).Nodup
  started : ∀ id hostId cancelled ys, ∃ c, (({} : Service).run xs).Started id hostId cancelled ys c
  stopped : ∀ id cancelled ys, (({} : Service).run xs).Stopped id cancelled ys

section Accounted

/-- A start is accounted for by the answers that it gets later. -/
theorem started_of_start (s : Service) (id : SessionId) (hostId : String) (cancelled : Bool)
    (xs : List Event) : ∃ c, s.Started id hostId cancelled xs c := by
  obtain ⟨c, hstarts, hcancelled⟩ := (starts_start s id hostId cancelled).run xs
  rw [List.nil_append] at hstarts
  have hstands := hstarts.stands
  refine ⟨c, hstarts, hcancelled, fun hs hpause => ?_, fun e hpause => ?_,
    fun rule rest hpause => ?_⟩
  · rw [hpause] at hstands
    cases hstands with
    | completed hbinds => exact ⟨rfl, ruleId_reports (Nat.le_of_eq hbinds)⟩
  · rw [hpause] at hstands
    cases hstands with
    | cancelled hcancelled => exact ⟨rfl, hcancelled⟩
  · rw [hpause] at hstands
    obtain ⟨-, -, hmem, hless⟩ := hstands.pending
    refine ⟨hmem, hless, fun a => ?_⟩
    simp [answer?, binding?_eq_some.2 ⟨hstarts.call, hpause⟩]

/-- A stop is accounted for by what ran when it was asked. -/
theorem stopped_of_stop (s : Service) (id : SessionId) (cancelled : Bool) (xs : List Event) :
    s.Stopped id cancelled xs where
  emptied := by rw [activeFor_stop, if_pos rfl]
  others i hi := by rw [activeFor_stop, if_neg hi]
  call := by
    have hlength : (s.forwarder.activeFor id).length = (s.forwarder.runningFor id).length :=
      List.length_map _
    obtain ⟨c, hstops, hleft⟩ := stops_stop s id cancelled
    obtain ⟨c', hstops', hleft'⟩ := hstops.run xs
    refine ⟨c', hstops', fun k hk => ?_, fun k hk => ?_⟩
    · have hzero : c'.pause.left = 0 := by
        cases hpause : c'.pause with
        | waiting rest => simp [StopCall.result?, hpause] at hk
        | ended => rfl
      obtain ⟨hresult, htold⟩ := hstops'.result hzero
      exact ⟨Option.some.inj (hk.symm.trans (hresult.trans (congrArg _ hlength.symm))), htold⟩
    · obtain ⟨c'', hstops'', hzero⟩ := hstops'.ends k (by omega)
      exact ⟨c'', hstops''.call, hlength ▸ (hstops''.result hzero).1⟩
  again cancelled' := by
    have hempty : (s.step (.stop id cancelled)).forwarder.runningFor id = [] := by
      have hactive := activeFor_stop s id id cancelled
      rw [if_pos rfl] at hactive
      exact List.map_eq_nil_iff.1 hactive
    obtain ⟨c, hstops, hleft⟩ := stops_stop (s.step (.stop id cancelled)) id cancelled'
    have hcount : (s.step (.stop id cancelled)).stops.length = s.stops.length + 1 := by
      simp [step]
    rw [hempty, hcount] at hstops
    rw [hempty] at hleft
    obtain ⟨hresult, htold⟩ := hstops.result (Nat.le_zero.1 hleft)
    exact ⟨c, hstops.call, hresult, htold⟩

/-- Nothing is told to stop that was not taken. -/
theorem told_sublist (h : s.Orderly) : s.told.Sublist s.taken := by
  have hcalls : ∀ l : List StopCall, (∀ c ∈ l, c.told.Sublist c.taken) →
      (l.flatMap StopCall.told).Sublist (l.flatMap StopCall.taken) := by
    intro l hl
    induction l with
    | nil => exact .slnil
    | cons c l ih =>
      rw [List.flatMap_cons, List.flatMap_cons]
      exact (hl c List.mem_cons_self).append (ih fun c' hc' => hl c' (List.mem_cons_of_mem c hc'))
  refine hcalls s.stops fun c hc => ?_
  obtain ⟨m, hm⟩ := List.getElem?_of_mem hc
  rw [← (h.stops m c hm).told]
  exact List.sublist_append_left _ _

/-- After whatever has been asked of a forwarder, in whatever order the calls went on. -/
theorem accounted_after_events (xs : List Event) : Accounted xs where
  active id := Orderly.start.activeFor_run id xs
  genuine := (Orderly.start.run xs).genuine
  once := (Orderly.start.run xs).once
  told := by
    have h := Orderly.start.run xs
    have hsub := (told_sublist h).append_right (({} : Service).run xs).forwarder.running
    exact (h.once.nodup_iff.2 List.nodup_range).sublist (hsub.map RunningForward.number)
  started id hostId cancelled ys := started_of_start _ id hostId cancelled ys
  stopped id cancelled ys := stopped_of_stop _ id cancelled ys

/-- A start that is called off while its first bind is under way: it ends there, and what it has
bound is listed. -/
example :
    let rule : ForwardRule := ⟨"r", .localPort, "127.0.0.1", 0, "localhost", 80, true, none⟩
    let s := ({} : Service).run [.addRule "web" rule, .addRule "web" rule,
      .start ⟨1⟩ "web" false, .cancelStart 0, .answer 0 (.ok "127.0.0.1:4000")]
    s.starts.map (·.pause.left) = [0] ∧
      s.forwarder.activeFor ⟨1⟩ = [.active rule ⟨1⟩ "127.0.0.1:4000"] := by decide

end Accounted

end Service

end Multiplexer
