import Multiplexer.Proofs.Connector.Request

/-!
# How final giving up is

A session that was disconnected or destroyed holds no connection, and stays
without one for as long as no attempt for it succeeds. Nothing keeps an attempt
that was in flight before from succeeding afterwards, and such a late success
attaches its connection.
-/

namespace Multiplexer

open TurnM

structure Switchboard where
  connector : Connector := {}
  tasks : List Task := []

namespace Switchboard

inductive Event where
  | create (target : SessionTarget)
  | connect (session : Session) (token : Token)
  | disconnect (id : SessionId)
  | destroy (id : SessionId)
  | resume (n : Nat) (s : Signal)
  | outside (c : Connector)

def engage (s : Switchboard) (m : TurnM Task) : Switchboard :=
  let r := exec m ⟨s.connector, []⟩
  ⟨r.2.connector, s.tasks ++ r.1 :: r.2.started⟩

def step (s : Switchboard) : Event → Switchboard
  | .create target =>
    match s.connector.registry.create target with
    | .ok (_, registry) => { s with connector := { s.connector with registry } }
    | .error _ => s
  | .connect session token => s.engage (Connector.connect session token)
  | .disconnect id => s.engage (Connector.disconnect id)
  | .destroy id => s.engage (Connector.destroy id)
  | .resume n signal =>
    match s.tasks[n]? with
    | some t =>
      let r := exec (t.resume signal) ⟨s.connector, []⟩
      ⟨r.2.connector, s.tasks.set n r.1 ++ r.2.started⟩
    | none => s
  | .outside c => { s with connector := s.connector.amid c }

def run (s : Switchboard) (es : List Event) : Switchboard := es.foldl step s

def returned (s : Switchboard) (n : Nat) : Bool :=
  match s.tasks[n]? with
  | some (.over _) => true
  | _ => false

def lands (s : Switchboard) (id : SessionId) : Event → Bool
  | .resume n signal => (s.tasks[n]?).any fun t => t.landsFor signal id
  | _ => false

/-- Whether an attempt for a session succeeds in the course of a run. -/
def landsIn (s : Switchboard) (id : SessionId) : List Event → Bool
  | [] => false
  | e :: es => s.lands id e || (s.step e).landsIn id es

end Switchboard

structure Slot.Vacant (x : Slot) : Prop where
  connection : x.connection = none
  watcher : x.watcher = none

/-- A session that is given up. -/
structure Slot.Quiet (x : Slot) : Prop extends x.Vacant where
  state : x.state ≠ .connected

namespace Change

variable {registered : Bool} {m m' : Mode} {x x' : Slot}

theorem vacant (h : Change registered false m x m' x') (hx : x.Vacant) : x'.Vacant := by
  cases h with
  | dropped => exact ⟨rfl, rfl⟩
  | _ => exact ⟨hx.connection, hx.watcher⟩

/-- A session that is not connected does not come to be by a turn in which no attempt succeeds. -/
theorem not_connected (h : Change registered false m x m' x') (hx : x.state ≠ .connected) :
    x'.state ≠ .connected := by
  cases h <;> first | exact hx | simp

theorem connected (h : Change registered true m x m' x') : x'.state = .connected := by
  cases h
  rfl

end Change

namespace Switchboard

variable (s : Switchboard) (id : SessionId)

/-- When an attempt for a session succeeds, the session is connected. -/
theorem slot_step_of_lands {e : Event} (h : s.lands id e = true) :
    ((s.step e).connector.slot id).state = .connected := by
  cases e with
  | resume n signal =>
    cases ht : s.tasks[n]? with
    | none => simp [lands, ht] at h
    | some t =>
      have hlands : t.landsFor signal id = true := by simpa [lands, ht] using h
      have hchange := (t.resume_turned ⟨s.connector, []⟩ signal).change id
      rw [hlands] at hchange
      simp only [step, ht]
      exact hchange.connected
  | _ => cases h

section Kept

/-! A property of slots that a turn keeps in which no attempt succeeds, and a release. -/

variable {P : Slot → Prop}
  (hchange : ∀ {registered m x m' x'}, Change registered false m x m' x' → P x → P x')
  (hreleased : ∀ x : Slot, P x → P { x with connection := none, watcher := none })

include hchange hreleased

theorem slot_engage_released {i : SessionId} {m : TurnM Task} {v : Turn} {r : Task × Turn}
    {before : SessionId → Mode} (hv : Turn.Released i ⟨s.connector, []⟩ v)
    (hturned : Turned (fun _ => false) before v r) (hrun : exec m ⟨s.connector, []⟩ = r)
    (hs : P (s.connector.slot id)) : P ((s.engage m).connector.slot id) := by
  unfold engage
  rw [hrun]
  refine hchange (hturned.change id) ?_
  rw [hv.slot]
  split
  · rename_i hi
    exact hreleased _ (hi ▸ hs)
  · exact hs

/-- What a slot keeps in every event in which no attempt for the session succeeds. -/
theorem slot_step (hclaimed : P ⟨.connecting, none, none⟩) {e : Event}
    (h : s.lands id e = false) (hs : P (s.connector.slot id)) :
    P ((s.step e).connector.slot id) := by
  let u : Turn := ⟨s.connector, []⟩
  cases e with
  | create target =>
    simp only [step]
    split <;> exact hs
  | connect session token =>
    simp only [step, engage]
    by_cases hbusy : (s.connector.slot session.id).state = .connecting
    · rw [Connector.exec_connect_overlapping session token u hbusy]
      exact hs
    · obtain ⟨a, todo, v, -, hslot, -, -, hrun⟩ := Connector.exec_connect session token u hbusy
      rw [hrun]
      refine hchange ((a.release_turned todo v).change id) ?_
      rw [hslot]
      split
      · exact hclaimed
      · exact hs
  | disconnect i =>
    by_cases hregistered : s.connector.registry.contains i = true
    · obtain ⟨todo, v, hv, hrun⟩ := Connector.exec_disconnect i u hregistered
      exact s.slot_engage_released id hchange hreleased hv (Task.disconnectAll_turned i todo v)
        hrun hs
    · simp only [step, engage]
      rw [Connector.exec_disconnect_unknown i u (by simpa using hregistered)]
      exact hs
  | destroy i =>
    by_cases hregistered : s.connector.registry.contains i = true
    · obtain ⟨todo, v, hv, hrun⟩ := Connector.exec_destroy i u hregistered
      exact s.slot_engage_released id hchange hreleased hv (Task.destroyAll_turned i todo v)
        hrun hs
    · simp only [step, engage]
      rw [Connector.exec_destroy_unknown i u (by simpa using hregistered)]
      exact hs
  | resume n signal =>
    cases ht : s.tasks[n]? with
    | none => simpa only [step, ht] using hs
    | some t =>
      have hlands : t.landsFor signal id = false := by simpa [lands, ht] using h
      have hturn := (t.resume_turned u signal).change id
      rw [hlands] at hturn
      simp only [step, ht]
      exact hchange hturn hs
  | outside c => exact hs

end Kept

/-- A session stays vacant in every event in which no attempt for it succeeds. -/
theorem vacant_step {e : Event} (h : s.lands id e = false) (hs : (s.connector.slot id).Vacant) :
    ((s.step e).connector.slot id).Vacant :=
  s.slot_step id (fun hc => hc.vacant) (fun _ _ => ⟨rfl, rfl⟩) ⟨rfl, rfl⟩ h hs

theorem not_connected_step {e : Event} (h : s.lands id e = false)
    (hs : (s.connector.slot id).state ≠ .connected) :
    ((s.step e).connector.slot id).state ≠ .connected :=
  s.slot_step id (P := fun x => x.state ≠ .connected) (fun hc => hc.not_connected) (fun _ hx => hx)
    (by simp) h hs

/-- A session stays quiet in every event in which no attempt for it succeeds. -/
theorem quiet_step {e : Event} (h : s.lands id e = false) (hs : (s.connector.slot id).Quiet) :
    ((s.step e).connector.slot id).Quiet :=
  ⟨s.vacant_step id h hs.toVacant, s.not_connected_step id h hs.state⟩

/-- A session stays quiet exactly as long as no attempt for it succeeds. -/
theorem quiet_run_iff (es : List Event) :
    (∀ first, first <+: es → ((s.run first).connector.slot id).Quiet) ↔
      (s.connector.slot id).Quiet ∧ s.landsIn id es = false := by
  induction es generalizing s with
  | nil => simp [landsIn, run]
  | cons e es ih =>
    constructor
    · intro h
      have hquiet : (s.connector.slot id).Quiet := h [] List.nil_prefix
      have hrest := (ih (s.step e)).1 fun first hfirst =>
        h (e :: first) (List.cons_prefix_cons.2 ⟨rfl, hfirst⟩)
      have hlands : s.lands id e = false := Bool.eq_false_iff.2 fun hlands =>
        hrest.1.state (s.slot_step_of_lands id hlands)
      exact ⟨hquiet, by rw [landsIn, hlands, hrest.2]; rfl⟩
    · intro ⟨hquiet, hlands⟩ first hfirst
      obtain ⟨hhead, htail⟩ := Bool.or_eq_false_iff.1 hlands
      cases first with
      | nil => exact hquiet
      | cons e' first =>
        obtain ⟨rfl, hrest⟩ := List.cons_prefix_cons.1 hfirst
        exact (ih (s.step e')).2 ⟨s.quiet_step id hhead hquiet, htail⟩ first hrest

section Disconnecting

variable {s id} {n : Nat} {todo : List Call}

theorem task_engage (m : TurnM Task) {t : Task} (h : s.tasks[n]? = some t) :
    (s.engage m).tasks[n]? = some t := by
  obtain ⟨hn, -⟩ := List.getElem?_eq_some_iff.1 h
  rw [engage, List.getElem?_append_left hn, h]

theorem task_resume {m : Nat} (signal : Signal) {t : Task} (h : s.tasks[n]? = some t) (hm : m ≠ n) :
    (s.step (.resume m signal)).tasks[n]? = some t := by
  obtain ⟨hn, -⟩ := List.getElem?_eq_some_iff.1 h
  simp only [step]
  split
  · rw [List.getElem?_append_left (by simpa using hn), List.getElem?_set_ne hm, h]
  · exact h

/-- A turn of the task that disconnects a session. -/
theorem exec_resume_disconnecting (id : SessionId) (todo : List Call) (signal : Signal) (u : Turn) :
    let r := exec ((Task.disconnecting id todo).resume signal) u
    (∃ todo', r.1 = .disconnecting id todo') ∨ (r.2.connector.slot id).state ≠ .connected := by
  cases signal with
  | reply =>
    cases htail : todo.tail with
    | nil =>
      refine .inr ?_
      simp [Task.resume, Task.disconnectAll, htail]
    | cons call rest =>
      refine .inl ⟨call :: rest, ?_⟩
      simp [Task.resume, Task.disconnectAll, htail]
  | _ => exact .inl ⟨todo, rfl⟩

/-- The call to disconnect goes on until the session is not connected. -/
theorem disconnecting_step (h : s.tasks[n]? = some (.disconnecting id todo)) (e : Event) :
    (∃ todo, (s.step e).tasks[n]? = some (.disconnecting id todo)) ∨
      ((s.step e).connector.slot id).state ≠ .connected := by
  cases e with
  | create =>
    refine .inl ⟨todo, ?_⟩
    simp only [step]
    split <;> exact h
  | connect | disconnect | destroy => exact .inl ⟨todo, task_engage _ h⟩
  | resume m signal =>
    by_cases hm : m = n
    · subst hm
      obtain ⟨hn, -⟩ := List.getElem?_eq_some_iff.1 h
      simp only [step, h]
      refine (exec_resume_disconnecting id todo signal ⟨s.connector, []⟩).imp_left ?_
      intro ⟨todo', htodo⟩
      refine ⟨todo', ?_⟩
      rw [List.getElem?_append_left (by simpa using hn), List.getElem?_set_self hn, htodo]
    · exact .inl ⟨todo, task_resume signal h hm⟩
  | outside => exact .inl ⟨todo, h⟩

/-- Unless an attempt succeeds meanwhile, the call to disconnect goes on or has done its work. -/
theorem disconnecting_run (es : List Event) (hlands : s.landsIn id es = false)
    (h : (∃ todo, s.tasks[n]? = some (.disconnecting id todo)) ∨
      (s.connector.slot id).state ≠ .connected) :
    (∃ todo, (s.run es).tasks[n]? = some (.disconnecting id todo)) ∨
      ((s.run es).connector.slot id).state ≠ .connected := by
  induction es generalizing s with
  | nil => exact h
  | cons e es ih =>
    obtain ⟨hhead, htail⟩ := Bool.or_eq_false_iff.1 hlands
    refine ih htail ?_
    rcases h with ⟨todo, htodo⟩ | hstate
    · exact disconnecting_step htodo e
    · exact .inr (s.not_connected_step id hhead hstate)

end Disconnecting

/-- A session stays vacant in a run in which no attempt for it succeeds. -/
theorem vacant_run (es : List Event) (hlands : s.landsIn id es = false)
    (hs : (s.connector.slot id).Vacant) : ((s.run es).connector.slot id).Vacant := by
  induction es generalizing s with
  | nil => exact hs
  | cons e es ih =>
    obtain ⟨hhead, htail⟩ := Bool.or_eq_false_iff.1 hlands
    exact ih (s.step e) htail (s.vacant_step id hhead hs)

section Called

variable (hregistered : s.connector.registry.contains id = true)

include hregistered

/-- The call to disconnect takes the connection and the watcher at once. -/
theorem disconnect_called :
    ((s.step (.disconnect id)).connector.slot id).Vacant ∧
      ((∃ todo, (s.step (.disconnect id)).tasks[s.tasks.length]? = some (.disconnecting id todo)) ∨
        ((s.step (.disconnect id)).connector.slot id).state ≠ .connected) := by
  obtain ⟨todo, v, hv, hrun⟩ := Connector.exec_disconnect id ⟨s.connector, []⟩ hregistered
  have hslot := hv.slot id
  rw [if_pos rfl] at hslot
  simp only [step, engage, hrun]
  cases todo with
  | nil =>
    have hclosed : (exec (Task.disconnectAll id []) v).2.connector.slot id =
        ⟨.disconnected, none, none⟩ := by simp [Task.disconnectAll, hslot]
    rw [hclosed]
    exact ⟨⟨rfl, rfl⟩, .inr (by simp)⟩
  | cons call todo => exact ⟨hslot ▸ ⟨rfl, rfl⟩, .inl ⟨call :: todo, by simp [Task.disconnectAll]⟩⟩

/-- Destroying a session does not change its state. -/
theorem slot_destroy : (s.step (.destroy id)).connector.slot id =
    { s.connector.slot id with connection := none, watcher := none } := by
  obtain ⟨todo, v, hv, hrun⟩ := Connector.exec_destroy id ⟨s.connector, []⟩ hregistered
  have hslot := hv.slot id
  rw [if_pos rfl] at hslot
  simp only [step, engage, hrun]
  cases todo <;> exact hslot

end Called

theorem not_disconnecting_of_returned {n : Nat} (h : s.returned n = true) :
    ¬∃ todo, s.tasks[n]? = some (.disconnecting id todo) := by
  intro ⟨todo, htodo⟩
  simp [returned, htodo] at h

/-- From the return of a call that gives a session up, the session is quiet for as long as it was
quiet at that point and no attempt for it has succeeded since. It has no connection at that point
if no attempt succeeded during the call, and after a disconnection it is quiet then; a session that
is destroyed keeps the state that it had. -/
theorem quiet_after_giving_up (id : SessionId) (call : Event) (during after : List Event)
    (hcall : call = .disconnect id ∨ call = .destroy id)
    (hregistered : s.connector.registry.contains id = true)
    (hreturned : ((s.step call).run during).returned s.tasks.length = true) :
    let back := (s.step call).run during
    ((∀ first, first <+: after → ((back.run first).connector.slot id).Quiet) ↔
        (back.connector.slot id).Quiet ∧ back.landsIn id after = false) ∧
      ((s.step call).landsIn id during = false →
        (back.connector.slot id).Vacant ∧
          (call = .disconnect id → (back.connector.slot id).Quiet)) ∧
      (call = .destroy id → (s.step call).connector.slot id =
        { s.connector.slot id with connection := none, watcher := none }) := by
  intro back
  refine ⟨back.quiet_run_iff id after, fun hlands => ?_, ?_⟩
  · have hvacant : ((s.step call).connector.slot id).Vacant := by
      rcases hcall with rfl | rfl
      · exact (s.disconnect_called id hregistered).1
      · rw [s.slot_destroy id hregistered]
        exact ⟨rfl, rfl⟩
    have hback := (s.step call).vacant_run id during hlands hvacant
    refine ⟨hback, ?_⟩
    rintro rfl
    have hstate := disconnecting_run during hlands (s.disconnect_called id hregistered).2
    exact ⟨hback, hstate.resolve_left (back.not_disconnecting_of_returned id hreturned)⟩
  · rintro rfl
    exact s.slot_destroy id hregistered

def line : SessionTarget := .serial { device := "/dev/ttyUSB0", baudRate := 9600 }

def lineOpened : Event := .resume 0 (.reply (.terminal ⟨0, "/dev/ttyUSB0"⟩))

def dialling : Switchboard := run {} [.create line, .connect ⟨⟨1⟩, line⟩ ⟨0⟩]

/-- With an attempt in flight the call to disconnect returns, and the session is quiet; it stays so
as long as the attempt goes on. -/
theorem quiet_while_dialling :
    (dialling.step (.disconnect ⟨1⟩)).returned 1 = true ∧
      ((dialling.step (.disconnect ⟨1⟩)).connector.slot ⟨1⟩).Quiet := by
  have hreturned : ((dialling.step (.disconnect ⟨1⟩)).run []).returned 1 = true := by decide
  have h := dialling.quiet_after_giving_up ⟨1⟩ (.disconnect ⟨1⟩) [] [] (.inl rfl) (by decide)
    hreturned
  exact ⟨hreturned, (h.2.1 rfl).2 rfl⟩

/-- When it succeeds, its connection is attached. -/
theorem attached_after_disconnect :
    (dialling.step (.disconnect ⟨1⟩)).returned 1 = true ∧
      (((dialling.step (.disconnect ⟨1⟩)).step lineOpened).connector.slot ⟨1⟩).state = .connected ∧
      (((dialling.step (.disconnect ⟨1⟩)).step lineOpened).connector.slot ⟨1⟩).connection =
        some (.bare ⟨0, "/dev/ttyUSB0"⟩) ∧
      (((dialling.step (.disconnect ⟨1⟩)).step lineOpened).connector.slot ⟨1⟩).watcher.isSome =
        true := by
  decide

end Switchboard

end Multiplexer
