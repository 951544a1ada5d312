import Multiplexer.Proofs.Connector.Recovery

/-!
# Drops that are overtaken

To handle a drop takes time: the connection is closed and its forwards are
stopped first, and meanwhile the session may be asked to connect again. All that
while the watch leaves the session alone. But once it has its last answer it
takes the session for disconnected, whatever has become of it by then; only the
connection and the watcher of a newer attempt stay as they are.
-/

namespace Multiplexer

open TurnM

/-- What the last answer does for which the handling of a drop has waited: to the connector, and
to the watch. -/
structure Connector.Overridden (session : Session) (d : Drop) (c c' : Connector) (t : Task) :
    Prop where
  slot : c'.slot session.id = { c.slot session.id with state := .disconnected }
  elsewhere : ∀ i, i ≠ session.id → c'.slot i = c.slot i
  registry : c'.registry = c.registry
  ssh : ∀ target, session.target = .ssh target → t = .over (.ok ()) ∧
    c'.reopener = c.reopener ∧ c'.events = c.events ++ [.disconnected session.id d.reason]
  /-- A serial line is to be opened again. -/
  serial : ∀ params, session.target = .serial params →
    let step := c.reopener.drop session.id
    t = step.2.2.task session d ∧ c'.reopener = step.1 ∧
      c'.events = c.events ++ (step.2.1.map .reopening ++
        if step.2.2.reports then [.disconnected session.id d.reason] else [])

namespace Connector.Overridden

variable {session : Session} {d : Drop} {c c' : Connector} {t : Task}

/-- The session is left as it is only if it is disconnected. -/
theorem slot_eq_iff (h : Overridden session d c c' t) :
    c'.slot session.id = c.slot session.id ↔ (c.slot session.id).state = .disconnected := by
  rw [h.slot]
  constructor
  · exact fun hsame => (congrArg Slot.state hsame).symm
  · intro hstate
    rw [← hstate]

theorem of_report (session : Session) (d : Drop) (c : Connector) {target : SshTarget}
    (htarget : session.target = .ssh target) : Overridden session d c
      ((c.setState session.id .disconnected).emit (.disconnected session.id d.reason))
      (.over (.ok ())) where
  slot := (c.slot_setState session.id session.id .disconnected).trans (if_pos rfl)
  elsewhere i hi := (c.slot_setState session.id i .disconnected).trans (if_neg hi)
  registry := rfl
  ssh _ _ := ⟨rfl, rfl, rfl⟩
  serial params hserial := by cases htarget.symm.trans hserial

theorem of_drop (session : Session) (d : Drop) (c : Connector) {params : SerialParams}
    (htarget : session.target = .serial params) : Overridden session d c
      ((c.setState session.id .disconnected).paused session d (c.reopener.drop session.id))
      ((c.reopener.drop session.id).2.2.task session d) where
  slot := by
    rw [slot_paused]
    exact (c.slot_setState session.id session.id .disconnected).trans (if_pos rfl)
  elsewhere i hi := by
    rw [slot_paused]
    exact (c.slot_setState session.id i .disconnected).trans (if_neg hi)
  registry := by
    unfold paused
    dsimp only
    split <;> rfl
  ssh target hssh := by cases htarget.symm.trans hssh
  serial params _ := by
    refine ⟨rfl, ?_, events_paused _ session d _⟩
    unfold paused
    dsimp only
    split <;> rfl

end Connector.Overridden

/-- The turn of a watch that has more calls to make. -/
theorem Move.closing_on {c c' : Connector} {session : Session} {d : Drop} {todo : List Call}
    {r : Reply} {t : Task} {new : List Task} (hmore : todo.tail ≠ [])
    (h : Move c (.watch session (.closing d todo)) (.reply r) t c' new) :
    t = .watch session (.closing d todo.tail) ∧ c' = c := by
  cases h with
  | stay _ _ hawaits => cases hawaits
  | close => exact ⟨rfl, rfl⟩
  | report _ _ _ _ _ _ hlast => exact absurd hlast hmore
  | pause _ _ _ _ _ _ hpauses =>
    cases hpauses with
    | dropped _ _ _ _ _ hlast => exact absurd hlast hmore

/-- The turn of a watch that has waited for its last answer. -/
theorem Move.overridden {c c' : Connector} {session : Session} {d : Drop} {todo : List Call}
    {r : Reply} {t : Task} {new : List Task} (hlast : todo.tail = [])
    (h : Move c (.watch session (.closing d todo)) (.reply r) t c' new) :
    Connector.Overridden session d c c' t := by
  cases h with
  | stay _ _ hawaits => cases hawaits
  | close _ _ _ _ hmore => exact absurd hlast hmore
  | report _ _ _ _ target htarget => exact .of_report session d c htarget
  | pause _ _ _ _ _ _ hpauses =>
    cases hpauses with
    | dropped _ _ _ params htarget => exact .of_drop session d c htarget

namespace Exchange

variable {s : Exchange} {n : Nat} {session : Session} {d : Drop} {todo : List Call}

/-- An answer that is not the last one leads on to the next call, and no other turn of the watch
leads anywhere. -/
theorem closing_step {e : Event} {call : Call}
    (ht : s.tasks[n]? = some (.watch session (.closing d (call :: todo))))
    (he : e.isTurnOf n = true) (hmore : e.answers n = true → todo ≠ []) :
    (s.step e).connector = s.connector ∧ (s.step e).tasks[n]? =
      some (.watch session (.closing d (if e.answers n then todo else call :: todo))) := by
  obtain ⟨signal, rfl⟩ := Event.eq_of_isTurnOf he
  cases hears : s.connector.hears (.watch session (.closing d (call :: todo))) signal with
  | false =>
    have hanswers := (hears_closing n).symm.trans hears
    rw [step_resume_unheard ht hears, hanswers]
    exact ⟨rfl, ht⟩
  | true =>
    have hanswers := (hears_closing n).symm.trans hears
    obtain ⟨r, rfl⟩ := Event.reply_of_answers hanswers
    obtain ⟨t', c', new, hmove, hstep⟩ := step_moves ht hears
    have hrest : (call :: todo).tail ≠ [] := hmore hanswers
    obtain ⟨rfl, rfl⟩ := hmove.closing_on hrest
    rw [hstep, hanswers]
    exact ⟨rfl, task_set ht _ _⟩

/-- Whatever else happens, the watch waits for one call after the other. -/
theorem closing_run (ht : s.tasks[n]? = some (.watch session (.closing d todo)))
    (es : List Event) (hfew : es.countP (Event.answers n) < todo.length) :
    (s.run es).tasks[n]? =
      some (.watch session (.closing d (todo.drop (es.countP (Event.answers n))))) := by
  induction es generalizing s todo with
  | nil => exact ht
  | cons e es ih =>
    cases he : e.isTurnOf n with
    | false =>
      rw [List.countP_cons_of_neg (by simp [Event.answers_of_isTurnOf he])] at hfew ⊢
      exact ih (task_step he ht) hfew
    | true =>
      obtain ⟨call, rest, rfl⟩ := List.exists_cons_of_length_pos (Nat.zero_lt_of_lt hfew)
      rw [List.countP_cons] at hfew ⊢
      have hmore : e.answers n = true → rest ≠ [] := fun hanswers hnil => by
        simp [hanswers, hnil] at hfew
      have htask := (closing_step ht he hmore).2
      cases hanswers : e.answers n with
      | false =>
        rw [hanswers] at htask
        simp only [hanswers, Bool.false_eq_true, if_false, Nat.add_zero] at hfew ⊢
        exact ih htask hfew
      | true =>
        rw [hanswers] at htask
        simp only [hanswers, if_true, List.length_cons, Nat.add_lt_add_iff_right] at hfew ⊢
        exact ih htask hfew

/-- The last answer overrides what has become of the session meanwhile. -/
theorem closing_end (ht : s.tasks[n]? = some (.watch session (.closing d todo)))
    (hlast : todo.length = 1) (r : Reply) :
    ∃ t, (s.step (.resume n (.reply r))).tasks[n]? = some t ∧
      s.connector.Overridden session d (s.step (.resume n (.reply r))).connector t := by
  obtain ⟨call, rfl⟩ := List.length_eq_one_iff.mp hlast
  have hears : s.connector.hears (.watch session (.closing d [call])) (.reply r) = true := rfl
  obtain ⟨t', c', new, hmove, hstep⟩ := step_moves ht hears
  rw [hstep]
  exact ⟨t', task_set ht _ _, hmove.overridden rfl⟩

/-- With the report the session loses its connection and its watcher, but not its state. -/
theorem slot_step_current {a : Attachment} (hcurrent : s.Current n a)
    (hears : s.connector.hears (.watch a.session (.watching a.generation a.channel)) (.reported d) =
      true) : (s.step (.resume n (.reported d))).connector.slot a.session.id =
        { s.connector.slot a.session.id with connection := none, watcher := none } := by
  have hwatcher : s.connector.watcher? a.session.id = some ⟨a.generation, a.channel⟩ :=
    hcurrent.watcher
  obtain ⟨t', c', new, hmove, hstep⟩ := step_moves hcurrent.task hears
  rw [hstep]
  generalize hgeneration : a.generation = generation at *
  cases hmove with
  | stay _ _ hawaits => cases hawaits
  | ignore session generation channel d hstale => exact absurd rfl (hstale _ hwatcher)
  | drop session channel d w hw =>
    rw [Connector.slot_severed, if_pos rfl]
    rfl
  | pause _ _ _ _ _ _ hpauses => cases hpauses

/-- From the report of a drop until the last call is answered with which the connection is closed,
the watch leaves everything as it is, so that an attempt may begin and end meanwhile. The last
answer overrides what has become of the session. -/
theorem late_drop_handling {a : Attachment} (hcurrent : s.Current n a)
    (hears : s.connector.hears (.watch a.session (.watching a.generation a.channel)) (.reported d) =
      true) (es : List Event) :
    let calls := a.connection.closing ++ [.stopForwards a.session.id]
    let answered := es.countP (Event.answers n)
    let first := s.step (.resume n (.reported d))
    let now := first.run es
    first.connector.slot a.session.id =
        { s.connector.slot a.session.id with connection := none, watcher := none } ∧
      (answered < calls.length →
        now.tasks[n]? = some (.watch a.session (.closing d (calls.drop answered))) ∧
        ∀ e, e.isTurnOf n = true → (e.answers n = true → answered + 1 < calls.length) →
          (now.step e).connector = now.connector) ∧
      (answered + 1 = calls.length → ∀ r,
        let later := now.step (.resume n (.reply r))
        (∃ t, later.tasks[n]? = some t ∧
          now.connector.Overridden a.session d later.connector t) ∧
        (later.connector.slot a.session.id = now.connector.slot a.session.id ↔
          (now.connector.slot a.session.id).state = .disconnected)) := by
  intro calls answered first now
  have htask : first.tasks[n]? = some (.watch a.session (.closing d calls)) :=
    (step_current hcurrent hears).2.2
  have hnow (hfew : answered < calls.length) :
      now.tasks[n]? = some (.watch a.session (.closing d (calls.drop answered))) :=
    closing_run htask es hfew
  refine ⟨slot_step_current hcurrent hears, fun hfew => ⟨hnow hfew, fun e he hmore => ?_⟩,
    fun hlast r => ?_⟩
  · have htask' := hnow hfew
    rw [List.drop_eq_getElem_cons hfew] at htask'
    refine (closing_step htask' he fun hanswers => ?_).1
    rw [← List.length_pos_iff, List.length_drop]
    exact Nat.sub_pos_of_lt (hmore hanswers)
  · obtain ⟨t, ht, hoverridden⟩ :=
      closing_end (hnow (by omega)) (by rw [List.length_drop]; omega) r
    exact ⟨⟨t, ht, hoverridden⟩, hoverridden.slot_eq_iff⟩

def redialled : List Event :=
  [.connect web ⟨1⟩, .resume 2 (.reply (.link ⟨1, "web"⟩)),
    .resume 2 (.reply (.terminal ⟨1, "web"⟩)), .resume 1 (.reply .done), .resume 1 (.reply .done)]

/-- The handling of a drop that two sources report overrides a new connection. -/
theorem overtaken_by_redialling :
    (run {} twiceReported).Current 1 ⟨web, 1, ⟨0⟩, .chained ⟨0, "web"⟩ [⟨0, "web"⟩]⟩ ∧
      let now := ((run {} twiceReported).step (.resume 1 (.reported eof))).run redialled
      now.connector.Overridden web eof (now.step (.resume 1 (.reply .done))).connector
        (.over (.ok ())) := by
  have hcurrent : (run {} twiceReported).Current 1
      ⟨web, 1, ⟨0⟩, .chained ⟨0, "web"⟩ [⟨0, "web"⟩]⟩ := ⟨by rfl, by rfl, by rfl⟩
  have h := late_drop_handling hcurrent (d := eof) (by decide) redialled
  obtain ⟨⟨t, ht, hoverridden⟩, -⟩ := h.2.2 (by decide) .done
  obtain ⟨rfl, -⟩ := hoverridden.ssh _ rfl
  exact ⟨hcurrent, hoverridden⟩

def reopened : List Event :=
  [.connect line ⟨1⟩, .resume 2 (.reply (.terminal ⟨1, "line"⟩)), .resume 1 (.reply .done)]

/-- Over SSH and on a serial line a session has been connected anew when the handling of its old
drop comes to an end. It counts as disconnected then, though it keeps the new connection; the drop
of the old one is told, or the line is to be opened over the new one. -/
theorem newer_connection_overridden :
    (let now := ((run {} twiceReported).step (.resume 1 (.reported eof))).run redialled
      let later := now.step (.resume 1 (.reply .done))
      now.connector.slot web.id =
          ⟨.connected, some (.chained ⟨1, "web"⟩ [⟨1, "web"⟩]), some ⟨2, ⟨1⟩⟩⟩ ∧
        later.connector.slot web.id =
          ⟨.disconnected, some (.chained ⟨1, "web"⟩ [⟨1, "web"⟩]), some ⟨2, ⟨1⟩⟩⟩ ∧
        now.tells (.resume 1 (.reply .done)) = [.disconnected web.id "eof"]) ∧
    (let now := ((run {} lostLine).step (.resume 1 (.reported eof))).run reopened
      let later := now.step (.resume 1 (.reply .done))
      now.connector.slot line.id = ⟨.connected, some (.bare ⟨1, "line"⟩), some ⟨2, ⟨1⟩⟩⟩ ∧
        later.connector.slot line.id =
          ⟨.disconnected, some (.bare ⟨1, "line"⟩), some ⟨2, ⟨1⟩⟩⟩ ∧
        now.tells (.resume 1 (.reply .done)) =
          [.reopening (.starting line.id), .reopening (.waiting line.id 2000 1)] ∧
        later.connector.reopener.isReconnecting line.id = true) := by
  decide

end Exchange

end Multiplexer
