import Multiplexer.Proofs.Connector.Wiring

/-!
# Which reports count

A report counts if it is the first one into the channel of the connection that a
session holds. It is handled once, whatever else is published into that channel
or any other, before or after; and no other report changes what is kept for a
session.
-/

namespace Multiplexer

open TurnM

namespace Connector

structure Undisturbed (c d : Connector) : Prop where
  slot : d.slot = c.slot
  reopener : d.reopener = c.reopener
  registry : d.registry = c.registry
  events : d.events = c.events

end Connector

/-- The turn in which a watch begins to handle a drop. -/
theorem Move.of_handling {c c' : Connector} {t t' : Task} {s : Signal} {new : List Task}
    {x : Handling} (h : Move c t s t' c' new) (hx : handling t t' = some x) :
    t = .watch x.session (.watching x.generation x.channel) ∧ s = .reported x.drop ∧
      ∃ w, c.watcher? x.session.id = some w ∧ w.generation = x.generation := by
  cases h with
  | drop session channel drop w hw =>
    obtain rfl := Option.some.inj hx
    exact ⟨rfl, rfl, w, hw, rfl⟩
  | stay => simp [handling_self] at hx
  | discard todo r t' ht => rcases ht with rfl | rfl <;> cases hx
  | pause => simp at hx
  | _ => cases hx

namespace Exchange

/-- A task watches a connection which its session holds and which no other watch has taken over. -/
structure Current (s : Exchange) (n : Nat) (a : Attachment) : Prop where
  task : s.tasks[n]? = some (.watch a.session (.watching a.generation a.channel))
  connection : (s.connector.slot a.session.id).connection = some a.connection
  watcher : (s.connector.slot a.session.id).watcher = some ⟨a.generation, a.channel⟩

variable {s : Exchange} {n : Nat}

/-- Two attachments of the same generation are the same. -/
theorem eq_of_generation {c : Connector} {posts : List Post} {k : Ledger} (h : Wired c posts k)
    {a b : Attachment} (ha : a ∈ k.attached) (hb : b ∈ k.attached)
    (hab : a.generation = b.generation) : a = b :=
  List.inj_on_of_nodup_map h.generations ha hb hab

/-- A watch whose generation is that of the watcher of its session watches the connection that the
session holds. -/
theorem current_of_generation (h : s.Sound) {session : Session} {generation : Nat}
    {channel : ChannelId} {w : Watcher}
    (ht : s.tasks[n]? = some (.watch session (.watching generation channel)))
    (hw : (s.connector.slot session.id).watcher = some w) (hgeneration : w.generation = generation) :
    ∃ a ∈ s.ledger.attached,
      a.session = session ∧ a.generation = generation ∧ a.channel = channel ∧ s.Current n a := by
  have hpost : Post.watching session generation channel ∈ s.tasks.filterMap Task.post :=
    List.mem_filterMap.2 ⟨_, List.mem_of_getElem? ht, rfl⟩
  obtain ⟨a, ha, rfl, rfl, rfl⟩ := h.watching session generation channel hpost
  obtain ⟨b, hb, hsession, hbgeneration, hbchannel, hconnection⟩ := h.current a.session.id w hw
  obtain rfl : b = a := eq_of_generation h hb ha (hbgeneration.trans hgeneration)
  exact ⟨b, ha, rfl, rfl, rfl, ht, hconnection, by rw [hw, hbgeneration, hbchannel]⟩

/-- Only a watch is told of reports. -/
theorem watching_of_hears {c : Connector} {t : Task} {d : Drop}
    (h : c.hears t (.reported d) = true) :
    ∃ session generation channel, t = .watch session (.watching generation channel) := by
  have hwait : ∃ channel generation, t.wait c.size = .report channel generation := by
    cases hwait : t.wait c.size with
    | call call token => cases token <;> simp [Connector.hears, hwait] at h
    | delay ms l => simp [Connector.hears, hwait] at h
    | report channel generation => exact ⟨channel, generation, rfl⟩
    | nothing => simp [Connector.hears, hwait] at h
  obtain ⟨channel, generation, hwait⟩ := hwait
  unfold Task.wait at hwait
  split at hwait
  · next a stage =>
    split at hwait <;> first | cases hwait | (split at hwait <;> cases hwait)
  · next session stage =>
    split at hwait <;> cases hwait
    exact ⟨_, _, _, rfl⟩
  all_goals cases hwait

/-- A drop comes to be handled only when the watch of a connection in use takes a report. -/
theorem handled_step (h : s.Sound) (e : Event) :
    (s.step e).ledger.handled = s.ledger.handled ∨
      ∃ n d a, e = .resume n (.reported d) ∧ a ∈ s.ledger.attached ∧ s.Current n a := by
  cases e with
  | create | publish =>
    refine .inl ?_
    simp only [step]
    split <;> rfl
  | connect =>
    refine .inl ?_
    simp only [step]
    split <;> rfl
  | resume n signal =>
    cases ht : s.tasks[n]? with
    | none => exact .inl (by simp [step, ht])
    | some t =>
      cases hears : s.connector.hears t signal with
      | false => exact .inl (by rw [step_resume_unheard ht hears])
      | true =>
        obtain ⟨t', c', new, hmove, hstep⟩ := step_moves ht hears
        rw [hstep]
        cases hx : handling t t' with
        | none => exact .inl (by simp)
        | some x =>
          obtain ⟨rfl, rfl, w, hw, hgeneration⟩ := hmove.of_handling hx
          obtain ⟨a, ha, -, -, -, hcurrent⟩ := current_of_generation h ht hw hgeneration
          exact .inr ⟨n, x.drop, a, rfl, ha, hcurrent⟩
  | _ => exact .inl rfl

/-- A report that a watch takes when its connection is not in use any more. -/
theorem step_stale (h : s.Sound) (hstale : ∀ a ∈ s.ledger.attached, ¬s.Current n a) (d : Drop) :
    (s.step (.resume n (.reported d))).ledger.handled = s.ledger.handled ∧
      s.connector.Undisturbed (s.step (.resume n (.reported d))).connector := by
  have hnothing : s.connector.Undisturbed s.connector := ⟨rfl, rfl, rfl, rfl⟩
  cases ht : s.tasks[n]? with
  | none => simpa [step, ht] using hnothing
  | some t =>
    cases hears : s.connector.hears t (.reported d) with
    | false => rw [step_resume_unheard ht hears]; exact ⟨rfl, hnothing⟩
    | true =>
      obtain ⟨session, generation, channel, rfl⟩ := watching_of_hears hears
      obtain ⟨t', c', new, hmove, hstep⟩ := step_moves ht hears
      rw [hstep]
      cases hmove with
      | stay _ _ hawaits => cases hawaits
      | ignore => exact ⟨List.append_nil _, rfl, rfl, rfl, rfl⟩
      | drop session channel d w hw =>
        obtain ⟨a, ha, -, -, -, hcurrent⟩ := current_of_generation h ht hw rfl
        exact absurd hcurrent (hstale a ha)
      | pause _ _ _ _ _ _ hpauses => cases hpauses

/-- A report that a watch takes when its connection is in use. -/
theorem step_current {a : Attachment} (hcurrent : s.Current n a) {d : Drop}
    (hears : s.connector.hears (.watch a.session (.watching a.generation a.channel)) (.reported d) =
      true) :
    (s.step (.resume n (.reported d))).ledger.handled =
        s.ledger.handled ++ [⟨a.session, a.generation, a.channel, d⟩] ∧
      (s.step (.resume n (.reported d))).connector.events = s.connector.events ∧
      (s.step (.resume n (.reported d))).tasks[n]? =
        some (.watch a.session (.closing d (a.connection.closing ++ [.stopForwards a.session.id]))) := by
  have hwatcher : s.connector.watcher? a.session.id = some ⟨a.generation, a.channel⟩ :=
    hcurrent.watcher
  have hconnection : (s.connector.status a.session.id).connection = some a.connection :=
    hcurrent.connection
  obtain ⟨t', c', new, hmove, hstep⟩ := step_moves hcurrent.task hears
  rw [hstep]
  generalize hgeneration : a.generation = generation at *
  cases hmove with
  | stay _ _ hawaits => cases hawaits
  | ignore session generation channel d hstale =>
    exact absurd rfl (hstale _ hwatcher)
  | drop session channel d w hw =>
    refine ⟨rfl, rfl, ?_⟩
    rw [task_set hcurrent.task]
    have htaken : ((s.connector.taking (.watch a.session (.watching w.generation a.channel))
        (.reported d)).status a.session.id).connection = some a.connection := hconnection
    rw [htaken]
    rfl
  | pause _ _ _ _ _ _ hpauses => cases hpauses

/-- A watch that closes a connection hears the answers to its calls and nothing else. -/
theorem hears_closing {c : Connector} {session : Session} {d : Drop} {call : Call}
    {todo : List Call} {signal : Signal} (n : Nat) :
    c.hears (.watch session (.closing d (call :: todo))) signal =
      Event.answers n (.resume n signal) := by
  cases signal <;> simp [Connector.hears, Task.wait, Event.answers]

/-- While a dropped SSH connection is closed nothing is told of it, and after the last call is
answered the drop is reported once. -/
theorem told_closing {session : Session} {target : SshTarget} (hssh : session.target = .ssh target)
    {d : Drop} {todo : List Call} (htodo : todo ≠ [])
    (ht : s.tasks[n]? = some (.watch session (.closing d todo))) (later : List Event) :
    s.told n later =
      if later.countP (Event.answers n) < todo.length then [] else [.disconnected session.id d.reason] := by
  induction later generalizing s todo with
  | nil => simp [told, List.length_pos_iff.2 htodo]
  | cons e later ih =>
    cases he : e.isTurnOf n with
    | false =>
      simpa [told, he, Event.answers_of_isTurnOf he] using ih htodo (task_step he ht)
    | true =>
      obtain ⟨signal, rfl⟩ := Event.eq_of_isTurnOf he
      obtain ⟨call, rest, rfl⟩ := List.exists_cons_of_ne_nil htodo
      cases hears : s.connector.hears (.watch session (.closing d (call :: rest))) signal with
      | false =>
        have hanswers := (hears_closing n).symm.trans hears
        simpa [told, tells_unheard ht hears, step_resume_unheard ht hears, hanswers] using
          ih htodo ht
      | true =>
        have hanswers := (hears_closing n).symm.trans hears
        obtain ⟨r, rfl⟩ := Event.reply_of_answers hanswers
        obtain ⟨t', c', new, hmove, hstep⟩ := step_moves ht hears
        rw [told, if_pos he, tells, List.countP_cons_of_pos hanswers, hstep]
        cases hmove with
        | stay _ _ hawaits => cases hawaits
        | close _ _ _ _ hrest =>
          rw [ih hrest (task_set ht _ _)]
          by_cases hcount : later.countP (Event.answers n) < rest.length <;>
            simp [Connector.taking, hcount]
        | report _ _ _ _ target' htarget hrest =>
          rw [told_over (task_set ht _ _)]
          have hlength : rest = [] := hrest
          simp [hlength, Connector.emit, Connector.setState, Connector.setStatus,
            Connector.taking]
        | pause _ _ _ _ _ _ hpauses =>
          cases hpauses with
          | dropped _ _ _ _ hserial => cases hssh.symm.trans hserial

/-- A drop is handled at most once for each connection, only while its session holds it, and with
the first report into its channel. All other reports leave every session as it is. When the
connection is one over SSH, the drop is told once, as soon as the connection is closed. -/
theorem first_report_counts (es : List Event) :
    let s := run {} es
    ((s.ledger.handled.map (·.channel)).Nodup ∧ (s.ledger.attached.map (·.channel)).Nodup ∧
      ∀ x ∈ s.ledger.handled,
        (∃ a ∈ s.ledger.attached,
          a.session = x.session ∧ a.generation = x.generation ∧ a.channel = x.channel) ∧
        (s.ledger.reports x.channel).head? = some x.drop) ∧
    (∀ e, (s.step e).ledger.handled = s.ledger.handled ∨
      ∃ n d a, e = .resume n (.reported d) ∧ a ∈ s.ledger.attached ∧ s.Current n a) ∧
    (∀ channel d, (s.step (.publish channel d)).tasks = s.tasks ∧
      s.connector.Undisturbed (s.step (.publish channel d)).connector) ∧
    (∀ n d, (∀ a ∈ s.ledger.attached, ¬s.Current n a) →
      (s.step (.resume n (.reported d))).ledger.handled = s.ledger.handled ∧
      s.connector.Undisturbed (s.step (.resume n (.reported d))).connector) ∧
    ∀ n a d, s.Current n a →
      s.connector.hears (.watch a.session (.watching a.generation a.channel)) (.reported d) = true →
      let s' := s.step (.resume n (.reported d))
      s'.ledger.handled = s.ledger.handled ++ [⟨a.session, a.generation, a.channel, d⟩] ∧
      ∀ target, a.session.target = .ssh target →
        s'.connector.events = s.connector.events ∧
        ∀ later, s'.told n later =
          if later.countP (Event.answers n) ≤ a.connection.closing.length then []
          else [.disconnected a.session.id d.reason] := by
  intro s
  have hs : s.Sound := sound_run es sound_start
  refine ⟨⟨hs.once, hs.channels, fun x hx => ⟨hs.handled x hx, hs.first x hx⟩⟩,
    fun e => handled_step hs e, fun channel d => ?_, fun n d hstale => step_stale hs hstale d,
    fun n a d hcurrent hears => ?_⟩
  · simp only [step]
    split
    · exact ⟨rfl, rfl, rfl, rfl, rfl⟩
    · exact ⟨rfl, rfl, rfl, rfl, rfl⟩
  · obtain ⟨hhandled, hevents, htask⟩ := step_current hcurrent hears
    refine ⟨hhandled, fun target hssh => ⟨hevents, fun later => ?_⟩⟩
    rw [told_closing hssh (by simp) htask, List.length_append, List.length_singleton]
    simp only [Nat.lt_succ_iff]

def web : Session := ⟨⟨1⟩, .ssh { host := ⟨"web", "web", 22, "me", .keyboardInteractive⟩ }⟩

def eof : Drop := ⟨.connection, "eof"⟩

/-- A session over SSH whose connection was reported as ended by two sources. -/
def twiceReported : List Event :=
  [.create web.target, .connect web ⟨0⟩, .resume 0 (.reply (.link ⟨0, "web"⟩)),
    .resume 0 (.reply (.terminal ⟨0, "web"⟩)), .publish ⟨0⟩ eof,
    .publish ⟨0⟩ ⟨.transport, "reset"⟩]

/-- The first of two reports is handled, and told after three calls are answered. -/
theorem told_once_of_two :
    (run {} twiceReported).Current 1
        ⟨web, 1, ⟨0⟩, .chained ⟨0, "web"⟩ [⟨0, "web"⟩]⟩ ∧
      ((run {} twiceReported).step (.resume 1 (.reported eof))).told 1
          [.resume 1 (.reply .done), .publish ⟨0⟩ eof, .resume 1 (.reply .done),
            .resume 1 (.reply .done)] =
        [.disconnected ⟨1⟩ "eof"] := by
  have hcurrent : (run {} twiceReported).Current 1
      ⟨web, 1, ⟨0⟩, .chained ⟨0, "web"⟩ [⟨0, "web"⟩]⟩ := ⟨by rfl, by rfl, by rfl⟩
  have h := (first_report_counts twiceReported).2.2.2.2 1 _ eof hcurrent (by decide)
  exact ⟨hcurrent, (h.2 _ rfl).2 _⟩

end Exchange

end Multiplexer
