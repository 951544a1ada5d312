import Multiplexer.Proofs.Prompt.Waiting

/-!
# Verdicts at the prompt desk

A call about a key is told once whether the key is accepted. Here is what a step
at the desk adds to what calls were told and to what was sent, and how a desk goes
on at which there is one call only.
-/

namespace Multiplexer

namespace PromptBroker

variable {b b' : PromptBroker}

theorem told_letIn (b : PromptBroker) : b.told ⊆ b.letIn.told ∧ b.letIn.now = b.now := by
  rcases b.letIn_cases with hsame | ⟨a, rest, -, hletIn⟩
  · simp [hsame]
  · rw [hletIn, expire_eq]
    exact ⟨List.subset_append_left .., rfl⟩

/-- What a call was told it stays told, and time does not go back. -/
theorem Moves.grows (h : b.Moves b') : b.told ⊆ b'.told ∧ b.now ≤ b'.now := by
  cases h with
  | same => exact ⟨List.Subset.refl _, Nat.le_refl _⟩
  | ask q =>
    refine ⟨?_, Nat.le_of_eq (b.now_ask q).symm⟩
    unfold PromptBroker.ask
    simp only
    split
    · exact (told_letIn { b with
        nextNumber := b.nextNumber + 1
        waiting := b.waiting ++ [⟨b.nextNumber, q⟩] }).1
    · exact List.subset_append_left ..
  | receive =>
    unfold PromptBroker.receive
    split
    · rename_i a rest hqueue
      exact (told_letIn { b with queue := rest }).imp_right fun hnow => Nat.le_of_eq hnow.symm
    · exact ⟨List.Subset.refl _, Nat.le_refl _⟩
  | reply n x =>
    rw [reply_eq]
    exact ⟨List.subset_append_left .., Nat.le_refl _⟩
  | close =>
    obtain ⟨refused, -, hclose⟩ := b.close_eq
    rw [hclose]
    exact ⟨List.subset_append_left .., Nat.le_refl _⟩
  | advance ms =>
    rw [PromptBroker.advance, expire_eq]
    exact ⟨List.subset_append_left .., Nat.le_add_right ..⟩

end PromptBroker

namespace Desk

variable {d : Desk} {a : Asked}

/-- What a call about a key has been told; anything but a yes counts as a no. -/
def verdict? (d : Desk) (a : Asked) : Option Bool :=
  (d.broker.told.find? fun y => y.1 = a.number).map fun y => decide (y.2 = .verdict true)

/-- There is no verdict until the call is told something. -/
theorem verdict?_eq_none : d.verdict? a = none ↔ ∀ x, (a.number, x) ∉ d.broker.told := by
  simp only [verdict?, Option.map_eq_none_iff, List.find?_eq_none, decide_eq_true_eq, Prod.forall]
  exact ⟨fun h x hx => h _ x hx rfl, fun h n x hx hn => h x (hn ▸ hx)⟩

/-- A verdict is what the call was told. -/
theorem of_verdict? {accept : Bool} (h : d.verdict? a = some accept) :
    ∃ x, (a.number, x) ∈ d.broker.told ∧ (accept = true ↔ x = .verdict true) := by
  obtain ⟨⟨n, x⟩, hfind, haccept⟩ := Option.map_eq_some_iff.1 h
  have hn : n = a.number := by simpa using List.find?_some hfind
  exact ⟨x, hn ▸ List.mem_of_find?_eq_some hfind, by rw [← haccept, decide_eq_true_eq]⟩

/-- An event with the time that it takes told by the millisecond. -/
def Event.ticks : Event → List Event
  | .advance ms => List.replicate ms (.advance 1)
  | e => [e]

theorem run_append (d : Desk) (es es' : List Event) : d.run (es ++ es') = (d.run es).run es' :=
  List.foldl_append

/-- What was sent stays in the journal, and what a step adds to it is sent at that time. -/
theorem sent_step (d : Desk) (e : Event) : d.sent ⊆ (d.step e).sent ∧
    ∀ s ∈ (d.step e).sent, s ∈ d.sent ∨
      s.time = d.broker.now ∧ (d.step e).broker.now = d.broker.now := by
  cases e with
  | send a x =>
    rw [step]
    split
    · refine ⟨List.subset_append_left .., fun s hs => ?_⟩
      rcases List.mem_append.1 hs with hs | hs
      · exact .inl hs
      · obtain rfl := List.mem_singleton.1 hs
        refine .inr ⟨rfl, ?_⟩
        simp only [follow, PromptBroker.reply_eq]
    · exact ⟨List.Subset.refl _, fun _ hs => .inl hs⟩
  | drop a =>
    rw [step]
    split <;> exact ⟨List.Subset.refl _, fun _ hs => .inl hs⟩
  | ask q | receive | close | advance ms => exact ⟨List.Subset.refl _, fun _ hs => .inl hs⟩

/-- What arrives is what the call is told. -/
theorem Orderly.told_of_delivered {timeoutMs : Nat} (h : d.Orderly timeoutMs) {s : Sent}
    (hs : s ∈ d.sent) (hdelivered : s.delivered = true) :
    (s.asked.number, s.answer) ∈ d.broker.told :=
  (h.heard s hs).2 ((h.heard s hs).1.1 hdelivered)

/-! ## An idle desk -/

/-- As long as no question is overdue, only the clock moves. -/
theorem run_ticks (n : Nat) (h : ∀ p ∈ d.broker.pending, d.broker.now + n < p.deadline) :
    d.run (List.replicate n (.advance 1)) =
      { d with broker := { d.broker with now := d.broker.now + n } } := by
  induction n generalizing d with
  | zero => rfl
  | succ n ih =>
    have hpending : d.broker.pending.filter (fun p => d.broker.now + 1 < p.deadline) =
        d.broker.pending :=
      List.filter_eq_self.2 fun p hp => decide_eq_true (by have := h p hp; omega)
    have hoverdue : d.broker.pending.filter (fun p => p.deadline ≤ d.broker.now + 1) = [] :=
      List.filter_eq_nil_iff.2 fun p hp => by
        have hlt := h p hp
        simp only [decide_eq_true_eq]
        omega
    have htick : d.step (.advance 1) =
        { d with broker := { d.broker with now := d.broker.now + 1 } } := by
      simp only [step, PromptBroker.advance, PromptBroker.expire_eq, hpending, hoverdue]
      simp [follow]
    have hlater : ∀ p ∈ d.broker.pending, d.broker.now + 1 + n < p.deadline := fun p hp => by
      have hlt := h p hp
      omega
    rw [List.replicate_succ]
    change (d.step (.advance 1)).run _ = _
    rw [htick, ih hlater]
    simp only [Nat.add_assoc, Nat.add_comm 1 n]

def idle (timeoutMs now : Nat) : Desk := { broker := { capacity := 1, timeoutMs, now } }

def idleAsked (timeoutMs now asked : Nat) (a : Asked) : Desk where
  broker := { capacity := 1, timeoutMs, now, nextNumber := 1, pending := [⟨a, asked + timeoutMs⟩] }
  asked := [a]
  entered := [(a, asked)]
  taken := [a]
  held := [a]

theorem step_ask_idle {timeoutMs : Nat} (hpos : 0 < timeoutMs) (now : Nat) (q : Question) :
    (idle timeoutMs now).step (.ask q) =
      { broker := { capacity := 1, timeoutMs, now, nextNumber := 1, queue := [⟨0, q⟩]
                    pending := [⟨⟨0, q⟩, now + timeoutMs⟩] }
        asked := [⟨0, q⟩]
        entered := [(⟨0, q⟩, now)] } := by
  simpa [step, idle, PromptBroker.ask, PromptBroker.letIn, PromptBroker.expire_eq,
    PromptBroker.enter, follow] using hpos

theorem step_receive_idle {timeoutMs : Nat} (hpos : 0 < timeoutMs) (now : Nat) (q : Question) :
    ((idle timeoutMs now).step (.ask q)).step .receive =
      idleAsked timeoutMs now now ⟨0, q⟩ := by
  rw [step_ask_idle hpos]
  simp [step, idleAsked, PromptBroker.receive, PromptBroker.letIn, follow]

theorem step_send_idle (timeoutMs now asked : Nat) {a : Asked} {x : Answer}
    (hx : a.question.takes x = true) :
    ((idleAsked timeoutMs now asked a).step (.send a x)).sent =
        [⟨a, x, now, true, [(a.number, x)]⟩] ∧
      ((idleAsked timeoutMs now asked a).step (.send a x)).entered = [(a, asked)] ∧
      ((idleAsked timeoutMs now asked a).step (.send a x)).broker.now = now ∧
      ((idleAsked timeoutMs now asked a).step (.send a x)).broker.told = [(a.number, x)] := by
  simp [step, idleAsked, hx, follow, PromptBroker.reply, PromptBroker.awaits,
    PromptBroker.release, PromptBroker.tell]

/-- A key that someone accepts at an idle desk after a while. -/
theorem run_of_yes {timeoutMs ms : Nat} (hms : ms < timeoutMs) (q : KeyQuestion) :
    let a : Asked := ⟨0, .hostKey q⟩
    let d := (idle timeoutMs 0).run (.ask (.hostKey q) ::
      [.receive, .advance ms, .send a (.verdict true)].flatMap Event.ticks)
    d.sent = [⟨a, .verdict true, ms, true, [(0, .verdict true)]⟩] ∧ d.entered = [(a, 0)] := by
  intro a d
  have hwaited : (idle timeoutMs 0).run (.ask (.hostKey q) :: .receive ::
      List.replicate ms (.advance 1)) = idleAsked timeoutMs ms 0 a := by
    change (((idle timeoutMs 0).step (.ask (.hostKey q))).step .receive).run _ = _
    rw [step_receive_idle (by omega), run_ticks ms (by simpa [idleAsked] using hms)]
    simp [idleAsked, a]
  have hd : d = (idleAsked timeoutMs ms 0 a).step (.send a (.verdict true)) := by
    rw [← hwaited]
    exact run_append _ (.ask (.hostKey q) :: .receive :: List.replicate ms (.advance 1))
      [.send a (.verdict true)]
  obtain ⟨hsent, hentered, -, -⟩ := step_send_idle timeoutMs ms 0 (a := a) (x := .verdict true) rfl
  rw [hd]
  exact ⟨hsent, hentered⟩

end Desk

end Multiplexer
