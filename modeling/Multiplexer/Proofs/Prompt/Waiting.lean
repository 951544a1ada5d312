import Multiplexer.Proofs.Prompt.Desk

/-!
# Waiting for room

A question that finds the channel full waits until enough of the questions before
it have been taken out, and its time starts only then. So a call that was asked
may wait past the time limit, without any bound; one that finds room does not.
-/

namespace Multiplexer

namespace PromptBroker

def full (b : PromptBroker) : Bool := b.received && decide (b.capacity ≤ b.queue.length)

/-- No question waits while there is room for it. -/
structure Filled (b : PromptBroker) : Prop where
  room : 0 < b.capacity
  fits : b.queue.length ≤ b.capacity
  full : b.waiting ≠ [] → b.full = true

variable {b : PromptBroker} {a : Asked} {rest : List Asked}

@[simp] theorem waiting_expire (b : PromptBroker) : b.expire.waiting = b.waiting := by
  rw [expire_eq]

@[simp] theorem queue_expire (b : PromptBroker) : b.expire.queue = b.queue := by
  rw [expire_eq]

@[simp] theorem capacity_expire (b : PromptBroker) : b.expire.capacity = b.capacity := by
  rw [expire_eq]

@[simp] theorem received_expire (b : PromptBroker) : b.expire.received = b.received := by
  rw [expire_eq]

/-- With room, the first question that waits comes in. -/
theorem letIn_of_room (hwaiting : b.waiting = a :: rest) (hroom : b.queue.length < b.capacity) :
    b.letIn = ({ b with waiting := rest }.enter a).expire := by
  simp only [letIn, hwaiting, if_pos hroom]

/-- Without room, nothing does. -/
theorem letIn_of_full (hfull : b.capacity ≤ b.queue.length) : b.letIn = b := by
  unfold letIn
  split
  · exact if_neg (Nat.not_lt.2 hfull)
  · rfl

theorem letIn_of_none (hwaiting : b.waiting = []) : b.letIn = b := by
  simp only [letIn, hwaiting]

theorem now_ask (b : PromptBroker) (q : Question) : (b.ask q).2.now = b.now := by
  unfold ask
  simp only
  split
  · rcases letIn_cases { b with
        nextNumber := b.nextNumber + 1
        waiting := b.waiting ++ [⟨b.nextNumber, q⟩] } with hsame | ⟨a, rest, -, hletIn⟩
    · rw [hsame]
    · rw [hletIn, expire_eq]
      rfl
  · rfl

/-- A question that finds the channel full is the last of those that wait. -/
theorem ask_of_full (h : b.full = true) (q : Question) :
    (b.ask q).2 =
      { b with
        nextNumber := b.nextNumber + 1
        waiting := b.waiting ++ [⟨b.nextNumber, q⟩] } := by
  simp only [full, Bool.and_eq_true, decide_eq_true_eq] at h
  simp only [ask, h.1, if_true]
  exact letIn_of_full h.2

/-- While there is room, no question waits. -/
theorem Filled.nil_of_room (h : b.Filled) (hroom : b.full = false) : b.waiting = [] := by
  by_contra hwaiting
  rw [h.full hwaiting] at hroom
  cases hroom

/-- A question that finds room comes into the channel at once. -/
theorem Filled.ask_of_room (h : b.Filled) (hroom : b.full = false) (hopen : b.received = true)
    (q : Question) :
    (b.ask q).2 =
      ({ b with nextNumber := b.nextNumber + 1 }.enter ⟨b.nextNumber, q⟩).expire := by
  have hnone := h.nil_of_room hroom
  have hlt : b.queue.length < b.capacity := by
    simpa [PromptBroker.full, hopen] using hroom
  simp only [ask, hopen, if_true, hnone, List.nil_append]
  exact letIn_of_room rfl hlt

/-- A question that is put to a closed channel is refused at once. -/
theorem ask_of_closed (hclosed : b.received = false) (q : Question) :
    (b.ask q).2 =
      { b with
        nextNumber := b.nextNumber + 1
        told := b.told ++ [Asked.refusal ⟨b.nextNumber, q⟩] } := by
  simp [ask, hclosed, decline, tell, Asked.refusal]

/-- Taking a question out makes room for the first that waits. -/
theorem Filled.receive_cases (h : b.Filled) :
    (b.waiting = [] ∧ b.receive.2 = { b with queue := b.queue.tail }) ∨
      ∃ a rest, b.waiting = a :: rest ∧
        b.receive.2 = ({ b with queue := b.queue.tail, waiting := rest }.enter a).expire := by
  cases hqueue : b.queue with
  | nil =>
    have hnone : b.waiting = [] := by
      by_contra hwaiting
      have hfull := h.full hwaiting
      have hroom := h.room
      simp only [PromptBroker.full, hqueue, List.length_nil, Bool.and_eq_true,
        decide_eq_true_eq] at hfull
      omega
    refine .inl ⟨hnone, ?_⟩
    simp only [receive, hqueue, List.tail_nil]
    rw [← hqueue]
  | cons x queue =>
    have hreceive : b.receive.2 = { b with queue }.letIn := by
      simp only [receive, hqueue]
    rw [hreceive]
    cases hwaiting : b.waiting with
    | nil => exact .inl ⟨rfl, letIn_of_none rfl⟩
    | cons a rest =>
      have hlt : queue.length < b.capacity := by
        have hfits := h.fits
        rw [hqueue, List.length_cons] at hfits
        omega
      exact .inr ⟨a, rest, rfl, letIn_of_room rfl hlt⟩

/-- A question waits behind the others if the channel is full, and not at all otherwise. -/
theorem Filled.waiting_ask (h : b.Filled) (q : Question) :
    (b.ask q).2.waiting =
      if b.full = true then b.waiting ++ [⟨b.nextNumber, q⟩] else b.waiting := by
  split
  · rename_i hfull
    rw [ask_of_full hfull]
  · rename_i hroom
    rw [Bool.not_eq_true] at hroom
    cases hopen : b.received with
    | true => rw [h.ask_of_room hroom hopen, waiting_expire]; rfl
    | false => rw [ask_of_closed hopen]

/-- The first that waits moves up when a question is taken out. -/
theorem Filled.waiting_receive (h : b.Filled) : b.receive.2.waiting = b.waiting.tail := by
  rcases h.receive_cases with ⟨hwaiting, hreceive⟩ | ⟨a, rest, hwaiting, hreceive⟩
  · simp only [hreceive, hwaiting, List.tail_nil]
  · rw [hreceive, waiting_expire, hwaiting]
    rfl

/-- No question that is put waits while there is room. -/
theorem Filled.ask (h : b.Filled) (q : Question) : (b.ask q).2.Filled := by
  cases hfull : b.full with
  | true =>
    rw [ask_of_full hfull]
    exact { h with full := fun _ => hfull }
  | false =>
    cases hopen : b.received with
    | true =>
      have hlt : b.queue.length < b.capacity := by
        simpa [PromptBroker.full, hopen] using hfull
      have hnone := h.nil_of_room hfull
      rw [h.ask_of_room hfull hopen]
      exact {
        room := by simpa [enter] using h.room
        fits := by simpa [enter] using Nat.succ_le_of_lt hlt
        full := by simp [enter, hnone] }
    | false =>
      rw [ask_of_closed hopen]
      exact { h with full := fun hwaiting => absurd (h.nil_of_room hfull) hwaiting }

/-- No question waits for the room that is made when one is taken out. -/
theorem Filled.receive (h : b.Filled) : b.receive.2.Filled := by
  have hroom := h.room
  have hfits := h.fits
  rcases h.receive_cases with ⟨hwaiting, hreceive⟩ | ⟨a, rest, hwaiting, hreceive⟩
  · rw [hreceive]
    exact {
      room := hroom
      fits := Nat.le_trans (List.tail_sublist _).length_le hfits
      full := fun hne => absurd hwaiting hne }
  · have hfull := h.full (by simp [hwaiting])
    simp only [PromptBroker.full, Bool.and_eq_true, decide_eq_true_eq] at hfull
    have hlength : (b.queue.tail ++ [a]).length = b.queue.length := by
      rw [List.length_append, List.length_tail, List.length_singleton]
      omega
    rw [hreceive]
    exact {
      room := by simpa [enter] using hroom
      fits := by simpa [enter] using Nat.le_trans (Nat.le_of_eq hlength) hfits
      full := fun _ => by
        simp only [PromptBroker.full, received_expire, capacity_expire, queue_expire, enter,
          hfull.1, hlength, Bool.true_and, decide_eq_true_eq]
        exact hfull.2 }

/-- What neither lets questions in nor takes one out keeps the channel filled. -/
theorem Filled.congr {b' : PromptBroker} (h : b.Filled) (hcapacity : b'.capacity = b.capacity)
    (hreceived : b'.received = b.received) (hwaiting : b'.waiting = b.waiting)
    (hqueue : b'.queue = b.queue) : b'.Filled where
  room := hcapacity ▸ h.room
  fits := by
    rw [hqueue, hcapacity]
    exact h.fits
  full := by
    rw [hwaiting, PromptBroker.full, hreceived, hcapacity, hqueue]
    exact h.full

theorem Filled.reply (h : b.Filled) (n : Nat) (x : Answer) : (b.reply n x).2.Filled := by
  rw [reply_eq]
  exact h.congr rfl rfl rfl rfl

theorem Filled.advance (h : b.Filled) (ms : Nat) : (b.advance ms).Filled := by
  rw [PromptBroker.advance, expire_eq]
  exact h.congr rfl rfl rfl rfl

theorem Filled.close (h : b.Filled) : b.close.Filled := by
  obtain ⟨refused, -, hclose⟩ := b.close_eq
  rw [hclose]
  exact { room := h.room, fits := Nat.zero_le _, full := fun hne => absurd rfl hne }

/-- A question that has left the line is not back in it later, and none comes into the channel that
was not in the line before. -/
structure Follows (b b' : PromptBroker) : Prop where
  next : b.nextNumber ≤ b'.nextNumber
  waiting : ∀ x ∈ b'.waiting, x ∈ b.waiting ∨ b.nextNumber ≤ x.number
  queue : ∀ x ∈ b'.queue, x ∈ b.queue ∨ x ∈ b.waiting ∨ b.nextNumber ≤ x.number

theorem Follows.of_subset {b' : PromptBroker} (hnext : b'.nextNumber = b.nextNumber)
    (hwaiting : b'.waiting ⊆ b.waiting) (hqueue : b'.queue ⊆ b.queue) : b.Follows b' where
  next := Nat.le_of_eq hnext.symm
  waiting _ hx := .inl (hwaiting hx)
  queue _ hx := .inl (hqueue hx)

/-- A question that is let in was in the line. -/
theorem follows_letIn (b : PromptBroker) : b.Follows b.letIn := by
  rcases b.letIn_cases with hsame | ⟨a, rest, hwaiting, hletIn⟩
  · rw [hsame]
    exact .of_subset rfl (List.Subset.refl _) (List.Subset.refl _)
  · rw [hletIn, expire_eq]
    refine ⟨Nat.le_refl _, fun x hx => .inl ?_, fun x hx => ?_⟩
    · rw [hwaiting]
      exact List.mem_cons_of_mem a hx
    · rcases List.mem_append.1 hx with hx | hx
      · exact .inl hx
      · exact .inr (.inl (by rw [hwaiting, List.mem_singleton.1 hx]; exact List.mem_cons_self))

theorem Follows.trans {b' b'' : PromptBroker} (h : b.Follows b') (h' : b'.Follows b'') :
    b.Follows b'' where
  next := Nat.le_trans h.next h'.next
  waiting x hx := (h'.waiting x hx).elim (h.waiting x) fun hlate => .inr (Nat.le_trans h.next hlate)
  queue x hx := by
    rcases h'.queue x hx with hx | hx | hlate
    · exact h.queue x hx
    · exact .inr (h.waiting x hx)
    · exact .inr (.inr (Nat.le_trans h.next hlate))

theorem follows_ask (b : PromptBroker) (q : Question) : b.Follows (b.ask q).2 := by
  cases hopen : b.received with
  | false =>
    rw [ask_of_closed hopen]
    exact ⟨Nat.le_succ _, fun x hx => .inl hx, fun x hx => .inl hx⟩
  | true =>
    have hline : b.Follows
        { b with
          nextNumber := b.nextNumber + 1
          waiting := b.waiting ++ [⟨b.nextNumber, q⟩] } := by
      refine ⟨Nat.le_succ _, fun x hx => ?_, fun x hx => .inl hx⟩
      refine (List.mem_append.1 hx).imp_right fun hx => ?_
      obtain rfl := List.mem_singleton.1 hx
      exact Nat.le_refl _
    simp only [ask, hopen, if_true]
    rw [← hopen]
    exact hline.trans (follows_letIn _)

theorem follows_receive (b : PromptBroker) : b.Follows b.receive.2 := by
  unfold receive
  split
  · rename_i a rest hqueue
    have h := follows_letIn { b with queue := rest }
    refine ⟨h.next, h.waiting, fun x hx => ?_⟩
    refine (h.queue x hx).imp_left fun hx => ?_
    rw [hqueue]
    exact List.mem_cons_of_mem a hx
  · exact .of_subset rfl (List.Subset.refl _) (List.Subset.refl _)

inductive Moves (b : PromptBroker) : PromptBroker → Prop
  | same : Moves b b
  | ask (q : Question) : Moves b (b.ask q).2
  | receive : Moves b b.receive.2
  | reply (n : Nat) (x : Answer) : Moves b (b.reply n x).2
  | close : Moves b b.close
  | advance (ms : Nat) : Moves b (b.advance ms)

/-- No event puts a question back in the line. -/
theorem Moves.follows {b' : PromptBroker} (h : b.Moves b') : b.Follows b' := by
  cases h with
  | same => exact .of_subset rfl (List.Subset.refl _) (List.Subset.refl _)
  | ask q => exact follows_ask b q
  | receive => exact follows_receive b
  | reply n x =>
    rw [reply_eq]
    exact .of_subset rfl (List.Subset.refl _) (List.Subset.refl _)
  | close =>
    obtain ⟨refused, -, hclose⟩ := b.close_eq
    rw [hclose]
    exact .of_subset rfl (List.nil_subset _) (List.nil_subset _)
  | advance ms =>
    rw [PromptBroker.advance, expire_eq]
    exact .of_subset rfl (List.Subset.refl _) (List.Subset.refl _)

/-- No event leaves room while a question waits. -/
theorem Moves.filled {b' : PromptBroker} (h : b.Moves b') (hfilled : b.Filled) : b'.Filled := by
  cases h with
  | same => exact hfilled
  | ask q => exact hfilled.ask q
  | receive => exact hfilled.receive
  | reply n x => exact hfilled.reply n x
  | close => exact hfilled.close
  | advance ms => exact hfilled.advance ms

end PromptBroker

namespace Desk

variable {d : Desk} {timeoutMs : Nat} {a : Asked}

def Event.takes : Event → Bool
  | .receive => true
  | _ => false

def Returned (d : Desk) (a : Asked) : Prop := ∃ x, (a.number, x) ∈ d.broker.told

/-- What an event does to the broker is one of the moves. -/
theorem moves_step (d : Desk) (e : Event) : d.broker.Moves (d.step e).broker := by
  cases e with
  | ask q => exact .ask q
  | receive => exact .receive
  | send a x =>
    rw [step]
    split
    · exact .reply a.number x
    · exact .same
  | drop a =>
    rw [step]
    split
    · rw [PromptBroker.dropReply_eq]
      exact .reply _ _
    · exact .same
  | close => exact .close
  | advance ms => exact .advance ms

/-- Only taking a question out moves the line on. -/
theorem waiting_step (h : d.broker.Filled) (e : Event) :
    (d.step e).broker.waiting = match e with
      | .ask q =>
        if d.broker.full = true then d.broker.waiting ++ [⟨d.broker.nextNumber, q⟩]
        else d.broker.waiting
      | .receive => d.broker.waiting.tail
      | .close => []
      | _ => d.broker.waiting := by
  cases e with
  | ask q => exact h.waiting_ask q
  | receive => exact h.waiting_receive
  | send a x =>
    rw [step]
    split
    · simp only [follow, PromptBroker.reply_eq]
    · rfl
  | drop a =>
    rw [step]
    split
    · simp only [follow, PromptBroker.dropReply_eq, PromptBroker.reply_eq]
    · rfl
  | close =>
    obtain ⟨refused, -, hclose⟩ := d.broker.close_eq
    simp only [step, follow, hclose]
  | advance ms => simp only [step, follow, PromptBroker.advance, PromptBroker.expire_eq]

/-- What has come into the channel at an event is in it now, and was not before. -/
theorem mem_entered_step {t : Nat} {e : Event} (h : (a, t) ∈ (d.step e).entered) :
    (a, t) ∈ d.entered ∨
      a ∉ d.broker.queue ∧ a ∈ (d.step e).broker.queue ∧ t = (d.step e).broker.now := by
  have hfollow : ∀ b : PromptBroker, (a, t) ∈ (d.follow b).entered →
      (a, t) ∈ d.entered ∨ a ∉ d.broker.queue ∧ a ∈ b.queue ∧ t = b.now := by
    intro b hb
    refine (List.mem_append.1 hb).imp_right fun hnew => ?_
    obtain ⟨x, hx, hsame⟩ := List.mem_map.1 hnew
    obtain ⟨rfl, rfl⟩ := Prod.mk.inj hsame
    obtain ⟨hqueue, hold⟩ := List.mem_filter.1 hx
    exact ⟨by simpa using hold, hqueue, rfl⟩
  cases e with
  | ask q => exact hfollow _ h
  | receive => exact hfollow _ h
  | send a' x =>
    rw [step] at h ⊢
    split at h
    · rename_i hslot
      rw [if_pos hslot]
      exact hfollow _ h
    · exact .inl h
  | drop a' =>
    rw [step] at h ⊢
    split at h
    · rename_i hheld
      rw [if_pos hheld]
      exact hfollow _ h
    · exact .inl h
  | close => exact hfollow _ h
  | advance ms => exact hfollow _ h

/-- A question that has left the line does not come into the channel any more. -/
theorem gone_step (hgone : a ∉ d.broker.waiting) (hold : a.number < d.broker.nextNumber)
    (e : Event) :
    a ∉ (d.step e).broker.waiting ∧ a.number < (d.step e).broker.nextNumber ∧
      ∀ t, (a, t) ∈ (d.step e).entered → (a, t) ∈ d.entered := by
  have hfollows := (moves_step d e).follows
  have hline : ¬ (a ∈ d.broker.waiting ∨ d.broker.nextNumber ≤ a.number) := by
    rintro (hwaits | hlate)
    · exact hgone hwaits
    · exact absurd hold (Nat.not_lt.2 hlate)
  refine ⟨fun hwaits => hline (hfollows.waiting a hwaits), Nat.lt_of_lt_of_le hold hfollows.next,
    fun t ht => ?_⟩
  rcases mem_entered_step ht with ht | ⟨hnot, hqueue, -⟩
  · exact ht
  · exact absurd ((hfollows.queue a hqueue).resolve_left hnot) hline

/-- A question that has left the line never comes back. -/
theorem gone_run (hgone : a ∉ d.broker.waiting) (hold : a.number < d.broker.nextNumber)
    (es : List Event) :
    a ∉ (d.run es).broker.waiting ∧ ∀ t, (a, t) ∈ (d.run es).entered → (a, t) ∈ d.entered := by
  induction es generalizing d with
  | nil => exact ⟨hgone, fun t ht => ht⟩
  | cons e es ih =>
    obtain ⟨hgone', hold', hentered⟩ := gone_step hgone hold e
    obtain ⟨hlast, hentered'⟩ := ih hgone' hold'
    exact ⟨hlast, fun t ht => hentered t (hentered' t ht)⟩

theorem Orderly.number_lt (h : d.Orderly timeoutMs) (ha : a ∈ d.asked) :
    a.number < d.broker.nextNumber := by
  have hmem := List.mem_map_of_mem (f := Asked.number) ha
  rw [h.numbered] at hmem
  exact List.mem_range.1 hmem

/-- A question stays in the line until those before it and it have moved on, or the channel is
closed. -/
theorem waits_run_iff (h : d.Orderly timeoutMs) (hpunctual : d.broker.Punctual)
    (hfilled : d.broker.Filled) {front back : List Asked}
    (hline : d.broker.waiting = front ++ a :: back) (es : List Event) :
    a ∈ (d.run es).broker.waiting ↔ .close ∉ es ∧ es.countP Event.takes ≤ front.length := by
  induction es generalizing d front back with
  | nil => simp [run, hline]
  | cons e es ih =>
    obtain ⟨h', hpunctual'⟩ := h.step hpunctual e
    have hwaiting := waiting_step hfilled e
    have ih' := @ih (d.step e) h' hpunctual' ((moves_step d e).filled hfilled)
    have hmem : a ∈ d.broker.waiting := by simp [hline]
    have hold := h.number_lt (h.inLine.subset (List.mem_append_right _ hmem))
    have hleft : a ∉ (d.step e).broker.waiting → a ∉ (d.run (e :: es)).broker.waiting := by
      intro hgone
      exact (gone_run hgone (Nat.lt_of_lt_of_le hold (moves_step d e).follows.next) es).1
    -- An event that does not move the line on leaves the place of the question as it is.
    have hstays : ∀ back', (d.step e).broker.waiting = front ++ a :: back' → e ≠ .close →
        e.takes = false →
        (a ∈ (d.run (e :: es)).broker.waiting ↔
          .close ∉ e :: es ∧ (e :: es).countP Event.takes ≤ front.length) := by
      intro back' hline' hclose htakes
      rw [List.countP_cons_of_neg (by simp [htakes]), List.mem_cons, not_or,
        and_iff_right (Ne.symm hclose)]
      exact ih' hline'
    cases e with
    | ask q =>
      refine hstays (back ++ [⟨d.broker.nextNumber, q⟩]) ?_ (by simp) rfl
      rw [hwaiting]
      simp only [hfilled.full (by simp [hline]), if_true, hline, List.append_assoc,
        List.cons_append]
    | receive =>
      cases front with
      | nil =>
        have hgone : a ∉ (d.step .receive).broker.waiting := by
          have hnodup := (List.nodup_append.1 h.line_nodup).2.1
          rw [hline, List.nil_append, List.nodup_cons] at hnodup
          rw [hwaiting, hline]
          exact hnodup.1
        refine iff_of_false (hleft hgone) fun hcount => ?_
        rw [List.countP_cons_of_pos rfl] at hcount
        exact absurd hcount.2 (Nat.not_succ_le_zero _)
      | cons x front =>
        have hline' : (d.step .receive).broker.waiting = front ++ a :: back := by
          rw [hwaiting, hline]
          rfl
        have hne : ¬ Event.close = .receive := by simp
        rw [List.countP_cons_of_pos rfl, List.length_cons, Nat.succ_le_succ_iff, List.mem_cons,
          not_or, and_iff_right hne]
        exact ih' hline'
    | close =>
      refine iff_of_false (hleft ?_) fun hclose => hclose.1 List.mem_cons_self
      rw [hwaiting]
      exact List.not_mem_nil
    | send a' x => exact hstays back (hwaiting.trans hline) (by simp) rfl
    | drop a' => exact hstays back (hwaiting.trans hline) (by simp) rfl
    | advance ms => exact hstays back (hwaiting.trans hline) (by simp) rfl

/-- At no time does a question wait while there is room. -/
theorem filled_run (h : d.broker.Filled) (es : List Event) : (d.run es).broker.Filled := by
  induction es generalizing d with
  | nil => exact h
  | cons e es ih => exact ih ((moves_step d e).filled h)

theorem filled_ofCapacity (capacity timeoutMs : Nat) :
    (ofCapacity capacity timeoutMs).broker.Filled where
  room := Nat.lt_of_lt_of_le Nat.one_pos (Nat.le_max_right ..)
  fits := Nat.zero_le _
  full hwaiting := absurd rfl hwaiting

theorem asked_step (d : Desk) (e : Event) : d.asked ⊆ (d.step e).asked := by
  cases e with
  | ask q => exact List.subset_append_left ..
  | send a x =>
    rw [step]
    split <;> exact List.Subset.refl _
  | drop a =>
    rw [step]
    split <;> exact List.Subset.refl _
  | receive | close | advance ms => exact List.Subset.refl _

theorem asked_run (d : Desk) (es : List Event) : d.asked ⊆ (d.run es).asked := by
  induction es generalizing d with
  | nil => exact List.Subset.refl _
  | cons e es ih => exact List.Subset.trans (asked_step d e) (ih (d.step e))

/-- A question that finds room, or nobody to take it, never waits, and if it comes into the channel
it does so at once. -/
theorem entered_at_once (h : d.Orderly timeoutMs) (hfilled : d.broker.Filled)
    (hroom : d.broker.full = false) (q : Question) (es : List Event) :
    let a : Asked := ⟨d.broker.nextNumber, q⟩
    a ∉ (d.run (.ask q :: es)).broker.waiting ∧
      ∀ t, (a, t) ∈ (d.run (.ask q :: es)).entered → t = d.broker.now := by
  intro a
  have hnew : a ∉ d.asked := fun hmem => Nat.lt_irrefl _ (h.number_lt hmem)
  have hwaiting : (d.step (.ask q)).broker.waiting = [] := by
    rw [waiting_step hfilled]
    simp only [hroom, Bool.false_eq_true, if_false]
    exact hfilled.nil_of_room hroom
  have hold : a.number < (d.step (.ask q)).broker.nextNumber :=
    (h.ask q).number_lt (List.mem_append_right _ List.mem_cons_self)
  obtain ⟨hgone, hentered⟩ := gone_run (by simp [hwaiting]) hold es
  refine ⟨hgone, fun t ht => ?_⟩
  rcases mem_entered_step (hentered t ht) with hbefore | ⟨-, -, hnow⟩
  · exact absurd (h.asked_of_entered hbefore) hnew
  · exact hnow.trans (d.broker.now_ask q)

/-- A question waits if it finds the channel full, until those before it and it have moved on. -/
theorem waits_iff (h : d.Orderly timeoutMs) (hpunctual : d.broker.Punctual)
    (hfilled : d.broker.Filled) (q : Question) (es : List Event) :
    ⟨d.broker.nextNumber, q⟩ ∈ (d.run (.ask q :: es)).broker.waiting ↔
      d.broker.full = true ∧ .close ∉ es ∧ es.countP Event.takes ≤ d.broker.waiting.length := by
  cases hfull : d.broker.full with
  | true =>
    have hline : (d.step (.ask q)).broker.waiting =
        d.broker.waiting ++ ⟨d.broker.nextNumber, q⟩ :: [] := by
      rw [waiting_step hfilled]
      simp only [hfull, if_true]
    obtain ⟨h', hpunctual'⟩ := h.step hpunctual (.ask q)
    rw [and_iff_right rfl]
    exact waits_run_iff h' hpunctual' ((moves_step d (.ask q)).filled hfilled) hline es
  | false =>
    simp only [Bool.false_eq_true, false_and, iff_false]
    exact (entered_at_once h hfilled hfull q es).1

/-- A call that has not returned when its time is over found the channel full. -/
theorem not_returned_iff (h : d.Orderly timeoutMs) (hpunctual : d.broker.Punctual)
    (hfilled : d.broker.Filled) (q : Question) (es : List Event)
    (hlate : d.broker.now + timeoutMs ≤ (d.run (.ask q :: es)).broker.now) :
    ¬ (d.run (.ask q :: es)).Returned ⟨d.broker.nextNumber, q⟩ ↔ d.broker.full = true ∧
      (d.run (.ask q :: es)).Open timeoutMs ⟨d.broker.nextNumber, q⟩ := by
  obtain ⟨h', hpunctual'⟩ := h.run hpunctual (.ask q :: es)
  have ha : ⟨d.broker.nextNumber, q⟩ ∈ (d.run (.ask q :: es)).asked :=
    asked_run (d.step (.ask q)) es (List.mem_append_right _ List.mem_cons_self)
  rw [Returned, h'.settled_iff hpunctual' ha, not_not, iff_and_self]
  intro hopen
  by_contra hroom
  obtain ⟨hgone, hentered⟩ := entered_at_once h hfilled (by simpa using hroom) q es
  rcases hopen with hwaits | ⟨-, t, ht, hlt⟩
  · exact hgone hwaits
  · rw [hentered t ht] at hlt
    exact absurd hlate (Nat.not_le.2 hlt)

/-- A call whose question finds room has returned when its time is over. One whose question finds
the channel full waits for as long as it takes until the questions before it and one more have been
taken out, or the channel is closed; and then it waits for its whole time again. Whatever a call is
told that was not sent in time is a refusal. -/
theorem overdue_iff (capacity timeoutMs : Nat) (before : List Event) (q : Question)
    (after : List Event) :
    let start := (ofCapacity capacity timeoutMs).run before
    let a : Asked := ⟨start.broker.nextNumber, q⟩
    let d := start.run (.ask q :: after)
    (start.broker.now + timeoutMs ≤ d.broker.now →
      (¬ d.Returned a ↔ start.broker.full = true ∧
        (a ∈ d.broker.waiting ∨ (a ∈ d.broker.queue ∨ a ∈ d.held) ∧
          ∃ t, (a, t) ∈ d.entered ∧ d.broker.now < t + timeoutMs))) ∧
    (a ∈ d.broker.waiting ↔ start.broker.full = true ∧ .close ∉ after ∧
      after.countP Event.takes ≤ start.broker.waiting.length) ∧
    ∀ x, (a.number, x) ∈ d.broker.told → ¬ d.SentInTime timeoutMs a x → x = q.declined := by
  intro start a d
  obtain ⟨h, hpunctual⟩ := (orderly_ofCapacity capacity timeoutMs).run
    (fun p hp => by simp [ofCapacity, PromptBroker.ofCapacity] at hp) before
  have hfilled : start.broker.Filled := filled_run (filled_ofCapacity capacity timeoutMs) before
  obtain ⟨h', -⟩ := h.run hpunctual (.ask q :: after)
  have ha : a ∈ d.asked :=
    asked_run (start.step (.ask q)) after (List.mem_append_right _ List.mem_cons_self)
  exact ⟨not_returned_iff h hpunctual hfilled q after, waits_iff h hpunctual hfilled q after,
    fun x hx hnot => (h'.sent_or_refused ha hx).resolve_left hnot⟩

/-- Two calls at a channel that has room for one, and nobody who takes a question out: when the time
of both is over, the second one still waits. -/
theorem waits_past_time :
    ¬ ∀ capacity timeoutMs before q after,
      let start := (ofCapacity capacity timeoutMs).run before
      let d := start.run (.ask q :: after)
      start.broker.now + timeoutMs ≤ d.broker.now → d.Returned ⟨start.broker.nextNumber, q⟩ := by
  intro hall
  obtain ⟨x, hx⟩ := hall 1 1000 [.ask (.prompts {})] (.prompts {}) [.advance 1000] (by decide)
  have htold : ((ofCapacity 1 1000).run
      [.ask (.prompts {}), .ask (.prompts {}), .advance 1000]).broker.told =
        [(0, .answers none)] := by decide
  have hsecond : ((1 : Nat), x) ∈ ((ofCapacity 1 1000).run
      [.ask (.prompts {}), .ask (.prompts {}), .advance 1000]).broker.told := hx
  rw [htold] at hsecond
  simp at hsecond

end Desk

end Multiplexer
