import Multiplexer.Proofs.Prompt.Broker

/-!
# The prompt desk

A broker with both of its sides. Askers put questions to it; whoever owns the
user takes them out, holds them, replies to one or drops it, or takes no more.
Each question that is held has a reply slot of its own, which is used up by a
reply. A journal tells what was asked, when it came into the channel and what
was sent into the slots.

No call is told anything but a refusal unless that was sent into the slot of its
own question, in time.
-/

namespace Multiplexer

/-- Whether an answer is of the kind that a question asks for. -/
def Question.takes : Question → Answer → Bool
  | .hostKey _, .verdict _ => true
  | .prompts _, .answers _ => true
  | _, _ => false

structure Sent where
  asked : Asked
  answer : Answer
  time : Nat
  /-- What the sender was given. -/
  delivered : Bool
  /-- What calls were told by it. -/
  heard : List (Nat × Answer)
  deriving DecidableEq

structure Desk where
  broker : PromptBroker
  /-- All calls, oldest first. -/
  asked : List Asked := []
  /-- The questions that came into the channel and the times they did, oldest first. -/
  entered : List (Asked × Nat) := []
  /-- The questions that were taken out, oldest first. -/
  taken : List Asked := []
  /-- Those whose reply slot is still unused. -/
  held : List Asked := []
  sent : List Sent := []

namespace Desk

inductive Event where
  | ask (q : Question)
  | receive
  | send (a : Asked) (x : Answer)
  | drop (a : Asked)
  | close
  | advance (ms : Nat)

def ofCapacity (capacity timeoutMs : Nat) : Desk := { broker := .ofCapacity capacity timeoutMs }

def follow (d : Desk) (b : PromptBroker) : Desk :=
  { d with
    broker := b
    entered := d.entered ++ (b.queue.filter (· ∉ d.broker.queue)).map (·, b.now) }

/-- What happens at an event; nothing does if a slot is not there or takes no such answer. -/
def step (d : Desk) : Event → Desk
  | .ask q =>
    let r := d.broker.ask q
    { d.follow r.2 with asked := d.asked ++ [⟨r.1, q⟩] }
  | .receive =>
    let r := d.broker.receive
    { d.follow r.2 with taken := d.taken ++ r.1.toList, held := d.held ++ r.1.toList }
  | .send a x =>
    if a ∈ d.held ∧ a.question.takes x then
      let r := d.broker.reply a.number x
      { d.follow r.2 with
        held := d.held.erase a
        sent := d.sent ++ [⟨a, x, d.broker.now, r.1, r.2.told.drop d.broker.told.length⟩] }
    else d
  | .drop a =>
    if a ∈ d.held then { d.follow (d.broker.dropReply a) with held := d.held.erase a } else d
  | .close => d.follow d.broker.close
  | .advance ms => d.follow (d.broker.advance ms)

def run (d : Desk) (es : List Event) : Desk := es.foldl step d

/-- Whether an answer was sent into the slot of a question less than the time limit after the
question came into the channel. -/
def SentInTime (timeoutMs : Nat) (d : Desk) (a : Asked) (x : Answer) : Prop :=
  ∃ s ∈ d.sent, s.asked = a ∧ s.answer = x ∧ ∃ t, (a, t) ∈ d.entered ∧ s.time < t + timeoutMs

/-- Whether the call that asked a question still has to be told something. -/
def Open (timeoutMs : Nat) (d : Desk) (a : Asked) : Prop :=
  a ∈ d.broker.waiting ∨
    (a ∈ d.broker.queue ∨ a ∈ d.held) ∧ ∃ t, (a, t) ∈ d.entered ∧ d.broker.now < t + timeoutMs

structure Orderly (timeoutMs : Nat) (d : Desk) : Prop where
  timeout : d.broker.timeoutMs = timeoutMs
  numbered : d.asked.map Asked.number = List.range d.broker.nextNumber
  placed : d.broker.places.Perm (List.range d.broker.nextNumber)
  inLine : (d.entered.map Prod.fst ++ d.broker.waiting).Sublist d.asked
  shown : d.taken ++ d.broker.queue <+: d.entered.map Prod.fst
  allShown : d.broker.received = true → d.taken ++ d.broker.queue = d.entered.map Prod.fst
  noneWaits : d.broker.received = false → d.broker.waiting = []
  held : d.held.Sublist d.taken
  waits : ∀ p ∈ d.broker.pending, (p.asked ∈ d.broker.queue ∨ p.asked ∈ d.held) ∧
    ∃ t, (p.asked, t) ∈ d.entered ∧ p.deadline = t + timeoutMs
  waited : ∀ a t, (a, t) ∈ d.entered → a ∈ d.broker.queue ∨ a ∈ d.held →
    d.broker.now < t + timeoutMs → ⟨a, t + timeoutMs⟩ ∈ d.broker.pending
  told : ∀ y ∈ d.broker.told,
    (∃ s ∈ d.sent, s.delivered = true ∧ y = (s.asked.number, s.answer)) ∨
      ∃ a ∈ d.asked, y = a.refusal
  used : ∀ s ∈ d.sent, s.asked ∈ d.taken ∧ s.asked ∉ d.held
  usedOnce : (d.sent.map Sent.asked).Nodup
  inTime : ∀ s ∈ d.sent,
    s.delivered = true ↔ ∃ t, (s.asked, t) ∈ d.entered ∧ s.time < t + timeoutMs
  heard : ∀ s ∈ d.sent,
    (s.delivered = true ↔ (s.asked.number, s.answer) ∈ s.heard) ∧ s.heard ⊆ d.broker.told

variable {d : Desk} {timeoutMs : Nat} {a a' : Asked} {b : PromptBroker}

namespace Orderly

variable (h : d.Orderly timeoutMs)
include h

theorem places_nodup : d.broker.places.Nodup := h.placed.nodup_iff.2 List.nodup_range

/-- No question is asked twice. -/
theorem asked_nodup : d.asked.Nodup := .of_map Asked.number (h.numbered ▸ List.nodup_range)

/-- A question is known by its number. -/
theorem eq_of_number (ha : a ∈ d.asked) (ha' : a' ∈ d.asked) (hnumber : a.number = a'.number) :
    a = a' :=
  List.inj_on_of_nodup_map (h.numbered ▸ List.nodup_range) ha ha' hnumber

/-- A question is in one place of the line. -/
theorem line_nodup : (d.entered.map Prod.fst ++ d.broker.waiting).Nodup :=
  h.inLine.nodup h.asked_nodup

theorem shown_nodup : (d.taken ++ d.broker.queue).Nodup :=
  h.shown.sublist.nodup (List.nodup_append.1 h.line_nodup).1

/-- What came into the channel was asked. -/
theorem asked_of_entered {t : Nat} (ha : (a, t) ∈ d.entered) : a ∈ d.asked :=
  h.inLine.subset (List.mem_append_left _ (List.mem_map_of_mem ha))

/-- What is taken out or in the channel came into it at some time. -/
theorem entered_of_shown (ha : a ∈ d.taken ++ d.broker.queue) : ∃ t, (a, t) ∈ d.entered := by
  simpa using h.shown.subset ha

theorem held_nodup : d.held.Nodup := h.held.nodup (List.nodup_append.1 h.shown_nodup).1

/-- A question in the channel is not held yet. -/
theorem not_held_of_queue (ha : a ∈ d.broker.queue) : a ∉ d.held := fun hheld =>
  List.disjoint_of_nodup_append h.shown_nodup (h.held.subset hheld) ha

/-- A call waits for the reply to a question that is in the channel or held as long as the time
is not over. -/
theorem awaits_iff (hpunctual : d.broker.Punctual) (ha : a ∈ d.broker.queue ∨ a ∈ d.held) :
    d.broker.awaits a.number = true ↔
      ∃ t, (a, t) ∈ d.entered ∧ d.broker.now < t + timeoutMs := by
  simp only [PromptBroker.awaits, List.any_eq_true, beq_iff_eq]
  constructor
  · rintro ⟨p, hp, hnumber⟩
    obtain ⟨-, t, ht, hdeadline⟩ := h.waits p hp
    obtain ⟨t', ht'⟩ := h.entered_of_shown (a := a)
      (ha.elim (List.mem_append_right _) fun hheld =>
        List.mem_append_left _ (h.held.subset hheld))
    have hsame : p.asked = a := h.eq_of_number (h.asked_of_entered ht) (h.asked_of_entered ht') hnumber
    exact ⟨t, hsame ▸ ht, hdeadline ▸ hpunctual p hp⟩
  · rintro ⟨t, ht, hnow⟩
    exact ⟨_, h.waited a t ht ha hnow, rfl⟩

end Orderly

theorem follow_eq (d : Desk) (hqueue : b.queue ⊆ d.broker.queue) :
    d.follow b = { d with broker := b } := by
  have hnone : b.queue.filter (· ∉ d.broker.queue) = [] :=
    List.filter_eq_nil_iff.2 fun a ha => by simpa using hqueue ha
  simp only [follow, hnone, List.map_nil, List.append_nil]

section Moves

/-- A later time, with whatever is overdue declined. -/
theorem Orderly.expire (h : d.Orderly timeoutMs) {b : PromptBroker} {now : Nat}
    (hb : b = { d.broker with now := now }) (hnow : d.broker.now ≤ now) :
    Orderly timeoutMs { d with broker := b.expire } := by
  subst hb
  rw [PromptBroker.expire_eq]
  exact { h with
    placed := by
      have := PromptBroker.places_expire { d.broker with now := now }
      rw [PromptBroker.expire_eq] at this
      exact this.trans h.placed
    waits := fun p hp => h.waits p (List.mem_filter.1 hp).1
    waited := fun a t ht ha hlt =>
      List.mem_filter.2 ⟨h.waited a t ht ha (Nat.lt_of_le_of_lt hnow hlt), by simpa using hlt⟩
    told := by
      intro y hy
      rcases List.mem_append.1 hy with hy | hy
      · exact h.told y hy
      · obtain ⟨p, hp, rfl⟩ := List.mem_map.1 hy
        obtain ⟨-, t, ht, -⟩ := h.waits p (List.mem_filter.1 hp).1
        exact .inr ⟨p.asked, h.asked_of_entered ht, rfl⟩
    heard := fun s hs =>
      ⟨(h.heard s hs).1, List.Subset.trans (h.heard s hs).2 (List.subset_append_left ..)⟩ }

/-- The first question that waits comes into the channel. -/
theorem Orderly.enter (h : d.Orderly timeoutMs) {rest : List Asked}
    (hwaiting : d.broker.waiting = a :: rest) :
    Orderly timeoutMs
      { d with
        broker := { d.broker with waiting := rest }.enter a
        entered := d.entered ++ [(a, d.broker.now)] } := by
  have hfresh : a ∉ d.entered.map Prod.fst := fun ha =>
    List.disjoint_of_nodup_append h.line_nodup ha (hwaiting ▸ List.mem_cons_self)
  have hopen : d.broker.received = true := by
    by_contra hclosed
    simp [h.noneWaits (by simpa using hclosed)] at hwaiting
  have hshown : d.taken ++ (d.broker.queue ++ [a]) = (d.entered ++ [(a, d.broker.now)]).map Prod.fst := by
    simp [← h.allShown hopen]
  have hentered {a' : Asked} {t : Nat} (ha' : a' ∈ d.taken ++ d.broker.queue)
      (ht : (a', t) ∈ d.entered ++ [(a, d.broker.now)]) : (a', t) ∈ d.entered := by
    rcases List.mem_append.1 ht with ht | ht
    · exact ht
    · obtain ⟨rfl, -⟩ : a' = a ∧ t = d.broker.now := by simpa using ht
      exact absurd (h.shown.subset ha') hfresh
  exact { h with
    placed := by
      refine (PromptBroker.places_enter _ a).trans ?_
      have : ({ d.broker with waiting := a :: rest } : PromptBroker) = d.broker := by rw [← hwaiting]
      exact this ▸ h.placed
    inLine := by simpa [hwaiting, PromptBroker.enter] using h.inLine
    shown := hshown ▸ List.prefix_rfl
    allShown := fun _ => hshown
    noneWaits := fun hclosed => by simp [PromptBroker.enter, hopen] at hclosed
    waits := by
      intro p hp
      rcases List.mem_append.1 hp with hp | hp
      · obtain ⟨hplace, t, ht, hdeadline⟩ := h.waits p hp
        exact ⟨hplace.imp_left (List.mem_append_left _), t, List.mem_append_left _ ht, hdeadline⟩
      · obtain rfl := List.mem_singleton.1 hp
        exact ⟨.inl (by simp [PromptBroker.enter]), d.broker.now, by simp, by rw [h.timeout]⟩
    waited := by
      intro a' t ht hplace hlt
      rcases List.mem_append.1 ht with hold | hnew
      · have hne : a' ≠ a := by
          rintro rfl
          exact hfresh (List.mem_map_of_mem hold)
        have hplace : a' ∈ d.broker.queue ∨ a' ∈ d.held := by
          simpa [PromptBroker.enter, hne] using hplace
        exact List.mem_append_left _ (h.waited a' t hold hplace hlt)
      · obtain ⟨rfl, rfl⟩ : a' = a ∧ t = d.broker.now := by simpa using hnew
        exact List.mem_append_right _ (by simp [h.timeout])
    told := h.told
    inTime := by
      intro s hs
      refine (h.inTime s hs).trans ⟨?_, ?_⟩
      · rintro ⟨t, ht, hlt⟩
        exact ⟨t, List.mem_append_left _ ht, hlt⟩
      · rintro ⟨t, ht, hlt⟩
        exact ⟨t, hentered (List.mem_append_left _ (h.used s hs).1) ht, hlt⟩ }

/-- A question that waits is let in if there is room for it. -/
theorem Orderly.letIn (h : d.Orderly timeoutMs) : (d.follow d.broker.letIn).Orderly timeoutMs := by
  rcases d.broker.letIn_cases with hsame | ⟨a, rest, hwaiting, hletIn⟩
  · rw [hsame, follow_eq d (List.Subset.refl _)]
    exact h
  · have hfresh : a ∉ d.broker.queue := fun ha =>
      List.disjoint_of_nodup_append h.line_nodup
        (h.shown.subset (List.mem_append_right _ ha)) (hwaiting ▸ List.mem_cons_self)
    have hfollow : d.follow d.broker.letIn =
        { d with
          broker := d.broker.letIn
          entered := d.entered ++ [(a, d.broker.now)] } := by
      simp [follow, hletIn, PromptBroker.expire_eq, PromptBroker.enter, List.filter_append,
        hfresh]
    rw [hfollow, hletIn]
    exact (h.enter hwaiting).expire rfl (Nat.le_refl _)

end Moves

section Steps

/-- A question that is put leaves the desk in order. -/
theorem Orderly.ask (h : d.Orderly timeoutMs) (q : Question) :
    (d.step (.ask q)).Orderly timeoutMs := by
  have hnumbered : (d.asked ++ [(⟨d.broker.nextNumber, q⟩ : Asked)]).map Asked.number =
      List.range (d.broker.nextNumber + 1) := by
    simp [h.numbered, List.range_succ]
  have htold : ∀ y ∈ d.broker.told,
      (∃ s ∈ d.sent, s.delivered = true ∧ y = (s.asked.number, s.answer)) ∨
        ∃ a ∈ d.asked ++ [⟨d.broker.nextNumber, q⟩], y = a.refusal := by
    intro y hy
    refine (h.told y hy).imp_right ?_
    rintro ⟨a, ha, hrefusal⟩
    exact ⟨a, List.mem_append_left _ ha, hrefusal⟩
  cases hreceived : d.broker.received with
  | true =>
    have hasked : Orderly timeoutMs
        { d with
          broker :=
            { d.broker with
              nextNumber := d.broker.nextNumber + 1
              waiting := d.broker.waiting ++ [⟨d.broker.nextNumber, q⟩] }
          asked := d.asked ++ [⟨d.broker.nextNumber, q⟩] } :=
      { h with
        numbered := hnumbered
        placed := by
          rw [List.range_succ]
          refine .trans ?_ (h.placed.append_right _)
          simp only [PromptBroker.places, List.map_append, List.map_cons, List.map_nil,
            List.append_assoc]
          rw [← List.append_assoc (d.broker.pending.map _)]
          exact .append_left _ (List.perm_append_singleton _ _).symm
        inLine := by
          rw [← List.append_assoc]
          exact h.inLine.append (List.Sublist.refl _)
        noneWaits := fun hclosed => absurd hclosed (by simp [hreceived])
        told := htold }
    have hstep := hasked.letIn
    simpa [step, PromptBroker.ask, hreceived, follow] using hstep
  | false =>
    have hfollow : d.step (.ask q) =
        { d with
          broker :=
            { d.broker with
              nextNumber := d.broker.nextNumber + 1
              told := d.broker.told ++ [Asked.refusal ⟨d.broker.nextNumber, q⟩] }
          asked := d.asked ++ [⟨d.broker.nextNumber, q⟩] } := by
      simp [step, PromptBroker.ask, hreceived, follow, PromptBroker.decline, PromptBroker.tell,
        Asked.refusal]
    rw [hfollow]
    exact { h with
      numbered := hnumbered
      placed := by
        rw [List.range_succ]
        refine .trans (.of_eq ?_) (h.placed.append_right _)
        simp [PromptBroker.places, Asked.refusal]
      inLine := h.inLine.trans (List.sublist_append_left ..)
      told := by
        intro y hy
        rcases List.mem_append.1 hy with hy | hy
        · exact htold y hy
        · exact .inr ⟨_, List.mem_append_right _ List.mem_cons_self, List.mem_singleton.1 hy⟩
      heard := fun s hs =>
        ⟨(h.heard s hs).1, List.Subset.trans (h.heard s hs).2 (List.subset_append_left ..)⟩ }

/-- A question that is taken out leaves the desk in order. -/
theorem Orderly.receive (h : d.Orderly timeoutMs) : (d.step .receive).Orderly timeoutMs := by
  cases hqueue : d.broker.queue with
  | nil => simpa [step, PromptBroker.receive, hqueue, follow] using h
  | cons a rest =>
    have hshown : (d.taken ++ [a]) ++ rest = d.taken ++ d.broker.queue := by simp [hqueue]
    have hplace (a' : Asked) :
        a' ∈ rest ∨ a' ∈ d.held ++ [a] ↔ a' ∈ d.broker.queue ∨ a' ∈ d.held := by
      simp only [hqueue, List.mem_append, List.mem_cons, List.not_mem_nil, or_false]
      tauto
    have hunused (s : Sent) (hs : s ∈ d.sent) : s.asked ≠ a := by
      rintro rfl
      exact List.disjoint_of_nodup_append h.shown_nodup (h.used s hs).1 (by simp [hqueue])
    obtain ⟨b, hb⟩ : ∃ b, b = { d.broker with queue := rest } := ⟨_, rfl⟩
    have htaken : Orderly timeoutMs
        { d with broker := b, taken := d.taken ++ [a], held := d.held ++ [a] } := by
      subst hb
      exact { h with
        shown := hshown ▸ h.shown
        allShown := fun hreceived => hshown ▸ h.allShown hreceived
        held := h.held.append (List.Sublist.refl _)
        waits := fun p hp => ⟨(hplace _).2 (h.waits p hp).1, (h.waits p hp).2⟩
        waited := fun a' t ht ha' => h.waited a' t ht ((hplace _).1 ha')
        used := fun s hs =>
          ⟨List.mem_append_left _ (h.used s hs).1, by simp [(h.used s hs).2, hunused s hs]⟩ }
    have hletIn := htaken.letIn
    have hgone : a ∉ b.letIn.queue := fun ha =>
      List.disjoint_of_nodup_append hletIn.shown_nodup (List.mem_append_right _ (by simp)) ha
    have hnew : b.letIn.queue.filter (· ∉ d.broker.queue) = b.letIn.queue.filter (· ∉ b.queue) := by
      refine List.filter_congr fun a' ha' => ?_
      have hne : a' ≠ a := fun hsame => hgone (hsame ▸ ha')
      simp [hb, hqueue, hne]
    have hreceive : d.broker.receive = (some a, b.letIn) := by
      simp only [PromptBroker.receive, hqueue, hb]
    simpa only [step, hreceive, follow, hnew, Option.toList_some] using hletIn

/-- What the calls wait for once some questions are gone. -/
theorem Orderly.left_waiting (h : d.Orderly timeoutMs) (gone queue held : List Asked)
    (hgone : ∀ a ∈ gone, a ∈ d.asked)
    (hplace : ∀ a, a ∈ queue ∨ a ∈ held ↔ (a ∈ d.broker.queue ∨ a ∈ d.held) ∧ a ∉ gone) :
    (∀ p ∈ d.broker.pending.filter fun p => p.asked.number ∉ gone.map Asked.number,
      (p.asked ∈ queue ∨ p.asked ∈ held) ∧
        ∃ t, (p.asked, t) ∈ d.entered ∧ p.deadline = t + timeoutMs) ∧
    ∀ a t, (a, t) ∈ d.entered → a ∈ queue ∨ a ∈ held → d.broker.now < t + timeoutMs →
      ⟨a, t + timeoutMs⟩ ∈
        d.broker.pending.filter fun p => p.asked.number ∉ gone.map Asked.number := by
  constructor
  · intro p hp
    obtain ⟨hp, hstays⟩ := List.mem_filter.1 hp
    obtain ⟨hold, htime⟩ := h.waits p hp
    refine ⟨(hplace _).2 ⟨hold, fun hmem => ?_⟩, htime⟩
    simp only [List.mem_map, not_exists, not_and, decide_eq_true_eq] at hstays
    exact hstays _ hmem rfl
  · intro a t ht ha hlt
    obtain ⟨hold, hstays⟩ := (hplace a).1 ha
    refine List.mem_filter.2 ⟨h.waited a t ht hold hlt, ?_⟩
    simp only [List.mem_map, not_exists, not_and, decide_eq_true_eq]
    intro a' ha' hnumber
    exact hstays (h.eq_of_number (hgone a' ha') (h.asked_of_entered ht) hnumber ▸ ha')

/-- What the calls wait for once a question that was held is gone. -/
theorem Orderly.left_of_held (h : d.Orderly timeoutMs) (ha : a ∈ d.held) :
    (∀ p ∈ d.broker.pending.filter fun p => p.asked.number ≠ a.number,
      (p.asked ∈ d.broker.queue ∨ p.asked ∈ d.held.erase a) ∧
        ∃ t, (p.asked, t) ∈ d.entered ∧ p.deadline = t + timeoutMs) ∧
    ∀ a' t, (a', t) ∈ d.entered → a' ∈ d.broker.queue ∨ a' ∈ d.held.erase a →
      d.broker.now < t + timeoutMs →
      ⟨a', t + timeoutMs⟩ ∈ d.broker.pending.filter fun p => p.asked.number ≠ a.number := by
  obtain ⟨t, ht⟩ := h.entered_of_shown (List.mem_append_left _ (h.held.subset ha))
  have hleft := h.left_waiting [a] d.broker.queue (d.held.erase a)
    (fun a' ha' => List.mem_singleton.1 ha' ▸ h.asked_of_entered ht) (fun a' => by
      rw [h.held_nodup.mem_erase_iff, List.mem_singleton]
      have := h.not_held_of_queue (a := a')
      by_cases hsame : a' = a
      · subst hsame
        simp [ha] at this ⊢
        exact this
      · simp [hsame])
  simpa using hleft

/-- What is sent into a slot leaves the desk in order. -/
theorem Orderly.send (h : d.Orderly timeoutMs) (hpunctual : d.broker.Punctual) (a : Asked)
    (x : Answer) : (d.step (.send a x)).Orderly timeoutMs := by
  by_cases hslot : a ∈ d.held ∧ a.question.takes x = true
  · have ha := hslot.1
    obtain ⟨hwaits, hwaited⟩ := h.left_of_held ha
    have hawaits := h.awaits_iff hpunctual (.inr ha)
    have hunused (s : Sent) (hs : s ∈ d.sent) : s.asked ≠ a := by
      rintro rfl
      exact (h.used s hs).2 ha
    have hstep : d.step (.send a x) =
        { d with
          broker := (d.broker.reply a.number x).2
          held := d.held.erase a
          sent := d.sent ++ [⟨a, x, d.broker.now, d.broker.awaits a.number,
            if d.broker.awaits a.number then [(a.number, x)] else []⟩] } := by
      have hqueue : (d.broker.reply a.number x).2.queue ⊆ d.broker.queue := by
        simp [PromptBroker.reply_eq]
      simp only [step, if_pos hslot, follow_eq d hqueue]
      simp [PromptBroker.reply_delivered, PromptBroker.reply_eq]
    have hplaced := (PromptBroker.places_reply h.places_nodup a.number x).trans h.placed
    rw [hstep]
    rw [PromptBroker.reply_eq] at hplaced ⊢
    exact { h with
      placed := hplaced
      held := List.erase_sublist.trans h.held
      waits := hwaits
      waited := hwaited
      told := by
        intro y hy
        rcases List.mem_append.1 hy with hy | hy
        · refine (h.told y hy).imp_left ?_
          rintro ⟨s, hs, hsent⟩
          exact ⟨s, List.mem_append_left _ hs, hsent⟩
        · refine .inl ⟨_, List.mem_append_right _ List.mem_cons_self, ?_⟩
          split at hy <;> simp_all
      used := by
        intro s hs
        rcases List.mem_append.1 hs with hs | hs
        · exact ⟨(h.used s hs).1, fun hmem => (h.used s hs).2 (List.mem_of_mem_erase hmem)⟩
        · obtain rfl := List.mem_singleton.1 hs
          exact ⟨h.held.subset ha, fun hmem => (h.held_nodup.mem_erase_iff.1 hmem).1 rfl⟩
      usedOnce := by
        rw [List.map_append, List.nodup_append]
        refine ⟨h.usedOnce, by simp, ?_⟩
        rintro a' ha' _ hlast rfl
        obtain ⟨s, hs, rfl⟩ := List.mem_map.1 ha'
        exact hunused s hs (by simpa using hlast)
      inTime := by
        intro s hs
        rcases List.mem_append.1 hs with hs | hs
        · exact h.inTime s hs
        · obtain rfl := List.mem_singleton.1 hs
          exact hawaits
      heard := by
        intro s hs
        rcases List.mem_append.1 hs with hs | hs
        · exact ⟨(h.heard s hs).1, List.Subset.trans (h.heard s hs).2 (List.subset_append_left ..)⟩
        · obtain rfl := List.mem_singleton.1 hs
          refine ⟨?_, List.subset_append_right ..⟩
          cases d.broker.awaits a.number <;> simp }
  · simpa only [step, if_neg hslot] using h

/-- A slot that is dropped leaves the desk in order. -/
theorem Orderly.drop (h : d.Orderly timeoutMs) (a : Asked) :
    (d.step (.drop a)).Orderly timeoutMs := by
  by_cases ha : a ∈ d.held
  · obtain ⟨hwaits, hwaited⟩ := h.left_of_held ha
    have hplaced := (PromptBroker.places_reply h.places_nodup a.number a.question.declined).trans
      h.placed
    rw [step, if_pos ha, PromptBroker.dropReply_eq, follow_eq d (by simp [PromptBroker.reply_eq])]
    rw [PromptBroker.reply_eq] at hplaced ⊢
    obtain ⟨t, ht⟩ := h.entered_of_shown (List.mem_append_left _ (h.held.subset ha))
    exact { h with
      placed := hplaced
      held := List.erase_sublist.trans h.held
      waits := hwaits
      waited := hwaited
      told := by
        intro y hy
        rcases List.mem_append.1 hy with hy | hy
        · exact h.told y hy
        · refine .inr ⟨a, h.asked_of_entered ht, ?_⟩
          split at hy <;> simp_all [Asked.refusal]
      used := fun s hs =>
        ⟨(h.used s hs).1, fun hmem => (h.used s hs).2 (List.mem_of_mem_erase hmem)⟩
      heard := fun s hs =>
        ⟨(h.heard s hs).1, List.Subset.trans (h.heard s hs).2 (List.subset_append_left ..)⟩ }
  · simpa only [step, if_neg ha] using h

/-- The end of the channel leaves the desk in order. -/
theorem Orderly.close (h : d.Orderly timeoutMs) : (d.step .close).Orderly timeoutMs := by
  obtain ⟨refused, hrefused, hclose⟩ := d.broker.close_eq
  have hasked : d.broker.waiting ++ d.broker.queue ⊆ d.asked := by
    refine List.append_subset.2 ⟨fun a ha => h.inLine.subset (List.mem_append_right _ ha), fun a ha => ?_⟩
    obtain ⟨t, ht⟩ := h.entered_of_shown (List.mem_append_right _ ha)
    exact h.asked_of_entered ht
  obtain ⟨hwaits, hwaited⟩ := h.left_waiting d.broker.queue [] d.held
    (fun a ha => hasked (List.mem_append_right _ ha)) (fun a => by
      have := h.not_held_of_queue (a := a)
      simp only [List.not_mem_nil, false_or]
      tauto)
  have hplaced := (PromptBroker.places_close h.places_nodup).trans h.placed
  rw [step, follow_eq d (by simp [hclose])]
  rw [hclose] at hplaced ⊢
  exact { h with
    placed := hplaced
    inLine := by
      rw [List.append_nil]
      exact (List.sublist_append_left ..).trans h.inLine
    shown := by
      rw [List.append_nil]
      exact (List.prefix_append ..).trans h.shown
    allShown := fun hreceived => Bool.noConfusion hreceived
    noneWaits := fun _ => rfl
    waits := hwaits
    waited := hwaited
    told := by
      intro y hy
      rcases List.mem_append.1 hy with hy | hy
      · exact h.told y hy
      · obtain ⟨a, ha, rfl⟩ := List.mem_map.1 hy
        exact .inr ⟨a, hasked (hrefused ha), rfl⟩
    heard := fun s hs =>
      ⟨(h.heard s hs).1, List.Subset.trans (h.heard s hs).2 (List.subset_append_left ..)⟩ }

/-- Time that passes leaves the desk in order. -/
theorem Orderly.advance (h : d.Orderly timeoutMs) (ms : Nat) :
    (d.step (.advance ms)).Orderly timeoutMs := by
  rw [step, PromptBroker.advance, follow_eq d (by simp [PromptBroker.expire_eq])]
  exact h.expire rfl (Nat.le_add_right ..)

/-- A desk in order stays in order, whatever either side does. -/
theorem Orderly.step (h : d.Orderly timeoutMs) (hpunctual : d.broker.Punctual) (e : Event) :
    (d.step e).Orderly timeoutMs ∧ (d.step e).broker.Punctual := by
  cases e with
  | ask q => exact ⟨h.ask q, hpunctual.ask q⟩
  | receive => exact ⟨h.receive, hpunctual.receive⟩
  | send a x =>
    refine ⟨h.send hpunctual a x, ?_⟩
    rw [Desk.step]
    split
    · exact hpunctual.reply a.number x
    · exact hpunctual
  | drop a =>
    refine ⟨h.drop a, ?_⟩
    rw [Desk.step]
    split
    · rw [PromptBroker.dropReply_eq]
      exact hpunctual.reply _ _
    · exact hpunctual
  | close => exact ⟨h.close, hpunctual.close⟩
  | advance ms => exact ⟨h.advance ms, PromptBroker.punctual_expire _⟩

end Steps

theorem orderly_ofCapacity (capacity timeoutMs : Nat) :
    (ofCapacity capacity timeoutMs).Orderly timeoutMs := by
  constructor <;> simp [ofCapacity, PromptBroker.ofCapacity, PromptBroker.places]

/-- A desk in order stays in order, and no call waits past its time. -/
theorem Orderly.run (h : d.Orderly timeoutMs) (hpunctual : d.broker.Punctual) (es : List Event) :
    (d.run es).Orderly timeoutMs ∧ (d.run es).broker.Punctual := by
  induction es generalizing d with
  | nil => exact ⟨h, hpunctual⟩
  | cons e es ih =>
    obtain ⟨horderly, hpunctual⟩ := h.step hpunctual e
    exact ih horderly hpunctual

/-- What calls are told, and what senders are. -/
structure FailClosed (timeoutMs : Nat) (d : Desk) : Prop where
  /-- Questions come into the channel in the order in which they were asked. -/
  inLine : (d.entered.map Prod.fst).Sublist d.asked
  /-- Questions are taken out in the order in which they came into the channel. -/
  inOrder : d.taken <+: d.entered.map Prod.fst
  /-- A host key is confirmed if and only if that was sent into the slot of this question, in
  time. -/
  confirmed : ∀ n q, ⟨n, .hostKey q⟩ ∈ d.asked →
    ((n, .verdict true) ∈ d.broker.told ↔ d.SentInTime timeoutMs ⟨n, .hostKey q⟩ (.verdict true))
  /-- Prompts are answered if and only if these answers were sent into the slot of this question,
  in time. -/
  answered : ∀ n p texts, ⟨n, .prompts p⟩ ∈ d.asked →
    ((n, .answers (some texts)) ∈ d.broker.told ↔
      d.SentInTime timeoutMs ⟨n, .prompts p⟩ (.answers (some texts)))
  /-- Whatever else a call is told is a refusal. -/
  refused : ∀ a ∈ d.asked, ∀ x, (a.number, x) ∈ d.broker.told →
    ¬ d.SentInTime timeoutMs a x → x = a.question.declined
  /-- A call is told something, unless its question waits for room or still has time left in the
  channel or in the hands of whoever took it out. -/
  settled : ∀ a ∈ d.asked, (∃ x, (a.number, x) ∈ d.broker.told) ↔ ¬ d.Open timeoutMs a
  once : (d.broker.told.map Prod.fst).Nodup
  /-- No slot is used twice. -/
  usedOnce : (d.sent.map Sent.asked).Nodup
  /-- A sender learns whether the call is told what was sent. -/
  delivered : ∀ s ∈ d.sent, s.delivered = true ↔ (s.asked.number, s.answer) ∈ s.heard
  /-- A call hears what is sent if and only if that is in time. -/
  heard : ∀ s ∈ d.sent, s.heard ⊆ d.broker.told ∧
    ((s.asked.number, s.answer) ∈ s.heard ↔ d.SentInTime timeoutMs s.asked s.answer)

namespace Orderly

variable (h : d.Orderly timeoutMs)
include h

/-- What was sent arrives exactly when it was sent into the right slot in time. -/
theorem delivered_iff {s : Sent} (hs : s ∈ d.sent) :
    s.delivered = true ↔ d.SentInTime timeoutMs s.asked s.answer := by
  constructor
  · intro hdelivered
    exact ⟨s, hs, rfl, rfl, (h.inTime s hs).1 hdelivered⟩
  · rintro ⟨s', hs', hasked, -, htime⟩
    obtain rfl := List.inj_on_of_nodup_map h.usedOnce hs' hs hasked
    exact (h.inTime s' hs').2 (hasked ▸ htime)

/-- What was sent in time is what the call is told. -/
theorem told_of_sent {x : Answer} (hsent : d.SentInTime timeoutMs a x) :
    (a.number, x) ∈ d.broker.told := by
  obtain ⟨s, hs, rfl, rfl, htime⟩ := hsent
  have hheard := (h.heard s hs).1.1 ((h.inTime s hs).2 htime)
  exact (h.heard s hs).2 hheard

/-- A call is told a refusal or what was sent in time into the slot of its question. -/
theorem sent_or_refused (ha : a ∈ d.asked) {x : Answer} (htold : (a.number, x) ∈ d.broker.told) :
    d.SentInTime timeoutMs a x ∨ x = a.question.declined := by
  rcases h.told _ htold with ⟨s, hs, hdelivered, hsame⟩ | ⟨a', ha', hsame⟩
  · obtain ⟨hnumber, rfl⟩ := Prod.mk.inj hsame
    obtain ⟨t, ht, hlt⟩ := (h.inTime s hs).1 hdelivered
    obtain rfl := h.eq_of_number ha (h.asked_of_entered ht) hnumber
    exact .inl ⟨s, hs, rfl, rfl, t, ht, hlt⟩
  · obtain ⟨hnumber, rfl⟩ := Prod.mk.inj hsame
    obtain rfl := h.eq_of_number ha ha' hnumber
    exact .inr rfl

/-- A call is told something other than a refusal exactly when that was sent in time. -/
theorem told_iff (ha : a ∈ d.asked) {x : Answer} (hx : x ≠ a.question.declined) :
    (a.number, x) ∈ d.broker.told ↔ d.SentInTime timeoutMs a x :=
  ⟨fun htold => (h.sent_or_refused ha htold).resolve_right hx, h.told_of_sent⟩

/-- A call waits for its reply as long as there is time left for one. -/
theorem waits_iff (hpunctual : d.broker.Punctual) (ha : a ∈ d.asked) :
    a.number ∈ d.broker.pending.map (·.asked.number) ↔
      (a ∈ d.broker.queue ∨ a ∈ d.held) ∧
        ∃ t, (a, t) ∈ d.entered ∧ d.broker.now < t + timeoutMs := by
  constructor
  · intro hmem
    obtain ⟨p, hp, hnumber⟩ := List.mem_map.1 hmem
    obtain ⟨hplace, t, ht, hdeadline⟩ := h.waits p hp
    obtain rfl := h.eq_of_number (h.asked_of_entered ht) ha hnumber
    exact ⟨hplace, t, ht, hdeadline ▸ hpunctual p hp⟩
  · rintro ⟨hplace, t, ht, hlt⟩
    exact List.mem_map.2 ⟨_, h.waited a t ht hplace hlt, rfl⟩

/-- A call has been told something exactly when it is not open any more. -/
theorem settled_iff (hpunctual : d.broker.Punctual) (ha : a ∈ d.asked) :
    (∃ x, (a.number, x) ∈ d.broker.told) ↔ ¬ d.Open timeoutMs a := by
  have hwaiting : a.number ∈ d.broker.waiting.map Asked.number ↔ a ∈ d.broker.waiting := by
    refine ⟨fun hmem => ?_, List.mem_map_of_mem⟩
    obtain ⟨a', ha', hnumber⟩ := List.mem_map.1 hmem
    exact h.eq_of_number (h.inLine.subset (List.mem_append_right _ ha')) ha hnumber ▸ ha'
  have htold : (∃ x, (a.number, x) ∈ d.broker.told) ↔ a.number ∈ d.broker.told.map Prod.fst := by
    simp
  have hplace : a.number ∈ d.broker.places := by
    rw [h.placed.mem_iff, ← h.numbered]
    exact List.mem_map_of_mem ha
  obtain ⟨-, hrest, hapart⟩ := List.nodup_append.1 h.places_nodup
  obtain ⟨-, -, hapart'⟩ := List.nodup_append.1 hrest
  rw [htold, Open, ← hwaiting, ← h.waits_iff hpunctual ha]
  constructor
  · rintro hmem (hwaits | hwaits)
    · exact hapart _ hwaits _ (List.mem_append_right _ hmem) rfl
    · exact hapart' _ hwaits _ hmem rfl
  · intro hopen
    simp only [PromptBroker.places, List.mem_append] at hplace
    tauto

theorem failClosed (hpunctual : d.broker.Punctual) : d.FailClosed timeoutMs where
  inLine := (List.sublist_append_left ..).trans h.inLine
  inOrder := (List.prefix_append ..).trans h.shown
  confirmed := fun n q ha => h.told_iff ha (by simp [Question.declined])
  answered := fun n p texts ha => h.told_iff ha (by simp [Question.declined])
  refused := fun a ha x htold hnot => (h.sent_or_refused ha htold).resolve_left hnot
  settled := fun a ha => h.settled_iff hpunctual ha
  once := (List.nodup_append.1 (List.nodup_append.1 h.places_nodup).2.1).2.1
  usedOnce := h.usedOnce
  delivered := fun s hs => (h.heard s hs).1
  heard := fun s hs =>
    ⟨(h.heard s hs).2, (h.heard s hs).1.symm.trans (h.delivered_iff hs)⟩

end Orderly

/-- Whatever askers and the side that owns the user do, a call is told something other than a
refusal if and only if that was sent into the slot of its own question, in time. -/
theorem failClosed_run (capacity timeoutMs : Nat) (es : List Event) :
    ((ofCapacity capacity timeoutMs).run es).FailClosed timeoutMs := by
  obtain ⟨horderly, hpunctual⟩ := (orderly_ofCapacity capacity timeoutMs).run
    (fun p hp => by simp [ofCapacity, PromptBroker.ofCapacity] at hp) es
  exact horderly.failClosed hpunctual

end Desk

end Multiplexer
