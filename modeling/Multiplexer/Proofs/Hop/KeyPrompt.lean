import Multiplexer.Proofs.Prompt.Verdict
import Multiplexer.Proofs.Trust.Verification
import Multiplexer.Rehearsal.HopTrial

/-!
# Host keys that the user is asked about

A handshake that meets an unknown key puts a question to the prompt desk and
waits. Two limits run meanwhile: the desk declines a question that has been in
the channel for the prompts' time, and the handshake gives up after its own time,
which began with it.

Whatever happens at the desk, a key that the user accepts in the prompts' time
makes the handshake if it is accepted in the time of the handshake too, and is of
no use to it otherwise.
-/

namespace Multiplexer

namespace Handshake

variable {h : Handshake} {now : Nat}

theorem finish_same (h : Handshake) (r : Except ConnectError Unit) :
    (h.finish r).hop = h.hop ∧ (h.finish r).deadline = h.deadline := by
  unfold finish
  split <;> exact ⟨rfl, rfl⟩

theorem expire_same (h : Handshake) (now : Nat) :
    (h.expire now).hop = h.hop ∧ (h.expire now).deadline = h.deadline := by
  unfold expire
  split
  · exact ⟨rfl, rfl⟩
  · exact finish_same ..

/-- A handshake goes on before its deadline. -/
theorem expire_of_lt (hnow : now < h.deadline) : h.expire now = h := if_pos hnow

/-- A handshake that has ended has no deadline any more. -/
theorem expire_of_ended {r : Except ConnectError Unit} (hstage : h.stage = .ended r) (now : Nat) :
    h.expire now = h := by
  unfold expire finish result?
  simp [hstage]

/-- A handshake that is open at its deadline times out. -/
theorem expire_of_open (hopen : h.result? = none) (hnow : h.deadline ≤ now) :
    h.expire now =
      { h with stage :=
          .ended (.error (.timeout ("Connection to " ++ h.hop.address ++ " timed out"))) } := by
  simp [expire, finish, hopen, Nat.not_lt.2 hnow]

variable {σ : Type} [Keyring σ]

theorem answer_same (h : Handshake) (accept : Bool) (moment : Instant) (freshId : String)
    (store : σ) : (h.answer accept moment freshId store).1.hop = h.hop ∧
      (h.answer accept moment freshId store).1.deadline = h.deadline := by
  unfold answer
  split
  · exact finish_same ..
  · exact ⟨rfl, rfl⟩

theorem answer_of_ended {r : Except ConnectError Unit} (hstage : h.stage = .ended r) (accept : Bool)
    (moment : Instant) (freshId : String) (store : σ) :
    h.answer accept moment freshId store = (h, store) := by
  simp only [answer, hstage]

/-- The answer of the user settles a handshake that asks. -/
theorem answer_of_asking {i : Inquiry} (hstage : h.stage = .asking i) (accept : Bool)
    (moment : Instant) (freshId : String) (store : σ) :
    h.answer accept moment freshId store =
      ({ h with stage := .ended (i.answer accept moment freshId store).1 },
        (i.answer accept moment freshId store).2) := by
  simp only [answer, hstage, finish, result?]
  rfl

/-- A handshake that comes to ask about a key has done nothing before. -/
theorem hearKey_asking {algorithm : String} {rawKey : List UInt8} {moment : Instant} {store : σ}
    {i : Inquiry} (hgreets : ∀ j, h.stage ≠ .asking j)
    (hasks : (h.hearKey algorithm rawKey moment store).1.stage = .asking i) :
    h.stage = .greeting ∧
      (h.hearKey algorithm rawKey moment store).1 = { h with stage := .asking i } := by
  unfold hearKey at hasks ⊢
  cases hstage : h.stage with
  | greeting =>
    have hopen : h.result? = none := by simp only [result?, hstage]
    rw [hstage] at hasks
    rcases hcheck : (h.keyOf algorithm rawKey).check moment store with ⟨r | inquiry, store'⟩
    · simp [hcheck, finish, hopen] at hasks
    · simp only [hcheck] at hasks ⊢
      exact ⟨trivial, by rw [hasks]⟩
  | asking j => exact absurd hstage (hgreets j)
  | ended r =>
    simp only [hstage] at hasks
    cases hasks

end Handshake

/-- A handshake that asks about a key, and the desk that its call is at. -/
structure KeyPrompt (σ : Type) where
  handshake : Handshake
  desk : Desk
  call : Asked
  store : σ

namespace KeyPrompt

variable {σ : Type} [Keyring σ] (clock : Nat → Instant) (freshId : String)

def heed (p : KeyPrompt σ) : KeyPrompt σ :=
  let handshake := p.handshake.expire p.desk.broker.now
  match p.desk.verdict? p.call with
  | some accept =>
    let (handshake, store) := handshake.answer accept (clock p.desk.broker.now) freshId p.store
    { p with handshake, store }
  | none => { p with handshake }

def act (p : KeyPrompt σ) (e : Desk.Event) : KeyPrompt σ :=
  heed clock freshId { p with desk := p.desk.step e }

/-- Something happens at the desk. Time passes by the millisecond, so that the earlier one of two
limits comes first. -/
def step (p : KeyPrompt σ) : Desk.Event → KeyPrompt σ
  | .advance ms => (fun p => act clock freshId p (.advance 1))^[ms] p
  | e => act clock freshId p e

def run (p : KeyPrompt σ) (es : List Desk.Event) : KeyPrompt σ := es.foldl (step clock freshId) p

def ask (h : Handshake) (i : Inquiry) (d : Desk) (store : σ) : KeyPrompt σ :=
  act clock freshId ⟨h, d, ⟨d.broker.nextNumber, .hostKey i.question⟩, store⟩
    (.ask (.hostKey i.question))

/-! ## How a handshake stands -/

/-- How a handshake stands that began to ask with a store, about an inquiry and up to a deadline. -/
inductive Standing (hop : Hop) (deadline : Nat) (i : Inquiry) (store : σ) (p : KeyPrompt σ) : Prop
  | waiting (stage : p.handshake.stage = .asking i) (same : p.store = store)
      (untold : ∀ x, (p.call.number, x) ∉ p.desk.broker.told)
      (early : p.desk.broker.now < deadline)
  | lapsed (stage : p.handshake.stage =
        .ended (.error (.timeout ("Connection to " ++ hop.address ++ " timed out"))))
      (late : deadline ≤ p.desk.broker.now)
      (sent : ∀ s ∈ p.desk.sent, s.asked = p.call → s.delivered = true → deadline ≤ s.time)
  | accepted (s : Sent) (sent : s ∈ p.desk.sent) (asked : s.asked = p.call)
      (early : s.time < deadline)
      (stage : p.handshake.stage = .ended (i.answer true (clock s.time) freshId store).1)
      (saved : p.store = (i.answer true (clock s.time) freshId store).2)
  | declined (r : Except ConnectError Unit) (stage : p.handshake.stage = .ended r) (x : Answer)
      (told : (p.call.number, x) ∈ p.desk.broker.told) (refused : x ≠ .verdict true)

structure Kept (timeoutMs : Nat) (hop : Hop) (deadline : Nat) (i : Inquiry) (store : σ)
    (p : KeyPrompt σ) : Prop where
  orderly : p.desk.Orderly timeoutMs
  punctual : p.desk.broker.Punctual
  hop_eq : p.handshake.hop = hop
  deadline_eq : p.handshake.deadline = deadline
  call : p.call ∈ p.desk.asked
  question : p.call.question = .hostKey i.question
  standing : Standing clock freshId hop deadline i store p

variable {clock freshId} {timeoutMs deadline : Nat} {hop : Hop} {i : Inquiry} {store : σ}
  {p : KeyPrompt σ}

theorem act_of_ended {r : Except ConnectError Unit} (h : p.handshake.stage = .ended r)
    (e : Desk.Event) : act clock freshId p e = { p with desk := p.desk.step e } := by
  simp only [act, heed, Handshake.expire_of_ended h]
  cases (p.desk.step e).verdict? p.call with
  | none => rfl
  | some accept => simp only [Handshake.answer_of_ended h]

/-- At its deadline a handshake gives up, whatever happens at the desk. -/
theorem act_of_late {e : Desk.Event} (h : p.handshake.stage = .asking i)
    (hnow : p.handshake.deadline ≤ (p.desk.step e).broker.now) :
    act clock freshId p e =
      { p with
        desk := p.desk.step e
        handshake := { p.handshake with stage := .ended (.error (.timeout
          ("Connection to " ++ p.handshake.hop.address ++ " timed out"))) } } := by
  have hopen : p.handshake.result? = none := by simp only [Handshake.result?, h]
  simp only [act, heed, Handshake.expire_of_open hopen hnow]
  cases (p.desk.step e).verdict? p.call with
  | none => rfl
  | some accept => rfl

/-- Before its deadline a handshake goes on when its call is told, and not otherwise. -/
theorem act_of_early {e : Desk.Event} (h : p.handshake.stage = .asking i)
    (hnow : (p.desk.step e).broker.now < p.handshake.deadline) :
    act clock freshId p e =
      match (p.desk.step e).verdict? p.call with
      | some accept =>
        let (r, store) := i.answer accept (clock (p.desk.step e).broker.now) freshId p.store
        ⟨{ p.handshake with stage := .ended r }, p.desk.step e, p.call, store⟩
      | none => { p with desk := p.desk.step e } := by
  simp only [act, heed, Handshake.expire_of_lt hnow]
  cases (p.desk.step e).verdict? p.call with
  | none => rfl
  | some accept => simp only [Handshake.answer_of_asking h]

variable (clock freshId) in
theorem act_same (p : KeyPrompt σ) (e : Desk.Event) :
    (act clock freshId p e).desk = p.desk.step e ∧ (act clock freshId p e).call = p.call ∧
      (act clock freshId p e).handshake.hop = p.handshake.hop ∧
      (act clock freshId p e).handshake.deadline = p.handshake.deadline := by
  obtain ⟨hhop, hdeadline⟩ := p.handshake.expire_same (p.desk.step e).broker.now
  unfold act heed
  cases (p.desk.step e).verdict? p.call with
  | none => exact ⟨rfl, rfl, hhop, hdeadline⟩
  | some accept =>
    obtain ⟨hhop', hdeadline'⟩ := (p.handshake.expire (p.desk.step e).broker.now).answer_same
      accept (clock (p.desk.step e).broker.now) freshId p.store
    exact ⟨rfl, rfl, hhop'.trans hhop, hdeadline'.trans hdeadline⟩

/-- What a handshake stands by stays, once it has ended. -/
theorem Standing.act_of_ended (h : Standing clock freshId hop deadline i store p)
    {r : Except ConnectError Unit} (hended : p.handshake.stage = .ended r) (e : Desk.Event) :
    Standing clock freshId hop deadline i store (act clock freshId p e) := by
  obtain ⟨htold, hnow⟩ := (p.desk.moves_step e).grows
  obtain ⟨hkept, hsent⟩ := p.desk.sent_step e
  rw [KeyPrompt.act_of_ended hended]
  cases h with
  | waiting stage => cases hended.symm.trans stage
  | lapsed stage late sent =>
    refine .lapsed stage (Nat.le_trans late hnow) fun s hs hasked hdelivered => ?_
    rcases hsent s hs with hs | ⟨htime, -⟩
    · exact sent s hs hasked hdelivered
    · rw [htime]
      exact late
  | accepted s sent asked early stage saved =>
    exact .accepted s (hkept sent) asked early stage saved
  | declined r stage x told refused => exact .declined r stage x (htold told) refused

/-- A handshake that waits goes on waiting, gives up, or takes what its call is told. -/
theorem standing_act_of_asking {e : Desk.Event} (h : p.desk.Orderly timeoutMs)
    (h' : (p.desk.step e).Orderly timeoutMs) (hcall : p.call ∈ (p.desk.step e).asked)
    (hquestion : p.call.question = .hostKey i.question) (hstage : p.handshake.stage = .asking i)
    (hsame : p.store = store) (huntold : ∀ x, (p.call.number, x) ∉ p.desk.broker.told)
    (hhop : p.handshake.hop = hop) (hdeadline : p.handshake.deadline = deadline)
    (hearly : p.desk.broker.now < deadline) :
    Standing clock freshId hop deadline i store (act clock freshId p e) := by
  subst hhop hdeadline hsame
  obtain ⟨-, hnew⟩ := p.desk.sent_step e
  have hundelivered : ∀ s ∈ p.desk.sent, s.asked = p.call → s.delivered = false := by
    intro s hs hasked
    by_contra hdelivered
    exact huntold s.answer (hasked ▸ h.told_of_delivered hs (by simpa using hdelivered))
  rcases Nat.lt_or_ge (p.desk.step e).broker.now p.handshake.deadline with hlt | hge
  · rw [act_of_early hstage hlt]
    cases hverdict : (p.desk.step e).verdict? p.call with
    | none => exact .waiting hstage rfl (Desk.verdict?_eq_none.1 hverdict) hlt
    | some accept =>
      obtain ⟨x, hx, haccept⟩ := Desk.of_verdict? hverdict
      cases accept with
      | false => exact .declined _ rfl x hx fun hyes => by simpa using haccept.2 hyes
      | true =>
        obtain rfl := haccept.1 rfl
        have hsent := (h'.told_iff hcall (by simp [hquestion, Question.declined])).1 hx
        obtain ⟨s, hs, hasked, hanswer, htime⟩ := hsent
        have hdelivered : s.delivered = true := (h'.inTime s hs).2 (hasked ▸ htime)
        rcases hnew s hs with hold | ⟨hnow, hstill⟩
        · exact absurd hdelivered (by simp [hundelivered s hold hasked])
        · have hclock : s.time = (p.desk.step e).broker.now := hnow.trans hstill.symm
          refine .accepted s hs hasked (hclock ▸ hlt) ?_ ?_ <;> rw [hclock]
  · rw [act_of_late hstage hge]
    refine .lapsed rfl hge fun s hs hasked hdelivered => ?_
    rcases hnew s hs with hold | ⟨-, hstill⟩
    · exact absurd hdelivered (by simp [hundelivered s hold hasked])
    · exact absurd hearly (by omega)

/-- What happens at the desk in a moment leaves a handshake as it must stand. -/
theorem Kept.act (h : Kept clock freshId timeoutMs hop deadline i store p) (e : Desk.Event) :
    Kept clock freshId timeoutMs hop deadline i store (act clock freshId p e) := by
  obtain ⟨h', hpunctual⟩ := h.orderly.step h.punctual e
  obtain ⟨hdesk, hsame, hhop, hdeadline⟩ := act_same clock freshId p e
  have hcall : p.call ∈ (p.desk.step e).asked := p.desk.asked_step e h.call
  exact {
    orderly := hdesk ▸ h'
    punctual := hdesk ▸ hpunctual
    hop_eq := hhop.trans h.hop_eq
    deadline_eq := hdeadline.trans h.deadline_eq
    call := by rwa [hdesk, hsame]
    question := hsame ▸ h.question
    standing := by
      cases h.standing with
      | waiting stage same untold early =>
        exact standing_act_of_asking h.orderly h' hcall h.question stage same untold h.hop_eq
          h.deadline_eq early
      | lapsed stage => exact h.standing.act_of_ended stage e
      | accepted _ _ _ _ stage => exact h.standing.act_of_ended stage e
      | declined _ stage => exact h.standing.act_of_ended stage e }

theorem Kept.step (h : Kept clock freshId timeoutMs hop deadline i store p) (e : Desk.Event) :
    Kept clock freshId timeoutMs hop deadline i store (step clock freshId p e) := by
  cases e with
  | advance ms =>
    change Kept clock freshId timeoutMs hop deadline i store
      ((fun p => KeyPrompt.act clock freshId p (.advance 1))^[ms] p)
    induction ms generalizing p with
    | zero => exact h
    | succ ms ih => exact ih (h.act (.advance 1))
  | ask q => exact h.act _
  | receive => exact h.act _
  | send a x => exact h.act _
  | drop a => exact h.act _
  | close => exact h.act _

/-- A handshake stands as it must at all times. -/
theorem Kept.run (h : Kept clock freshId timeoutMs hop deadline i store p) (es : List Desk.Event) :
    Kept clock freshId timeoutMs hop deadline i store (run clock freshId p es) := by
  induction es generalizing p with
  | nil => exact h
  | cons e es ih => exact ih (h.step e)

/-- A handshake that asks in its time is kept from then on. -/
theorem kept_ask {h : Handshake} {d : Desk} (horderly : d.Orderly timeoutMs)
    (hpunctual : d.broker.Punctual) (hstage : h.stage = .asking i) (hhop : h.hop = hop)
    (hdeadline : h.deadline = deadline) (hearly : d.broker.now < deadline) :
    Kept clock freshId timeoutMs hop deadline i store (ask clock freshId h i d store) := by
  obtain ⟨h', hpunctual'⟩ := horderly.step hpunctual (.ask (.hostKey i.question))
  have hcall : (⟨d.broker.nextNumber, .hostKey i.question⟩ : Asked) ∈
      (d.step (.ask (.hostKey i.question))).asked :=
    List.mem_append_right _ List.mem_cons_self
  have huntold : ∀ x, (d.broker.nextNumber, x) ∉ d.broker.told := by
    intro x hx
    have hplace : d.broker.nextNumber ∈ d.broker.places :=
      List.mem_append_right _ (List.mem_append_right _ (List.mem_map_of_mem hx))
    rw [horderly.placed.mem_iff] at hplace
    exact absurd (List.mem_range.1 hplace) (Nat.lt_irrefl _)
  obtain ⟨hdesk, hsame, hhop', hdeadline'⟩ := act_same clock freshId
    ⟨h, d, ⟨d.broker.nextNumber, .hostKey i.question⟩, store⟩ (.ask (.hostKey i.question))
  exact {
    orderly := hdesk ▸ h'
    punctual := hdesk ▸ hpunctual'
    hop_eq := hhop'.trans hhop
    deadline_eq := hdeadline'.trans hdeadline
    call := by
      rw [ask, hdesk, hsame]
      exact hcall
    question := by rw [ask, hsame]
    standing :=
      standing_act_of_asking horderly h' hcall rfl hstage rfl huntold hhop hdeadline hearly }

variable (clock freshId) in
theorem desk_step (p : KeyPrompt σ) (e : Desk.Event) :
    (step clock freshId p e).desk = p.desk.run e.ticks ∧
      (step clock freshId p e).call = p.call := by
  cases e with
  | advance ms =>
    change ((fun p => act clock freshId p (.advance 1))^[ms] p).desk =
      p.desk.run (List.replicate ms (.advance 1)) ∧
        ((fun p => act clock freshId p (.advance 1))^[ms] p).call = p.call
    induction ms generalizing p with
    | zero => exact ⟨rfl, rfl⟩
    | succ ms ih =>
      obtain ⟨hdesk, hcall, -⟩ := act_same clock freshId p (.advance 1)
      obtain ⟨hdesk', hcall'⟩ := ih (act clock freshId p (.advance 1))
      rw [hdesk] at hdesk'
      exact ⟨hdesk', hcall'.trans hcall⟩
  | ask q | receive | send a x | drop a | close =>
    exact ⟨(act_same clock freshId p _).1, (act_same clock freshId p _).2.1⟩

variable (clock freshId) in
/-- The desk does not see the handshake: it does what it would do alone. -/
theorem desk_run (p : KeyPrompt σ) (es : List Desk.Event) :
    (run clock freshId p es).desk = p.desk.run (es.flatMap Desk.Event.ticks) ∧
      (run clock freshId p es).call = p.call := by
  induction es generalizing p with
  | nil => exact ⟨rfl, rfl⟩
  | cons e es ih =>
    obtain ⟨hdesk, hcall⟩ := desk_step clock freshId p e
    obtain ⟨hdesk', hcall'⟩ := ih (step clock freshId p e)
    refine ⟨?_, hcall'.trans hcall⟩
    rw [List.flatMap_cons, Desk.run_append, ← hdesk]
    exact hdesk'

variable (clock freshId) in
theorem desk_run_ask (h : Handshake) (i : Inquiry) (d : Desk) (store : σ) (es : List Desk.Event) :
    (run clock freshId (ask clock freshId h i d store) es).desk =
        d.run (.ask (.hostKey i.question) :: es.flatMap Desk.Event.ticks) ∧
      (run clock freshId (ask clock freshId h i d store) es).call =
        ⟨d.broker.nextNumber, .hostKey i.question⟩ := by
  obtain ⟨hdesk, hcall⟩ := desk_run clock freshId
    (ask clock freshId h i d store) es
  obtain ⟨hdesk', hcall', -⟩ := act_same clock freshId
    ⟨h, d, ⟨d.broker.nextNumber, .hostKey i.question⟩, store⟩ (.ask (.hostKey i.question))
  exact ⟨hdesk.trans (congrArg (Desk.run · _) hdesk'), hcall.trans hcall'⟩

/-! ## Rehearsed handshakes -/

/-- An idle desk passes on the answer to its only question. -/
theorem run_idle {timeoutMs : Nat} (hpos : 0 < timeoutMs) (h : Handshake) (now : Nat)
    (hstage : h.stage = .asking i) (hearly : now < h.deadline) (accept : Bool) :
    (run clock freshId (ask clock freshId h i (Desk.idle timeoutMs now) store)
      [.receive, .send ⟨0, .hostKey i.question⟩ (.verdict accept)]).handshake =
      { h with stage := .ended (i.answer accept (clock now) freshId store).1 } := by
  let a : Asked := ⟨0, .hostKey i.question⟩
  let p (d : Desk) : KeyPrompt σ := ⟨h, d, a, store⟩
  have hask : ask clock freshId h i (Desk.idle timeoutMs now) store =
      p ((Desk.idle timeoutMs now).step (.ask a.question)) := by
    change act clock freshId (p (Desk.idle timeoutMs now)) (.ask a.question) = _
    rw [act_of_early hstage (by simpa [p, Desk.step_ask_idle hpos] using hearly)]
    simp [p, Desk.step_ask_idle hpos, Desk.verdict?]
  have hreceive : act clock freshId (p ((Desk.idle timeoutMs now).step (.ask a.question)))
      .receive = p (Desk.idleAsked timeoutMs now now a) := by
    have hdesk := Desk.step_receive_idle hpos now a.question
    rw [act_of_early hstage (by simpa [p, hdesk, Desk.idleAsked] using hearly)]
    simp [p, hdesk, Desk.idleAsked, Desk.verdict?, a]
  have hsend : act clock freshId (p (Desk.idleAsked timeoutMs now now a))
      (.send a (.verdict accept)) =
      { p ((Desk.idleAsked timeoutMs now now a).step (.send a (.verdict accept))) with
        handshake := { h with stage := .ended (i.answer accept (clock now) freshId store).1 }
        store := (i.answer accept (clock now) freshId store).2 } := by
    obtain ⟨-, -, hnow, htold⟩ :=
      Desk.step_send_idle timeoutMs now now (a := a) (x := .verdict accept) rfl
    rw [act_of_early hstage (by simpa [p, hnow] using hearly)]
    simp [p, hnow, htold, Desk.verdict?]
  simp only [run, List.foldl_cons, List.foldl_nil, step]
  rw [hask, hreceive, hsend]

/-- A rehearsed user decides about a key at once, and nobody else is asked meanwhile. -/
theorem present_eq {timeoutMs : Nat} (hpos : 0 < timeoutMs) (h : Handshake) (i : Inquiry)
    (s : Rehearsal.HopScene) (hgreets : h.stage = .greeting) (hearly : s.now < h.deadline)
    (hasks : (h.hearKey Rehearsal.serverAlgorithm Rehearsal.serverKey (Rehearsal.moment s.now)
      s.trust).1.stage = .asking i) :
    let g := h.hearKey Rehearsal.serverAlgorithm Rehearsal.serverKey (Rehearsal.moment s.now)
      s.trust
    ((Rehearsal.HopScene.present h).run s).1 =
      (run Rehearsal.moment (Rehearsal.recordId 0)
        (ask Rehearsal.moment (Rehearsal.recordId 0) g.1 i (Desk.idle timeoutMs s.now) g.2)
        [.receive, .send ⟨0, .hostKey i.question⟩ (.verdict s.accept)]).handshake := by
  intro g
  have hhop : g.1 = { h with stage := .asking i } :=
    (Handshake.hearKey_asking (by simp [hgreets]) hasks).2
  rw [run_idle hpos g.1 s.now hasks (by rw [hhop]; exact hearly)]
  rcases hhear : h.hearKey Rehearsal.serverAlgorithm Rehearsal.serverKey (Rehearsal.moment s.now)
    s.trust with ⟨h', trust⟩
  have hstage : h'.stage = .asking i := by rw [hhear] at hasks; exact hasks
  simp [Rehearsal.HopScene.present, hhear, hstage, Rehearsal.HopScene.log, g,
    Handshake.answer_of_asking hstage]
  rfl

/-! ## What comes of an accepted key -/

def greet (clock : Nat → Instant) (settings : ConnectSettings) (hop : Hop) (d : Desk)
    (algorithm : String) (rawKey : List UInt8) (store : σ) : Handshake × σ :=
  ((Handshake.begin settings hop d.broker.now).expire d.broker.now).hearKey algorithm rawKey
    (clock d.broker.now) store

/-- A handshake that comes to ask does so in its time. -/
theorem greet_asking {settings : ConnectSettings} {d : Desk} {algorithm : String}
    {rawKey : List UInt8}
    (h : (greet clock settings hop d algorithm rawKey store).1.stage = .asking i) :
    (greet clock settings hop d algorithm rawKey store).1 =
        ⟨hop, d.broker.now + settings.timeoutSecs * 1000, .asking i⟩ ∧
      d.broker.now < d.broker.now + settings.timeoutSecs * 1000 := by
  unfold greet at h ⊢
  have hopen : (Handshake.begin settings hop d.broker.now).result? = none := rfl
  rcases Nat.lt_or_ge d.broker.now (Handshake.begin settings hop d.broker.now).deadline with
    hlt | hge
  · rw [Handshake.expire_of_lt hlt] at h ⊢
    exact ⟨(Handshake.hearKey_asking (by simp [Handshake.begin]) h).2, hlt⟩
  · rw [Handshake.expire_of_open hopen hge] at h
    cases (Handshake.hearKey_asking (by simp) h).1

/-- How a handshake with a hop has come out whose user has sent a yes to the desk in the prompts'
time. -/
structure Outcome (clock : Nat → Instant) (freshId : String) (settings : ConnectSettings)
    (hop : Hop) (start : Desk) (i : Inquiry) (store : σ) (s : Sent) (p : KeyPrompt σ) : Prop where
  /-- If the handshake still waits, the key is stored, and it goes on if it could be. -/
  admitted : s.time < start.broker.now + settings.timeoutSecs * 1000 →
    (Keyring.upsert (i.accepted (clock s.time) freshId) store).1 = .ok () →
    p.handshake.stage = .ended (.ok ()) ∧
      p.store = (Keyring.upsert (i.accepted (clock s.time) freshId) store).2
  unsaved : s.time < start.broker.now + settings.timeoutSecs * 1000 →
    ∀ e, (Keyring.upsert (i.accepted (clock s.time) freshId) store).1 = .error e →
      p.handshake.stage = .ended (.error (.trustStore e.message))
  /-- The handshake does not wait longer than its own time for the user, either. -/
  late : start.broker.now + settings.timeoutSecs * 1000 ≤ s.time →
    p.handshake.stage =
      .ended (.error (.timeout ("Connection to " ++ hop.address ++ " timed out")))
  /-- A yes is never too late if the channel had room and prompts have no more time than a
  handshake. -/
  unhurried : start.broker.full = false → settings.promptTimeoutSecs ≤ settings.timeoutSecs →
    ∀ reason, p.handshake.stage ≠ .ended (.error (.timeout reason))

/-- A yes that was sent in the prompts' time decides the handshake by its own deadline. -/
theorem Kept.outcome {settings : ConnectSettings} {start : Desk} {s : Sent}
    (h : Kept clock freshId timeoutMs hop (start.broker.now + settings.timeoutSecs * 1000) i store
      p)
    (hs : s ∈ p.desk.sent) (hasked : s.asked = p.call) (hanswer : s.answer = .verdict true)
    (hdelivered : s.delivered = true)
    (hroom : start.broker.full = false →
      s.time < start.broker.now + settings.promptTimeoutSecs * 1000) :
    Outcome clock freshId settings hop start i store s p := by
  have htold : (p.call.number, .verdict true) ∈ p.desk.broker.told := by
    have htold := h.orderly.told_of_delivered hs hdelivered
    rwa [hasked, hanswer] at htold
  cases h.standing with
  | waiting stage same untold early => exact absurd htold (untold _)
  | declined r stage x told refused =>
    have hsame := List.inj_on_of_nodup_map (h.orderly.failClosed h.punctual).once told htold rfl
    exact absurd (Prod.mk.inj hsame).2 refused
  | lapsed stage late sent =>
    have hlate := sent s hs hasked hdelivered
    exact {
      admitted := fun hearly => absurd hearly (by omega)
      unsaved := fun hearly => absurd hearly (by omega)
      late := fun _ => stage
      unhurried := fun hfull hlimits => absurd (hroom hfull) (by omega) }
  | accepted s' sent asked early stage saved =>
    obtain rfl : s' = s :=
      List.inj_on_of_nodup_map h.orderly.usedOnce sent hs (asked.trans hasked.symm)
    exact {
      admitted := by
        intro _ hok
        rw [Inquiry.answer_accepted_of_ok _ _ hok] at stage saved
        exact ⟨stage, saved⟩
      unsaved := by
        intro _ e hrefused
        rw [Inquiry.answer_accepted_of_error _ _ hrefused] at stage
        exact stage
      late := fun hlate => absurd early (by omega)
      unhurried := by
        intro _ _ reason hstage
        cases hsave : (Keyring.upsert (i.accepted (clock s'.time) freshId) store).1 with
        | ok u =>
          rw [Inquiry.answer_accepted_of_ok _ _ hsave] at stage
          cases hstage.symm.trans stage
        | error e =>
          rw [Inquiry.answer_accepted_of_error _ _ hsave] at stage
          cases hstage.symm.trans stage }

/-- Whatever happens at the desk, a key that the user accepts in the prompts' time is stored and
makes the handshake if it is accepted in the time of the handshake as well, and else the handshake
has timed out. -/
theorem outcome_of_accepted {σ : Type} [Keyring σ] (clock : Nat → Instant) (freshId : String)
    (settings : ConnectSettings) (hop : Hop) (capacity : Nat) (before after : List Desk.Event)
    (algorithm : String) (rawKey : List UInt8) (store : σ) (i : Inquiry) :
    let d := (Desk.ofCapacity capacity (settings.promptTimeoutSecs * 1000)).run before
    let g := greet clock settings hop d algorithm rawKey store
    let p := run clock freshId (ask clock freshId g.1 i d g.2) after
    g.1.stage = .asking i → ∀ s ∈ p.desk.sent, s.asked = p.call → s.answer = .verdict true →
      ∀ t, (p.call, t) ∈ p.desk.entered → s.time < t + settings.promptTimeoutSecs * 1000 →
        Outcome clock freshId settings hop d i g.2 s p := by
  intro d g p hstage s hs hasked hanswer t ht hlt
  obtain ⟨hstart, hearly⟩ := greet_asking hstage
  obtain ⟨horderly, hpunctual⟩ := (Desk.orderly_ofCapacity capacity _).run
    (fun p hp => by simp [Desk.ofCapacity, PromptBroker.ofCapacity] at hp) before
  have hkept : Kept clock freshId (settings.promptTimeoutSecs * 1000) hop
      (d.broker.now + settings.timeoutSecs * 1000) i g.2 p :=
    (kept_ask horderly hpunctual hstage (congrArg Handshake.hop hstart)
      (congrArg Handshake.deadline hstart) hearly).run after
  have hdelivered : s.delivered = true := (hkept.orderly.inTime s hs).2 ⟨t, hasked ▸ ht, hlt⟩
  refine hkept.outcome hs hasked hanswer hdelivered fun hroom => ?_
  obtain ⟨hdesk, hcall⟩ := desk_run_ask clock freshId g.1 i d g.2 after
  have hfilled : d.broker.Filled := Desk.filled_run (Desk.filled_ofCapacity ..) before
  obtain ⟨-, hat⟩ := Desk.entered_at_once horderly hfilled hroom (.hostKey i.question)
    (after.flatMap Desk.Event.ticks)
  rw [hcall, hdesk] at ht
  exact hat t ht ▸ hlt

/-! ### A host that is not known -/

def web : Hop :=
  { hostId := "w", hostname := "w.internal", username := "ops", auth := .keyboardInteractive }

def webInquiry : Inquiry := (⟨"w", "w.internal", 22, "ssh-rsa", [1]⟩ : PresentedKey).inquiry none

def webDesk : Desk := Desk.ofCapacity 1 (({} : ConnectSettings).promptTimeoutSecs * 1000)

def webGreet : Handshake × TrustStore :=
  greet (fun _ => Vetting.dayOne) {} web webDesk "ssh-rsa" [1] {}

def webSent (ms : Nat) : Sent :=
  ⟨⟨0, .hostKey webInquiry.question⟩, .verdict true, ms, true, [(0, .verdict true)]⟩

/-- The key of a host that is not known is accepted after so many milliseconds. -/
def webYes (ms : Nat) : KeyPrompt TrustStore :=
  run (fun _ => Vetting.dayOne) "a"
    (ask (fun _ => Vetting.dayOne) "a" webGreet.1 webInquiry webDesk webGreet.2)
    [.receive, .advance ms, .send (webSent ms).asked (.verdict true)]

theorem webGreet_stage : webGreet.1.stage = .asking webInquiry := rfl

theorem webYes_kept (ms : Nat) : Kept (fun _ => Vetting.dayOne) "a" 60000 web 30000 webInquiry
    webGreet.2 (webYes ms) := by
  have hempty : webDesk.broker.Punctual := fun p hp => by
    simp [webDesk, Desk.ofCapacity, PromptBroker.ofCapacity] at hp
  exact (kept_ask (Desk.orderly_ofCapacity 1 60000) hempty webGreet_stage rfl rfl (by decide)).run _

theorem webYes_sent {ms : Nat} (hms : ms < 60000) :
    webSent ms ∈ (webYes ms).desk.sent ∧ (webSent ms).asked = (webYes ms).call ∧
      ((webYes ms).call, 0) ∈ (webYes ms).desk.entered := by
  obtain ⟨hdesk, hcall⟩ := desk_run_ask (fun _ => Vetting.dayOne) "a"
    webGreet.1 webInquiry webDesk webGreet.2
    [.receive, .advance ms, .send (webSent ms).asked (.verdict true)]
  obtain ⟨hsent, hentered⟩ := Desk.run_of_yes hms webInquiry.question
  refine ⟨?_, hcall.symm, ?_⟩
  · rw [webYes, hdesk]
    exact hsent ▸ List.mem_singleton_self _
  · rw [webYes, hdesk, hcall]
    exact hentered ▸ List.mem_singleton_self _

/-- A yes after ten seconds makes the handshake. -/
theorem outcome_of_webYes :
    webGreet.1.stage = .asking webInquiry ∧ webSent 10000 ∈ (webYes 10000).desk.sent ∧
      (webSent 10000).asked = (webYes 10000).call ∧
      ((webYes 10000).call, 0) ∈ (webYes 10000).desk.entered ∧
      (webSent 10000).time < 0 + ({} : ConnectSettings).promptTimeoutSecs * 1000 ∧
      Outcome (fun _ => Vetting.dayOne) "a" {} web webDesk webInquiry webGreet.2 (webSent 10000)
        (webYes 10000) ∧
      (webYes 10000).handshake.stage = .ended (.ok ()) := by
  have houtcome : ∀ ms < 60000, Outcome (fun _ => Vetting.dayOne) "a" {} web webDesk webInquiry
      webGreet.2 (webSent ms) (webYes ms) := by
    intro ms hms
    obtain ⟨hs, hasked, hentered⟩ := webYes_sent hms
    exact outcome_of_accepted (fun _ => Vetting.dayOne) "a" {} web 1 []
      [.receive, .advance ms, .send (webSent ms).asked (.verdict true)] "ssh-rsa" [1]
      ({} : TrustStore) webInquiry webGreet_stage (webSent ms) hs hasked rfl 0 hentered hms
  have hten : 10000 < 60000 := by decide
  obtain ⟨hs, hasked, hentered⟩ := webYes_sent hten
  exact ⟨webGreet_stage, hs, hasked, hentered, hten, houtcome 10000 hten,
    ((houtcome 10000 hten).admitted (by decide) rfl).1⟩

/-- A user has a minute for prompts, and says yes in time, after forty seconds. -/
theorem times_out_while_asking :
    webGreet.1.stage = .asking webInquiry ∧ webSent 40000 ∈ (webYes 40000).desk.sent ∧
      (webSent 40000).asked = (webYes 40000).call ∧
      ((webYes 40000).call, 0) ∈ (webYes 40000).desk.entered ∧
      (webSent 40000).time < 0 + ({} : ConnectSettings).promptTimeoutSecs * 1000 ∧
      (webYes 40000).handshake.stage =
        .ended (.error (.timeout "Connection to w.internal:22 timed out")) := by
  have hminute : 40000 < 60000 := by decide
  obtain ⟨hs, hasked, hentered⟩ := webYes_sent hminute
  have houtcome : Outcome (fun _ => Vetting.dayOne) "a" {} web webDesk webInquiry webGreet.2
      (webSent 40000) (webYes 40000) :=
    (webYes_kept 40000).outcome hs hasked rfl rfl fun _ => hminute
  exact ⟨webGreet_stage, hs, hasked, hentered, hminute, houtcome.late (by decide)⟩

end KeyPrompt

end Multiplexer
