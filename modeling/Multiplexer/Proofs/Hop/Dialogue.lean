import Mathlib.Data.Nat.Find
import Multiplexer.Rehearsal.HopTrial

/-!
# Dialogues with a server

Whoever logs in by prompts talks with the server in rounds: the server replies,
and if it sends prompts the user is asked and the answers go back. Here the
replies and the answers are any sequences, and a dialogue of any length is shown
to come out as they say.

The reply that follows the last round allowed is received and then not looked
at. So a server that has seen ten rounds of right answers is not heard any more,
not even if it lets the user in.
-/

namespace Multiplexer

/-- What the server replies, in order, and what the user would answer to each reply. -/
structure Parties where
  reply : Nat → LoginReply
  answer : Nat → PromptSet → Option (List String)

/-- A login with what the user was asked for it and what the server was sent. -/
structure Dialogue where
  login : Login
  asked : List PromptSet := []
  sent : List LoginRequest := []

def Dialogue.start (files : KeyFiles) (hop : Hop) : Dialogue :=
  let (login, request) := Login.start files { hop with auth := .keyboardInteractive }
  { login, sent := request.toList }

namespace Parties

variable (p : Parties)

/-- Hear a reply, and answer it if it asks for answers. -/
def round (i : Nat) (d : Dialogue) : Dialogue :=
  let login := d.login.hear (p.reply i)
  match login.stage with
  | .asking _ set =>
    let (login, request) := login.answer (p.answer i set)
    { login, asked := d.asked ++ [set], sent := d.sent ++ request.toList }
  | _ => { d with login }

def rounds (i : Nat) : Nat → Dialogue → Dialogue
  | 0, d => d
  | n + 1, d => rounds (i + 1) n (p.round i d)

def talk (files : KeyFiles) (hop : Hop) (n : Nat) : Dialogue :=
  p.rounds 0 n (Dialogue.start files hop)

def set? (i : Nat) : Option PromptSet :=
  match p.reply i with
  | .prompts set => some set
  | _ => none

def texts? (i : Nat) : Option (List String) :=
  (p.set? i).bind fun set =>
    (p.answer i set).filter fun texts => texts.length = set.prompts.length

def Answered (i : Nat) : Prop := (p.texts? i).isSome

instance (i : Nat) : Decidable (p.Answered i) := inferInstanceAs (Decidable (_ = true))

structure Concluded (hop : Hop) (d : Dialogue) : Prop where
  /-- The user is in, or has called off, or the login has failed for some reason. -/
  ended : d.login.stage = .ended (.ok ()) ∨
    d.login.stage = .ended (.error .authenticationCancelled) ∨
    ∃ reason, d.login.stage = .ended (.error (.authenticationFailed reason))
  admitted : d.login.stage = .ended (.ok ()) ↔
    ∃ k < maxPromptRounds, (∀ i < k, p.Answered i) ∧ p.reply k = .success
  cancelled : d.login.stage = .ended (.error .authenticationCancelled) ↔
    ∃ k < maxPromptRounds, (∀ i < k, p.Answered i) ∧
      ∃ set, p.reply k = .prompts set ∧ p.answer k set = none
  /-- After the last round allowed only an error of the line is told from other replies. -/
  overrun : (∀ i < maxPromptRounds, p.Answered i) →
    (∀ reason, p.reply maxPromptRounds ≠ .broken reason) →
    d.login.stage = .ended (.error (.authenticationFailed
      ("Too many keyboard-interactive rounds from " ++ hop.hostname)))
  /-- The user is asked about each reply with prompts until one is not answered, and the answers to
  those before go out. -/
  transcript : ∃ k ≤ maxPromptRounds, (∀ i < k, p.Answered i) ∧
    (k < maxPromptRounds → ¬ p.Answered k) ∧
    d.asked = (List.range (min (k + 1) maxPromptRounds)).filterMap p.set? ∧
    d.sent = .prompts hop.username ::
      (List.range k).filterMap fun i => (p.texts? i).map LoginRequest.answers
  asked_le : d.asked.length ≤ maxPromptRounds

section Rounds

variable {p}

theorem answered_iff {i : Nat} : p.Answered i ↔ ∃ set texts, p.reply i = .prompts set ∧
    p.answer i set = some texts ∧ texts.length = set.prompts.length := by
  unfold Answered texts? set?
  cases p.reply i with
  | prompts set => cases h : p.answer i set <;> simp [h, Option.filter]
  | success | failure | broken reason => simp

/-- Rounds go on where those before them have ended. -/
theorem rounds_add (i m n : Nat) (d : Dialogue) :
    p.rounds i (m + n) d = p.rounds (i + m) n (p.rounds i m d) := by
  induction m generalizing i d with
  | zero => simp [rounds]
  | succ m ih =>
    have hlength : m + 1 + n = m + n + 1 := by omega
    have hindex : i + (m + 1) = i + 1 + m := by omega
    rw [hlength, hindex]
    exact ih (i + 1) (p.round i d)

theorem rounds_succ (i n : Nat) (d : Dialogue) :
    p.rounds i (n + 1) d = p.round (i + n) (p.rounds i n d) := rounds_add i n 1 d

/-- Rounds come out by the replies and the answers that are given in them. -/
theorem rounds_congr {q : Parties} {i : Nat}
    (h : ∀ j, i ≤ j → p.reply j = q.reply j ∧ p.answer j = q.answer j) (n : Nat) (d : Dialogue) :
    p.rounds i n d = q.rounds i n d := by
  induction n generalizing i d with
  | zero => rfl
  | succ n ih =>
    have hround : p.round i d = q.round i d := by
      obtain ⟨hreply, hanswer⟩ := h i le_rfl
      simp only [round, hreply, hanswer]
    simp only [rounds, hround]
    exact ih (fun j hj => h j (by omega)) _

/-- A login that has ended hears no more rounds. -/
theorem rounds_of_ended {d : Dialogue} {r : Except ConnectError Unit}
    (h : d.login.stage = .ended r) (i n : Nat) : p.rounds i n d = d := by
  induction n generalizing i with
  | zero => rfl
  | succ n ih =>
    have hround : p.round i d = d := by
      have hhear : d.login.hear (p.reply i) = d.login := by simp [Login.hear, h]
      simp [round, hhear, h]
    rw [rounds, hround, ih]

theorem round_of_asking {i k : Nat} {set : PromptSet} {d : Dialogue}
    (h : (d.login.hear (p.reply i)).stage = .asking k set) :
    (p.round i d).login = ((d.login.hear (p.reply i)).answer (p.answer i set)).1 := by
  simp only [round, h]

def silent : Parties := ⟨fun _ => .failure, fun _ _ => none⟩

/-- The parties, but for what they say in one round. -/
def speaking (p : Parties) (i : Nat) (r : LoginReply) (a : Option (List String)) : Parties :=
  ⟨fun j => if j = i then r else p.reply j, fun j => if j = i then fun _ => a else p.answer j⟩

/-- What is said in one round makes no difference to the rounds after it. -/
theorem rounds_speaking (p : Parties) (i n : Nat) (r : LoginReply) (a : Option (List String))
    (d : Dialogue) : (p.speaking i r a).rounds (i + 1) n d = p.rounds (i + 1) n d :=
  rounds_congr (fun _ hj => ⟨if_neg (by omega), if_neg (by omega)⟩) n d

end Rounds

/-! ## From the first round to the last -/

def talked (hop : Hop) (k : Nat) : Dialogue where
  login := ⟨hop.hostname, .awaiting k⟩
  asked := (List.range k).filterMap p.set?
  sent := .prompts hop.username ::
    (List.range k).filterMap fun i => (p.texts? i).map LoginRequest.answers

/-- How a login ends that hears this reply last. -/
def verdict (hop : Hop) (k : Nat) : Except ConnectError Unit :=
  match p.reply k with
  | .broken reason => .error (.authenticationFailed
      ((if k = 0 then "KBI start failed: " else "KBI respond failed: ") ++ reason))
  | reply =>
    if k < maxPromptRounds then
      match reply with
      | .success => .ok ()
      | .prompts set =>
        (p.answer k set).elim (.error .authenticationCancelled) fun texts =>
          .error (.authenticationFailed ("Expected " ++ toString set.prompts.length ++
            " responses, got " ++ toString texts.length))
      | _ => .error (.authenticationFailed "Authentication rejected by server")
    else
      .error (.authenticationFailed ("Too many keyboard-interactive rounds from " ++ hop.hostname))

section Course

variable {p} {hop : Hop} {k : Nat}

/-- In the rounds allowed, prompts are put to the user. -/
theorem hear_of_prompts {set : PromptSet} (hk : k < maxPromptRounds)
    (hreply : p.reply k = .prompts set) :
    (p.talked hop k).login.hear (p.reply k) = ⟨hop.hostname, .asking k set⟩ := by
  cases k <;> simp only [talked, Login.hear, hreply, if_neg (Nat.not_le.2 hk)]

/-- A reply without prompts ends the login, and so does the one that is too many. -/
theorem hear_of_last (h : k < maxPromptRounds → p.set? k = none) :
    (p.talked hop k).login.hear (p.reply k) = ⟨hop.hostname, .ended (p.verdict hop k)⟩ := by
  unfold set? at h
  unfold verdict talked
  cases hreply : p.reply k with
  | broken reason => cases k <;> simp [Login.hear, Login.reject, Login.fail]
  | success | failure =>
    rcases Nat.lt_or_ge k maxPromptRounds with hlt | hge
    · cases k <;> simp only [Login.hear, Login.reject, Login.fail, if_pos hlt,
        if_neg (Nat.not_le.2 hlt)]
    · cases k <;> simp only [Login.hear, Login.reject, Login.fail, if_pos hge,
        if_neg (Nat.not_lt.2 hge)]
  | prompts set =>
    have hge : maxPromptRounds ≤ k := Nat.not_lt.1 fun hlt => by simpa [hreply] using h hlt
    cases k <;> simp only [Login.hear, Login.reject, Login.fail, if_pos hge,
      if_neg (Nat.not_lt.2 hge)]

theorem round_of_prompts {set : PromptSet} (hk : k < maxPromptRounds)
    (hreply : p.reply k = .prompts set) :
    p.round k (p.talked hop k) =
      let (login, request) := (⟨hop.hostname, .asking k set⟩ : Login).answer (p.answer k set)
      { login
        asked := (List.range (k + 1)).filterMap p.set?
        sent := (p.talked hop k).sent ++ request.toList } := by
  have hset : p.set? k = some set := by simp only [set?, hreply]
  simp only [round, hear_of_prompts hk hreply]
  simp [talked, List.range_succ, hset]

/-- A round that is answered leads to the next one. -/
theorem round_of_answered (hk : k < maxPromptRounds) (h : p.Answered k) :
    p.round k (p.talked hop k) = p.talked hop (k + 1) := by
  obtain ⟨set, texts, hreply, hanswer, hlength⟩ := answered_iff.1 h
  have htexts : p.texts? k = some texts := by
    simp [texts?, set?, hreply, hanswer, Option.filter, hlength]
  rw [round_of_prompts hk hreply, hanswer]
  simp [Login.answer, hlength, talked, List.range_succ, htexts]

theorem talk_succ (p : Parties) (files : KeyFiles) (hop : Hop) (n : Nat) :
    p.talk files hop (n + 1) = p.round n (p.talk files hop n) := by
  unfold talk
  rw [rounds_succ, Nat.zero_add]

/-- As long as all rounds are answered, a login is still open. -/
theorem talk_of_answered (files : KeyFiles) (hk : k ≤ maxPromptRounds)
    (h : ∀ i < k, p.Answered i) : p.talk files hop k = p.talked hop k := by
  induction k with
  | zero => rfl
  | succ k ih =>
    rw [talk_succ, ih (by omega) fun i hi => h i (by omega)]
    exact round_of_answered (by omega) (h k (by omega))

/-- The round that is not answered, or is one too many, is the last. -/
theorem round_of_unanswered (hmax : k ≤ maxPromptRounds)
    (hk : k < maxPromptRounds → ¬ p.Answered k) :
    p.round k (p.talked hop k) =
      { p.talked hop k with
        login := ⟨hop.hostname, .ended (p.verdict hop k)⟩
        asked := (List.range (min (k + 1) maxPromptRounds)).filterMap p.set? } := by
  by_cases hasks : ∃ set, k < maxPromptRounds ∧ p.reply k = .prompts set
  · obtain ⟨set, hlt, hreply⟩ := hasks
    have hmin : min (k + 1) maxPromptRounds = k + 1 := by omega
    rw [round_of_prompts hlt hreply, hmin]
    cases hanswer : p.answer k set with
    | none => simp [Login.answer, Login.fail, verdict, hreply, hanswer, hlt]
    | some texts =>
      have hlength : texts.length ≠ set.prompts.length := fun hlength =>
        hk hlt (answered_iff.2 ⟨set, texts, hreply, hanswer, hlength⟩)
      simp [Login.answer, hlength, Login.reject, Login.fail, verdict, hreply, hanswer, hlt]
  · have hset : k < maxPromptRounds → p.set? k = none := by
      intro hlt
      cases hreply : p.reply k with
      | prompts set => exact absurd ⟨set, hlt, hreply⟩ hasks
      | success | failure | broken reason => simp only [set?, hreply]
    have hasked : (List.range (min (k + 1) maxPromptRounds)).filterMap p.set? =
        (p.talked hop k).asked := by
      rcases Nat.lt_or_eq_of_le hmax with hlt | rfl
      · have hmin : min (k + 1) maxPromptRounds = k + 1 := by omega
        simp [hmin, List.range_succ, hset hlt, talked]
      · simp [talked]
    rw [hasked, round, hear_of_last hset]

/-- A login is let in, called off by the user, or refused. -/
theorem verdict_cases (p : Parties) (hop : Hop) (k : Nat) :
    (k < maxPromptRounds ∧ p.reply k = .success) ∧ p.verdict hop k = .ok () ∨
    (k < maxPromptRounds ∧ ∃ set, p.reply k = .prompts set ∧ p.answer k set = none) ∧
      p.verdict hop k = .error .authenticationCancelled ∨
    ¬ (k < maxPromptRounds ∧ p.reply k = .success) ∧
      ¬ (k < maxPromptRounds ∧ ∃ set, p.reply k = .prompts set ∧ p.answer k set = none) ∧
      ∃ reason, p.verdict hop k = .error (.authenticationFailed reason) := by
  unfold verdict
  by_cases hk : k < maxPromptRounds
  · cases p.reply k with
    | prompts set => cases h : p.answer k set <;> simp [hk, h]
    | success | failure | broken reason => simp [hk]
  · cases p.reply k <;> simp [hk]

/-- A login succeeds exactly when the server lets it in within the rounds allowed. -/
theorem verdict_eq_ok : p.verdict hop k = .ok () ↔ k < maxPromptRounds ∧ p.reply k = .success := by
  rcases verdict_cases p hop k with ⟨hok, h⟩ | ⟨⟨-, set, hreply, -⟩, h⟩ | ⟨hnot, -, reason, h⟩
  · simp [h, hok]
  · simp [h, hreply]
  · simp [h, hnot]

/-- A login is called off exactly when the user gives no answer within the rounds allowed. -/
theorem verdict_eq_cancelled : p.verdict hop k = .error .authenticationCancelled ↔
    k < maxPromptRounds ∧ ∃ set, p.reply k = .prompts set ∧ p.answer k set = none := by
  rcases verdict_cases p hop k with ⟨⟨-, hreply⟩, h⟩ | ⟨hcancels, h⟩ | ⟨-, hnot, reason, h⟩
  · simp [h, hreply]
  · simp [h, hcancels]
  · simp only [h, hnot, iff_false]
    simp

/-- The reply after the last round allowed makes the login fail, whatever it says. -/
theorem verdict_of_overrun (hop : Hop) (h : ∀ reason, p.reply maxPromptRounds ≠ .broken reason) :
    p.verdict hop maxPromptRounds = .error (.authenticationFailed
      ("Too many keyboard-interactive rounds from " ++ hop.hostname)) := by
  unfold verdict
  cases hreply : p.reply maxPromptRounds with
  | broken reason => exact absurd hreply (h reason)
  | success | failure | prompts set => simp

/-- There is a first round that is not answered, or one too many. -/
theorem exists_unanswered (p : Parties) : ∃ k ≤ maxPromptRounds, (∀ i < k, p.Answered i) ∧
    (k < maxPromptRounds → ¬ p.Answered k) := by
  have hlast : ∃ k, k < maxPromptRounds → ¬ p.Answered k := ⟨maxPromptRounds, fun h => by omega⟩
  refine ⟨Nat.find hlast, Nat.find_min' hlast fun h => by omega, fun i hi => ?_,
    Nat.find_spec hlast⟩
  exact Classical.not_not.1 (Classical.not_imp.1 (Nat.find_min hlast hi)).2

/-- A login ends with the first round that is not answered. -/
theorem talk_of_unanswered (files : KeyFiles) {n : Nat} (hmax : k ≤ maxPromptRounds)
    (h : ∀ i < k, p.Answered i) (hk : k < maxPromptRounds → ¬ p.Answered k) (hn : k < n) :
    p.talk files hop n = p.round k (p.talked hop k) := by
  obtain ⟨m, rfl⟩ : ∃ m, n = k + 1 + m := ⟨n - (k + 1), by omega⟩
  have hfirst : p.talk files hop (k + 1) = p.round k (p.talked hop k) := by
    rw [talk_succ, talk_of_answered files hmax h]
  have hended : (p.talk files hop (k + 1)).login.stage = .ended (p.verdict hop k) := by
    rw [hfirst, round_of_unanswered hmax hk]
  rw [← hfirst, talk, rounds_add]
  exact rounds_of_ended hended ..

/-- Rounds are answered up to one place only. -/
theorem eq_of_unanswered {j : Nat} (hmax : k ≤ maxPromptRounds) (h : ∀ i < k, p.Answered i)
    (hk : k < maxPromptRounds → ¬ p.Answered k) (hj : j < maxPromptRounds)
    (hbefore : ∀ i < j, p.Answered i) (hlast : ¬ p.Answered j) : j = k := by
  rcases Nat.lt_trichotomy j k with hlt | heq | hgt
  · exact absurd (h j hlt) hlast
  · exact heq
  · exact absurd (hbefore k hgt) (hk (by omega))

end Course

/-- A login by prompts is over when one round more than is allowed has passed, and has come out as
the replies and the answers say. -/
theorem talk_concluded (p : Parties) (files : KeyFiles) (hop : Hop) (n : Nat) :
    p.Concluded hop (p.talk files hop (maxPromptRounds + 1 + n)) := by
  obtain ⟨k, hmax, hbefore, hk⟩ := exists_unanswered p
  have hlast : p.talk files hop (maxPromptRounds + 1 + n) = p.round k (p.talked hop k) :=
    talk_of_unanswered files hmax hbefore hk (by omega)
  have hstage : (p.round k (p.talked hop k)).login.stage = .ended (p.verdict hop k) := by
    rw [round_of_unanswered hmax hk]
  rw [hlast]
  exact {
    ended := by
      rw [hstage]
      rcases verdict_cases p hop k with ⟨-, h⟩ | ⟨-, h⟩ | ⟨-, -, h⟩ <;> simp [h]
    admitted := by
      rw [hstage]
      simp only [LoginStage.ended.injEq, verdict_eq_ok]
      constructor
      · exact fun ⟨hlt, hreply⟩ => ⟨k, hlt, hbefore, hreply⟩
      · rintro ⟨j, hj, hjs, hreply⟩
        have hnot : ¬ p.Answered j := by simp [answered_iff, hreply]
        obtain rfl := eq_of_unanswered hmax hbefore hk hj hjs hnot
        exact ⟨hj, hreply⟩
    cancelled := by
      rw [hstage]
      simp only [LoginStage.ended.injEq, verdict_eq_cancelled]
      constructor
      · exact fun ⟨hlt, hcancels⟩ => ⟨k, hlt, hbefore, hcancels⟩
      · rintro ⟨j, hj, hjs, set, hreply, hanswer⟩
        have hnot : ¬ p.Answered j := by simp [answered_iff, hreply, hanswer]
        obtain rfl := eq_of_unanswered hmax hbefore hk hj hjs hnot
        exact ⟨hj, set, hreply, hanswer⟩
    overrun := by
      intro hall hline
      have hall' : k = maxPromptRounds := by
        by_contra hne
        exact hk (by omega) (hall k (by omega))
      subst hall'
      rw [hstage]
      exact congrArg _ (verdict_of_overrun hop hline)
    transcript := by
      rw [round_of_unanswered hmax hk]
      exact ⟨k, hmax, hbefore, hk, rfl, rfl⟩
    asked_le := by
      rw [round_of_unanswered hmax hk]
      calc _ ≤ (List.range (min (k + 1) maxPromptRounds)).length := List.length_filterMap_le ..
        _ = min (k + 1) maxPromptRounds := List.length_range
        _ ≤ maxPromptRounds := Nat.min_le_right .. }

/-- A server that lets in whoever has answered one prompt so many times, and a user who does. -/
def codes (n : Nat) : Parties where
  reply i := if i < n then .prompts { prompts := [⟨"Code: ", false⟩] } else .success
  answer _ _ := some ["1"]

/-- The server lets the user in after the last round allowed, and the login has failed. -/
theorem refused_after_last_round :
    let p := codes maxPromptRounds
    let hop : Hop :=
      { hostId := "w", hostname := "w.internal", username := "ops", auth := .keyboardInteractive }
    (∀ i < maxPromptRounds, p.Answered i) ∧ p.reply maxPromptRounds = .success ∧
      (p.talk Rehearsal.keyFiles hop (maxPromptRounds + 1)).login.stage = .ended (.error
        (.authenticationFailed "Too many keyboard-interactive rounds from w.internal")) := by
  exact ⟨by decide, rfl, rfl⟩

end Parties

/-! ## Rehearsed logins -/

namespace Login

/-- A reply asks for answers or ends the login. -/
theorem hear_cases {l : Login} {k : Nat} (h : l.stage = .awaiting k) (r : LoginReply) :
    (∃ set, (l.hear r).stage = .asking k set) ∨ ∃ result, (l.hear r).stage = .ended result := by
  cases k <;> cases r <;> simp only [hear, h, reject, fail] <;> (try split) <;> simp

/-- An answer goes back to the server or ends the login. -/
theorem answer_cases {l : Login} {k : Nat} {set : PromptSet} (h : l.stage = .asking k set)
    (a : Option (List String)) :
    (∃ texts, (l.answer a).1.stage = .awaiting (k + 1) ∧ (l.answer a).2 = some (.answers texts)) ∨
      (∃ result, (l.answer a).1.stage = .ended result) ∧ (l.answer a).2 = none := by
  cases a with
  | none => simp [answer, h, fail]
  | some texts =>
    simp only [answer, h]
    split <;> simp [reject, fail]

end Login

namespace Rehearsal.HopScene

theorem run_loginWithin_ended {l : Login} {r : Except ConnectError Unit} (h : l.stage = .ended r)
    (n : Nat) (s : HopScene) : ((loginWithin n (l, none)).run s).1 = l := by
  cases n with
  | zero => rfl
  | succ n =>
    simp [loginWithin, h]
    rfl

/-- Two steps of a login are one round. -/
theorem run_loginWithin_round (n : Nat) (l : Login) (request : LoginRequest) (s : HopScene) :
    ∃ r a s₁ s₂, (loginWithin (n + 2) (l, some request)).run s =
      match (l.hear r).stage with
      | .asking _ _ => (loginWithin n ((l.hear r).answer a)).run s₁
      | _ => (l.hear r, s₂) := by
  rcases hreply : s.server.reply s.rounds request with ⟨lines, r, rounds⟩
  cases hstage : (l.hear r).stage with
  | asking k set =>
    rcases htake : takeAnswers.run
      { s with journal := s.journal ++ (lines ++ ["prompt kbi " ++ promptsText set]), rounds } with
      ⟨a, s'⟩
    refine ⟨r, a, s', s, ?_⟩
    simp [loginWithin, hreply, hstage, log, htake]
    rfl
  | deciding | awaiting _ | ended _ =>
    refine ⟨r, none, s, { s with journal := s.journal ++ lines, rounds }, ?_⟩
    simp [loginWithin, hreply, hstage]
    rfl

/-- What a scripted server and its user say some parties say too. -/
theorem exists_parties (n : Nat) :
    ∀ (i k : Nat) (l : Login) (request : LoginRequest) (s : HopScene),
    l.stage = .awaiting k → ∃ p : Parties, ∀ d : Dialogue, d.login = l →
      ((loginWithin (2 * n) (l, some request)).run s).1 = (p.rounds i n d).login := by
  induction n with
  | zero => exact fun _ _ _ _ _ _ => ⟨.silent, fun d hd => hd.symm⟩
  | succ n ih =>
    intro i k l request s hl
    obtain ⟨r, a, s₁, s₂, hrun⟩ := run_loginWithin_round (2 * n) l request s
    have hfuel : 2 * (n + 1) = 2 * n + 2 := by omega
    rw [hfuel, hrun]
    rcases Login.hear_cases hl r with ⟨set, hasking⟩ | ⟨result, hended⟩
    · simp only [hasking]
      have hlater : ∃ p : Parties, ∀ d : Dialogue, d.login = ((l.hear r).answer a).1 →
          ((loginWithin (2 * n) ((l.hear r).answer a)).run s₁).1 =
            (p.rounds (i + 1) n d).login := by
        rcases Login.answer_cases hasking a with
          ⟨texts, hawaiting, hsent⟩ | ⟨⟨result, hended⟩, hsent⟩
        · rw [← Prod.eta ((l.hear r).answer a), hsent]
          exact ih (i + 1) (k + 1) _ (.answers texts) s₁ hawaiting
        · refine ⟨.silent, fun d hd => ?_⟩
          rw [← Prod.eta ((l.hear r).answer a), hsent, run_loginWithin_ended hended,
            Parties.rounds_of_ended (hd ▸ hended), hd]
      obtain ⟨p, hp⟩ := hlater
      refine ⟨p.speaking i r a, fun d hd => ?_⟩
      rw [Parties.rounds, Parties.rounds_speaking]
      refine hp _ ?_
      subst hd
      have h : (d.login.hear ((p.speaking i r a).reply i)).stage = .asking k set := by
        simpa [Parties.speaking] using hasking
      rw [Parties.round_of_asking h]
      simp [Parties.speaking]
    · simp only [hended]
      refine ⟨Parties.silent.speaking i r a, fun d hd => ?_⟩
      have hround : ((Parties.silent.speaking i r a).round i d).login = l.hear r := by
        subst hd
        simp [Parties.round, Parties.speaking, hended]
      rw [Parties.rounds, Parties.rounds_of_ended (hround ▸ hended), hround]

/-- A rehearsed login by prompts comes out as the talk of some parties does. -/
theorem login_eq_talk (s : HopScene) (h : s.hop.auth = .keyboardInteractive) :
    ∃ p : Parties, (p.talk keyFiles s.hop (maxPromptRounds + 1)).login.stage =
      .ended (login.run s).1 := by
  have hstart : Login.start keyFiles s.hop =
      (⟨s.hop.hostname, .awaiting 0⟩, some (.prompts s.hop.username)) := by
    simp [Login.start, h]
  obtain ⟨p, hp⟩ := exists_parties (maxPromptRounds + 1) 0 0 ⟨s.hop.hostname, .awaiting 0⟩
    (.prompts s.hop.username) s rfl
  have hrun : ((loginWithin (2 * maxPromptRounds + 2) (Login.start keyFiles s.hop)).run s).1 =
      (p.talk keyFiles s.hop (maxPromptRounds + 1)).login := by
    rw [hstart]
    exact hp (Dialogue.start keyFiles s.hop) rfl
  obtain ⟨k, hmax, hbefore, hk⟩ := Parties.exists_unanswered p
  have hended : (p.talk keyFiles s.hop (maxPromptRounds + 1)).login.stage =
      .ended (p.verdict s.hop k) := by
    rw [Parties.talk_of_unanswered keyFiles hmax hbefore hk (by omega),
      Parties.round_of_unanswered hmax hk]
  refine ⟨p, ?_⟩
  rw [hended]
  unfold login
  rcases hfinal : (loginWithin (2 * maxPromptRounds + 2) (Login.start keyFiles s.hop)).run s with
    ⟨l, s'⟩
  have hl : l.stage = .ended (p.verdict s.hop k) := by
    rw [← hended, ← hrun, hfinal]
  refine congrArg LoginStage.ended ?_
  simp only [StateT.run_bind, StateT.run_get, pure_bind, hfinal]
  simp only [bind, hl]
  rfl

end Rehearsal.HopScene

end Multiplexer
