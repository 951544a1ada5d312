import Multiplexer.Proofs.Forward.Service

/-!
# What becomes of a start

A start comes to each rule of its host that starts by itself, in order. A local
rule takes the next answer to a bind, the others fail. Each rule gives a handle,
and nothing but being cancelled ends a start before the last one.
-/

namespace Multiplexer

def ForwardRule.report (rule : ForwardRule) (id : SessionId) :
    Except ForwardError String → ForwardHandle
  | .ok address => .active rule id address
  | .error e => .failed rule id e

def binds (rules : List ForwardRule) : Nat := rules.countP fun r => r.type == .localPort

/-- What comes of some rules, with the answers to the binds. -/
def outcomes : List ForwardRule → List (Except BindFault String) →
    List (Except ForwardError String)
  | [], _ => []
  | rule :: rules, answers =>
    if rule.type = .localPort then
      match answers with
      | [] => []
      | a :: answers => a.mapError (·.error rule) :: outcomes rules answers
    else .error (.unsupported rule.type) :: outcomes rules answers

def reports (id : SessionId) (rules : List ForwardRule)
    (answers : List (Except BindFault String)) : List ForwardHandle :=
  List.zipWith (fun rule o => rule.report id o) rules (outcomes rules answers)

/-- Where a start for some rules stands after some answers. -/
inductive StartStands (id : SessionId) (rules : List ForwardRule)
    (answers : List (Except BindFault String)) (cancelled : Bool) : ForwardPause → Prop
  | binding (done : List ForwardRule) (rule : ForwardRule) (todo : List ForwardRule) :
    rules = done ++ rule :: todo → rule.type = .localPort → binds done = answers.length →
    StartStands id rules answers cancelled (.binding rule ⟨id, todo, reports id done answers⟩)
  | completed : binds rules = answers.length →
    StartStands id rules answers cancelled (.ended (.ok (reports id rules answers)))
  | cancelled : cancelled = true →
    StartStands id rules answers cancelled (.ended (.error .cancelled))

section Reports

variable {id : SessionId} {rules done todo : List ForwardRule} {rule : ForwardRule}
  {answers more : List (Except BindFault String)} {a : Except BindFault String}

theorem binds_cons (rule : ForwardRule) (rules : List ForwardRule) :
    binds (rule :: rules) = binds rules + if rule.type = .localPort then 1 else 0 := by
  simp [binds, List.countP_cons]

theorem binds_concat (rules : List ForwardRule) (rule : ForwardRule) :
    binds (rules ++ [rule]) = binds rules + if rule.type = .localPort then 1 else 0 := by
  simp [binds, List.countP_append, List.countP_cons]

theorem length_outcomes (h : binds rules ≤ answers.length) :
    (outcomes rules answers).length = rules.length := by
  induction rules generalizing answers with
  | nil => rfl
  | cons rule rules ih =>
    rw [binds_cons] at h
    by_cases hlocal : rule.type = .localPort
    · cases answers with
      | nil => simp [hlocal] at h
      | cons a answers =>
        rw [if_pos hlocal, List.length_cons] at h
        simp [outcomes, hlocal, ih (Nat.le_of_succ_le_succ h)]
    · rw [if_neg hlocal] at h
      simp [outcomes, hlocal, ih h]

/-- The answers that some rules leave over are for the rules after them. -/
theorem outcomes_append (h : binds done = answers.length) :
    outcomes (done ++ todo) (answers ++ more) = outcomes done answers ++ outcomes todo more := by
  induction done generalizing answers with
  | nil =>
    obtain rfl := List.length_eq_zero_iff.1 h.symm
    rfl
  | cons rule done ih =>
    rw [binds_cons] at h
    by_cases hlocal : rule.type = .localPort
    · cases answers with
      | nil => simp [hlocal] at h
      | cons a answers =>
        rw [if_pos hlocal, List.length_cons] at h
        simp [outcomes, hlocal, ih (Nat.succ.inj h)]
    · rw [if_neg hlocal] at h
      simp [outcomes, hlocal, ih h]

/-- The reports of rules are those of the first ones and then those of the rest. -/
theorem reports_append (h : binds done = answers.length) :
    reports id (done ++ todo) (answers ++ more) =
      reports id done answers ++ reports id todo more := by
  unfold reports
  rw [outcomes_append h, List.zipWith_append (length_outcomes (Nat.le_of_eq h)).symm]

/-- A local rule reports what came of its bind. -/
theorem reports_local (h : binds done = answers.length) (hlocal : rule.type = .localPort) :
    reports id (done ++ [rule]) (answers ++ [a]) =
      reports id done answers ++ [rule.report id (a.mapError (·.error rule))] := by
  rw [reports_append h]
  simp [reports, outcomes, hlocal]

/-- A rule of another type fails at once and takes no answer. -/
theorem reports_other (h : binds done = answers.length) (hother : rule.type ≠ .localPort) :
    reports id (done ++ [rule]) answers =
      reports id done answers ++ [.failed rule id (.unsupported rule.type)] := by
  have happend : reports id (done ++ [rule]) (answers ++ []) =
      reports id done answers ++ reports id [rule] [] := reports_append h
  simpa [reports, outcomes, hother, ForwardRule.report] using happend

/-- Each rule has a handle. -/
theorem ruleId_reports (h : binds rules ≤ answers.length) :
    (reports id rules answers).map ForwardHandle.ruleId = rules.map ForwardRule.id := by
  have hrule : ∀ (rule : ForwardRule) o, (rule.report id o).ruleId = rule.id := by
    intro rule o
    cases o <;> rfl
  exact List.ext_getElem (by simp [reports, length_outcomes h]) fun k _ _ => by
    simp [reports, hrule]

end Reports

section Stands

variable {id : SessionId} {rules done : List ForwardRule} {rule : ForwardRule}
  {answers : List (Except BindFault String)} {cancelled : Bool} {rest : ForwardStart}

/-- A start that goes on stands at the next rule that needs a bind, or at its end. -/
theorem stands_next (cancelled : Bool) (h : binds done = answers.length) (todo : List ForwardRule) :
    StartStands id (done ++ todo) answers cancelled
      (ForwardStart.next cancelled id (reports id done answers) todo) := by
  induction todo generalizing done with
  | nil =>
    rw [List.append_nil]
    exact .completed h
  | cons rule todo ih =>
    unfold ForwardStart.next
    split
    · next hcancelled => exact .cancelled hcancelled
    · split
      · next hlocal => exact .binding done rule todo rfl hlocal h
      · next type hother =>
        have hne : rule.type ≠ .localPort := fun heq => hother heq
        have hdone : binds (done ++ [rule]) = answers.length := by
          rw [binds_concat, if_neg hne, h, Nat.add_zero]
        have hnext := ih hdone
        rwa [reports_other h hne, List.append_assoc] at hnext

/-- A start begins before the first rule that starts by itself. -/
theorem stands_begin (f : Forwarder) (id : SessionId) (hostId : String) (cancelled : Bool) :
    StartStands id ((f.rulesFor hostId).filter ForwardRule.autoStart) [] cancelled
      (f.begin id hostId cancelled) := by
  have hbegin : StartStands id ([] ++ (f.rulesFor hostId).filter ForwardRule.autoStart) []
      cancelled (f.begin id hostId cancelled) := stands_next cancelled rfl _
  exact hbegin

/-- What a start that waits for a bind is about. -/
theorem StartStands.pending (h : StartStands id rules answers cancelled (.binding rule rest)) :
    rest.session = id ∧ rule.type = .localPort ∧ rule ∈ rules ∧ answers.length < binds rules := by
  cases h with
  | binding done _ todo hrules hlocal hdone =>
    refine ⟨rfl, hlocal, by simp [hrules], ?_⟩
    simp [hrules, binds, List.countP_append, hlocal] at hdone ⊢
    omega

/-- An answer to a bind moves a start past the rule that waits for it. -/
theorem StartStands.bound (h : StartStands id rules answers cancelled (.binding rule rest))
    (f : Forwarder) (a : Except BindFault String) :
    StartStands id rules (answers ++ [a]) cancelled (f.bound rule rest cancelled a).1 := by
  cases h with
  | binding done _ todo hrules hlocal hdone =>
    have hbinds : binds (done ++ [rule]) = (answers ++ [a]).length := by
      rw [binds_concat, if_pos hlocal, hdone, List.length_append, List.length_singleton]
    have hnext : StartStands id (done ++ [rule] ++ todo) _ cancelled _ :=
      stands_next cancelled hbinds todo
    rw [reports_local hdone hlocal, List.append_assoc, List.singleton_append, ← hrules] at hnext
    cases a <;> exact hnext

/-- A start that is cancelled stands where it stood. -/
theorem StartStands.cancel {pause : ForwardPause}
    (h : StartStands id rules answers cancelled pause) :
    StartStands id rules answers true pause := by
  cases h with
  | binding done rule todo hrules hlocal hdone => exact .binding done rule todo hrules hlocal hdone
  | completed hbinds => exact .completed hbinds
  | cancelled => exact .cancelled rfl

/-- A start whose binds are answered at once comes to its end. -/
theorem stands_start (f : Forwarder) (bind : Forwarder → ForwardRule → Except BindFault String)
    (id : SessionId) (hostId : String) (cancelled : Bool) :
    ∃ answers, StartStands id ((f.rulesFor hostId).filter ForwardRule.autoStart) answers cancelled
      (.ended (f.start bind id hostId cancelled).1) := by
  have hwith : ∀ (f : Forwarder) (pause : ForwardPause) (rules : List ForwardRule) answers,
      StartStands id rules answers cancelled pause → ∃ answers,
        StartStands id rules answers cancelled (.ended (f.startWith bind cancelled pause).1) := by
    intro f pause
    fun_induction Forwarder.startWith bind cancelled f pause with
    | case1 f result => exact fun rules answers h => ⟨answers, h⟩
    | case2 f rule rest p ih =>
      exact fun rules answers h => ih rules _ (h.bound f (bind f rule))
  exact hwith f _ _ [] (stands_begin f id hostId cancelled)

end Stands

namespace Service

variable {s : Service} {n : Nat} {id : SessionId} {rules : List ForwardRule}
  {answers : List (Except BindFault String)} {c : StartCall}

def answer? (s : Service) (n : Nat) : Event → Option (Except BindFault String)
  | .answer m a => if m = n ∧ (s.binding? n).isSome then some a else none
  | _ => none

def answersTo (n : Nat) : Service → List Event → List (Except BindFault String)
  | _, [] => []
  | s, x :: xs => (s.answer? n x).toList ++ answersTo n (s.step x) xs

def Event.cancelsStart (n : Nat) : Event → Bool
  | .cancelStart m => m == n
  | _ => false

/-- A call has started some rules for a session as far as it got. -/
structure Starts (s : Service) (n : Nat) (id : SessionId) (rules : List ForwardRule)
    (answers : List (Except BindFault String)) (c : StartCall) : Prop where
  call : s.starts[n]? = some c
  session : c.session = id
  stands : StartStands id rules answers c.cancelled c.pause

theorem Starts.answered (h : s.Starts n id rules answers c) {rule : ForwardRule}
    {rest : ForwardStart} (hpause : c.pause = .binding rule rest) (a : Except BindFault String) :
    ∃ c', (s.step (.answer n a)).Starts n id rules (answers ++ [a]) c' ∧
      c'.cancelled = c.cancelled := by
  have hbinding : s.binding? n = some (c, rule, rest) := binding?_eq_some.2 ⟨h.call, hpause⟩
  obtain ⟨hlt, -⟩ := List.getElem?_eq_some_iff.1 h.call
  have hstands := h.stands
  rw [hpause] at hstands
  refine ⟨{ c with pause := (s.forwarder.bound rule rest c.cancelled a).1 }, ⟨?_, h.session,
    hstands.bound s.forwarder a⟩, rfl⟩
  simp only [step, hbinding]
  exact List.getElem?_set_self hlt

/-- A start only goes on when it is answered. -/
theorem Starts.step_of_other (h : s.Starts n id rules answers c) {x : Event}
    (hx : s.answer? n x = none) : ∃ c', (s.step x).Starts n id rules answers c' ∧
      c'.cancelled = (c.cancelled || x.cancelsStart n) := by
  obtain ⟨hlt, -⟩ := List.getElem?_eq_some_iff.1 h.call
  cases x with
  | addRule | stop | waited | cancelStop =>
    exact ⟨c, ⟨h.call, h.session, h.stands⟩, (Bool.or_false _).symm⟩
  | start =>
    exact ⟨c, ⟨(List.getElem?_append_left hlt).trans h.call, h.session, h.stands⟩,
      (Bool.or_false _).symm⟩
  | cancelStart m =>
    by_cases hm : m = n
    · refine ⟨{ c with cancelled := true }, ⟨?_, h.session, h.stands.cancel⟩, ?_⟩
      · simp [Service.step, h.call, hm]
      · simp [Event.cancelsStart, hm]
    · refine ⟨c, ⟨?_, h.session, h.stands⟩, ?_⟩
      · simp [Service.step, h.call, hm]
      · simp [Event.cancelsStart, hm]
  | answer m a =>
    refine ⟨c, ⟨?_, h.session, h.stands⟩, (Bool.or_false _).symm⟩
    cases hbinding : s.binding? m with
    | none =>
      simp only [Service.step, hbinding]
      exact h.call
    | some p =>
      have hm : m ≠ n := by
        rintro rfl
        simp [answer?, hbinding] at hx
      simp only [Service.step, hbinding]
      exact (List.getElem?_set_ne hm).trans h.call

/-- An event moves a start by the answer that it brings to it, if any. -/
theorem Starts.step (h : s.Starts n id rules answers c) (x : Event) :
    ∃ c', (s.step x).Starts n id rules (answers ++ (s.answer? n x).toList) c' ∧
      c'.cancelled = (c.cancelled || x.cancelsStart n) := by
  cases hx : s.answer? n x with
  | none =>
    rw [Option.toList_none, List.append_nil]
    exact h.step_of_other hx
  | some a =>
    cases x with
    | answer m a' =>
      obtain ⟨⟨rfl, hbinding⟩, rfl⟩ : (m = n ∧ (s.binding? n).isSome = true) ∧ a' = a := by
        simpa [answer?] using hx
      obtain ⟨⟨c', rule, rest⟩, hp⟩ := Option.isSome_iff_exists.1 hbinding
      obtain ⟨hcall, hpause⟩ := binding?_eq_some.1 hp
      obtain rfl : c = c' := Option.some.inj (h.call.symm.trans hcall)
      obtain ⟨c', h', hcancelled⟩ := h.answered hpause a'
      exact ⟨c', h', hcancelled.trans (Bool.or_false _).symm⟩
    | addRule | start | cancelStart | stop | waited | cancelStop => simp [answer?] at hx

/-- A run moves a start by all the answers that it brings to it. -/
theorem Starts.run (h : s.Starts n id rules answers c) (xs : List Event) :
    ∃ c', (s.run xs).Starts n id rules (answers ++ answersTo n s xs) c' ∧
      c'.cancelled = (c.cancelled || xs.any (·.cancelsStart n)) := by
  induction xs generalizing s answers c with
  | nil => exact ⟨c, by simpa [answersTo, Service.run] using h, by simp⟩
  | cons x xs ih =>
    obtain ⟨c', h', hcancelled⟩ := h.step x
    obtain ⟨c'', h'', hcancelled'⟩ := ih h'
    rw [List.append_assoc] at h''
    refine ⟨c'', h'', ?_⟩
    rw [hcancelled', hcancelled, List.any_cons, Bool.or_assoc]

def autoRules (s : Service) (hostId : String) : List ForwardRule :=
  (s.forwarder.rulesFor hostId).filter ForwardRule.autoStart

theorem starts_start (s : Service) (id : SessionId) (hostId : String) (cancelled : Bool) :
    (s.step (.start id hostId cancelled)).Starts s.starts.length id (s.autoRules hostId) []
      ⟨id, cancelled, s.forwarder.begin id hostId cancelled⟩ where
  call := List.getElem?_concat_length
  session := rfl
  stands := stands_begin s.forwarder id hostId cancelled

end Service

end Multiplexer
