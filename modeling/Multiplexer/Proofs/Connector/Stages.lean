import Multiplexer.Proofs.Chain.Route
import Multiplexer.Proofs.Connector.Errand

/-!
# Stages of an attempt

How an attempt over SSH goes on from each of its stages when what it waits for is
answered: it sets out without a route, connects the hops of its route one after
the other, and then succeeds or fails. An attempt that succeeds or fails contacts
no more hops and comes to an end.
-/

namespace Multiplexer

open TurnM

def Reply.ofChain : Except ConnectError (List Hop) → Reply
  | .ok hs => .hops hs
  | .error e => .failed e

theorem Reply.ofChain_injective {found found' : Except ConnectError (List Hop)}
    (h : ofChain found = ofChain found') : found = found' := by
  cases found <;> cases found' <;> cases h <;> rfl

def Task.early : Task → Bool
  | .attempt _ (.releasing _) | .attempt _ (.resolving _) => true
  | _ => false

namespace ChainRun

/-- The hops that are still to be contacted. -/
def toContact (asked : Bool) : ChainRun → List Hop
  | .tunnelling _ _ hop rest => hop :: rest
  | .connecting _ _ hop rest => if asked then rest else hop :: rest
  | _ => []

/-- A bound on the answers that a chain waits for. -/
def turnsLeft : ChainRun → Nat
  | .tunnelling links _ _ rest => 3 * rest.length + links.length + 4
  | .connecting links _ _ rest => 3 * rest.length + links.length + 3
  | .opening links _ => links.length + 1
  | .closing links _ => links.length
  | _ => 0

variable {run : ChainRun} {size : TerminalSize} {channel : ChannelId} {c : Call} {r : Reply}

/-- The call that a chain makes contacts the next hop or none. -/
theorem toContact_call (h : run.call size channel = some c) :
    c.hop?.toList ++ run.toContact true = run.toContact false := by
  cases run with
  | closing links e =>
    cases links with
    | nil => cases h
    | cons => cases h; rfl
  | failed | connected => cases h
  | _ => cases h; rfl

/-- A chain waits for more answers than it has links. -/
theorem links_lt_turnsLeft (h : run.cancellable = true) : run.links.length < run.turnsLeft := by
  cases run with
  | tunnelling | connecting =>
    simp only [links, turnsLeft]
    omega
  | opening => exact Nat.lt_succ_self _
  | _ => simp [cancellable] at h

inductive Goes (run : ChainRun) (c : Call) (r : Reply) : ChainRun → Prop where
  | fail (e : ConnectError) : r = .failed e → c.reaches = true ∨ run.toContact true = [] →
    Goes run c r (unwind run.links.reverse e)
  | on (run' : ChainRun) : run'.cancellable = true → run'.toContact false = run.toContact true →
    run'.turnsLeft < run.turnsLeft → Goes run c r run'
  | arrive (connection : Connection) : run.toContact true = [] → Goes run c r (.connected connection)

/-- With every answer that its call can have a chain unwinds, goes on or is connected. -/
theorem goes_answer (h : run.cancellable = true) (hc : run.call size channel = some c)
    (hr : c.admits r = true) : Goes run c r (run.answer r) := by
  cases run with
  | tunnelling links via hop rest =>
    cases hc
    cases r with
    | failed e => exact .fail e rfl (.inl rfl)
    | tunnel t => exact .on _ rfl rfl (by simp [answer, turnsLeft])
    | _ => simp [Call.admits] at hr
  | connecting links tunnel hop rest =>
    cases hc
    cases r with
    | failed e => exact .fail e rfl (.inl rfl)
    | link l =>
      cases rest with
      | nil => exact .on _ rfl rfl (by simp [answer, proceed, turnsLeft])
      | cons next rest => exact .on _ rfl rfl (by simp [answer, proceed, turnsLeft]; omega)
    | _ => simp [Call.admits] at hr
  | opening links target =>
    cases hc
    cases r with
    | failed e => exact .fail e rfl (.inr rfl)
    | terminal t => exact .arrive _ rfl
    | _ => simp [Call.admits] at hr
  | _ => simp [cancellable] at h

end ChainRun

namespace Attempt

variable (a : Attempt) (u : Turn)

def chained : ChainRun → Task
  | .failed e => .attempt a (.notingFailure e)
  | .connected connection => .attempt a (.notingSuccess connection)
  | run => .attempt a (.chaining run)

/-- An attempt goes on with its chain as far as that has come. -/
theorem task_chain (run : ChainRun) : (exec (a.chain run) u).1 = a.chained run := by
  cases run with
  | connected => simp only [chain, succeed, exec_bind, exec_attach_joined, exec_pure, chained]
  | _ => rfl

theorem task_route_ok {target : SshTarget} {found : Except ConnectError (List Hop)}
    {hops : List Hop} (h : routeOf target found = .ok hops) :
    (exec (a.route target found) u).1 = a.chained (.start hops) := by
  unfold route
  rw [h]
  exact a.task_chain u _

theorem task_route_error {target : SshTarget} {found : Except ConnectError (List Hop)}
    {e : ConnectError} (h : routeOf target found = .error e) :
    (exec (a.route target found) u).1 = .attempt a (.notingFailure e) := by
  unfold route
  rw [h]
  rfl

theorem not_early_chained (run : ChainRun) : (a.chained run).early = false := by
  cases run <;> rfl

theorem chained_of_cancellable {run : ChainRun} (h : run.cancellable = true) :
    a.chained run = .attempt a (.chaining run) := by
  cases run <;> first | rfl | simp [ChainRun.cancellable] at h

end Attempt

theorem Attempt.early_of_resume {a : Attempt} {stage : AttemptStage} {s : Signal} {u : Turn}
    (h : (exec (a.resume stage s) u).1.early = true) : (Task.attempt a stage).early = true := by
  cases stage with
  | releasing | resolving => rfl
  | chaining run =>
    have hchain : ∀ next, (exec (a.chain next) u).1.early ≠ true := fun next => by
      simp [a.task_chain, a.not_early_chained]
    cases s with
    | reply r => exact absurd h (hchain (run.answer r))
    | cancelled => exact absurd h (hchain run.cancel)
    | elapsed | reported | stopped => cases h
  | opening params =>
    cases s with
    | reply r => cases r <;> cases h
    | cancelled | elapsed | reported | stopped => cases h
  | notingSuccess | startingForwards | notingFailure => cases s <;> cases h

/-- An attempt that has left its first stages does not come back to them. -/
theorem Task.early_of_resume {t : Task} {s : Signal} {u : Turn}
    (h : (exec (t.resume s) u).1.early = true) : t.early = true := by
  cases t with
  | attempt a stage => exact Attempt.early_of_resume h
  | «over» => exact h
  | watch session stage =>
    obtain ⟨t', d, new, hresume, hmove⟩ := (Task.watch session stage).moves_resume s u
    rw [hresume] at h
    cases hmove with
    | stay => exact h
    | pause _ _ _ _ _ step =>
      generalize step.2.2 = pause at h
      cases pause <;> cases h
    | _ => cases h
  | closing todo | disconnecting id todo | destroying id todo =>
    cases s with
    | reply r =>
      obtain _ | ⟨call, _ | ⟨next, rest⟩⟩ := todo <;> cases h
    | _ => exact h

/-- How an attempt goes on when the given calls are left to be made first. -/
inductive Attempt.Departs (a : Attempt) (target : SshTarget) (cancelled : Bool) :
    List Call → Task → Prop where
  | releasing (call : Call) (todo : List Call) :
    Departs a target cancelled (call :: todo) (.attempt a (.releasing (call :: todo)))
  | calledOff : cancelled = true →
    Departs a target cancelled [] (.attempt a (.notingFailure .cancelled))
  | resolving : cancelled = false → target.proxyJump.isSome = true →
    Departs a target cancelled [] (.attempt a (.resolving target))
  | direct : cancelled = false → target.proxyJump = none →
    Departs a target cancelled [] (.attempt a (.chaining (.connecting [] none target.host [])))

/-- An attempt makes the calls that are left first, and looks at its token after the last. -/
theorem Attempt.departs (a : Attempt) {target : SshTarget} (hssh : a.session.target = .ssh target)
    (todo : List Call) (u : Turn) :
    a.Departs target (u.connector.isCancelled a.token) todo (exec (a.release todo) u).1 := by
  cases todo with
  | cons call todo => exact .releasing call todo
  | nil =>
    have hestablish : exec (a.release []) u =
        exec (if u.connector.isCancelled a.token then a.fail .cancelled
          else if target.proxyJump.isSome then pure (.attempt a (.resolving target))
          else a.chain (ChainRun.start [target.host])) u := by
      simp only [release, establish, hssh]
      rfl
    rw [hestablish]
    by_cases hcancelled : u.connector.isCancelled a.token = true
    · rw [if_pos hcancelled]
      exact .calledOff hcancelled
    · rw [if_neg hcancelled]
      have hlive : u.connector.isCancelled a.token = false := by simpa using hcancelled
      by_cases hjump : target.proxyJump.isSome = true
      · rw [if_pos hjump]
        exact .resolving hlive hjump
      · rw [if_neg hjump, a.task_chain]
        exact .direct hlive (by simpa using hjump)

namespace Task

/-- A bound on the answers that a task waits for, if its route has so many hops. -/
def turnsLeft (n : Nat) : Task → Nat
  | .attempt _ (.releasing todo) => todo.length + 3 * n + 3
  | .attempt _ (.resolving _) => 3 * n + 3
  | .attempt _ (.chaining run) => run.turnsLeft + 2
  | .attempt _ (.notingSuccess _) => 2
  | .attempt _ (.startingForwards _) => 1
  | .attempt _ (.notingFailure _) => 1
  | _ => 0

/-- An attempt that fails closes its links and notes the failure. -/
inductive Failing (a : Attempt) (e : ConnectError) : Task → Prop where
  | unwinding (link : Link) (links : List Link) :
    Failing a e (.attempt a (.chaining (.closing (link :: links) e)))
  | noting : Failing a e (.attempt a (.notingFailure e))
  | returned : Failing a e (.over (.error e))

inductive Succeeding (a : Attempt) : Task → Prop where
  | noting (connection : Connection) : Succeeding a (.attempt a (.notingSuccess connection))
  | forwarding (connection : Connection) :
    Succeeding a (.attempt a (.startingForwards connection))
  | returned : Succeeding a (.over (.ok ()))

inductive SettingOut (a : Attempt) (target : SshTarget) : Task → Prop where
  | releasing (call : Call) (todo : List Call) : (∀ c ∈ call :: todo, c.hop? = none) →
    SettingOut a target (.attempt a (.releasing (call :: todo)))
  | resolving : SettingOut a target (.attempt a (.resolving target))

inductive SetsOut (n : Nat) (a : Attempt) (target : SshTarget) (cancelled : Bool) (r : Reply) :
    Task → Task → Prop where
  | still (t t' : Task) : SettingOut a target t' → t'.turnsLeft n < t.turnsLeft n →
    SetsOut n a target cancelled r t t'
  | calledOff (todo : List Call) : cancelled = true →
    SetsOut n a target cancelled r (.attempt a (.releasing todo))
      (.attempt a (.notingFailure .cancelled))
  | direct (todo : List Call) : cancelled = false → target.proxyJump = none →
    SetsOut n a target cancelled r (.attempt a (.releasing todo))
      (.attempt a (.chaining (.connecting [] none target.host [])))
  | found (found : Except ConnectError (List Hop)) (hop : Hop) (rest : List Hop) :
    r = .ofChain found → routeOf target found = .ok (hop :: rest) →
    SetsOut n a target cancelled r (.attempt a (.resolving target))
      (.attempt a (.chaining (.connecting [] none hop rest)))
  | refused (found : Except ConnectError (List Hop)) (e : ConnectError) :
    r = .ofChain found → routeOf target found = .error e →
    SetsOut n a target cancelled r (.attempt a (.resolving target)) (.attempt a (.notingFailure e))

theorem failing_unwind (a : Attempt) (links : List Link) (e : ConnectError) :
    Failing a e (a.chained (ChainRun.unwind links e)) := by
  cases links with
  | nil => exact .noting
  | cons link links => exact .unwinding link links

theorem turnsLeft_unwind (n : Nat) (a : Attempt) (links : List Link) (e : ConnectError) :
    (a.chained (ChainRun.unwind links e)).turnsLeft n ≤ links.length + 2 := by
  cases links <;> simp [Attempt.chained, turnsLeft, ChainRun.turnsLeft]

variable {a : Attempt} {target : SshTarget} {e : ConnectError} {t : Task} {size : TerminalSize}
  {c : Call} {token : Option Token}

/-- An attempt that fails contacts no hop and cannot be cancelled. -/
theorem Failing.waits (h : Failing a e t) (hwait : t.wait size = .call c token) :
    token = none ∧ c.hop? = none := by
  cases h with
  | unwinding | noting =>
    obtain ⟨rfl, rfl⟩ := Wait.call.inj hwait
    exact ⟨rfl, rfl⟩
  | returned => cases hwait

/-- An attempt that fails goes on to do so, and comes nearer to its end. -/
theorem Failing.resume (h : Failing a e t) (r : Reply) (u : Turn) (n : Nat) :
    Failing a e (exec (t.resume (.reply r)) u).1 ∧
      (exec (t.resume (.reply r)) u).1.turnsLeft n ≤ t.turnsLeft n - 1 := by
  cases h with
  | unwinding link links =>
    have hchain : (exec (Task.resume (.attempt a (.chaining (.closing (link :: links) e)))
        (.reply r)) u).1 = a.chained (ChainRun.unwind links e) := a.task_chain u _
    rw [hchain]
    exact ⟨failing_unwind a links e, by
      simpa [turnsLeft, ChainRun.turnsLeft] using turnsLeft_unwind n a links e⟩
  | noting => exact ⟨.returned, by simp [Task.resume, Attempt.resume, turnsLeft]⟩
  | returned => exact ⟨.returned, by simp [Task.resume, turnsLeft]⟩

theorem Succeeding.waits (h : Succeeding a t) (hwait : t.wait size = .call c token) :
    token = none ∧ c.hop? = none := by
  cases h with
  | noting | forwarding =>
    obtain ⟨rfl, rfl⟩ := Wait.call.inj hwait
    exact ⟨rfl, rfl⟩
  | returned => cases hwait

/-- An attempt that succeeds goes on to do so, and comes nearer to its end. -/
theorem Succeeding.resume (h : Succeeding a t) (r : Reply) (u : Turn) (n : Nat) :
    Succeeding a (exec (t.resume (.reply r)) u).1 ∧
      (exec (t.resume (.reply r)) u).1.turnsLeft n ≤ t.turnsLeft n - 1 := by
  cases h with
  | noting connection =>
    exact ⟨.forwarding connection, by simp [Task.resume, Attempt.resume, turnsLeft]⟩
  | forwarding => exact ⟨.returned, by simp [Task.resume, Attempt.resume, turnsLeft]⟩
  | returned => exact ⟨.returned, by simp [Task.resume, turnsLeft]⟩

theorem SettingOut.waits (h : SettingOut a target t) (hwait : t.wait size = .call c token) :
    token = none ∧ c.hop? = none := by
  cases h with
  | releasing call todo hcalls =>
    obtain ⟨rfl, rfl⟩ := Wait.call.inj hwait
    exact ⟨rfl, hcalls _ (by simp)⟩
  | resolving =>
    obtain ⟨rfl, rfl⟩ := Wait.call.inj hwait
    exact ⟨rfl, rfl⟩

theorem SettingOut.exists_wait (h : SettingOut a target t) (size : TerminalSize) :
    ∃ c, t.wait size = .call c none := by
  cases h <;> exact ⟨_, rfl⟩

/-- What the resolver has found decides how an attempt sets out. -/
theorem setsOut_route (n : Nat) (found : Except ConnectError (List Hop)) (cancelled : Bool)
    (u : Turn) : SetsOut n a target cancelled (.ofChain found) (.attempt a (.resolving target))
      (exec (a.route target found) u).1 := by
  cases hroute : routeOf target found with
  | error e =>
    rw [a.task_route_error u hroute]
    exact .refused found e rfl hroute
  | ok hops =>
    obtain ⟨hop, rest, rfl⟩ := routeOf_eq_cons hroute
    rw [a.task_route_ok u hroute]
    exact .found found hop rest rfl hroute

/-- With every answer an attempt without a route comes nearer to setting out, or it does so. -/
theorem SettingOut.resume (h : SettingOut a target t) (hssh : a.session.target = .ssh target)
    (hwait : t.wait size = .call c token) {r : Reply} (hr : c.fits r = true) (n : Nat) (u : Turn) :
    SetsOut n a target (u.connector.isCancelled a.token) r t (exec (t.resume (.reply r)) u).1 := by
  cases h with
  | releasing call todo hcalls =>
    have hdeparts := a.departs hssh todo u
    change SetsOut n a target _ r _ (exec (a.release todo) u).1
    generalize (exec (a.release todo) u).1 = t' at hdeparts ⊢
    cases hdeparts with
    | releasing call' todo =>
      exact .still _ _ (.releasing call' todo fun c hc => hcalls c (List.mem_cons_of_mem _ hc))
        (by simp [turnsLeft])
    | calledOff hcancelled => exact .calledOff _ hcancelled
    | resolving => exact .still _ _ .resolving (by simp [turnsLeft])
    | direct hlive hjump => exact .direct _ hlive hjump
  | resolving =>
    obtain ⟨rfl, rfl⟩ := Wait.call.inj hwait
    cases r with
    | hops hops => exact setsOut_route n (.ok hops) _ u
    | failed e => exact setsOut_route n (.error e) _ u
    | _ => simp [Call.fits, Reply.error?] at hr

end Task

/-- A kind of tasks that contact no more hops and come to an end. -/
structure Errand.Quiet (n : Nat) (K : Task → Prop) : Prop where
  waits : ∀ {t size c token}, K t → t.wait size = .call c token → token = none ∧ c.hop? = none
  resume : ∀ {t} r u, K t → K (exec (t.resume (.reply r)) u).1 ∧
    (exec (t.resume (.reply r)) u).1.turnsLeft n ≤ t.turnsLeft n - 1
  ends : ∀ {t size}, K t → (∀ c token, t.wait size ≠ .call c token) → t.turnsLeft n = 0

theorem Task.quiet_failing (n : Nat) (a : Attempt) (e : ConnectError) :
    Errand.Quiet n (Failing a e) where
  waits := Failing.waits
  resume := fun r u h => h.resume r u n
  ends := fun h hwait => by
    cases h with
    | returned => rfl
    | unwinding | noting => exact absurd rfl (hwait _ _)

theorem Task.quiet_succeeding (n : Nat) (a : Attempt) : Errand.Quiet n (Succeeding a) where
  waits := Succeeding.waits
  resume := fun r u h => h.resume r u n
  ends := fun h hwait => by
    cases h with
    | returned => rfl
    | noting | forwarding => exact absurd rfl (hwait _ _)

namespace Errand

variable {p : Errand} {n : Nat}

namespace Quiet

variable {K : Task → Prop}

/-- Nothing makes a quiet task contact a hop. -/
theorem step (h : Quiet n K) (hp : K p.task) (e : Event) :
    K (p.step e).task ∧ (p.step e).hops = p.hops := by
  cases e with
  | outside => exact ⟨hp, rfl⟩
  | poll reply =>
    change K (p.poll reply).task ∧ (p.poll reply).hops = p.hops
    have hpolled := p.polled reply
    generalize p.poll reply = q at hpolled ⊢
    cases hpolled with
    | idle => exact ⟨hp, rfl⟩
    | calledOff c token hwait => cases (h.waits hp hwait).1
    | asked c token hwait => exact ⟨by simpa using hp, hops_ask_of_none (h.waits hp hwait).2⟩
    | answered c token r hwait =>
      exact ⟨(h.resume r _ (by simpa using hp)).1, hops_ask_of_none (h.waits hp hwait).2⟩

/-- Every poll that finds an answer brings a quiet task nearer to its end. -/
theorem turnsLeft_poll (h : Quiet n K) (hp : K p.task) {reply : Option Reply}
    (hprompt : p.Prompt (.poll reply)) :
    (p.poll reply).task.turnsLeft n ≤ p.task.turnsLeft n - 1 := by
  have hpolled := p.polled reply
  generalize p.poll reply = q at hpolled ⊢
  cases hpolled with
  | idle hwait => simp [h.ends hp hwait]
  | calledOff c token hwait => cases (h.waits hp hwait).1
  | asked c token hwait _ hfits =>
    obtain ⟨r, rfl, hr⟩ := hprompt reply c token rfl hwait
    simp [hfits r rfl] at hr
  | answered c token r => simpa using (h.resume r _ hp).2

/-- No run makes a quiet task contact a hop. -/
theorem run (h : Quiet n K) (hp : K p.task) (es : List Event) :
    K (p.run es).task ∧ (p.run es).hops = p.hops :=
  preserves_run (I := fun q => K q.task ∧ q.hops = p.hops)
    (fun _ e hq => ⟨(h.step hq.1 e).1, (h.step hq.1 e).2.trans hq.2⟩) ⟨hp, rfl⟩ es

end Quiet

end Errand

end Multiplexer
