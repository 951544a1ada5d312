import Multiplexer.Proofs.Connector.Stages

/-!
# Which hops an attempt contacts

An attempt to connect over SSH contacts the hops of its route in order and no
others, and the whole route unless it is called off or a hop cannot be reached. As
long as no route is found no hop is contacted, and none is any more if the attempt
was called off before, or if the resolver failed.
-/

namespace Multiplexer

open TurnM

namespace Errand

/-- The first turn of an attempt over SSH. -/
def connectSsh (c : Connector) (session : Session) (token : Token) : Errand :=
  let r := exec (Connector.connectSsh session token) ⟨c, []⟩
  { task := r.1, connector := r.2.connector }

def Resolves (profiles : Profiles) (book : CredentialBook) (p : Errand) (e : Event) : Prop :=
  ∀ a target r, p.task = .attempt a (.resolving target) → e = .poll (some r) →
    r = .ofChain (resolveChain profiles book target (p.connector.isCancelled a.token))

/-- Why an attempt over a route may fail. Unless it is called off or a hop cannot be reached, all
the hops have been contacted. -/
inductive Foiled (token : Token) (route : List Hop) (p : Errand) : ConnectError → Prop where
  | calledOff : p.connector.isCancelled token = true → Foiled token route p .cancelled
  | cutShort (c : Call) (e : ConnectError) : c.reaches = true → (c, .failed e) ∈ p.answers →
    Foiled token route p e
  | refused (c : Call) (e : ConnectError) : p.hops = route → (c, .failed e) ∈ p.answers →
    Foiled token route p e

variable {p : Errand} {n : Nat}

/-- How far an attempt has come, if the route to its target is known. -/
inductive Underway (a : Attempt) (target : SshTarget) (route : List Hop) (p : Errand) : Prop where
  | settingOut : p.task.SettingOut a target → p.hops = [] → Underway a target route p
  | chaining (run : ChainRun) : p.task = .attempt a (.chaining run) → run.cancellable = true →
    p.hops ++ run.toContact p.asked = route → Underway a target route p
  | failing (e : ConnectError) : p.task.Failing a e → p.hops <+: route →
    p.Foiled a.token route e → Underway a target route p
  | succeeding : p.task.Succeeding a → p.hops = route → Underway a target route p

variable {a : Attempt} {target : SshTarget} {route : List Hop} {token : Token} {e : ConnectError}

/-- An attempt that was foiled stays so. -/
theorem Foiled.mono {q : Errand} (h : p.Foiled token route e) (hlater : Later p q)
    (hhops : q.hops = p.hops) : q.Foiled token route e := by
  cases h with
  | calledOff h => exact .calledOff (hlater.cancelled _ h)
  | cutShort c _ hreaches hc => exact .cutShort c e hreaches (hlater.answers _ hc)
  | refused c _ hroute hc => exact .refused c e (hhops.trans hroute) (hlater.answers _ hc)

/-- A call takes its hop from those that are still to be contacted. -/
theorem hops_ask_toContact {run : ChainRun} {size : TerminalSize} {channel : ChannelId} {c : Call}
    (hc : run.call size channel = some c) :
    (p.ask c).hops ++ run.toContact true = p.hops ++ run.toContact p.asked := by
  rw [hops_ask]
  cases p.asked with
  | true => rfl
  | false => simp [ChainRun.toContact_call hc]

/-- An attempt whose chain has gone on is still under way. -/
theorem underway_of_goes {run run' : ChainRun} {c : Call} {r : Reply} (hgoes : run.Goes c r run')
    (hrun : run.cancellable = true) (htask : p.task = a.chained run') (hasked : p.asked = false)
    (hhops : p.hops ++ run.toContact true = route) (hmem : (c, r) ∈ p.answers) :
    Underway a target route p ∧ p.task.turnsLeft n < run.turnsLeft + 2 := by
  cases hgoes with
  | fail e hfailed hcut =>
    subst hfailed
    have hfoiled : p.Foiled a.token route e := by
      rcases hcut with hreaches | hlast
      · exact .cutShort c e hreaches hmem
      · exact .refused c e (by simpa [hlast] using hhops) hmem
    refine ⟨.failing e (htask ▸ Task.failing_unwind a _ e) ⟨_, hhops⟩ hfoiled, ?_⟩
    have hbound := Task.turnsLeft_unwind n a run.links.reverse e
    have hlinks := ChainRun.links_lt_turnsLeft hrun
    rw [List.length_reverse] at hbound
    rw [htask]
    omega
  | on _ hrun' hcontact hless =>
    rw [a.chained_of_cancellable hrun'] at htask
    refine ⟨.chaining run' htask hrun' (by rw [hasked, hcontact, hhops]), ?_⟩
    rw [htask]
    simp only [Task.turnsLeft]
    omega
  | arrive connection hlast =>
    refine ⟨.succeeding (htask ▸ .noting connection) (by simpa [hlast] using hhops), ?_⟩
    have hlinks := ChainRun.links_lt_turnsLeft hrun
    rw [htask]
    simp only [Attempt.chained, Task.turnsLeft]
    omega

/-- A poll of an attempt that connects the hops of its route. -/
theorem poll_chaining {run : ChainRun} (htask : p.task = .attempt a (.chaining run))
    (hrun : run.cancellable = true) (hhops : p.hops ++ run.toContact p.asked = route)
    (reply : Option Reply) :
    Underway a target route (p.poll reply) ∧ (p.Prompt (.poll reply) →
      (p.poll reply).task.turnsLeft n < p.task.turnsLeft n) := by
  obtain ⟨call, hcall, -, -⟩ := ChainRun.call_of_cancellable p.connector.size a.channel hrun
  have hwait : p.task.wait p.connector.size = .call call (some a.token) := by
    simp [htask, Task.wait, hcall, hrun]
  have hleft : p.task.turnsLeft n = run.turnsLeft + 2 := by rw [htask]; rfl
  have hpolled := p.polled reply
  generalize p.poll reply = q at hpolled ⊢
  cases hpolled with
  | idle hidle => exact absurd hwait (hidle _ _)
  | calledOff c token hwait' hcancelled =>
    obtain ⟨rfl, htoken⟩ := Wait.call.inj (hwait'.symm.trans hwait)
    obtain rfl := Option.some.inj htoken
    have hturn : (p.turn .cancelled).task =
        a.chained (ChainRun.unwind run.links.reverse .cancelled) := by
      rw [← ChainRun.fail_eq hrun]
      simp only [turn, htask]
      exact a.task_chain _ _
    refine ⟨.failing .cancelled (hturn ▸ Task.failing_unwind a _ _) ⟨_, hhops⟩
      (.calledOff ((Later.turn p .cancelled).cancelled _ hcancelled)), fun _ => ?_⟩
    have hbound := Task.turnsLeft_unwind n a run.links.reverse .cancelled
    have hlinks := ChainRun.links_lt_turnsLeft hrun
    rw [List.length_reverse] at hbound
    rw [hturn]
    omega
  | asked c token hwait' _ hfits =>
    obtain ⟨rfl, rfl⟩ := Wait.call.inj (hwait'.symm.trans hwait)
    refine ⟨.chaining run (by simpa using htask) hrun ?_, fun hprompt => ?_⟩
    · rw [asked_ask, hops_ask_toContact hcall, hhops]
    · obtain ⟨r, rfl, hr⟩ := hprompt reply c _ rfl hwait'
      simp [hfits r rfl] at hr
  | answered c token r hwait' _ _ hr =>
    obtain ⟨rfl, rfl⟩ := Wait.call.inj (hwait'.symm.trans hwait)
    have hturn : ((p.ask c).answered c r).task = a.chained (run.answer r) := by
      rw [task_answered, task_ask, htask]
      exact a.task_chain _ _
    obtain ⟨hunderway, hless⟩ := underway_of_goes (n := n)
      (ChainRun.goes_answer hrun hcall (Call.admits_of_fits hcall hr)) hrun hturn rfl
      ((hops_ask_toContact hcall).trans hhops) (by simp)
    exact ⟨hunderway, fun _ => hleft ▸ hless⟩

section Resolving

variable {profiles : Profiles} {book : CredentialBook}

/-- An attempt that has set out with what the resolver found is under way. -/
theorem underway_of_setsOut (hroute : IsRoute profiles book target route) {cancelled : Bool}
    {r : Reply} {t : Task} (hsets : t.SetsOut route.length a target cancelled r p.task)
    (hfound : ∀ found, t = .attempt a (.resolving target) → r = .ofChain found →
      found = resolveChain profiles book target cancelled)
    (hoff : cancelled = true → p.connector.isCancelled a.token = true) (hasked : p.asked = false)
    (hhops : p.hops = []) :
    Underway a target route p ∧ p.task.turnsLeft route.length < t.turnsLeft route.length := by
  have hlength : 0 < route.length := List.length_pos_of_ne_nil hroute.ne_nil
  have hcalledOff : cancelled = true → p.task = .attempt a (.notingFailure .cancelled) →
      Underway a target route p := fun hcancelled htask =>
    .failing .cancelled (htask ▸ .noting) (hhops ▸ List.nil_prefix) (.calledOff (hoff hcancelled))
  generalize hnext : p.task = t' at hsets ⊢
  cases hsets with
  | still _ _ hout hless => exact ⟨.settingOut (hnext ▸ hout) hhops, hless⟩
  | calledOff todo hcancelled =>
    refine ⟨hcalledOff hcancelled hnext, ?_⟩
    simp only [Task.turnsLeft]
    omega
  | direct todo _ hjump =>
    refine ⟨.chaining _ hnext rfl ?_, ?_⟩
    · rw [hasked, hhops, hroute.eq_of_direct hjump]
      rfl
    · simp only [Task.turnsLeft, ChainRun.turnsLeft, List.length_nil]
      omega
  | found found hop rest hr hok =>
    obtain rfl := hfound found rfl hr
    cases cancelled with
    | true => cases hok
    | false =>
      obtain rfl := Except.ok.inj (hroute.routeOf_resolveChain.symm.trans hok)
      refine ⟨.chaining _ hnext rfl (by rw [hasked, hhops]; rfl), ?_⟩
      simp only [Task.turnsLeft, ChainRun.turnsLeft, List.length_nil, List.length_cons]
      omega
  | refused found e hr herror =>
    obtain rfl := hfound found rfl hr
    cases cancelled with
    | true =>
      obtain rfl : ConnectError.cancelled = e := Except.error.inj herror
      refine ⟨hcalledOff rfl hnext, ?_⟩
      simp only [Task.turnsLeft]
      omega
    | false => cases hroute.routeOf_resolveChain.symm.trans herror

/-- A poll of an attempt that has no route yet. -/
theorem poll_settingOut (hssh : a.session.target = .ssh target)
    (hroute : IsRoute profiles book target route) (hout : p.task.SettingOut a target)
    (hhops : p.hops = []) {reply : Option Reply}
    (hresolves : p.Resolves profiles book (.poll reply)) :
    Underway a target route (p.poll reply) ∧ (p.Prompt (.poll reply) →
      (p.poll reply).task.turnsLeft route.length < p.task.turnsLeft route.length) := by
  obtain ⟨call, hwait⟩ := hout.exists_wait p.connector.size
  have hpolled := p.polled reply
  generalize p.poll reply = q at hpolled ⊢
  cases hpolled with
  | idle hidle => exact absurd hwait (hidle _ _)
  | calledOff c token hwait' => cases (hout.waits hwait').1
  | asked c token hwait' _ hfits =>
    refine ⟨.settingOut (by simpa using hout) ?_, fun hprompt => ?_⟩
    · rw [hops_ask_of_none (hout.waits hwait').2, hhops]
    · obtain ⟨r, rfl, hr⟩ := hprompt reply c _ rfl hwait'
      simp [hfits r rfl] at hr
  | answered c token r hwait' _ hreply hr =>
    have hturn : ((p.ask c).answered c r).task =
        (exec (p.task.resume (.reply r)) ⟨p.connector, []⟩).1 := by simp
    have hsets := hout.resume hssh hwait' hr route.length ⟨p.connector, []⟩
    rw [← hturn] at hsets
    obtain ⟨hunderway, hless⟩ := underway_of_setsOut hroute hsets
      (fun found htask hr' => Reply.ofChain_injective
        (hr'.symm.trans (hresolves a target r htask (by rw [hreply]))))
      ((Later.answered p c r).cancelled a.token) rfl
      ((hops_ask_of_none (hout.waits hwait').2).trans hhops)
    exact ⟨hunderway, fun _ => hless⟩

/-- A poll keeps an attempt under way, and brings the end nearer if it finds an answer. -/
theorem Underway.poll (hssh : a.session.target = .ssh target)
    (hroute : IsRoute profiles book target route) (h : Underway a target route p)
    {reply : Option Reply} (hresolves : p.Resolves profiles book (.poll reply)) :
    Underway a target route (p.poll reply) ∧ (p.Prompt (.poll reply) →
      (p.poll reply).task.turnsLeft route.length ≤ p.task.turnsLeft route.length - 1) := by
  cases h with
  | settingOut hout hhops =>
    obtain ⟨hunderway, hless⟩ := poll_settingOut hssh hroute hout hhops hresolves
    exact ⟨hunderway, fun hprompt => Nat.le_sub_one_of_lt (hless hprompt)⟩
  | chaining run htask hrun hhops =>
    obtain ⟨hunderway, hless⟩ := poll_chaining htask hrun hhops reply
    exact ⟨hunderway, fun hprompt => Nat.le_sub_one_of_lt (hless hprompt)⟩
  | failing e hfailing hprefix hfoiled =>
    have hquiet := Task.quiet_failing route.length a e
    obtain ⟨hstays, hhops⟩ := hquiet.step hfailing (.poll reply)
    exact ⟨.failing e hstays (hhops.symm ▸ hprefix) (hfoiled.mono (.step p (.poll reply)) hhops),
      hquiet.turnsLeft_poll hfailing⟩
  | succeeding hsucceeding hhops =>
    have hquiet := Task.quiet_succeeding route.length a
    obtain ⟨hstays, hsame⟩ := hquiet.step hsucceeding (.poll reply)
    exact ⟨.succeeding hstays (hsame.trans hhops), hquiet.turnsLeft_poll hsucceeding⟩

/-- Every event keeps an attempt under way. -/
theorem Underway.step (hssh : a.session.target = .ssh target)
    (hroute : IsRoute profiles book target route) (h : Underway a target route p) {e : Event}
    (hresolves : p.Resolves profiles book e) : Underway a target route (p.step e) := by
  cases e with
  | poll reply => exact (h.poll hssh hroute hresolves).1
  | outside c =>
    cases h with
    | settingOut hout hhops => exact .settingOut hout hhops
    | chaining run htask hrun hhops => exact .chaining run htask hrun hhops
    | failing e hfailing hprefix hfoiled =>
      exact .failing e hfailing hprefix (hfoiled.mono (.step p _) rfl)
    | succeeding hsucceeding hhops => exact .succeeding hsucceeding hhops

/-- An attempt under way has contacted a first part of its route. -/
theorem Underway.hops_prefix (h : Underway a target route p) : p.hops <+: route := by
  cases h with
  | settingOut _ hhops => exact hhops ▸ List.nil_prefix
  | chaining run _ _ hhops => exact ⟨_, hhops⟩
  | failing _ _ hprefix => exact hprefix
  | succeeding _ hhops => exact hhops ▸ List.prefix_rfl

/-- An attempt that has returned has either contacted its route or was foiled. -/
theorem Underway.returned (h : Underway a target route p) {result : Except ConnectError Unit}
    (hover : p.task = .over result) :
    result = .ok () ∧ p.hops = route ∨ ∃ e, result = .error e ∧ p.Foiled a.token route e := by
  cases h with
  | settingOut hout => cases hover ▸ hout
  | chaining run htask => cases htask.symm.trans hover
  | failing e hfailing _ hfoiled =>
    rw [hover] at hfailing
    cases hfailing
    exact .inr ⟨e, rfl, hfoiled⟩
  | succeeding hsucceeding hhops =>
    rw [hover] at hsucceeding
    cases hsucceeding
    exact .inl ⟨rfl, hhops⟩

/-- An attempt that waits for nothing more has returned. -/
theorem Underway.exists_returned (h : Underway a target route p)
    (hleft : p.task.turnsLeft n = 0) : ∃ result, p.task = .over result := by
  generalize htask : p.task = t at hleft
  cases h with
  | settingOut hout =>
    rw [htask] at hout
    cases hout <;> simp [Task.turnsLeft] at hleft
  | chaining run hchaining =>
    rw [htask] at hchaining
    subst hchaining
    simp [Task.turnsLeft] at hleft
  | failing e hfailing =>
    rw [htask] at hfailing
    cases hfailing with
    | returned => exact ⟨_, rfl⟩
    | unwinding | noting => simp [Task.turnsLeft] at hleft
  | succeeding hsucceeding =>
    rw [htask] at hsucceeding
    cases hsucceeding with
    | returned => exact ⟨_, rfl⟩
    | noting | forwarding => simp [Task.turnsLeft] at hleft

end Resolving

/-- Each poll that finds an answer brings the end nearer. -/
theorem turnsLeft_run {P : Errand → Event → Prop} {I : Errand → Prop}
    (hstep : ∀ p e, I p → P p e → I (p.step e))
    (hpoll : ∀ p reply, I p → P p (.poll reply) →
      (p.poll reply).task.turnsLeft n ≤ p.task.turnsLeft n - 1)
    {es : List Event} (hp : I p) (hes : p.Along P es) :
    (p.run es).task.turnsLeft n ≤ p.task.turnsLeft n - polls es := by
  induction es generalizing p with
  | nil => exact Nat.le_refl _
  | cons e es ih =>
    have hrest := ih (hstep p e hp hes.1) hes.2
    cases e with
    | outside c => exact hrest
    | poll reply =>
      have hfirst : (p.step (.poll reply)).task.turnsLeft n ≤ p.task.turnsLeft n - 1 :=
        hpoll p reply hp hes.1
      have hcount : polls (.poll reply :: es) = polls es + 1 := by simp [polls]
      change ((p.step (.poll reply)).run es).task.turnsLeft n ≤ _
      omega

/-- An attempt that was called off before it had a route. It may still find one, but then looks at
the token first. -/
inductive Barred (a : Attempt) (target : SshTarget) (allowed : ConnectError → Prop) :
    Task → Prop where
  | settingOut (t : Task) : t.SettingOut a target → Barred a target allowed t
  | routed (hop : Hop) (rest : List Hop) :
    Barred a target allowed (.attempt a (.chaining (.connecting [] none hop rest)))
  | failing (t : Task) (e : ConnectError) : t.Failing a e → allowed e → Barred a target allowed t

structure CalledOff (a : Attempt) (target : SshTarget) (allowed : ConnectError → Prop)
    (p : Errand) : Prop where
  cancelled : p.connector.isCancelled a.token = true
  hops : p.hops = []
  barred : Barred a target allowed p.task

/-- A resolver may fail with given errors only. -/
def Refuses (allowed : ConnectError → Prop) (p : Errand) (e : Event) : Prop :=
  ∀ a target found error, p.task = .attempt a (.resolving target) →
    p.connector.isCancelled a.token = true → e = .poll (some (.ofChain found)) →
    routeOf target found = .error error → allowed error

variable {allowed : ConnectError → Prop}

theorem barred_of_setsOut {t t' : Task} {r : Reply} (hsets : t.SetsOut n a target true r t')
    (hoff : allowed .cancelled)
    (hrefused : ∀ found error, t = .attempt a (.resolving target) → r = .ofChain found →
      routeOf target found = .error error → allowed error) : Barred a target allowed t' := by
  cases hsets with
  | still _ _ hout => exact .settingOut _ hout
  | calledOff => exact .failing _ .cancelled .noting hoff
  | direct _ hlive => cases hlive
  | found _ hop rest => exact .routed hop rest
  | refused found e hr herror => exact .failing _ e .noting (hrefused found e rfl hr herror)

/-- The call to the first hop of a route that came too late is not made. -/
theorem poll_routed {hop : Hop} {rest : List Hop}
    (htask : p.task = .attempt a (.chaining (.connecting [] none hop rest)))
    (hcancelled : p.connector.isCancelled a.token = true) (reply : Option Reply) :
    (p.poll reply).task = .attempt a (.notingFailure .cancelled) ∧
      (p.poll reply).hops = p.hops := by
  have hpoll : p.poll reply = p.turn .cancelled := by
    simp [poll, htask, Task.wait, ChainRun.call, ChainRun.cancellable, hcancelled]
  rw [hpoll]
  refine ⟨?_, rfl⟩
  simp only [turn, htask]
  exact a.task_chain _ _

/-- An attempt that was called off before it had a route stays so. -/
theorem CalledOff.step (hssh : a.session.target = .ssh target) (hoff : allowed .cancelled)
    (h : CalledOff a target allowed p) {e : Event} (hrefuses : p.Refuses allowed e) :
    CalledOff a target allowed (p.step e) := by
  cases e with
  | outside c => exact ⟨(Later.step p (.outside c)).cancelled _ h.cancelled, h.hops, h.barred⟩
  | poll reply =>
    suffices hrest : (p.poll reply).hops = [] ∧ Barred a target allowed (p.poll reply).task from
      ⟨(Later.step p (.poll reply)).cancelled _ h.cancelled, hrest.1, hrest.2⟩
    obtain ⟨hcancelled, hhops, hbarred⟩ := h
    generalize htask : p.task = t at hbarred
    cases hbarred with
    | failing _ e hfailing hallowed =>
      obtain ⟨hstays, hsame⟩ := (Task.quiet_failing 0 a e).step (htask ▸ hfailing) (.poll reply)
      exact ⟨hsame.trans hhops, .failing _ e hstays hallowed⟩
    | routed hop rest =>
      obtain ⟨hnext, hsame⟩ := poll_routed htask hcancelled reply
      exact ⟨hsame.trans hhops, hnext ▸ .failing _ .cancelled .noting hoff⟩
    | settingOut _ hout =>
      subst htask
      obtain ⟨call, hwait⟩ := hout.exists_wait p.connector.size
      have hpolled := p.polled reply
      generalize p.poll reply = q at hpolled ⊢
      cases hpolled with
      | idle hidle => exact absurd hwait (hidle _ _)
      | calledOff c token hwait' => cases (hout.waits hwait').1
      | asked c token hwait' =>
        exact ⟨(hops_ask_of_none (hout.waits hwait').2).trans hhops,
          .settingOut _ (by simpa using hout)⟩
      | answered c token r hwait' _ hreply hr =>
        refine ⟨(hops_ask_of_none (hout.waits hwait').2).trans hhops, ?_⟩
        have hsets := hout.resume hssh hwait' hr 0 ⟨p.connector, []⟩
        rw [hcancelled] at hsets
        rw [task_answered, task_ask, connector_ask]
        refine barred_of_setsOut hsets hoff fun found error htask hr' herror => ?_
        exact hrefuses a target found error htask hcancelled (by rw [hreply, hr']) herror

def Patient (a : Attempt) (target : SshTarget) (p : Errand) : Prop :=
  p.task.early = true → p.task.SettingOut a target ∧ p.hops = []

/-- This holds whatever the resolver answers. -/
theorem Patient.step (hssh : a.session.target = .ssh target) (h : Patient a target p) (e : Event) :
    Patient a target (p.step e) := by
  intro hearly
  cases e with
  | outside c => exact h hearly
  | poll reply =>
    change (p.poll reply).task.early = true at hearly
    change (p.poll reply).task.SettingOut a target ∧ (p.poll reply).hops = []
    have hpolled := p.polled reply
    generalize p.poll reply = q at hpolled hearly ⊢
    cases hpolled with
    | idle => exact h hearly
    | calledOff c token hwait =>
      cases ((h (Task.early_of_resume hearly)).1.waits hwait).1
    | asked c token hwait =>
      obtain ⟨hout, hhops⟩ := h (by simpa using hearly)
      exact ⟨by simpa using hout, (hops_ask_of_none (hout.waits hwait).2).trans hhops⟩
    | answered c token r hwait _ _ hr =>
      have hturn : ((p.ask c).answered c r).task =
          (exec (p.task.resume (.reply r)) ⟨p.connector, []⟩).1 := by simp
      obtain ⟨hout, hhops⟩ := h (Task.early_of_resume (hturn ▸ hearly))
      refine ⟨?_, (hops_ask_of_none (hout.waits hwait).2).trans hhops⟩
      have hsets := hout.resume hssh hwait hr 0 ⟨p.connector, []⟩
      rw [← hturn] at hsets
      generalize ((p.ask c).answered c r).task = t' at hsets hearly ⊢
      generalize p.task = t at hsets
      cases hsets with
      | still _ _ hout' => exact hout'
      | _ => cases hearly

section Refused

variable {profiles : Profiles} {book : CredentialBook}

theorem Resolves.refuses {e : Event} (h : p.Resolves profiles book e) :
    p.Refuses (· = .cancelled) e := by
  intro a target found error htask hcancelled he herror
  have hanswer := h a target _ htask he
  rw [hcancelled] at hanswer
  rw [Reply.ofChain_injective hanswer] at herror
  exact (Except.error.inj herror).symm

/-- Once an attempt without a route is called off, no hop is contacted. -/
theorem run_of_calledOff (hssh : a.session.target = .ssh target)
    (h : ∀ allowed : ConnectError → Prop, allowed .cancelled → CalledOff a target allowed p)
    (es : List Event) :
    (p.run es).hops = [] ∧ (p.Along (Resolves profiles book) es →
      ∀ result, (p.run es).task = .over result → result = .error .cancelled) := by
  constructor
  · have hany : ∀ (q : Errand) (e : Event), CalledOff a target (fun _ => True) q →
        CalledOff a target (fun _ => True) (q.step e) :=
      fun q e hq => hq.step hssh trivial fun _ _ _ _ _ _ _ _ => trivial
    exact (preserves_run hany (h _ trivial) es).hops
  · intro hes result hover
    have honly : ∀ (q : Errand) (e : Event), CalledOff a target (· = .cancelled) q →
        q.Resolves profiles book e → CalledOff a target (· = .cancelled) (q.step e) :=
      fun q e hq hresolves => hq.step hssh (by exact rfl) hresolves.refuses
    have hend := (hes.preserves honly (h _ rfl)).barred
    rw [hover] at hend
    cases hend with
    | settingOut _ hout => cases hout
    | failing _ e hfailing he =>
      cases hfailing
      rw [he]

/-- A resolver that fails for another reason than that it found no chain ends the attempt. -/
theorem run_of_refused (htask : p.task = .attempt a (.resolving target)) (hhops : p.hops = [])
    {error : ConnectError} (herror : ∀ reason, error ≠ .chainResolution reason) (es : List Event) :
    let q := p.poll (some (.failed error))
    (q.run es).hops = [] ∧ (∀ result, (q.run es).task = .over result → result = .error error) ∧
      (q.Along Prompt es → 0 < polls es → (q.run es).task = .over (.error error)) := by
  intro q
  have hpoll : q = (p.ask (.resolve target a.token)).answered (.resolve target a.token)
      (.failed error) := by
    simp [q, poll, htask, Task.wait, Call.fits, Reply.error?]
  have hroute : routeOf target (.error error) = .error error := by
    cases error <;> first | rfl | exact absurd rfl (herror _)
  have hq : q.task = .attempt a (.notingFailure error) := by
    rw [hpoll, task_answered, task_ask, htask]
    exact a.task_route_error _ hroute
  have hcontacted : q.hops = [] := by
    rw [hpoll, hops_answered, hops_ask_of_none rfl, hhops]
  have hquiet := Task.quiet_failing 0 a error
  have hnoting : q.task.Failing a error := hq ▸ .noting
  obtain ⟨hfailing, hsame⟩ := hquiet.run hnoting es
  refine ⟨hsame.trans hcontacted, fun result hover => ?_, fun hes hpolls => ?_⟩
  · rw [hover] at hfailing
    cases hfailing
    rfl
  · have hleft := turnsLeft_run (n := 0) (I := fun r => r.task.Failing a error)
      (fun r e hr _ => (hquiet.step hr e).1)
      (fun r reply hr hprompt => hquiet.turnsLeft_poll hr hprompt) hnoting hes
    have hone : q.task.turnsLeft 0 = 1 := by rw [hq]; rfl
    have hzero : (q.run es).task.turnsLeft 0 = 0 := by omega
    generalize (q.run es).task = t at hfailing hzero
    cases hfailing with
    | returned => rfl
    | unwinding | noting => simp [Task.turnsLeft] at hzero

end Refused

section Start

variable {c : Connector} {session : Session}

/-- What an attempt gives up first contacts no hop. -/
theorem hop?_burden (c : Connector) (id : SessionId) : ∀ call ∈ c.burden id, call.hop? = none := by
  intro call hcall
  unfold Connector.burden at hcall
  split at hcall
  · simp only [Connection.closing, List.cons_append, List.mem_cons, List.mem_append, List.mem_map,
      List.mem_nil_iff, or_false] at hcall
    obtain rfl | ⟨link, -, rfl⟩ | rfl := hcall <;> rfl
  · simp at hcall

variable (token : Token) (hssh : session.target = .ssh target)
  (hidle : (c.status session.id).state ≠ .connecting)

include hssh hidle

/-- The first turn gives up what the session holds. -/
theorem exec_connectSsh : exec (Connector.connectSsh session token) ⟨c, []⟩ =
    exec (Attempt.release ⟨session, token, ⟨c.channels.length⟩⟩ (c.burden session.id))
      ⟨c.begun session.id, []⟩ := by
  rw [← Connector.exec_connect_begun session token ⟨c, []⟩ hidle]
  simp only [Connector.connectSsh, hssh]

theorem sameTerms_connectSsh : c.SameTerms (connectSsh c session token).connector := by
  have hturn := (Task.attempt ⟨session, token, ⟨c.channels.length⟩⟩
    (.releasing (.stopForwards session.id :: c.burden session.id))).sameTerms_resume (.reply .done)
      ⟨c.begun session.id, []⟩
  simp only [connectSsh, exec_connectSsh token hssh hidle]
  exact (c.sameTerms_begun session.id).trans hturn

theorem isCancelled_connectSsh :
    (connectSsh c session token).connector.isCancelled token = c.isCancelled token := by
  simp only [Connector.isCancelled, (sameTerms_connectSsh token hssh hidle).1]

theorem departs_connectSsh :
    Attempt.Departs ⟨session, token, ⟨c.channels.length⟩⟩ target (c.isCancelled token)
      (c.burden session.id) (connectSsh c session token).task := by
  have hbegun : (c.begun session.id).isCancelled token = c.isCancelled token := by
    simp only [Connector.isCancelled, (c.sameTerms_begun session.id).1]
  have hdeparts := Attempt.departs ⟨session, token, ⟨c.channels.length⟩⟩ hssh
    (c.burden session.id) ⟨c.begun session.id, []⟩
  simp only [hbegun] at hdeparts
  simpa only [connectSsh, exec_connectSsh token hssh hidle] using hdeparts

/-- An attempt is under way after its first turn. -/
theorem underway_connectSsh {profiles : Profiles} {book : CredentialBook}
    (hroute : IsRoute profiles book target route) :
    Underway ⟨session, token, ⟨c.channels.length⟩⟩ target route (connectSsh c session token) := by
  have hdeparts := departs_connectSsh token hssh hidle
  have hoff := isCancelled_connectSsh token hssh hidle
  have hcalls := hop?_burden c session.id
  generalize htask : (connectSsh c session token).task = t at hdeparts
  generalize c.burden session.id = todo at hdeparts hcalls
  cases hdeparts with
  | releasing call todo => exact .settingOut (htask ▸ .releasing call todo hcalls) rfl
  | calledOff hcancelled =>
    exact .failing .cancelled (htask ▸ .noting) List.nil_prefix (.calledOff (hoff.trans hcancelled))
  | resolving => exact .settingOut (htask ▸ .resolving) rfl
  | direct _ hjump => exact .chaining _ htask rfl (hroute.eq_of_direct hjump).symm

theorem patient_connectSsh :
    Patient ⟨session, token, ⟨c.channels.length⟩⟩ target (connectSsh c session token) := by
  intro hearly
  have hdeparts := departs_connectSsh token hssh hidle
  have hcalls := hop?_burden c session.id
  refine ⟨?_, rfl⟩
  generalize (connectSsh c session token).task = t at hdeparts hearly ⊢
  generalize c.burden session.id = todo at hdeparts hcalls
  cases hdeparts with
  | releasing call todo => exact .releasing call todo hcalls
  | resolving => exact .resolving
  | calledOff | direct => cases hearly

/-- An attempt whose token was cancelled before is called off from its first turn on. -/
theorem calledOff_connectSsh (hcancelled : c.isCancelled token = true)
    {allowed : ConnectError → Prop} (hoff : allowed .cancelled) :
    CalledOff ⟨session, token, ⟨c.channels.length⟩⟩ target allowed
      (connectSsh c session token) := by
  have hdeparts := departs_connectSsh token hssh hidle
  have hcalls := hop?_burden c session.id
  refine ⟨(isCancelled_connectSsh token hssh hidle).trans hcancelled, rfl, ?_⟩
  generalize (connectSsh c session token).task = t at hdeparts ⊢
  generalize c.burden session.id = todo at hdeparts hcalls
  cases hdeparts with
  | releasing call todo => exact .settingOut _ (.releasing call todo hcalls)
  | calledOff => exact .failing _ .cancelled .noting hoff
  | resolving hlive | direct hlive => simp [hcancelled] at hlive

end Start

/-- An attempt contacts the hops of the one route to its target in order, and all of them unless it
is called off or a hop cannot be reached; it comes to an end if its calls are answered. If it is
called off before it has a route, or if the resolver fails otherwise than by finding no chain, it
contacts no hop and returns that error. -/
theorem contacts_route (profiles : Profiles) (book : CredentialBook) (c : Connector)
    (session : Session) (token : Token) (target : SshTarget)
    (hssh : session.target = .ssh target) (hidle : (c.status session.id).state ≠ .connecting) :
    let p := connectSsh c session token
    ∃ route, (∀ hops, IsRoute profiles book target hops ↔ hops = route) ∧
      (∀ es, p.Along (Resolves profiles book) es →
        let q := p.run es
        q.hops <+: route ∧ ∀ result, q.task = .over result →
          (result = .ok () → q.hops = route) ∧
          (∀ e, result = .error e → q.Foiled token route e) ∧
          (q.connector.isCancelled token = false →
            (∀ call e, call.reaches = true → (call, .failed e) ∉ q.answers) → q.hops = route)) ∧
      (∃ n, ∀ es, p.Along (fun q e => q.Resolves profiles book e ∧ q.Prompt e) es → n ≤ polls es →
        ∃ result, (p.run es).task = .over result) ∧
      (c.isCancelled token = true → ∀ es, (p.run es).hops = [] ∧
        (p.Along (Resolves profiles book) es →
          ∀ result, (p.run es).task = .over result → result = .error .cancelled)) ∧
      (∀ es later,
        let q := p.run es
        q.task.early = true → q.connector.isCancelled token = true → (q.run later).hops = [] ∧
          (q.Along (Resolves profiles book) later →
            ∀ result, (q.run later).task = .over result → result = .error .cancelled)) ∧
      ∀ es a t error later,
        let q := p.run es
        let r := q.poll (some (.failed error))
        q.task = .attempt a (.resolving t) → (∀ reason, error ≠ .chainResolution reason) →
          (r.run later).hops = [] ∧
          (∀ result, (r.run later).task = .over result → result = .error error) ∧
          (r.Along Prompt later → 0 < polls later → (r.run later).task = .over (.error error)) := by
  intro p
  obtain ⟨route, hroute⟩ := exists_route profiles book target
  have hunderway : Underway ⟨session, token, ⟨c.channels.length⟩⟩ target route p :=
    underway_connectSsh token hssh hidle hroute
  have hstep : ∀ q e, Underway ⟨session, token, ⟨c.channels.length⟩⟩ target route q →
      q.Resolves profiles book e →
      Underway ⟨session, token, ⟨c.channels.length⟩⟩ target route (q.step e) :=
    fun q e h hresolves => h.step hssh hroute hresolves
  have hpatient : ∀ es, Patient ⟨session, token, ⟨c.channels.length⟩⟩ target (p.run es) :=
    preserves_run (fun q e h => h.step hssh e) (patient_connectSsh token hssh hidle)
  refine ⟨route, fun hops => ⟨fun h => h.unique hroute, fun h => h ▸ hroute⟩, ?_, ?_, ?_, ?_, ?_⟩
  · intro es hes q
    have hend : Underway _ target route q := hes.preserves hstep hunderway
    refine ⟨hend.hops_prefix, fun result hover => ?_⟩
    rcases hend.returned hover with ⟨rfl, hwhole⟩ | ⟨e, rfl, hfoiled⟩
    · exact ⟨fun _ => hwhole, fun e he => (by cases he), fun _ _ => hwhole⟩
    · refine ⟨fun he => (by cases he), fun e he => Except.error.inj he ▸ hfoiled,
        fun hlive hreached => ?_⟩
      cases hfoiled with
      | calledOff hcancelled => simp [hlive] at hcancelled
      | cutShort call _ hreaches hfailed => exact absurd hfailed (hreached call e hreaches)
      | refused _ _ hwhole => exact hwhole
  · refine ⟨p.task.turnsLeft route.length, fun es hes hpolls => ?_⟩
    have hleft := turnsLeft_run (fun q e hq h => hstep q e hq h.1)
      (fun q reply hq h => (hq.poll hssh hroute h.1).2 h.2) hunderway hes
    have hend := (hes.mono fun q e h => h.1).preserves hstep hunderway
    exact hend.exists_returned (n := route.length) (by omega)
  · intro hcancelled es
    exact run_of_calledOff hssh
      (fun _ hoff => calledOff_connectSsh token hssh hidle hcancelled hoff) es
  · intro es later q hq hcancelled
    obtain ⟨hout, hhops⟩ := hpatient es hq
    exact run_of_calledOff hssh (fun _ _ => ⟨hcancelled, hhops, .settingOut _ hout⟩) later
  · intro es a t error later q r hq herror
    obtain ⟨-, hhops⟩ := hpatient es (by rw [show (p.run es).task = _ from hq]; rfl)
    exact run_of_refused hq hhops herror later

def gate : JumpHost := ⟨"gate", "gate.example", 2222, "ops"⟩

def inner : JumpHost := ⟨"inner", "10.0.0.2", 22, "deploy"⟩

def vault : SshTarget where
  host := ⟨"vault", "10.0.0.9", 22, "root", .keyboardInteractive⟩
  proxyJump := some "office"

def office : Profiles := [("office", [gate, inner])]

def keyring : CredentialBook := ⟨[("inner", .password "two"), ("gate", .password "one")]⟩

def vaultRoute : List Hop := [gate.toHop (.password "one"), inner.toHop (.password "two"), vault.host]

def vaultReached : List Event :=
  [.hops vaultRoute, .link ⟨0, "gate"⟩, .tunnel ⟨0⟩, .link ⟨1, "inner"⟩, .tunnel ⟨1⟩,
    .link ⟨2, "vault"⟩, .terminal ⟨0, "vault"⟩, .done, .done].map fun r => .poll (some r)

theorem isRoute_vault : IsRoute office keyring vault vaultRoute :=
  .chain "office" [gate, inner] [gate.toHop (.password "one"), inner.toHop (.password "two")]
    rfl rfl (by simp)
    (.cons ⟨rfl, rfl, rfl, rfl, rfl⟩ (.cons ⟨rfl, rfl, rfl, rfl, rfl⟩ .nil))

def toVault : Session := ⟨⟨1⟩, .ssh vault⟩

/-- The resolver finds the route to the vault. -/
theorem resolves_vault :
    (connectSsh {} toVault ⟨0⟩).Along (Resolves office keyring) vaultReached := by
  have hlate : ∀ {p : Errand} {e : Event}, p.task.early = false → p.Resolves office keyring e := by
    intro p e hlate a target r htask
    rw [htask] at hlate
    cases hlate
  refine ⟨fun a target r htask he => ?_, hlate rfl, hlate rfl, hlate rfl, hlate rfl, hlate rfl,
    hlate rfl, hlate rfl, hlate rfl, trivial⟩
  obtain ⟨rfl, hstage⟩ := Task.attempt.inj htask
  obtain rfl := AttemptStage.resolving.inj hstage
  cases he
  rfl

/-- The vault is reached over both jump hosts, each with its own credentials. -/
theorem vault_over_both_jumps :
    toVault.target = .ssh vault ∧ (({} : Connector).status toVault.id).state ≠ .connecting ∧
      ((connectSsh {} toVault ⟨0⟩).run vaultReached).task = .over (.ok ()) ∧
      ((connectSsh {} toVault ⟨0⟩).run vaultReached).hops = vaultRoute := by
  have hidle : (({} : Connector).status toVault.id).state ≠ .connecting := by decide
  obtain ⟨route, hunique, hfollows, -⟩ :=
    contacts_route office keyring {} toVault ⟨0⟩ vault rfl hidle
  have hroute : vaultRoute = route := (hunique vaultRoute).mp isRoute_vault
  have hover : ((connectSsh {} toVault ⟨0⟩).run vaultReached).task = .over (.ok ()) := rfl
  obtain ⟨-, hreturned⟩ := hfollows vaultReached resolves_vault
  have hwhole := (hreturned (.ok ()) hover).1 rfl
  exact ⟨rfl, hidle, hover, hwhole.trans hroute.symm⟩

end Errand

end Multiplexer
