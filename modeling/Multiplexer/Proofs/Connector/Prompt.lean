import Multiplexer.Proofs.Connector.Kept

/-!
# Prompt runs

Runs in which a task that needs nothing from outside goes on before anything
comes from outside, and calls that only close, note or forward take no time. In
such a run every serial session is kept in order.
-/

namespace Multiplexer

open TurnM Reopener

def Task.dials : Task → Bool
  | .attempt _ (.opening _) | .watch _ (.reopening ..) => true
  | _ => false

namespace Connector

def holdsReport (c : Connector) : Task → Bool
  | .watch _ (.watching _ channel) =>
    match (c.channel channel).next.1 with
    | .report _ => true
    | _ => false
  | _ => false

/-- Whether a task can go on with nothing from outside. -/
def rouses (c : Connector) (t : Task) : Bool :=
  t.hurried || c.hears t .cancelled || c.hears t .stopped || c.holdsReport t

end Connector

namespace Exchange

def hurries (s : Exchange) : Event → Bool
  | .resume n _ => s.tasks[n]?.any Task.hurried
  | _ => false

def within (s : Exchange) : Event → Bool
  | .resume n signal =>
    signal.inward || match s.tasks[n]? with
      | some (.closing _) => true
      | _ => false
  | _ => false

/-- Whether an event does not come before a turn that was due. -/
def prompt (s : Exchange) (e : Event) : Bool :=
  s.hurries e || (s.tasks.all fun t => !t.hurried) &&
    (s.within e || s.tasks.all fun t => !s.connector.rouses t)

def inFlight (s : Exchange) (id : SessionId) : Nat := s.tasks.countP fun t => t.mode id = .flying

/-- Whether an event may come as far as a session is concerned: serial lines do not fail as
cancelled, the session is not disconnected and its reopening not cancelled while an attempt for it
is in flight, and its reopening is not cancelled while it is connected. -/
def admits (s : Exchange) (id : SessionId) : Event → Bool
  | .resume n (.reply (.failed .cancelled)) => !s.tasks[n]?.any Task.dials
  | .disconnect i => i ≠ id || s.inFlight id = 0
  | .order i .cancel => i ≠ id ||
    (s.inFlight id = 0 && (s.connector.slot id).state ≠ .connected)
  | _ => true

/-- Whether all events of a run are prompt and admitted. -/
def smooth (id : SessionId) (s : Exchange) : List Event → Bool
  | [] => true
  | e :: es => s.prompt e && s.admits id e && (s.step e).smooth id es

variable {s : Exchange} {id : SessionId} {e : Event}

/-- A task that needs something from outside is in no hurry. -/
theorem calm_of_rouses {c : Connector} {t : Task} (h : c.rouses t = false) : t.hurried = false := by
  simp only [Connector.rouses, Bool.or_eq_false_iff] at h
  exact h.1.1.1

theorem live_of_rouses {c : Connector} {session : Session} {d : Drop} {l : ReopenLoop}
    (h : c.rouses (.watch session (.delayed d l)) = false) : c.reopener.isCancelled l = false := by
  simp only [Connector.rouses, Bool.or_eq_false_iff] at h
  exact h.1.1.2

/-- What comes from outside finds every task waiting for the outside. -/
theorem rouses_of_prompt (h : s.prompt e = true) (hhurries : s.hurries e = false)
    (hwithin : s.within e = false) : ∀ t ∈ s.tasks, s.connector.rouses t = false := by
  simp only [prompt, hhurries, hwithin, Bool.false_or, Bool.and_eq_true, List.all_eq_true,
    Bool.not_eq_true'] at h
  exact h.2

theorem hurries_resume {n : Nat} {signal : Signal} {t : Task} (ht : s.tasks[n]? = some t) :
    s.hurries (.resume n signal) = t.hurried := by
  simp [hurries, ht]

/-- While a task has a turn, no other one only closes, notes or forwards. -/
theorem calm_of_prompt {n : Nat} {signal : Signal} {t : Task} {others : List Task}
    (h : s.prompt (.resume n signal) = true) (hone : s.tasks.countP Task.hurried ≤ 1)
    (ht : s.tasks[n]? = some t) (hothers : s.tasks.Perm (t :: others)) :
    ∀ u ∈ others, u.hurried = false := by
  intro u hu
  cases hhurried : t.hurried with
  | true =>
    rw [hothers.countP_eq, List.countP_cons_of_pos hhurried] at hone
    have hzero : others.countP Task.hurried = 0 := by omega
    simpa using List.countP_eq_zero.1 hzero u hu
  | false =>
    simp only [prompt, hurries_resume ht, hhurried, Bool.false_or, Bool.and_eq_true,
      List.all_eq_true, Bool.not_eq_true'] at h
    exact h.1 u (hothers.mem_iff.2 (List.mem_cons_of_mem _ hu))

/-- There is one hurried task at most after every prompt event. -/
theorem hurried_step (hprompt : s.prompt e = true) (hone : s.tasks.countP Task.hurried ≤ 1) :
    (s.step e).tasks.countP Task.hurried ≤ 1 := by
  have hcons : ∀ (t : Task) (new ts : List Task), (∀ u ∈ new, u.Fresh) →
      (∀ u ∈ ts, u.hurried = false) → (t :: (new ++ ts)).countP Task.hurried ≤ 1 := by
    intro t new ts hnew hts
    have hzero : ts.countP Task.hurried = 0 := List.countP_eq_zero.2 fun u hu => by simp [hts u hu]
    rw [Kept.countP_fresh (fun u hu => hu.not_hurried) hnew, List.countP_cons, hzero]
    split <;> simp
  obtain ⟨ts, heffect, hperm⟩ := s.effect e
  rw [hperm.countP_eq]
  generalize (s.step e).connector = c at heffect
  cases heffect with
  | refused => rwa [List.countP_cons_of_neg (by simp [Task.hurried])]
  | begin _ t c₀ t' _ new hbegins hmove =>
    refine hcons t' new s.tasks hmove.fresh fun u hu =>
      calm_of_rouses (rouses_of_prompt hprompt ?_ ?_ u hu)
    · cases hbegins <;> rfl
    · cases hbegins <;> rfl
  | turn n signal t others t' _ new ht hothers _ hears hmove =>
    exact hcons t' new others hmove.fresh (calm_of_prompt hprompt hone ht hothers)
  | _ => exact hone

/-- An order from outside keeps the session in order. -/
theorem kept_order {o : Order} {i : SessionId} (h : Kept id s.connector s.tasks)
    (ho : Orderly s.connector s.tasks) (hadmits : s.admits id (.order i o) = true)
    (hcalm : ∀ u ∈ s.tasks, u.hurried = false) :
    Kept id { s.connector with reopener := o.carryOut i s.connector.reopener } s.tasks := by
  have hord := ordered_carryOut ho.sound i o
  by_cases hi : id = i
  · subst hi
    refine h.ordered ho hord hcalm (.inl rfl) fun hbusy => ?_
    cases o with
    | register params => exact armed_register ho.sound params
    | unregister => exact armed_unregister _ _
    | reset => exact armed_reset _ _
    | cancel =>
      obtain ⟨hflying, hstate⟩ : s.inFlight id = 0 ∧ (s.connector.slot id).state ≠ .connected := by
        simpa [admits] using hadmits
      obtain hw | ⟨u, hu, hflies⟩ := hbusy
      · obtain ⟨w, hw⟩ := Option.ne_none_iff_exists'.1 hw
        exact absurd (h.watched w hw) hstate
      · exact absurd hflies (by simpa using List.countP_eq_zero.1 hflying u hu)
  · exact h.elsewhere ho hi hord rfl

/-- A request keeps the session in order. -/
theorem kept_begin {t t' : Task} {c c' : Connector} {new : List Task}
    (h : Kept id s.connector s.tasks) (ho : Orderly s.connector s.tasks)
    (hserial : ∀ x ∈ s.sessions, x.id = id → ∃ params, x.target = .serial params)
    (hadmits : s.admits id e = true) (hrest : ∀ u ∈ s.tasks, s.connector.rouses u = false)
    (hbegins : s.Begins e t c) (hmove : Move c t (.reply .done) t' c' new) :
    Kept id c' (t' :: (new ++ s.tasks)) := by
  have hcalm : ∀ u ∈ s.tasks, u.hurried = false := fun u hu => calm_of_rouses (hrest u hu)
  obtain ⟨i, hserves, hord⟩ := hbegins.ordered
  have ho' : Orderly c (t :: s.tasks) := (ho.ordered hord).idle hbegins.loop?
  by_cases hi : id = i
  · subst hi
    have hhurried : t.hurried = true := by cases hbegins <;> rfl
    have hgo : Kept id c (t :: s.tasks) → Kept id c' (t' :: (new ++ s.tasks)) :=
      fun hkept => hkept.move ho' hmove hcalm (by simp [hhurried])
    cases hbegins with
    | connect session token hsession hstate =>
      obtain rfl := Option.some.inj hserves
      obtain ⟨params, htarget⟩ := hserial session hsession rfl
      exact h.connect ho htarget hstate hcalm
        (fun session d l hmem => live_of_rouses (hrest _ hmem)) hmove
    | disconnect i =>
      obtain rfl := Option.some.inj hserves
      have hflying : s.inFlight i = 0 := by simpa [admits] using hadmits
      have hothers : ∀ u ∈ s.tasks, u.mode i ≠ .flying :=
        fun u hu => by simpa using List.countP_eq_zero.1 hflying u hu
      have hslot := Connector.slot_released
        { s.connector with reopener := s.connector.reopener.cancel i } i i
      rw [if_pos rfl] at hslot
      refine hgo (.cons (h.ordered ho hord hcalm (.inr hslot) ?_) ?_ fun _ => ?_)
      · rintro (hw | ⟨u, hu, hflies⟩)
        · simp [hslot] at hw
        · exact absurd hflies (hothers u hu)
      · simp
      · rw [hslot]
        refine ⟨fun hstate => ?_, rfl⟩
        have hconnecting : (s.connector.slot i).state = .connecting := hstate
        have hcount := h.flying
        rw [if_pos hconnecting, Kept.countP_flying hothers] at hcount
        cases hcount
    | destroy i =>
      obtain rfl := Option.some.inj hserves
      have hslot := Connector.slot_released
        { s.connector with reopener := s.connector.reopener.unregister i } i i
      rw [if_pos rfl] at hslot
      refine hgo (.cons (h.ordered ho hord hcalm (.inr hslot) fun _ => ?_) (by simp) trivial)
      rw [Connector.reopener_released]
      exact armed_unregister _ _
  · have hne : t.serves ≠ some id := by
      rw [hserves]
      exact fun heq => hi (Option.some.inj heq).symm
    have hslot : c.slot id = s.connector.slot id := by
      cases hbegins with
      | connect session token =>
        obtain rfl := Option.some.inj hserves
        exact (s.connector.slot_begun _ _).trans (if_neg hi)
      | disconnect i | destroy i =>
        obtain rfl := Option.some.inj hserves
        exact (Connector.slot_released _ _ _).trans (if_neg hi)
    have hkept : Kept id c (t :: s.tasks) :=
      (h.elsewhere ho hi hord hslot).cons (by rw [Task.mode_of_serves hne]; exact nofun)
        (.of_serves hne)
    exact hkept.foreign ho' hmove hne

/-- Every prompt event that is admitted keeps the session in order. -/
theorem kept_step (h : Kept id s.connector s.tasks) (ho : Orderly s.connector s.tasks)
    (hserial : ∀ x ∈ s.sessions, x.id = id → ∃ params, x.target = .serial params)
    (hone : s.tasks.countP Task.hurried ≤ 1) (hprompt : s.prompt e = true)
    (hadmits : s.admits id e = true) : Kept id (s.step e).connector (s.step e).tasks := by
  obtain ⟨ts, heffect, hperm⟩ := s.effect e
  refine Kept.perm ?_ hperm.symm
  generalize (s.step e).connector = c at heffect
  cases heffect with
  | nothing => exact h
  | refused => exact h.cons nofun trivial
  | create | forget | limit | publish => exact h.undisturbed ho rfl fun _ => .refl
  | policy p => exact h.undisturbed ho rfl fun _ => .setPolicy p
  | cancel token =>
    refine h.undisturbed ho ?_ fun _ => ?_ <;> unfold Connector.cancel <;> split <;>
      first | rfl | exact .refl
  | order i o =>
    exact kept_order h ho hadmits fun u hu => calm_of_rouses (rouses_of_prompt hprompt rfl rfl u hu)
  | begin _ t c₀ t' _ new hbegins hmove =>
    refine kept_begin h ho hserial hadmits (rouses_of_prompt hprompt ?_ ?_) hbegins hmove <;>
      cases hbegins <;> rfl
  | turn n signal t others t' _ new ht hothers _ hears hmove =>
    have ho' := ho.perm hothers
    refine ((h.perm hothers).taking ho' t signal).move (ho'.taking t signal) hmove
      (calm_of_prompt hprompt hone ht hothers) fun hhurried hserves hinward session d l hmem => ?_
    have hwithin : s.within (.resume n signal) = false := by
      cases t with
      | closing => exact absurd rfl hserves
      | _ => simp [within, hinward, ht]
    have hrouses := rouses_of_prompt hprompt ((hurries_resume ht).trans hhurried) hwithin
    rw [Connector.reopener_taking]
    exact live_of_rouses (hrouses _ (hothers.mem_iff.2 hmem))

structure Tidy (id : SessionId) (s : Exchange) : Prop where
  regular : s.Regular
  single : s.tasks.countP Task.hurried ≤ 1
  kept : (∀ x ∈ s.sessions, x.id = id → ∃ params, x.target = .serial params) →
    Kept id s.connector s.tasks

theorem mem_sessions_step {x : Session} (hx : x ∈ s.sessions) (e : Event) :
    x ∈ (s.step e).sessions := by
  by_cases he : ∃ target, e = .create target
  · obtain ⟨target, rfl⟩ := he
    simp only [step]
    split
    · exact List.mem_append_left _ hx
    · exact hx
  · rwa [sessions_step fun target heq => he ⟨target, heq⟩]

/-- What holds at any time of a prompt run holds after one more event. -/
theorem tidy_step (h : s.Tidy id) (hprompt : s.prompt e = true) (hadmits : s.admits id e = true) :
    (s.step e).Tidy id where
  regular := regular_step e h.regular
  single := hurried_step hprompt h.single
  kept hserial := by
    have hserial' : ∀ x ∈ s.sessions, x.id = id → ∃ params, x.target = .serial params :=
      fun x hx => hserial x (mem_sessions_step hx e)
    exact kept_step (h.kept hserial') h.regular.orderly hserial' h.single hprompt hadmits

theorem tidy_start (id : SessionId) : Tidy id {} where
  regular := regular_start
  single := Nat.zero_le _
  kept _ := by
    refine ⟨?_, ?_, ?_, ?_, ?_⟩ <;> simp [Connector.slot, Connector.status, Connector.watcher?]

/-- A session that a watch is over is kept in order if it is a serial one. -/
theorem Tidy.kept_of_watch {n : Nat} {session : Session} {stage : WatchStage} {params : SerialParams}
    (h : s.Tidy session.id) (ht : s.tasks[n]? = some (.watch session stage))
    (htarget : session.target = .serial params) : Kept session.id s.connector s.tasks := by
  refine h.kept fun x hx hid => ⟨params, ?_⟩
  have hsession := h.regular.listed.served _ (List.mem_of_getElem? ht) session rfl
  rw [h.regular.listed.distinct x hx session hsession hid, htarget]

theorem smooth_cons {es : List Event} :
    s.smooth id (e :: es) = true ↔
      s.prompt e = true ∧ s.admits id e = true ∧ (s.step e).smooth id es = true := by
  simp [smooth, and_assoc]

theorem smooth_append {es es' : List Event} :
    s.smooth id (es ++ es') = true ↔ s.smooth id es = true ∧ (s.run es).smooth id es' = true := by
  induction es generalizing s with
  | nil => simp [smooth, run]
  | cons e es ih =>
    rw [List.cons_append, smooth_cons, smooth_cons, ih]
    simp only [run, List.foldl_cons, and_assoc]

/-- What holds at any time of a prompt run holds at its end. -/
theorem tidy_run {es : List Event} (h : s.Tidy id) (hsmooth : s.smooth id es = true) :
    (s.run es).Tidy id := by
  induction es generalizing s with
  | nil => exact h
  | cons e es ih =>
    obtain ⟨hprompt, hadmits, hrest⟩ := smooth_cons.1 hsmooth
    exact ih (tidy_step h hprompt hadmits) hrest

end Exchange

end Multiplexer
