import Multiplexer.Proofs.Connector.Wiring
import Multiplexer.Proofs.Reopen.Loops

/-!
# Effects

What an event comes to, up to the order of the tasks: it leaves the tasks alone,
or it is a turn of one of them, or of a new one. A turn is for one session at
most and leaves what is kept for all others as it is, in the slots as well as in
the entries for the reopening of lines.
-/

namespace Multiplexer

open TurnM Reopener

namespace Task

def serves : Task → Option SessionId
  | .attempt a _ => some a.session.id
  | .watch session _ => some session.id
  | .disconnecting id _ | .destroying id _ => some id
  | .closing _ | .over _ => none

/-- A task is for one session at most. -/
theorem exists_serves (t : Task) : ∃ i, ∀ j, t.serves = some j → j = i := by
  cases t.serves with
  | none => exact ⟨⟨0⟩, by simp⟩
  | some i => exact ⟨i, by simp [eq_comm]⟩

/-- The loop that a task runs. -/
def loop? : Task → Option ReopenLoop
  | .watch _ (.delayed _ l) | .watch _ (.reopening _ l _ _) | .watch _ (.notingReopening _ l) =>
    some l
  | _ => none

end Task

namespace Connector

variable (c : Connector)

@[simp] theorem slot_taking (t : Task) (s : Signal) : (c.taking t s).slot = c.slot := by
  unfold taking; split <;> rfl

@[simp] theorem reopener_taking (t : Task) (s : Signal) :
    (c.taking t s).reopener = c.reopener := by
  unfold taking; split <;> rfl

@[simp] theorem registry_taking (t : Task) (s : Signal) :
    (c.taking t s).registry = c.registry := by
  unfold taking; split <;> rfl

@[simp] theorem reopener_stopWatcher (id : SessionId) :
    (c.stopWatcher id).reopener = c.reopener := by
  unfold stopWatcher; split <;> rfl

@[simp] theorem reopener_released (id : SessionId) :
    (c.released id).reopener = c.reopener := by
  unfold released; split <;> exact c.reopener_stopWatcher id

@[simp] theorem reopener_joined (session : Session) (connection : Connection)
    (channel : ChannelId) : (c.joined session connection channel).reopener = c.reopener := by
  unfold joined attached putWatcher
  simp only [reopener_stopWatcher]
  rfl

@[simp] theorem reopener_paused (session : Session) (drop : Drop) (step : Reopener.Step) :
    (c.paused session drop step).reopener = step.1 := by
  unfold paused; dsimp only; split <;> rfl

@[simp] theorem registry_paused (session : Session) (drop : Drop) (step : Reopener.Step) :
    (c.paused session drop step).registry = c.registry := by
  unfold paused; dsimp only; split <;> rfl

@[simp] theorem slot_joined (session : Session) (connection : Connection) (channel : ChannelId)
    (i : SessionId) : (c.joined session connection channel).slot i =
      if i = session.id then ⟨.connected, some connection, some ⟨c.nextGeneration, channel⟩⟩
      else c.slot i := by
  simp [joined]

@[simp] theorem slot_severed (id i : SessionId) : (c.severed id).slot i =
    if i = id then { c.slot id with connection := none, watcher := none } else c.slot i := by
  unfold severed
  by_cases hi : i = id <;> simp [hi]

theorem slot_begun (id i : SessionId) : (c.begun id).slot i =
    if i = id then ⟨.connecting, none, none⟩ else c.slot i := by
  have hslot : (c.begun id).slot i = ((c.setState id .connecting).released id).slot i := rfl
  rw [hslot]
  by_cases hi : i = id <;> simp [hi]

end Connector

/-- The entry of the session that an attempt is for is armed again, or made anew. -/
theorem Reopener.Ordered.rearmed {c : Connector} {loops : List ReopenLoop}
    (h : c.reopener.Sound loops) (id : SessionId) (params : SerialParams) :
    c.reopener.Ordered id (c.rearmed id params).reopener := by
  unfold Connector.rearmed
  dsimp only
  split
  · exact .reset
  · exact .register h.standing_nextNumber params

theorem Pauses.slot {c c₁ : Connector} {session : Session} {stage : WatchStage} {s : Signal}
    {drop : Drop} {step : Reopener.Step} (h : Pauses session c stage s drop c₁ step)
    {i : SessionId} (hi : session.id ≠ i) : c₁.slot i = c.slot i := by
  cases h with
  | dropped | refused => simp [Ne.symm hi]
  | calledOff | forgotten | overtaken | succeeded => rfl

namespace Move

variable {c c' : Connector} {t t' : Task} {s : Signal} {new : List Task}

/-- The tasks that a turn starts are fresh. -/
theorem fresh (h : Move c t s t' c' new) : ∀ u ∈ new, u.Fresh := by
  cases h with
  | connect | «open» | reopen =>
    intro u hu
    unfold Connector.starting Connector.superseded at hu
    split at hu <;> simp at hu <;> grind [Task.Fresh]
  | _ => simp

/-- A task stays with its session until it is over. -/
theorem serves (h : Move c t s t' c' new) : t'.serves = t.serves ∨ t'.serves = none := by
  cases h with
  | discard todo r t' ht' => rcases ht' with rfl | rfl <;> exact .inr rfl
  | pause session stage s drop c₁ step =>
    cases step.2.2 with
    | delayed => exact .inl rfl
    | ended => exact .inr rfl
  | _ => first | exact .inl rfl | exact .inr rfl

/-- A turn leaves the slots of all other sessions alone. -/
theorem slot (h : Move c t s t' c' new) {i : SessionId} (ht : t.serves ≠ some i) :
    c'.slot i = c.slot i := by
  cases h with
  | pause session stage s drop c₁ step hpauses =>
    rw [Connector.slot_paused]
    exact hpauses.slot (by simpa [Task.serves] using ht)
  | fail a stage s e hstage =>
    have hi : a.session.id ≠ i := by simpa [Task.serves] using ht
    simp [Ne.symm hi]
  | connect a =>
    have hi : a.session.id ≠ i := by simpa [Task.serves] using ht
    rw [Connector.slot_joined, if_neg (Ne.symm hi)]
  | «open» a params =>
    have hi : a.session.id ≠ i := by simpa [Task.serves] using ht
    exact (Connector.slot_joined _ _ _ _ i).trans (if_neg (Ne.symm hi))
  | reopen session =>
    have hi : session.id ≠ i := by simpa [Task.serves] using ht
    rw [Connector.slot_joined, if_neg (Ne.symm hi)]
  | drop session =>
    have hi : session.id ≠ i := by simpa [Task.serves] using ht
    rw [Connector.slot_severed, if_neg (Ne.symm hi)]
    rfl
  | report session =>
    have hi : session.id ≠ i := by simpa [Task.serves] using ht
    exact (c.slot_setState session.id i .disconnected).trans (if_neg (Ne.symm hi))
  | claim session =>
    have hi : session.id ≠ i := by simpa [Task.serves] using ht
    exact (c.slot_setState session.id i .connecting).trans (if_neg (Ne.symm hi))
  | disconnected id =>
    have hi : id ≠ i := by simpa [Task.serves] using ht
    simp [Ne.symm hi]
  | _ => rfl

end Move

section Stir

variable {c c₁ : Connector} {session : Session} {drop : Drop} {l : ReopenLoop}
  {loops : List ReopenLoop}

/-- The loop that a watch goes on with after a pause. -/
def ReopenPause.loop? : ReopenPause → Option ReopenLoop
  | .delayed l => some l
  | .ended _ => none

@[simp] theorem loop?_task (pause : ReopenPause) :
    (pause.task session drop).loop? = pause.loop? := by
  cases pause <;> rfl

theorem Reopener.Stepped.runs {r r₁ : Reopener} {k : Standing} {step : Reopener.Step}
    (h : Stepped r₁ l k step) (hr : Altered l.entry (fun k => k) r r₁) (i : SessionId) :
    r.Runs i (some l) step.1 step.2.2.loop? := by
  cases h with
  | waits r' events l' h hsession hentry htoken =>
    exact .goesOn l l' r' (hr.trans h) hsession hentry htoken
  | gaveUp r' events h => exact .ends l _ r' (hr.trans h) fun _ => ⟨rfl, rfl, rfl⟩

theorem Reopener.calledOff_runs {r r₁ : Reopener} (hr : Altered l.entry (fun k => k) r r₁)
    (i : SessionId) : r.Runs i (some l) (r₁.calledOff l).1 none :=
  .ends l _ _ (hr.trans (calledOff_altered l)) fun _ => ⟨rfl, rfl, rfl⟩

theorem Reopener.refused_runs {r r₁ : Reopener} {k : Standing}
    (hr : Altered l.entry (fun k => k) r r₁) (hk : r.standing l.entry = some k)
    (e : ConnectError) (i : SessionId) :
    r.Runs i (some l) (r₁.refused l e).1 (r₁.refused l e).2.2.loop? := by
  have hk₁ : r₁.standing l.entry = some k := by simp [hr.standing, hk]
  obtain ⟨-, h⟩ | ⟨-, h⟩ := refused_cases l hk₁ e
  · rw [h]
    exact calledOff_runs hr i
  · exact h.runs hr i

/-- The drop of a line starts a loop on the entry of its session, or none. -/
theorem Reopener.drop_runs (r : Reopener) (i : SessionId) :
    r.Runs i none (r.drop i).1 (r.drop i).2.2.loop? := by
  obtain ⟨-, h⟩ | ⟨n, k, hlookup, hk, ⟨-, h⟩ | ⟨hidle, h⟩⟩ := r.drop_cases i
  · rw [h]
    exact .rests none
  · rw [h]
    exact .rests none
  · obtain ⟨r', events, l, h, ha, hsession, hentry, htoken⟩ | ⟨r', events, h, ha⟩ := h
    · rw [h]
      exact .starts n k l r' hlookup hk hidle ha hsession hentry htoken
    · rw [h]
      exact .declines n k r' hlookup hk hidle ha

/-- What a pause does to the entries. -/
theorem Pauses.runs {stage : WatchStage} {s : Signal} {step : Reopener.Step}
    (h : Pauses session c stage s drop c₁ step)
    (hs : c.reopener.Sound ((Task.watch session stage).loop?.toList ++ loops)) :
    c.reopener.Runs session.id (Task.watch session stage).loop? step.1 step.2.2.loop? := by
  have hrunning : ∀ l, (Task.watch session stage).loop? = some l →
      ∃ k, c.reopener.standing l.entry = some k := by
    intro l hl
    obtain ⟨k, hk, -⟩ := hs.running l (by simp [hl])
    exact ⟨k, hk⟩
  cases h with
  | dropped => exact c.reopener.drop_runs session.id
  | calledOff drop l => exact calledOff_runs .refl _
  | forgotten drop l | overtaken drop l =>
    obtain ⟨k, hk⟩ := hrunning l rfl
    exact refused_runs (attempt_altered l) hk _ _
  | refused drop l params channel e =>
    obtain ⟨k, hk⟩ := hrunning l rfl
    exact refused_runs .refl hk _ _
  | succeeded drop l r =>
    exact .ends l _ _ (succeeded_altered l) fun _ => ⟨rfl, rfl, rfl⟩

/-- What a turn does to the entries: all but an attempt in flight keep to the loop of the task. -/
theorem Move.runs {c' : Connector} {t t' : Task} {s : Signal} {new : List Task}
    (h : Move c t s t' c' new) (hs : c.reopener.Sound (t.loop?.toList ++ loops)) {i : SessionId}
    (hi : ∀ j, t.serves = some j → j = i) :
    c.reopener.Runs i t.loop? c'.reopener t'.loop? ∨
      t.mode i = .flying ∧ c.reopener.Ordered i c'.reopener ∧ t'.loop? = t.loop? := by
  cases h with
  | pause session stage s drop c₁ step hpauses =>
    obtain rfl := hi session.id rfl
    rw [Connector.reopener_paused, loop?_task]
    exact .inl (hpauses.runs hs)
  | dial a todo r params =>
    obtain rfl := hi a.session.id rfl
    exact .inr ⟨if_pos rfl, .cancel, rfl⟩
  | «open» a params terminal =>
    obtain rfl := hi a.session.id rfl
    rw [Connector.reopener_joined]
    exact .inr ⟨if_pos rfl, .rearmed hs _ _, rfl⟩
  | connect | reopen =>
    rw [Connector.reopener_joined]
    exact .inl (.rests _)
  | lose session drop l hparams =>
    obtain ⟨k, hk, -⟩ := hs.running l (by simp [Task.loop?])
    exact absurd hparams (attempt_params l hk)
  | claim session drop l => exact .inl (.goesOn l l _ (attempt_altered l) rfl rfl rfl)
  | discard todo r t' ht => rcases ht with rfl | rfl <;> exact .inl (.rests _)
  | _ => exact .inl (.rests _)

/-- A turn stirs the entry of no session but the one that its task is for. -/
theorem Move.stir {c' : Connector} {t t' : Task} {s : Signal} {new : List Task}
    (h : Move c t s t' c' new) (hs : c.reopener.Sound (t.loop?.toList ++ loops)) {i : SessionId}
    (hi : ∀ j, t.serves = some j → j = i) : c.reopener.Stir i t.loop? c'.reopener t'.loop? := by
  obtain hruns | ⟨-, ho, heq⟩ := h.runs hs hi
  · exact .runs hruns
  · exact .orders ho heq

end Stir

namespace Exchange

inductive Begins (s : Exchange) : Event → Task → Connector → Prop where
  | connect (session : Session) (token : Token) : session ∈ s.sessions →
    (s.connector.slot session.id).state ≠ .connecting →
    Begins s (.connect session token)
      (.attempt ⟨session, token, ⟨s.connector.channels.length⟩⟩
        (.releasing (.stopForwards session.id :: s.connector.burden session.id)))
      (s.connector.begun session.id)
  | disconnect (id : SessionId) :
    Begins s (.disconnect id) (.disconnecting id (.stopForwards id :: s.connector.burden id))
      ({ s.connector with reopener := s.connector.reopener.cancel id }.released id)
  | destroy (id : SessionId) :
    Begins s (.destroy id) (.destroying id (.stopForwards id :: s.connector.burden id))
      ({ s.connector with reopener := s.connector.reopener.unregister id }.released id)

inductive Effect (s : Exchange) : Event → Connector → List Task → Prop where
  | nothing (e : Event) : Effect s e s.connector s.tasks
  | refused (e : Event) (r : Except ConnectError Unit) : Effect s e s.connector (.over r :: s.tasks)
  | create (target : SessionTarget) (session : Session) (registry : Registry) :
    s.connector.registry.create target = .ok (session, registry) →
    Effect s (.create target) { s.connector with registry } s.tasks
  | forget (id : SessionId) :
    Effect s (.forget id)
      { s.connector with registry := (s.connector.registry.remove id).2 } s.tasks
  | limit (max : Nat) :
    Effect s (.limit max) { s.connector with registry := s.connector.registry.setMax max } s.tasks
  | cancel (token : Token) : Effect s (.cancel token) (s.connector.cancel token) s.tasks
  | publish (channel : ChannelId) (d : Drop) :
    Effect s (.publish channel d) (s.connector.publish channel d) s.tasks
  | order (id : SessionId) (o : Order) :
    Effect s (.order id o)
      { s.connector with reopener := o.carryOut id s.connector.reopener } s.tasks
  | policy (p : ReopenPolicy) :
    Effect s (.policy p) { s.connector with reopener := s.connector.reopener.setPolicy p } s.tasks
  | begin (e : Event) (t : Task) (c : Connector) (t' : Task) (c' : Connector) (new : List Task) :
    Begins s e t c → Move c t (.reply .done) t' c' new →
    Effect s e c' (t' :: (new ++ s.tasks))
  | turn (n : Nat) (signal : Signal) (t : Task) (others : List Task) (t' : Task) (c' : Connector)
    (new : List Task) : s.tasks[n]? = some t → s.tasks.Perm (t :: others) →
    (∀ m u, m ≠ n → s.tasks[m]? = some u → u ∈ others) → s.connector.hears t signal = true →
    Move (s.connector.taking t signal) t signal t' c' new →
    Effect s (.resume n signal) c' (t' :: (new ++ others))

variable {s : Exchange}

/-- A request that starts a task has the effect of its first turn. -/
theorem effect_engage {e : Event} {m : TurnM Task} {c : Connector} {t : Task}
    (hbegins : s.Begins e t c) (hmoves : Moves t (.reply .done) ⟨c, []⟩ (exec m ⟨s.connector, []⟩)) :
    ∃ ts, s.Effect e (s.engage m).connector ts ∧ (s.engage m).tasks.Perm ts := by
  obtain ⟨t', c', new, hexec, hmove⟩ := hmoves
  rw [engage_eq hexec]
  refine ⟨_, .begin e t c t' c' new hbegins hmove, ?_⟩
  rw [List.nil_append, ← List.cons_append]
  exact List.perm_append_comm

/-- A request that is refused adds a task that is over, and no more. -/
theorem effect_refused {e : Event} {m : TurnM Task} {r : Except ConnectError Unit}
    (hexec : exec m ⟨s.connector, []⟩ = (.over r, ⟨s.connector, []⟩)) :
    ∃ ts, s.Effect e (s.engage m).connector ts ∧ (s.engage m).tasks.Perm ts := by
  rw [engage_eq hexec]
  exact ⟨_, .refused e r, List.perm_append_comm⟩

/-- Every event has some such effect, up to the order of the tasks. -/
theorem effect (s : Exchange) (e : Event) :
    ∃ ts, s.Effect e (s.step e).connector ts ∧ (s.step e).tasks.Perm ts := by
  cases e with
  | create target =>
    simp only [step]
    split
    · next session registry h => exact ⟨_, .create target session registry h, .refl _⟩
    · exact ⟨_, .nothing _, .refl _⟩
  | forget id => exact ⟨_, .forget id, .refl _⟩
  | limit max => exact ⟨_, .limit max, .refl _⟩
  | cancel token => exact ⟨_, .cancel token, .refl _⟩
  | order id o => exact ⟨_, .order id o, .refl _⟩
  | policy p => exact ⟨_, .policy p, .refl _⟩
  | publish channel d =>
    simp only [step]
    split
    · exact ⟨_, .publish channel d, .refl _⟩
    · exact ⟨_, .nothing _, .refl _⟩
  | connect session token =>
    simp only [step]
    split
    · next hsession =>
      by_cases hstate : (s.connector.slot session.id).state = .connecting
      · exact effect_refused
          (Connector.exec_connect_overlapping session token ⟨s.connector, []⟩ hstate)
      · exact effect_engage (.connect session token hsession hstate)
          (Connector.moves_connect session token ⟨s.connector, []⟩ hstate)
    · exact ⟨_, .nothing _, .refl _⟩
  | disconnect id =>
    cases hregistered : s.connector.registry.contains id with
    | false =>
      exact effect_refused (Connector.exec_disconnect_unknown id ⟨s.connector, []⟩ hregistered)
    | true =>
      exact effect_engage (.disconnect id)
        (Connector.moves_disconnect id ⟨s.connector, []⟩ hregistered)
  | destroy id =>
    cases hregistered : s.connector.registry.contains id with
    | false =>
      exact effect_refused (Connector.exec_destroy_unknown id ⟨s.connector, []⟩ hregistered)
    | true =>
      exact effect_engage (.destroy id) (Connector.moves_destroy id ⟨s.connector, []⟩ hregistered)
  | resume n signal =>
    cases ht : s.tasks[n]? with
    | none =>
      simp only [step, ht]
      exact ⟨_, .nothing _, .refl _⟩
    | some t =>
      cases hears : s.connector.hears t signal with
      | false =>
        rw [step_resume_unheard ht hears]
        exact ⟨_, .nothing _, .refl _⟩
      | true =>
        obtain ⟨t', c', new, hmove, hstep⟩ := step_moves ht hears
        rw [hstep]
        exact ⟨_, .turn n signal _ (s.tasks.eraseIdx n) t' c' new ht (perm_eraseIdx ht)
          (fun m u hm hu => List.mem_eraseIdx_iff_getElem?.2 ⟨m, hm, hu⟩) hears hmove,
          perm_set ht t' new⟩

structure Orderly (c : Connector) (ts : List Task) : Prop where
  sound : c.reopener.Sound (ts.filterMap Task.loop?)
  owned : ∀ t ∈ ts, ∀ l ∈ t.loop?, t.serves = some l.session

namespace Orderly

variable {c c' : Connector} {t t' : Task} {ts new : List Task}

theorem perm {ts' : List Task} (h : Orderly c ts) (hperm : ts.Perm ts') : Orderly c ts' where
  sound := h.sound.perm (hperm.filterMap _)
  owned u hu := h.owned u (hperm.mem_iff.2 hu)

theorem sound_cons (h : Orderly c (t :: ts)) :
    c.reopener.Sound (t.loop?.toList ++ ts.filterMap Task.loop?) := by
  have hsound := h.sound
  cases hl : t.loop? <;> simpa [hl] using hsound

theorem fresh_loop? {u : Task} (h : u.Fresh) : u.loop? = none := by
  cases u with
  | watch session stage => cases stage <;> first | rfl | cases h
  | closing => rfl
  | _ => cases h

theorem serves_of_loop? {l : ReopenLoop} (h : t.loop? = some l) : t.serves ≠ none := by
  cases t with
  | watch => simp [Task.serves]
  | _ => cases h

/-- What a turn does to the entries, given the session that the task is for, if any. -/
theorem stir {s : Signal} (h : Orderly c (t :: ts)) (hmove : Move c t s t' c' new) {i : SessionId}
    (hi : ∀ j, t.serves = some j → j = i) :
    c.reopener.Stir i t.loop? c'.reopener t'.loop? ∧ ∀ l ∈ t.loop?, l.session = i :=
  ⟨hmove.stir h.sound_cons hi, fun l hl => hi _ (h.owned t List.mem_cons_self l hl)⟩

/-- A turn keeps the loops in order. -/
theorem move {s : Signal} (h : Orderly c (t :: ts)) (hmove : Move c t s t' c' new) :
    Orderly c' (t' :: (new ++ ts)) := by
  obtain ⟨i, hi⟩ := t.exists_serves
  obtain ⟨hstir, hown⟩ := h.stir hmove hi
  have hnew : new.filterMap Task.loop? = [] :=
    List.filterMap_eq_nil_iff.2 fun u hu => fresh_loop? (hmove.fresh u hu)
  refine ⟨?_, fun u hu l hl => ?_⟩
  · have hsound := hstir.sound h.sound_cons hown
    rw [List.filterMap_cons, List.filterMap_append, hnew]
    cases hl : t'.loop? <;> simpa [hl] using hsound
  · obtain rfl | hu := List.mem_cons.1 hu
    · obtain hserves | hserves := hmove.serves
      · obtain ⟨j, hj⟩ := Option.ne_none_iff_exists'.1 (serves_of_loop? hl)
        rw [hj, hstir.session hown l hl, hi j (hserves.symm.trans hj)]
      · exact absurd hserves (serves_of_loop? hl)
    · obtain hu | hu := List.mem_append.1 hu
      · rw [fresh_loop? (hmove.fresh u hu)] at hl
        cases hl
      · exact h.owned u (List.mem_cons_of_mem _ hu) l hl

theorem idle (h : Orderly c ts) (ht : t.loop? = none) : Orderly c (t :: ts) where
  sound := by simpa [ht] using h.sound
  owned u hu l hl := by
    obtain rfl | hu := List.mem_cons.1 hu
    · rw [ht] at hl
      cases hl
    · exact h.owned u hu l hl

/-- An order from outside keeps the loops in order. -/
theorem ordered {i : SessionId} (h : Orderly c ts) (ho : c.reopener.Ordered i c'.reopener) :
    Orderly c' ts where
  sound := h.sound.ordered ho
  owned := h.owned

theorem taking (h : Orderly c ts) (t : Task) (s : Signal) : Orderly (c.taking t s) ts :=
  h.ordered (i := ⟨0⟩) (by rw [c.reopener_taking]; exact .refl)

end Orderly

/-- What a request that starts a task does to the entries. -/
theorem Begins.ordered {e : Event} {t : Task} {c : Connector} (h : s.Begins e t c) :
    ∃ i, t.serves = some i ∧ s.connector.reopener.Ordered i c.reopener := by
  cases h with
  | connect session token =>
    refine ⟨session.id, rfl, ?_⟩
    have hreopener : (s.connector.begun session.id).reopener = s.connector.reopener :=
      Connector.reopener_released _ _
    rw [hreopener]
    exact .refl
  | disconnect id =>
    refine ⟨id, rfl, ?_⟩
    rw [Connector.reopener_released]
    exact .cancel
  | destroy id =>
    refine ⟨id, rfl, ?_⟩
    rw [Connector.reopener_released]
    exact .unregister

theorem Begins.loop? {e : Event} {t : Task} {c : Connector} (h : s.Begins e t c) :
    t.loop? = none := by
  cases h <;> rfl

/-- What the reopening of lines is told from outside concerns one session only. -/
theorem ordered_carryOut {r : Reopener} {loops : List ReopenLoop} (h : r.Sound loops)
    (id : SessionId) (o : Order) : r.Ordered id (o.carryOut id r) := by
  cases o with
  | register params => exact .register h.standing_nextNumber params
  | unregister => exact .unregister
  | reset => exact .reset
  | cancel => exact .cancel

/-- Every event keeps the loops in order. -/
theorem orderly_step (e : Event) (h : Orderly s.connector s.tasks) :
    Orderly (s.step e).connector (s.step e).tasks := by
  obtain ⟨ts, heffect, hperm⟩ := s.effect e
  refine Orderly.perm ?_ hperm.symm
  generalize (s.step e).connector = c at heffect
  cases heffect with
  | nothing => exact h
  | refused => exact h.idle rfl
  | create | forget | limit | publish => exact ⟨h.sound, h.owned⟩
  | cancel token => exact h.ordered (i := ⟨0⟩) (by unfold Connector.cancel; split <;> exact .refl)
  | order id o => exact h.ordered (ordered_carryOut h.sound id o)
  | policy p => exact h.ordered (i := ⟨0⟩) (.setPolicy p)
  | begin _ t c₀ t' _ new hbegins hmove =>
    obtain ⟨i, -, ho⟩ := hbegins.ordered
    exact ((h.ordered ho).idle hbegins.loop?).move hmove
  | turn n signal t others t' _ new ht hothers _ hears hmove =>
    exact ((h.perm hothers).taking t signal).move hmove

theorem orderly_start : Orderly ({} : Exchange).connector ({} : Exchange).tasks where
  sound :=
    { bound := by simp [Reopener.standing, Reopener.entryAt]
      known := by simp
      injective := by simp
      orphan := by simp [Reopener.standing, Reopener.entryAt]
      running := by simp
      apart := by simp
      busy := by simp [Reopener.standing, Reopener.entryAt]
      owner := by simp }
  owned := by simp


end Exchange

end Multiplexer
