import Multiplexer.Proofs.Connector.Effects
import Multiplexer.Proofs.Connector.Registry

/-!
# Sessions and watchers

Tasks are for sessions that were registered once, and no two of these have the
same id. The watcher of a session always has a task, which nobody has told to
stop.
-/

namespace Multiplexer

open TurnM

def Task.session? : Task → Option Session
  | .attempt a _ => some a.session
  | .watch session _ => some session
  | _ => none

namespace Move

variable {c c' : Connector} {t t' : Task} {s : Signal} {new : List Task}

/-- A turn hands the session of its task on to nobody but itself and its new tasks. -/
theorem session? (h : Move c t s t' c' new) :
    ∀ u ∈ t' :: new, ∀ x ∈ u.session?, x ∈ t.session? := by
  cases h with
  | connect | «open» | reopen =>
    unfold Connector.starting Connector.superseded
    split <;> simp [Task.session?]
  | discard todo r t' ht => rcases ht with rfl | rfl <;> simp [Task.session?]
  | pause session stage s drop c₁ step => cases step.2.2 <;> simp [Task.session?, ReopenPause.task]
  | _ => simp [Task.session?]

/-- A turn registers nobody and gives out no id. -/
theorem registry (h : Move c t s t' c' new) :
    (∀ x ∈ c'.registry.sessions, x ∈ c.registry.sessions) ∧
      c'.registry.nextId = c.registry.nextId := by
  cases h with
  | pause session stage s drop c₁ step hpauses =>
    rw [Connector.registry_paused]
    cases hpauses <;> exact ⟨fun _ h => h, rfl⟩
  | connect | «open» | reopen =>
    unfold Connector.joined
    rw [Connector.registry_attached]
    exact ⟨fun _ h => h, rfl⟩
  | destroyed => exact ⟨fun x hx => (List.mem_filter.1 hx).1, rfl⟩
  | _ => exact ⟨fun _ h => h, rfl⟩

end Move

/-- All sessions that are registered or worked on were registered once, and they have distinct ids. -/
structure Listed (c : Connector) (ts : List Task) (sessions : List Session) : Prop where
  registered : ∀ x ∈ c.registry.sessions, x ∈ sessions
  issued : ∀ x ∈ sessions, x.id.value < c.registry.nextId
  distinct : ∀ x ∈ sessions, ∀ y ∈ sessions, x.id = y.id → x = y
  served : ∀ t ∈ ts, ∀ x ∈ t.session?, x ∈ sessions

namespace Listed

variable {c c' : Connector} {t t' : Task} {ts new : List Task} {sessions : List Session}

theorem perm {ts' : List Task} (h : Listed c ts sessions) (hperm : ts.Perm ts') :
    Listed c ts' sessions :=
  { h with served := fun t ht => h.served t (hperm.mem_iff.2 ht) }

theorem registry (h : Listed c ts sessions)
    (hsessions : ∀ x ∈ c'.registry.sessions, x ∈ c.registry.sessions)
    (hnext : c'.registry.nextId = c.registry.nextId) : Listed c' ts sessions where
  registered x hx := h.registered x (hsessions x hx)
  issued x hx := hnext ▸ h.issued x hx
  distinct := h.distinct
  served := h.served

/-- A turn keeps all sessions listed. -/
theorem move {s : Signal} (h : Listed c (t :: ts) sessions) (hmove : Move c t s t' c' new) :
    Listed c' (t' :: (new ++ ts)) sessions :=
  { h.registry hmove.registry.1 hmove.registry.2 with
    served := by
      intro u hu x hx
      rw [← List.cons_append] at hu
      obtain hu | hu := List.mem_append.1 hu
      · exact h.served t List.mem_cons_self x (hmove.session? u hu x hx)
      · exact h.served u (List.mem_cons_of_mem _ hu) x hx }

theorem cons (h : Listed c ts sessions) (ht : ∀ x ∈ t.session?, x ∈ sessions) :
    Listed c (t :: ts) sessions :=
  { h with served := List.forall_mem_cons.2 ⟨ht, h.served⟩ }

end Listed

namespace Connector

variable (c : Connector)

@[simp] theorem registry_released (id : SessionId) : (c.released id).registry = c.registry := by
  unfold released; split <;> exact c.registry_stopWatcher id

@[simp] theorem stopped_paused (session : Session) (drop : Drop) (step : Reopener.Step) :
    (c.paused session drop step).stopped = c.stopped := by
  unfold paused; dsimp only; split <;> rfl

theorem mem_stopped_stopWatcher {id : SessionId} {g : Nat} (h : g ∈ (c.stopWatcher id).stopped) :
    g ∈ c.stopped ∨ ∃ w, (c.slot id).watcher = some w ∧ w.generation = g := by
  unfold stopWatcher at h
  split at h
  · next w hw =>
    obtain rfl | h := List.mem_cons.1 h
    · exact .inr ⟨w, hw, rfl⟩
    · exact .inl h
  · exact .inl h

/-- A change to the watchers: one that was told to stop is a watcher no more, and one that comes in
has a new generation. -/
structure Relieved (i : SessionId) (c d : Connector) : Prop where
  watcher : ∀ j w, (d.slot j).watcher = some w →
    (c.slot j).watcher = some w ∨ j = i ∧ w.generation = c.nextGeneration
  stopped : ∀ g ∈ d.stopped, g ∈ c.stopped ∨
    ∃ w, (c.slot i).watcher = some w ∧ w.generation = g ∧ (d.slot i).watcher ≠ some w
  nextGeneration : c.nextGeneration ≤ d.nextGeneration

variable {c}

theorem Relieved.steadier {d : Connector} (h : c.Steadier d) (hstopped : d.stopped = c.stopped)
    (hnext : d.nextGeneration = c.nextGeneration) (i : SessionId) : c.Relieved i d where
  watcher j w hw := .inl (h j w hw).1
  stopped _ hg := .inl (hstopped ▸ hg)
  nextGeneration := Nat.le_of_eq hnext.symm

/-- To release a session relieves its watcher. -/
theorem Relieved.released (id : SessionId) : c.Relieved id (c.released id) where
  watcher j w hw := .inl (Steadier.released id j w hw).1
  stopped g hg := by
    have hg' : g ∈ (c.stopWatcher id).stopped := by
      unfold Connector.released at hg
      split at hg <;> exact hg
    obtain hg | ⟨w, hw, heq⟩ := c.mem_stopped_stopWatcher hg'
    · exact .inl hg
    · exact .inr ⟨w, hw, heq, by simp⟩
  nextGeneration := Nat.le_of_eq (c.nextGeneration_released id).symm

theorem Relieved.trans_steadier {d e : Connector} {i : SessionId} (h : c.Steadier d)
    (hstopped : d.stopped = c.stopped) (hnext : d.nextGeneration = c.nextGeneration)
    (h' : d.Relieved i e) : c.Relieved i e where
  watcher j w hw := by
    obtain hw | hw := h'.watcher j w hw
    · exact .inl (h j w hw).1
    · exact .inr (hnext ▸ hw)
  stopped g hg := by
    obtain hg | ⟨w, hw, heq⟩ := h'.stopped g hg
    · exact .inl (hstopped ▸ hg)
    · exact .inr ⟨w, (h i w hw).1, heq⟩
  nextGeneration := hnext ▸ h'.nextGeneration

/-- A connection that joins a session brings a watcher of a new generation. -/
theorem Relieved.joined (session : Session) (connection : Connection) (channel : ChannelId)
    (h : ∀ w, (c.slot session.id).watcher = some w → w.generation ≠ c.nextGeneration) :
    c.Relieved session.id (c.joined session connection channel) where
  watcher j w hw := by
    by_cases hj : j = session.id
    · refine .inr ⟨hj, ?_⟩
      rw [slot_joined, if_pos hj] at hw
      obtain rfl := Option.some.inj hw
      rfl
    · rw [slot_joined, if_neg hj] at hw
      exact .inl hw
  stopped g hg := by
    obtain hg | ⟨w, hw, heq⟩ := mem_stopped_stopWatcher _ hg
    · exact .inl hg
    · refine .inr ⟨w, hw, heq, fun hw' => h w hw ?_⟩
      rw [slot_joined, if_pos rfl] at hw'
      obtain rfl := Option.some.inj hw'
      rfl
  nextGeneration := Nat.le_succ _

end Connector

/-- What a turn does to the watchers. -/
theorem Move.relieved {c c' : Connector} {t t' : Task} {s : Signal} {new : List Task}
    (h : Move c t s t' c' new)
    (hwatcher : ∀ i w, (c.slot i).watcher = some w → w.generation < c.nextGeneration) :
    ∃ i, c.Relieved i c' ∧ ∀ w, (c'.slot i).watcher = some w → (c.slot i).watcher ≠ some w →
      ∃ session, session.id = i ∧ Task.watch session (.watching w.generation w.channel) ∈ new := by
  have hsteadier : ∀ d : Connector, c.Steadier d → d.stopped = c.stopped →
      d.nextGeneration = c.nextGeneration → ∃ i, c.Relieved i d ∧ ∀ w, (d.slot i).watcher = some w →
        (c.slot i).watcher ≠ some w →
          ∃ session, session.id = i ∧ Task.watch session (.watching w.generation w.channel) ∈ new :=
    fun d hd hstopped hnext => ⟨⟨0⟩, .steadier hd hstopped hnext _,
      fun w hw hne => absurd (hd _ w hw).1 hne⟩
  have hjoined : ∀ (d : Connector) (session : Session) (connection : Connection)
      (channel : ChannelId), d.slot = c.slot → d.stopped = c.stopped →
      d.nextGeneration = c.nextGeneration → c.starting session channel = new →
      ∃ i, c.Relieved i (d.joined session connection channel) ∧
        ∀ w, ((d.joined session connection channel).slot i).watcher = some w →
          (c.slot i).watcher ≠ some w → ∃ session, session.id = i ∧
            Task.watch session (.watching w.generation w.channel) ∈ new := by
    intro d session connection channel hslot hstopped hnext hnew
    refine ⟨session.id, .trans_steadier (.of_slot hslot) hstopped hnext
      (.joined session connection channel fun w hw => ?_), fun w hw _ => ⟨session, rfl, ?_⟩⟩
    · rw [hslot] at hw
      rw [hnext]
      exact Nat.ne_of_lt (hwatcher _ w hw)
    · rw [Connector.slot_joined, if_pos rfl] at hw
      obtain rfl := Option.some.inj hw
      rw [← hnew, hnext]
      exact List.mem_append_right _ List.mem_cons_self
  cases h with
  | pause session stage s drop c₁ step hpauses =>
    obtain ⟨-, hgeneration, hd⟩ := hpauses.steadier
    refine hsteadier _ (hd.trans (.of_slot (Connector.slot_paused _ _ _ _))) ?_ ?_
    · rw [Connector.stopped_paused]
      cases hpauses <;> rfl
    · rw [Connector.nextGeneration_paused, hgeneration]
  | connect a run s connection => exact hjoined c _ _ _ rfl rfl rfl rfl
  | «open» a params terminal =>
    exact hjoined (c.rearmed a.session.id params) _ _ _ rfl rfl rfl rfl
  | reopen session drop l params channel terminal => exact hjoined c _ _ _ rfl rfl rfl rfl
  | drop => exact hsteadier _ (.severed _) rfl rfl
  | fail | report | disconnected | claim => exact hsteadier _ (.setState _ _) rfl rfl
  | _ => exact hsteadier _ (.of_slot rfl) rfl rfl

structure Manned (c : Connector) (ts : List Task) : Prop where
  stopped : ∀ g ∈ c.stopped, g < c.nextGeneration
  watched : ∀ i w, (c.slot i).watcher = some w → w.generation ∉ c.stopped ∧
    ∃ session, session.id = i ∧ Task.watch session (.watching w.generation w.channel) ∈ ts

structure Connector.Distinct (c : Connector) : Prop where
  issued : ∀ i w, (c.slot i).watcher = some w → w.generation < c.nextGeneration
  apart : ∀ i j v w, (c.slot i).watcher = some v → (c.slot j).watcher = some w →
    v.generation = w.generation → i = j

/-- Where the wiring is in order, watchers of different sessions are distinct. -/
theorem Wired.distinct_watchers {c : Connector} {posts : List Post} {k : Ledger}
    (h : Wired c posts k) : c.Distinct where
  issued i w hw := by
    obtain ⟨a, ha, -, hgeneration, -⟩ := h.current i w hw
    exact hgeneration ▸ (h.issued a ha).1
  apart i j v w hv hw heq := by
    obtain ⟨a, ha, rfl, hav, -⟩ := h.current i v hv
    obtain ⟨b, hb, rfl, hbw, -⟩ := h.current j w hw
    obtain rfl : a = b :=
      List.inj_on_of_nodup_map h.generations ha hb (hav.trans (heq.trans hbw.symm))
    rfl

namespace Manned

variable {c c' : Connector} {t t' : Task} {ts new : List Task}

theorem perm {ts' : List Task} (h : Manned c ts) (hperm : ts.Perm ts') : Manned c ts' where
  stopped := h.stopped
  watched i w hw := by
    obtain ⟨hstopped, session, hsession, ht⟩ := h.watched i w hw
    exact ⟨hstopped, session, hsession, hperm.mem_iff.1 ht⟩

/-- The tasks of the watchers that stay go on, and a new watcher has a new task. -/
theorem relieved {ts' : List Task} {i : SessionId} (h : Manned c ts) (hdistinct : c.Distinct)
    (hc : c.Relieved i c')
    (hkept : ∀ j w session, (c.slot j).watcher = some w → (c'.slot j).watcher = some w →
      session.id = j → Task.watch session (.watching w.generation w.channel) ∈ ts →
        Task.watch session (.watching w.generation w.channel) ∈ ts')
    (hnew : ∀ w, (c'.slot i).watcher = some w → (c.slot i).watcher ≠ some w →
      ∃ session, session.id = i ∧ Task.watch session (.watching w.generation w.channel) ∈ ts') :
    Manned c' ts' where
  stopped g hg := by
    obtain hg | ⟨w, hw, rfl, -⟩ := hc.stopped g hg
    · exact Nat.lt_of_lt_of_le (h.stopped g hg) hc.nextGeneration
    · exact Nat.lt_of_lt_of_le (hdistinct.issued i w hw) hc.nextGeneration
  watched j w hw := by
    by_cases hold : (c.slot j).watcher = some w
    · obtain ⟨hstopped, session, hsession, ht⟩ := h.watched j w hold
      refine ⟨fun hg => ?_, session, hsession, hkept j w session hold hw hsession ht⟩
      obtain hg | ⟨v, hv, heq, hne⟩ := hc.stopped _ hg
      · exact hstopped hg
      · obtain rfl := hdistinct.apart i j v w hv hold heq
        obtain rfl := Option.some.inj (hold.symm.trans hv)
        exact hne hw
    · obtain hold' | ⟨rfl, hfresh⟩ := hc.watcher j w hw
      · exact absurd hold' hold
      · refine ⟨fun hg => ?_, hnew w hw hold⟩
        obtain hg | ⟨v, hv, heq, -⟩ := hc.stopped _ hg
        · exact absurd (h.stopped _ hg) (by omega)
        · exact absurd (hdistinct.issued j v hv) (by omega)

/-- The task of a watcher goes on for as long as the watcher stays. -/
theorem eq_of_move {c₁ : Connector} {s : Signal} {session : Session} {w : Watcher}
    (hmove : Move c₁ (.watch session (.watching w.generation w.channel)) s t' c' new)
    (hstopped : s ≠ .stopped) (hw : (c₁.slot session.id).watcher = some w)
    (hw' : (c'.slot session.id).watcher = some w) :
    t' = .watch session (.watching w.generation w.channel) := by
  generalize hgeneration : w.generation = generation at hmove
  cases hmove with
  | stay => rfl
  | stop => exact absurd rfl hstopped
  | ignore session generation channel d hstale => exact absurd hgeneration (hstale w hw)
  | drop session channel d v hv =>
    rw [Connector.slot_severed, if_pos rfl] at hw'
    cases hw'
  | pause _ _ _ _ _ _ hpauses => cases hpauses

/-- A turn keeps every watcher manned. -/
theorem move {s : Signal} (h : Manned c (t :: ts)) (hdistinct : c.Distinct)
    (hmove : Move (c.taking t s) t s t' c' new) (hears : c.hears t s = true) :
    Manned c' (t' :: (new ++ ts)) := by
  have hslot := c.slot_taking t s
  have hstopped : (c.taking t s).stopped = c.stopped := by
    unfold Connector.taking; split <;> rfl
  have hnext : (c.taking t s).nextGeneration = c.nextGeneration := by
    unfold Connector.taking; split <;> rfl
  obtain ⟨i, hrelieved, hnew⟩ := hmove.relieved fun i w hw =>
    hnext ▸ hdistinct.issued i w (hslot ▸ hw)
  refine h.relieved hdistinct (.trans_steadier (.of_slot hslot) hstopped hnext hrelieved) ?_ ?_
  · rintro j w session hw hw' rfl ht
    obtain rfl | ht := List.mem_cons.1 ht
    · have hgo : s ≠ .stopped := by
        rintro rfl
        exact (h.watched _ w hw).1 (List.contains_iff_mem.1 hears)
      rw [eq_of_move hmove hgo (by rwa [hslot]) hw']
      exact List.mem_cons_self
    · exact List.mem_cons_of_mem _ (List.mem_append_right _ ht)
  · intro w hw hne
    obtain ⟨session, hsession, ht⟩ := hnew w hw (by rwa [hslot])
    exact ⟨session, hsession, List.mem_cons_of_mem _ (List.mem_append_left _ ht)⟩

theorem cons (h : Manned c ts) : Manned c (t :: ts) where
  stopped := h.stopped
  watched i w hw := by
    obtain ⟨hstopped, session, hsession, ht⟩ := h.watched i w hw
    exact ⟨hstopped, session, hsession, List.mem_cons_of_mem _ ht⟩

/-- No session gets a watcher, and one that loses its watcher may tell it to stop. -/
theorem retire {i : SessionId} (h : Manned c ts) (hdistinct : c.Distinct)
    (hc : c.Relieved i c') (hold : ∀ w, (c'.slot i).watcher = some w → (c.slot i).watcher = some w) :
    Manned c' ts :=
  h.relieved hdistinct hc (fun _ _ _ _ _ _ ht => ht) fun w hw hne => absurd (hold w hw) hne

end Manned

namespace Exchange

variable {s : Exchange}

/-- Only the creation of a session adds to those that were registered. -/
theorem sessions_step {e : Event} (he : ∀ target, e ≠ .create target) :
    (s.step e).sessions = s.sessions := by
  cases e with
  | create target => exact absurd rfl (he target)
  | connect | publish => simp only [step]; split <;> rfl
  | resume n signal =>
    simp only [step]
    split
    · split <;> rfl
    · rfl
  | _ => rfl

/-- A request works on sessions that were registered. -/
theorem Begins.session? {e : Event} {t : Task} {c : Connector} (h : s.Begins e t c) :
    (∀ x ∈ t.session?, x ∈ s.sessions) ∧ c.registry = s.connector.registry := by
  cases h with
  | connect session token hsession =>
    exact ⟨fun x hx => Option.some.inj hx ▸ hsession, Connector.registry_released _ _⟩
  | disconnect | destroy => exact ⟨by simp [Task.session?], Connector.registry_released _ _⟩

/-- A session that was just created is listed. -/
theorem listed_create {target : SessionTarget} {session : Session} {registry : Registry}
    (h : Listed s.connector s.tasks s.sessions)
    (hcreate : s.connector.registry.create target = .ok (session, registry)) :
    Listed { s.connector with registry } s.tasks (s.sessions ++ [session]) := by
  unfold Registry.create at hcreate
  split at hcreate
  · obtain ⟨rfl, rfl⟩ := Prod.mk.inj (Except.ok.inj hcreate)
    have hlast : ∀ x ∈ s.sessions, x.id ≠ ⟨s.connector.registry.nextId⟩ := fun x hx heq => by
      have hissued := h.issued x hx
      rw [heq] at hissued
      exact absurd hissued (Nat.lt_irrefl _)
    refine ⟨fun x hx => ?_, fun x hx => ?_, fun x hx y hy hid => ?_,
      fun t ht x hx => List.mem_append_left _ (h.served t ht x hx)⟩
    · obtain hx | hx := List.mem_append.1 hx
      · exact List.mem_append_left _ (h.registered x hx)
      · exact List.mem_append_right _ hx
    · obtain hx | hx := List.mem_append.1 hx
      · exact Nat.lt_succ_of_lt (h.issued x hx)
      · rw [List.mem_singleton.1 hx]
        exact Nat.lt_succ_self _
    · obtain hx | hx := List.mem_append.1 hx
      · obtain hy | hy := List.mem_append.1 hy
        · exact h.distinct x hx y hy hid
        · rw [List.mem_singleton.1 hy] at hid
          exact absurd hid (hlast x hx)
      · obtain hy | hy := List.mem_append.1 hy
        · rw [List.mem_singleton.1 hx] at hid
          exact absurd hid.symm (hlast y hy)
        · rw [List.mem_singleton.1 hx, List.mem_singleton.1 hy]
  · cases hcreate

/-- Every event keeps all sessions listed. -/
theorem listed_step (e : Event) (h : Listed s.connector s.tasks s.sessions) :
    Listed (s.step e).connector (s.step e).tasks (s.step e).sessions := by
  by_cases he : ∃ target, e = .create target
  · obtain ⟨target, rfl⟩ := he
    simp only [step]
    split
    · next session registry hcreate => exact listed_create h hcreate
    · exact h
  · rw [sessions_step fun target heq => he ⟨target, heq⟩]
    obtain ⟨ts, heffect, hperm⟩ := s.effect e
    refine Listed.perm ?_ hperm.symm
    generalize (s.step e).connector = c at heffect
    cases heffect with
    | create target => exact absurd ⟨target, rfl⟩ he
    | nothing | publish | order | policy | limit => exact h.registry (fun _ hx => hx) rfl
    | cancel token =>
      have hregistry : (s.connector.cancel token).registry = s.connector.registry := by
        unfold Connector.cancel; split <;> rfl
      exact h.registry (by simp [hregistry]) (by rw [hregistry])
    | forget id => exact h.registry (fun x hx => (List.mem_filter.1 hx).1) rfl
    | refused => exact h.cons (by simp [Task.session?])
    | begin _ t c₀ t' _ new hbegins hmove =>
      obtain ⟨hsession, hregistry⟩ := hbegins.session?
      exact ((h.registry (by simp [hregistry]) (by rw [hregistry])).cons hsession).move hmove
    | turn n signal t others t' _ new ht hothers _ hears hmove =>
      exact ((h.perm hothers).registry (by simp) (by simp)).move hmove

theorem Begins.relieved {e : Event} {t : Task} {c : Connector} (h : s.Begins e t c) :
    ∃ i, s.connector.Relieved i c ∧ ∀ j w, (c.slot j).watcher = some w →
      (s.connector.slot j).watcher = some w := by
  cases h with
  | connect session token =>
    have hstate : s.connector.Steadier (s.connector.setState session.id .connecting) :=
      .setState _ _
    have hreleased := Connector.Relieved.released
      (c := s.connector.setState session.id .connecting) session.id
    exact ⟨session.id, .trans_steadier hstate rfl rfl ⟨hreleased.1, hreleased.2, hreleased.3⟩,
      fun j w hw => (hstate.trans (.released session.id) j w hw).1⟩
  | disconnect id =>
    exact ⟨id, .trans_steadier
        (d := { s.connector with reopener := s.connector.reopener.cancel id })
        (.of_slot rfl) rfl rfl (.released id),
      fun j w hw => (Connector.Steadier.released id j w hw).1⟩
  | destroy id =>
    exact ⟨id, .trans_steadier
        (d := { s.connector with reopener := s.connector.reopener.unregister id })
        (.of_slot rfl) rfl rfl (.released id),
      fun j w hw => (Connector.Steadier.released id j w hw).1⟩

/-- Every event keeps every watcher manned. -/
theorem manned_step (e : Event) (hdistinct : s.connector.Distinct)
    (h : Manned s.connector s.tasks) : Manned (s.step e).connector (s.step e).tasks := by
  obtain ⟨ts, heffect, hperm⟩ := s.effect e
  refine Manned.perm ?_ hperm.symm
  generalize (s.step e).connector = c at heffect
  cases heffect with
  | nothing | create | forget | limit | publish | order | policy => exact ⟨h.stopped, h.watched⟩
  | cancel token =>
    refine h.retire (i := ⟨0⟩) hdistinct (.steadier (.of_slot ?_) ?_ ?_ _) ?_ <;>
    · unfold Connector.cancel
      split <;> first | rfl | exact fun _ hw => hw
  | refused => exact h.cons
  | begin _ t c₀ t' _ new hbegins hmove =>
    obtain ⟨i, hrelieved, hold⟩ := hbegins.relieved
    have hmanned := (h.retire hdistinct hrelieved (hold i)).cons (t := t)
    have hdistinct₀ : c₀.Distinct :=
      ⟨fun j w hw => Nat.lt_of_lt_of_le (hdistinct.issued j w (hold j w hw)) hrelieved.nextGeneration,
        fun j l v w hv hw => hdistinct.apart j l v w (hold j v hv) (hold l w hw)⟩
    have htaking : c₀.taking t (.reply .done) = c₀ := by cases hbegins <;> rfl
    exact hmanned.move hdistinct₀ (htaking.symm ▸ hmove) (by cases hbegins <;> rfl)
  | turn n signal t others t' _ new ht hothers _ hears hmove =>
    exact (h.perm hothers).move hdistinct hmove hears

structure Regular (s : Exchange) : Prop where
  wired : s.Sound
  orderly : Orderly s.connector s.tasks
  listed : Listed s.connector s.tasks s.sessions
  manned : Manned s.connector s.tasks

/-- Every event keeps an exchange regular. -/
theorem regular_step (e : Event) (h : s.Regular) : (s.step e).Regular where
  wired := sound_step e h.wired
  orderly := orderly_step e h.orderly
  listed := listed_step e h.listed
  manned := manned_step e h.wired.distinct_watchers h.manned

theorem regular_start : Regular {} where
  wired := sound_start
  orderly := orderly_start
  listed := ⟨by simp, by simp, by simp, by simp⟩
  manned := ⟨by simp, by simp [Connector.slot, Connector.watcher?]⟩

end Exchange

end Multiplexer
