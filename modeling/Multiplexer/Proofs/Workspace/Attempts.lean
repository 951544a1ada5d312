import Multiplexer.Proofs.Workspace.Discipline

/-!
# One attempt at a time

Where closing, noting and forwarding take no time, the state of a registered
session tells what it holds: it is connected when it has a connection and a
watcher, and connecting when exactly one attempt is in flight for it.
-/

namespace Multiplexer

open WorkspaceM

structure Slot.Steady (x : Slot) (flying : Nat) : Prop where
  connection : x.state = .connected ↔ x.connection.isSome = true
  watcher : x.state = .connected ↔ x.watcher.isSome = true
  flying : flying = if x.state = .connecting then 1 else 0

def Calm (modes : List Mode) : Prop := ∀ m ∈ modes, m = .idle ∨ m = .flying

/-- A slot agrees with the modes of all tasks. -/
def Slot.Suits (x : Slot) (modes : List Mode) : Prop :=
  .destroying ∈ modes ∨
    (.dropping ∈ modes ∧ modes.count .flying = 0 ∧ x.connection = none ∧ x.watcher = none) ∨
    (Calm modes ∧ x.Steady (modes.count .flying))

namespace Slot

variable {x : Slot} {modes : List Mode}

theorem Suits.perm {modes' : List Mode} (h : x.Suits modes) (hperm : modes.Perm modes') :
    x.Suits modes' := by
  unfold Suits Calm at h ⊢
  simp only [← hperm.mem_iff, ← hperm.count_eq]
  exact h

@[simp] theorem suits_idle : x.Suits (.idle :: modes) ↔ x.Suits modes := by
  simp [Suits, Calm]

namespace Steady

/-- A session with an attempt in flight holds nothing, and there is no other attempt. -/
theorem alone {n : Nat} (h : x.Steady (n + 1)) :
    n = 0 ∧ x.state = .connecting ∧ x.connection = none ∧ x.watcher = none := by
  obtain ⟨hconnection, hwatcher, hflying⟩ := h
  have hstate : x.state = .connecting := by
    by_contra hne
    rw [if_neg hne] at hflying
    omega
  rw [if_pos hstate] at hflying
  rw [hstate] at hconnection hwatcher
  exact ⟨by omega, hstate, by simpa using hconnection, by simpa using hwatcher⟩

/-- A session that is neither connected nor connecting holds nothing and has no attempt in
flight. -/
theorem empty_iff {n : Nat} (hstate : x.state ≠ .connected) (hstate' : x.state ≠ .connecting) :
    x.Steady n ↔ n = 0 ∧ x.connection = none ∧ x.watcher = none := by
  constructor
  · rintro ⟨hconnection, hwatcher, hflying⟩
    rw [if_neg hstate'] at hflying
    simp only [hstate, false_iff, Option.not_isSome_iff_eq_none] at hconnection hwatcher
    exact ⟨hflying, hconnection, hwatcher⟩
  · rintro ⟨hn, hconnection, hwatcher⟩
    exact ⟨by simp [hstate, hconnection], by simp [hstate, hwatcher], by simp [hstate', hn]⟩

theorem of_watcher {n : Nat} {w : Watcher} (h : x.Steady n) (hw : x.watcher = some w) : n = 0 := by
  have hstate : x.state = .connected := h.watcher.2 (by simp [hw])
  simpa [hstate] using h.flying

end Steady

section Calm

variable (hcalm : Calm modes)

include hcalm

theorem not_mem_of_calm {m : Mode} (hm : m ≠ .idle) (hm' : m ≠ .flying) : m ∉ modes :=
  fun h => (hcalm m h).elim hm hm'

/-- Where every task is idle or dialling, a slot suits them if it is steady with the attempts that
dial. -/
theorem suits_of_calm : x.Suits modes ↔ x.Steady (modes.count .flying) := by
  unfold Suits
  rw [or_iff_right (not_mem_of_calm hcalm (by simp) (by simp)),
    or_iff_right fun h => not_mem_of_calm hcalm (by simp) (by simp) h.1, and_iff_right hcalm]

theorem suits_flying : x.Suits (.flying :: modes) ↔ x.Steady (modes.count .flying + 1) := by
  rw [suits_of_calm (List.forall_mem_cons.2 ⟨.inr rfl, hcalm⟩), List.count_cons_self]

/-- While a drop is handled the session has no connection, no watcher and no attempt in flight. -/
theorem suits_dropping : x.Suits (.dropping :: modes) ↔
    modes.count .flying = 0 ∧ x.connection = none ∧ x.watcher = none := by
  have hdestroying := not_mem_of_calm hcalm (m := .destroying) (by simp) (by simp)
  simp [Suits, Calm, hdestroying]

theorem not_suits_disconnecting : ¬x.Suits (.disconnecting :: modes) := by
  have hdestroying := not_mem_of_calm hcalm (m := .destroying) (by simp) (by simp)
  have hdropping := not_mem_of_calm hcalm (m := .dropping) (by simp) (by simp)
  simp [Suits, Calm, hdestroying, hdropping]

/-- What a turn does to a slot suits what the task does next. -/
theorem Suits.change {registered lands : Bool} {m m' : Mode} {x' : Slot}
    (h : x.Suits (m :: modes)) (hm : m ≠ .destroying)
    (hc : Change registered lands m x m' x') : x'.Suits (m' :: modes) := by
  cases hc with
  | same => exact h
  | failed _ e =>
    obtain ⟨hn, -, hconnection, hwatcher⟩ := ((suits_flying hcalm).1 h).alone
    rw [suits_idle, suits_of_calm hcalm, Steady.empty_iff (by simp) (by simp)]
    exact ⟨hn, hconnection, hwatcher⟩
  | attached _ connection w =>
    obtain ⟨hn, -⟩ := ((suits_flying hcalm).1 h).alone
    rw [suits_idle, suits_of_calm hcalm]
    exact ⟨by simp, by simp, by simpa using hn⟩
  | dropped _ w hw =>
    rw [suits_idle, suits_of_calm hcalm] at h
    exact (suits_dropping hcalm).2 ⟨h.of_watcher hw, rfl, rfl⟩
  | closed =>
    rw [suits_idle, suits_of_calm hcalm, Steady.empty_iff (by simp) (by simp)]
    exact (suits_dropping (x := x) hcalm).1 h
  | claimed _ hregistered hstate =>
    rw [suits_idle, suits_of_calm hcalm,
      Steady.empty_iff (by simp [hstate]) (by simp [hstate])] at h
    obtain ⟨hn, hconnection, hwatcher⟩ := h
    rw [suits_flying hcalm]
    exact ⟨by simp [hconnection], by simp [hwatcher], by simp [hn]⟩
  | refused =>
    obtain ⟨hn, -, hconnection, hwatcher⟩ := ((suits_flying hcalm).1 h).alone
    rw [suits_idle, suits_of_calm hcalm, Steady.empty_iff (by simp) (by simp)]
    exact ⟨hn, hconnection, hwatcher⟩
  | disconnected => exact absurd h (not_suits_disconnecting hcalm)
  | destroyed => exact absurd rfl hm

end Calm

end Slot

/-- Every session that is registered or may still be created agrees with its tasks. -/
structure Connector.Tended (c : Connector) (modes : SessionId → List Mode) : Prop where
  issued : ∀ id, c.registry.contains id = true → id.value < c.registry.nextId
  destroying : ∀ id, .destroying ∈ modes id → id.value < c.registry.nextId
  suits : ∀ id, c.registry.contains id = true ∨ c.registry.nextId ≤ id.value →
    (c.slot id).Suits (modes id)

namespace Connector.Tended

variable {c : Connector} {modes : SessionId → List Mode}

/-- Only the modes count, not the order of the tasks. -/
theorem congr {modes' : SessionId → List Mode} (h : c.Tended modes)
    (hmodes : ∀ id, (modes id).Perm (modes' id)) : c.Tended modes' where
  issued := h.issued
  destroying id hid := h.destroying id ((hmodes id).mem_iff.2 hid)
  suits id hid := (h.suits id hid).perm (hmodes id)

/-- The task that is at its turn has a mode of its own. -/
theorem idle : c.Tended (fun id => .idle :: modes id) ↔ c.Tended modes := by
  constructor <;> intro h
  · exact ⟨h.issued, fun id hid => h.destroying id (by simp [hid]), fun id hid =>
      Slot.suits_idle.1 (h.suits id hid)⟩
  · exact ⟨h.issued, fun id hid => h.destroying id (by simpa using hid), fun id hid =>
      Slot.suits_idle.2 (h.suits id hid)⟩

theorem amid (h : c.Tended modes) (d : Connector) : (c.amid d).Tended modes where
  issued id hid := Nat.lt_of_lt_of_le (h.issued id hid) (Nat.le_max_left _ _)
  destroying id hid := Nat.lt_of_lt_of_le (h.destroying id hid) (Nat.le_max_left _ _)
  suits id hid := h.suits id (hid.imp_right (Nat.le_trans (Nat.le_max_left _ _)))

section Calm

variable (hcalm : ∀ id, Calm (modes id))

include hcalm

theorem mem_destroying {m : Mode} {id : SessionId} :
    .destroying ∈ m :: modes id ↔ m = .destroying := by
  have hnot := Slot.not_mem_of_calm (hcalm id) (m := .destroying) (by simp) (by simp)
  simp [hnot, eq_comm]

/-- A turn of a task keeps all slots in agreement with the tasks. -/
theorem turned {lands : SessionId → Bool} {before : SessionId → Mode} {u : Turn} {r : Task × Turn}
    (h : u.connector.Tended fun id => before id :: modes id) (hturn : Turned lands before u r) :
    r.2.connector.Tended fun id => r.1.mode id :: modes id := by
  have hchange : ∀ id, before id ≠ .destroying →
      (u.connector.registry.contains id = true ∨ u.connector.registry.nextId ≤ id.value) →
      (r.2.connector.slot id).Suits (r.1.mode id :: modes id) :=
    fun id hid hlive => (h.suits id hlive).change (hcalm id) hid (hturn.change id)
  rcases hturn.registry with ⟨hmode, hregistry⟩ | ⟨i, hi, hidle, hregistry⟩
  · refine ⟨hregistry ▸ h.issued, fun id hid => ?_, fun id hlive => ?_⟩
    · rw [hregistry]
      rw [mem_destroying hcalm, hmode] at hid
      exact h.destroying id ((mem_destroying hcalm).2 hid)
    · rw [hregistry] at hlive
      by_cases hid : before id = .destroying
      · exact .inl (by simp [(hmode id).2 hid])
      · exact hchange id hid hlive
  · have hremains := u.connector.registry.contains_remove i
    have hissued : i.value < u.connector.registry.nextId :=
      h.destroying i ((mem_destroying hcalm).2 ((hi i).2 rfl))
    rw [← hregistry] at hremains
    refine ⟨fun id hid => ?_, fun id hid => ?_, fun id hlive => ?_⟩
    · rw [hregistry]
      exact h.issued id ((hremains id).1 hid).1
    · rw [mem_destroying hcalm, hidle] at hid
      cases hid
    · rw [hremains, hregistry] at hlive
      have hne : id ≠ i := by
        rintro rfl
        rcases hlive with hlive | hlive
        · exact hlive.2 rfl
        · exact absurd hissued (Nat.not_lt.2 hlive)
      exact hchange id (fun hid => hne ((hi id).1 hid)) (hlive.imp_left And.left)

/-- A task begins to serve a session; nothing has happened to any other session. -/
theorem begin {d : Connector} (h : c.Tended modes) (hregistry : d.registry = c.registry)
    {t : Task} {i : SessionId} (hidle : ∀ id, id ≠ i → t.mode id = .idle)
    (hslot : ∀ id, id ≠ i → d.slot id = c.slot id)
    (hissued : t.mode i = .destroying → c.registry.contains i = true)
    (hsuits : (c.slot i).Suits (modes i) → (d.slot i).Suits (t.mode i :: modes i)) :
    d.Tended fun id => t.mode id :: modes id := by
  refine ⟨hregistry ▸ h.issued, fun id hid => ?_, fun id hlive => ?_⟩
  · rw [mem_destroying hcalm] at hid
    by_cases hi : id = i
    · subst hi
      rw [hregistry]
      exact h.issued id (hissued hid)
    · simp [hidle id hi] at hid
  · rw [hregistry] at hlive
    by_cases hi : id = i
    · subst hi
      exact hsuits (h.suits id hlive)
    · rw [hidle id hi, hslot id hi]
      exact Slot.suits_idle.2 (h.suits id hlive)

/-- To ask for a connection keeps all slots in agreement with the tasks. -/
theorem connect {u : Turn} (h : u.connector.Tended modes) (session : Session) (token : Token) :
    let r := TurnM.exec (Connector.connect session token) u
    (r.2.connector.Tended fun id => r.1.mode id :: modes id) ∧ Enlists u.started r.2.started := by
  by_cases hbusy : (u.connector.slot session.id).state = .connecting
  · rw [exec_connect_overlapping session token u hbusy]
    exact ⟨idle.2 h, .refl _⟩
  · obtain ⟨a, todo, v, ha, hslot, hregistry, hstarted, hrun⟩ :=
      exec_connect session token u hbusy
    have hturned := a.release_turned todo v
    rw [hrun]
    refine ⟨turned hcalm (begin hcalm (i := session.id) h hregistry ?_ ?_ ?_ ?_) hturned,
      hstarted ▸ hturned.started⟩
    · exact fun id hid => mode_attempt_other (ha ▸ hid)
    · exact fun id hid => by rw [hslot, if_neg hid]
    · simp [ha, AttemptStage.mode]
    · intro hsuits
      have hsteady := (Slot.suits_of_calm (hcalm _)).1 hsuits
      have hnone := hsteady.flying
      rw [if_neg hbusy] at hnone
      rw [hslot, if_pos rfl, Task.mode_attempt, ha, if_pos rfl]
      exact (Slot.suits_flying (hcalm _)).2 ⟨by simp, by simp, by simp [hnone]⟩

theorem destroy {u : Turn} (h : u.connector.Tended modes) (id : SessionId) :
    let r := TurnM.exec (Connector.destroy id) u
    (r.2.connector.Tended fun id => r.1.mode id :: modes id) ∧ Enlists u.started r.2.started := by
  by_cases hregistered : u.connector.registry.contains id = true
  · obtain ⟨todo, v, hreleased, hrun⟩ := exec_destroy id u hregistered
    have hturned := Task.destroyAll_turned id todo v
    rw [hrun]
    refine ⟨turned hcalm (begin hcalm (i := id) h hreleased.registry ?_ ?_ ?_ ?_) hturned,
      hreleased.started ▸ hturned.started⟩
    · exact fun i hi => by simp [hi.symm]
    · exact fun i hi => by rw [hreleased.slot, if_neg hi]
    · exact fun _ => hregistered
    · exact fun _ => .inl (by simp)
  · rw [exec_destroy_unknown id u (by simpa using hregistered)]
    exact ⟨idle.2 h, .refl _⟩

end Calm

/-- The creation of a session keeps all slots in agreement with the tasks. -/
theorem created {target : SessionTarget} {s : Session} {r : Registry} (h : c.Tended modes)
    (hr : c.registry.create target = .ok (s, r)) : Tended { c with registry := r } modes := by
  obtain ⟨-, hnext, hcontains⟩ := c.registry.create_ok hr
  refine ⟨fun id hid => ?_, fun id hid => ?_, fun id hlive => h.suits id ?_⟩
  · rcases (hcontains id).1 hid with hid | rfl
    · exact hnext ▸ Nat.lt_succ_of_lt (h.issued id hid)
    · simp [hnext]
  · exact hnext ▸ Nat.lt_succ_of_lt (h.destroying id hid)
  · rcases hlive with hid | hid
    · rcases (hcontains id).1 hid with hid | rfl
      · exact .inl hid
      · exact .inr (Nat.le_refl _)
    · have hlate : r.nextId ≤ id.value := hid
      exact .inr (by omega)

end Connector.Tended

/-- All slots agree with what a task at its turn and all others are about to do. -/
def attendance (modes : SessionId → List Mode) : Discipline where
  rest _ w := w.connector.Tended modes
  giving t _ w := w.connector.Tended fun id => t.mode id :: modes id
  serving t w := w.connector.Tended fun id => t.mode id :: modes id

section Lawful

variable {modes : SessionId → List Mode} (hcalm : ∀ id, Calm (modes id))

include hcalm

theorem tended_resume_leads (t : Task) (s : Signal) :
    Leads ((attendance modes).serving t) (onConnector (t.resume s)) (attendance modes).serving := by
  refine .onConnector fun w u hw hu => ?_
  have hturned := t.resume_turned u s
  refine ⟨Connector.Tended.turned hcalm ?_ hturned, hturned.started⟩
  rw [hu]
  exact hw

/-- Requests and jobs keep all slots in agreement with the tasks. -/
theorem attendance_lawful : (attendance modes).Lawful where
  destroy id _ := .onConnector fun _ _ hw hu => Connector.Tended.destroy hcalm (hu ▸ hw) id
  connect session token := .onConnector fun _ _ hw hu =>
    Connector.Tended.connect hcalm (hu ▸ hw.1) session token
  create target := .create (fun w s r hw hr => Connector.Tended.created hw hr) fun w e hw => hw
  giving_resume t _ s := tended_resume_leads hcalm t s
  serving_resume := tended_resume_leads hcalm
  giving_over _ _ _ := Connector.Tended.idle
  serving_over _ _ := Connector.Tended.idle.1
  close _ := .anyEdit fun _ r _ _ hw => by cases r <;> exact hw
  shows _ _ := .anyEdit fun _ r _ _ hw => by cases r <;> exact hw
  spares _ := .anyEdit fun _ _ _ _ hw => hw
  reset _ _ hw := hw

end Lawful

def Job.mode : Job → SessionId → Mode
  | .task t | .opening _ t | .undoing _ t | .closing _ t | .clearing _ t => t.mode
  | .over _ => fun _ => .idle

theorem attendance_holds {modes : SessionId → List Mode} {job : Job} {w : Workspace} :
    (attendance modes).holds job w ↔ w.connector.Tended fun id => job.mode id :: modes id := by
  cases job with
  | «over» => exact Connector.Tended.idle.symm
  | _ => exact .rfl

def Job.hurried : Job → Bool
  | .task t | .opening _ t | .undoing _ t | .closing _ t | .clearing _ t => t.hurried
  | .over _ => false

theorem Job.mode_of_not_hurried {job : Job} (h : job.hurried = false) (id : SessionId) :
    job.mode id = .idle ∨ job.mode id = .flying := by
  cases job with
  | «over» => exact .inl rfl
  | _ => exact Task.mode_of_not_hurried h id

namespace System

def modes (jobs : List Job) (id : SessionId) : List Mode := jobs.map fun j => j.mode id

theorem calm_modes {jobs : List Job} (h : ∀ j ∈ jobs, j.hurried = false) (id : SessionId) :
    Calm (modes jobs id) := by
  intro m hm
  obtain ⟨j, hj, rfl⟩ := List.mem_map.1 hm
  exact Job.mode_of_not_hurried (h j hj) id

theorem tended_started {c : Connector} {jobs : List Job} {new : List Task}
    (hfresh : ∀ t ∈ new, t.Fresh) (h : c.Tended (modes jobs)) :
    c.Tended (modes (new.map .task ++ jobs)) := by
  induction new with
  | nil => exact h
  | cons t new ih =>
    obtain ⟨ht, hnew⟩ := List.forall_mem_cons.1 hfresh
    refine (Connector.Tended.idle.2 (ih hnew)).congr fun id => .of_eq ?_
    simp [modes, Job.mode, ht.mode id]

theorem countP_hurried_cons {jobs : List Job} (h : ∀ j ∈ jobs, j.hurried = false) (job : Job) :
    (job :: jobs).countP Job.hurried ≤ 1 := by
  have hnone : jobs.countP Job.hurried = 0 := List.countP_eq_zero.2 fun j hj => by simp [h j hj]
  rw [List.countP_cons, hnone]
  split <;> simp

/-- Where calls that only close, note or forward take no time, there is never more than one hurried
job, and all slots agree with the jobs. -/
theorem tended_invariant : Invariant (fun j => j.hurried = false) fun w jobs =>
    w.connector.Tended (modes jobs) ∧ jobs.countP Job.hurried ≤ 1 where
  perm hperm hw := ⟨hw.1.congr fun id => hperm.map _, hperm.countP_eq _ ▸ hw.2⟩
  started hfresh hw := by
    refine ⟨tended_started hfresh hw.1, ?_⟩
    rw [List.countP_append, List.countP_eq_zero.2, Nat.zero_add]
    · exact hw.2
    · intro j hj
      obtain ⟨t, ht, rfl⟩ := List.mem_map.1 hj
      simp [Job.hurried, (hfresh t ht).not_hurried]
  request r others hcalm t ht := by
    obtain ⟨hheld, hstarted⟩ := (attendance_lawful (calm_modes hcalm)).request r t ht.1
    exact ⟨⟨attendance_holds.1 hheld, countP_hurried_cons hcalm _⟩, hstarted⟩
  resume job signal others hcalm t ht := by
    obtain ⟨hheld, hstarted⟩ := (attendance_lawful (calm_modes hcalm)).resume signal job t
      (attendance_holds.2 ht.1)
    exact ⟨⟨attendance_holds.1 hheld, countP_hurried_cons hcalm _⟩, hstarted⟩
  outside c hw := ⟨hw.1.amid c, hw.2⟩

/-- A hurried job goes on before anything else happens. -/
def attend (s : System) (e : Event) : System :=
  if (s.bystanders e).any Job.hurried then s else s.step e

/-- After every event there is one hurried job at most, and all slots agree with the jobs. -/
theorem attend_tended {s : System}
    (hs : s.workspace.connector.Tended (modes s.jobs) ∧ s.jobs.countP Job.hurried ≤ 1)
    (es : List Event) :
    (es.foldl attend s).workspace.connector.Tended (modes (es.foldl attend s).jobs) ∧
      (es.foldl attend s).jobs.countP Job.hurried ≤ 1 := by
  induction es generalizing s with
  | nil => exact hs
  | cons e es ih =>
    refine ih ?_
    unfold attend
    split
    · exact hs
    · rename_i hcalm
      exact tended_invariant.step (by simpa using hcalm) hs

theorem start_tended (splitRatio : Binary64) (nextId : Nat) (settings : LayoutSettings) :
    let s := start splitRatio nextId settings
    s.workspace.connector.Tended (modes s.jobs) ∧ s.jobs.countP Job.hurried ≤ 1 := by
  refine ⟨⟨fun id hid => ?_, fun id hid => ?_, fun id _ => ?_⟩, Nat.zero_le _⟩
  · simp [start, Registry.contains_iff] at hid
  · simp [start, modes] at hid
  · refine .inr (.inr ⟨by simp [start, modes, Calm], ?_, ?_, ?_⟩)
    · simp [start, Connector.slot, Connector.status]
    · simp [start, Connector.slot, Connector.status, Connector.watcher?]
    · simp [start, modes, Connector.slot, Connector.status]

/-- A hurried job is never held up by another one. -/
theorem attend_hurried (splitRatio : Binary64) (nextId : Nat) (settings : LayoutSettings)
    (es : List Event) (n : Nat) (signal : Signal) :
    let s := es.foldl attend (start splitRatio nextId settings)
    (∃ job, s.jobs[n]? = some job ∧ job.hurried = true) →
      s.attend (.resume n signal) = s.step (.resume n signal) := by
  rintro s ⟨job, hjob, hhurried⟩
  obtain ⟨-, hone⟩ := attend_tended (start_tended splitRatio nextId settings) es
  rw [(perm_bystanders hjob signal).countP_eq, List.countP_cons_of_pos hhurried] at hone
  have hnone : (s.bystanders (.resume n signal)).countP Job.hurried = 0 := by
    omega
  rw [List.countP_eq_zero] at hnone
  rw [attend, if_neg]
  simpa using hnone

/-- How many attempts are in flight for a session. -/
def inFlight (s : System) (id : SessionId) : Nat := s.jobs.countP fun j => j.mode id = .flying

/-- The tasks that dial for a session are its attempts in flight. -/
theorem count_modes (s : System) (id : SessionId) :
    (modes s.jobs id).count .flying = s.inFlight id := by
  rw [modes, List.count, List.countP_map, inFlight]
  exact List.countP_congr fun j _ => by simp

/-- The slot of a registered session is steady while no job is hurried. -/
theorem steady_of_tended {s : System} (h : s.workspace.connector.Tended (modes s.jobs))
    (hcalm : ∀ j ∈ s.jobs, j.hurried = false) {id : SessionId}
    (hid : s.workspace.connector.registry.contains id = true) :
    (s.workspace.connector.slot id).Steady (s.inFlight id) := by
  rw [← count_modes]
  exact (Slot.suits_of_calm (calm_modes hcalm id)).1 (h.suits id (.inl hid))

/-- To connect a pane whose session is connecting is refused, and nothing happens. -/
theorem exec_connect_overlapping {w : Workspace} {pane : PaneId} {session : Session}
    (hsession : w.sessionFor pane = .ok session) (token : Token)
    (hstate : (w.connector.slot session.id).state = .connecting) :
    exec (Workspace.connect pane token) ⟨w, []⟩ =
      (.over (.error (.connect (.alreadyConnecting session.id))), ⟨w, []⟩) := by
  have hrun := Connector.exec_connect_overlapping session token ⟨w.connector, []⟩ hstate
  simp only [Workspace.connect, Workspace.attempt, exec_bind, exec_workspace, hsession,
    exec_onConnector, hrun]
  rfl

/-- Whenever no job is hurried, a registered session is connected exactly if it has a connection,
and exactly if it is watched, and it is connecting exactly if one attempt is in flight for it; there
are never two. A request to connect it meanwhile is refused and changes nothing. -/
theorem one_attempt_at_a_time (splitRatio : Binary64) (nextId : Nat) (settings : LayoutSettings)
    (es : List Event)
    (hcalm : ∀ j ∈ (es.foldl attend (start splitRatio nextId settings)).jobs, j.hurried = false) :
    let s := es.foldl attend (start splitRatio nextId settings)
    (∀ id, s.workspace.connector.registry.contains id = true →
      let slot := s.workspace.connector.slot id
      (slot.state = .connected ↔ slot.connection.isSome = true) ∧
        (slot.state = .connected ↔ slot.watcher.isSome = true) ∧
        (slot.state = .connecting ↔ s.inFlight id = 1) ∧ s.inFlight id ≤ 1) ∧
    ∀ pane token session, s.workspace.sessionFor pane = .ok session → s.inFlight session.id ≠ 0 →
      s.attend (.request (.connect pane token)) = { s with
        jobs := s.jobs ++ [.over (.error (.connect (.alreadyConnecting session.id)))] } := by
  intro s
  obtain ⟨htended, -⟩ := attend_tended (start_tended splitRatio nextId settings) es
  have hsteady : ∀ id, s.workspace.connector.registry.contains id = true →
      (s.workspace.connector.slot id).Steady (s.inFlight id) :=
    fun id hid => steady_of_tended htended hcalm hid
  refine ⟨fun id hid => ?_, fun pane token session hsession hflying => ?_⟩
  · obtain ⟨hconnection, hwatcher, hflying⟩ := hsteady id hid
    refine ⟨hconnection, hwatcher, ?_⟩
    rw [hflying]
    split <;> simp [*]
  · have hstate : (s.workspace.connector.slot session.id).state = .connecting := by
      have hcount := (hsteady session.id (Workspace.registered_of_sessionFor hsession)).flying
      by_contra hne
      rw [if_neg hne] at hcount
      exact hflying hcount
    have hnone : s.jobs.any Job.hurried = false := by simpa using hcalm
    simp only [attend, bystanders, hnone, Bool.false_eq_true, if_false, step, Request.run,
      exec_connect_overlapping hsession token hstate]
    simp [turned]

def dialling : List Event :=
  [.request (.createRoot (some (.serial { device := "/dev/ttyUSB0", baudRate := 9600 }))),
    .request (.connect ⟨1⟩ ⟨0⟩)]

/-- One attempt is in flight while a line is being opened. -/
theorem one_attempt_while_dialling :
    (∀ j ∈ (dialling.foldl attend (start .half 1 {})).jobs, j.hurried = false) ∧
      (dialling.foldl attend (start .half 1 {})).inFlight ⟨1⟩ = 1 := by
  have hcalm : ∀ j ∈ (dialling.foldl attend (start .half 1 {})).jobs, j.hurried = false := by
    decide
  obtain ⟨hsteady, -⟩ := one_attempt_at_a_time .half 1 {} dialling hcalm
  obtain ⟨-, -, hflying, -⟩ := hsteady ⟨1⟩ (by decide)
  exact ⟨hcalm, hflying.1 (by decide)⟩

end System

end Multiplexer
