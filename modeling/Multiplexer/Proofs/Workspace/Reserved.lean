import Multiplexer.Proofs.Connector.Bare
import Multiplexer.Proofs.Workspace.Discipline

/-!
# Sessions that are still to come

Nothing is kept for an id that the registry has not given out yet, and no task
serves it. This is so whatever a workspace is asked for, as long as nobody else
registers a serial line for such an id.
-/

namespace Multiplexer

open WorkspaceM TurnM

def Task.Serves (t : Task) (n : Nat) : Prop := ∀ i, t.serves = some i → i.value < n ∨ t.Fresh

theorem Task.Serves.mono {t : Task} {m n : Nat} (h : t.Serves m) (hmn : m ≤ n) : t.Serves n :=
  fun i hi => (h i hi).imp_left (Nat.lt_of_lt_of_le · hmn)

/-- A task as others start it serves no session yet. -/
theorem Task.Fresh.serves_any {t : Task} (h : t.Fresh) (n : Nat) : t.Serves n := fun _ _ => .inr h

namespace Connector

/-- Nothing is kept for a session that is still to come. -/
structure Reserved (c : Connector) : Prop where
  issued : ∀ id, c.registry.contains id = true → id.value < c.registry.nextId
  slot : ∀ id : SessionId, c.registry.nextId ≤ id.value → c.slot id = {}
  entry : ∀ id : SessionId, c.registry.nextId ≤ id.value → c.reopener.registered.lookup id = none

namespace Reserved

variable {c c' : Connector} {t t' : Task} {new : List Task}

/-- A step of a task keeps nothing for sessions that are still to come, and serves none of them. -/
theorem move {s : Signal} (h : c.Reserved) (ht : t.Serves c.registry.nextId)
    (hmove : Move c t s t' c' new) :
    c'.Reserved ∧ t'.Serves c'.registry.nextId ∧ c'.registry.nextId = c.registry.nextId := by
  obtain ⟨hsessions, hnext⟩ := hmove.registry
  have hissued : ∀ id, c'.registry.contains id = true → id.value < c'.registry.nextId := by
    intro id hid
    obtain ⟨x, hx, he⟩ := (Registry.contains_iff _ _).1 hid
    exact hnext ▸ h.issued id ((Registry.contains_iff _ _).2 ⟨x, hsessions x hx, he⟩)
  by_cases hgiven : ∀ i, t.serves = some i → i.value < c.registry.nextId
  · have hother : ∀ id : SessionId, c'.registry.nextId ≤ id.value → t.serves ≠ some id :=
      fun id hid hserves => absurd (hgiven id hserves) (Nat.not_lt.2 (hnext ▸ hid))
    refine ⟨⟨hissued, fun id hid => ?_, fun id hid => ?_⟩, fun j hj => ?_, hnext⟩
    · rw [hmove.slot (hother id hid)]
      exact h.slot id (hnext ▸ hid)
    · rw [hmove.lookup (hother id hid)]
      exact h.entry id (hnext ▸ hid)
    · rcases hmove.serves with hserves | hserves
      · exact .inl (hnext ▸ hgiven j (hserves.symm.trans hj))
      · cases hserves.symm.trans hj
  · simp only [Classical.not_forall] at hgiven
    obtain ⟨i, hi, hlate⟩ := hgiven
    have hfresh := (ht i hi).resolve_left hlate
    have hidle : ∀ j, t.serves = some j → (c.slot j).watcher = none := by
      intro j hj
      obtain rfl := Option.some.inj (hi.symm.trans hj)
      rw [h.slot i (Nat.not_lt.1 hlate)]
    obtain ⟨hslot, hregistry, hreopener, ht'⟩ := hmove.of_fresh hfresh hidle
    refine ⟨⟨hissued, fun id hid => ?_, fun id hid => ?_⟩, fun j hj => ?_, hnext⟩
    · rw [hslot]
      exact h.slot id (hregistry ▸ hid)
    · rw [hreopener]
      exact h.entry id (hregistry ▸ hid)
    · rcases ht' with ht' | ht'
      · exact .inr ht'
      · cases ht'.symm.trans hj

/-- A change that is for a session whose id was given out. -/
theorem change {i : SessionId} (h : c.Reserved) (hregistry : c'.registry = c.registry)
    (hi : i.value < c.registry.nextId) (hslot : ∀ id, id ≠ i → c'.slot id = c.slot id)
    (hentry : ∀ id, id ≠ i →
      c'.reopener.registered.lookup id = c.reopener.registered.lookup id) : c'.Reserved := by
  have hother : ∀ id : SessionId, c'.registry.nextId ≤ id.value → id ≠ i := by
    rintro id hid rfl
    exact absurd hi (Nat.not_lt.2 (hregistry ▸ hid))
  refine ⟨hregistry ▸ h.issued, fun id hid => ?_, fun id hid => ?_⟩
  · rw [hslot id (hother id hid)]
    exact h.slot id (hregistry ▸ hid)
  · rw [hentry id (hother id hid)]
    exact h.entry id (hregistry ▸ hid)

/-- The creation of a session keeps nothing for those that are still to come. -/
theorem created {target : SessionTarget} {session : Session} {r : Registry} (h : c.Reserved)
    (hr : c.registry.create target = .ok (session, r)) :
    Reserved { c with registry := r } ∧ c.registry.nextId ≤ r.nextId := by
  obtain ⟨-, hnext, hcontains⟩ := c.registry.create_ok hr
  have hle : c.registry.nextId ≤ r.nextId := hnext ▸ Nat.le_succ _
  refine ⟨⟨fun id hid => ?_, fun id hid => ?_, fun id hid => ?_⟩, hle⟩
  · show id.value < r.nextId
    rw [hnext]
    rcases (hcontains id).1 hid with hid | rfl
    · exact Nat.lt_succ_of_lt (h.issued id hid)
    · exact Nat.lt_succ_self _
  · exact h.slot id (Nat.le_trans hle hid)
  · exact h.entry id (Nat.le_trans hle hid)

theorem begun {id : SessionId} (h : c.Reserved) (hid : id.value < c.registry.nextId) :
    (c.begun id).Reserved :=
  h.change (i := id) ((c.setState id .connecting).registry_released id) hid
    (fun i hi => by rw [slot_begun, if_neg hi])
    fun i _ => congrArg (fun r : Reopener => r.registered.lookup i)
      ((c.setState id .connecting).reopener_released id)

theorem unregistered {id : SessionId} (h : c.Reserved) (hid : id.value < c.registry.nextId) :
    Reserved ({ c with reopener := c.reopener.unregister id }.released id) := by
  refine h.change (i := id) (registry_released _ id) hid (fun i hi => ?_) fun i hi => ?_
  · rw [slot_released, if_neg hi]
    rfl
  · rw [reopener_released]
    exact Reopener.Ordered.unregister.lookup i hi

end Reserved

end Connector

/-- Nothing is kept for sessions that are still to come, and the task at its turn serves none of
them. The ids below `n` were given out before. -/
def reservation (n : Nat) : Discipline where
  rest _ w := w.connector.Reserved ∧ n ≤ w.connector.registry.nextId
  giving t _ w := (w.connector.Reserved ∧ n ≤ w.connector.registry.nextId) ∧
    t.Serves w.connector.registry.nextId
  serving t w := (w.connector.Reserved ∧ n ≤ w.connector.registry.nextId) ∧
    t.Serves w.connector.registry.nextId

section Lawful

variable {n : Nat}

theorem reserved_moves {t : Task} {s : Signal} {w : Workspace} {u : Turn} {r : Task × Turn}
    (hreserved : u.connector.Reserved) (hn : n ≤ u.connector.registry.nextId)
    (ht : t.Serves u.connector.registry.nextId) (hmoves : Moves t s u r) :
    (reservation n).serving r.1 { w with connector := r.2.connector } ∧
      Enlists u.started r.2.started := by
  obtain ⟨t', c', new, rfl, hmove⟩ := hmoves
  obtain ⟨hreserved', ht', hnext⟩ := hreserved.move ht hmove
  refine ⟨⟨⟨hreserved', ?_⟩, ht'⟩, hmove.enlists u.started⟩
  show n ≤ c'.registry.nextId
  rwa [hnext]

/-- No turn of a task keeps anything for sessions that are still to come. -/
theorem reserved_resume_leads (t : Task) (s : Signal) :
    Leads ((reservation n).serving t) (onConnector (t.resume s)) (reservation n).serving := by
  refine .onConnector fun w u hw hu => ?_
  obtain ⟨⟨hreserved, hn⟩, ht⟩ := hw
  rw [← hu] at hreserved hn ht
  exact reserved_moves hreserved hn ht (t.moves_resume s u)

theorem reserved_over {r : Except ConnectError Unit} (m : Nat) : (Task.over r).Serves m :=
  fun _ hi => by cases hi

theorem reserved_connect_leads (session : Session) (token : Token) :
    Leads (fun w => (reservation n).rest [] w ∧ w.connector.registry.contains session.id = true)
      (onConnector (Connector.connect session token)) (reservation n).serving := by
  refine .onConnector fun w u hw hu => ?_
  obtain ⟨⟨hreserved, hn⟩, hregistered⟩ := hw
  rw [← hu] at hreserved hn hregistered
  by_cases hbusy : (u.connector.slot session.id).state = .connecting
  · rw [Connector.exec_connect_overlapping session token u hbusy]
    exact ⟨⟨⟨hreserved, hn⟩, reserved_over _⟩, .refl _⟩
  · have hissued := hreserved.issued _ hregistered
    have hregistry : (u.connector.begun session.id).registry = u.connector.registry :=
      (u.connector.setState session.id .connecting).registry_released session.id
    refine reserved_moves (u := { u with connector := u.connector.begun session.id })
      (hreserved.begun hissued) (hregistry ▸ hn) (fun i hi => .inl ?_)
      (Connector.moves_connect session token u hbusy)
    obtain rfl := Option.some.inj hi
    exact hregistry ▸ hissued

theorem reserved_destroy_leads (id : SessionId) :
    Leads ((reservation n).rest []) (onConnector (Connector.destroy id))
      (reservation n).serving := by
  refine .onConnector fun w u hw hu => ?_
  obtain ⟨hreserved, hn⟩ := hw
  rw [← hu] at hreserved hn
  cases hregistered : u.connector.registry.contains id with
  | false =>
    rw [Connector.exec_destroy_unknown id u hregistered]
    exact ⟨⟨⟨hreserved, hn⟩, reserved_over _⟩, .refl _⟩
  | true =>
    have hissued := hreserved.issued _ hregistered
    let d : Connector :=
      { u.connector with reopener := u.connector.reopener.unregister id }.released id
    have hregistry : d.registry = u.connector.registry := Connector.registry_released _ id
    refine reserved_moves (u := { u with connector := d })
      (hreserved.unregistered hissued) (hregistry ▸ hn) (fun i hi => .inl ?_)
      (Connector.moves_destroy id u hregistered)
    obtain rfl := Option.some.inj hi
    exact hregistry ▸ hissued

/-- Requests and jobs keep nothing for sessions that are still to come. -/
theorem reservation_lawful : (reservation n).Lawful where
  destroy id _ := reserved_destroy_leads id
  connect := reserved_connect_leads
  create target := by
    refine .create (fun w s r hw hr => ?_) fun w e hw => hw
    obtain ⟨hreserved, hle⟩ := hw.1.created hr
    exact ⟨hreserved, Nat.le_trans hw.2 hle⟩
  giving_resume t _ s := reserved_resume_leads t s
  serving_resume := reserved_resume_leads
  giving_over r _ w := ⟨And.left, fun hw => ⟨hw, reserved_over _⟩⟩
  serving_over _ _ := And.left
  close _ := .anyEdit fun _ r _ _ hw => by cases r <;> exact hw
  shows _ _ := .anyEdit fun _ r _ _ hw => by cases r <;> exact hw
  spares _ := .anyEdit fun _ _ _ _ hw => hw
  reset _ _ hw := hw

def Job.Serves : Job → Nat → Prop
  | .task t, n | .opening _ t, n | .undoing _ t, n | .closing _ t, n | .clearing _ t, n => t.Serves n
  | .over _, _ => True

theorem Job.Serves.mono {job : Job} {m n : Nat} (h : job.Serves m) (hmn : m ≤ n) :
    job.Serves n := by
  cases job with
  | «over» => trivial
  | _ => exact Task.Serves.mono h hmn

theorem reservation_holds {job : Job} {w : Workspace} :
    (reservation n).holds job w ↔ (w.connector.Reserved ∧ n ≤ w.connector.registry.nextId) ∧
      job.Serves w.connector.registry.nextId := by
  cases job with
  | «over» => exact (and_iff_left trivial).symm
  | _ => exact .rfl

end Lawful

namespace System

/-- Nobody else registers a line for a session that is still to come. -/
def Fair (s : System) : Event → Prop
  | .outside c => ∀ id : SessionId,
    Nat.max s.workspace.connector.registry.nextId c.registry.nextId ≤ id.value →
      c.reopener.registered.lookup id = none
  | _ => True

structure Reserved (s : System) : Prop where
  connector : s.workspace.connector.Reserved
  jobs : ∀ job ∈ s.jobs, job.Serves s.workspace.connector.registry.nextId

namespace Reserved

variable {s : System}

theorem turned {w : Workspace} {m : WorkspaceM Job} {before after : List Job}
    (hm : (reservation w.connector.registry.nextId).holds (exec m ⟨w, []⟩).1
        (exec m ⟨w, []⟩).2.workspace ∧
      Enlists [] (exec m ⟨w, []⟩).2.started)
    (hothers : ∀ job ∈ before ++ after, job.Serves w.connector.registry.nextId) :
    (System.turned (exec m ⟨w, []⟩) before after).Reserved := by
  obtain ⟨hheld, new, hnew, hfresh⟩ := hm
  obtain ⟨⟨hreserved, hnext⟩, hjob⟩ := reservation_holds.1 hheld
  refine ⟨hreserved, fun job hmem => ?_⟩
  simp only [System.turned, hnew, List.nil_append, List.mem_append, List.mem_cons,
    List.mem_map] at hmem
  rcases hmem with (hmem | rfl | hmem) | ⟨t, ht, rfl⟩
  · exact (hothers job (List.mem_append_left _ hmem)).mono hnext
  · exact hjob
  · exact (hothers job (List.mem_append_right _ hmem)).mono hnext
  · exact (hfresh t ht).serves_any _

/-- Every event leaves ids that are still to come alone. -/
theorem step (h : s.Reserved) {e : Event} (he : s.Fair e) : (s.step e).Reserved := by
  cases e with
  | request r =>
    exact turned (reservation_lawful.request r _ ⟨h.connector, Nat.le_refl _⟩)
      (by simpa using h.jobs)
  | resume n signal =>
    cases hjob : s.jobs[n]? with
    | none => simpa only [System.step, hjob] using h
    | some job =>
      have hperm := perm_bystanders hjob signal
      simp only [System.step, hjob]
      refine turned (reservation_lawful.resume signal job _ (reservation_holds.2
        ⟨⟨h.connector, Nat.le_refl _⟩, h.jobs job (List.mem_of_getElem? hjob)⟩)) ?_
      exact fun job' hjob' => h.jobs job' (hperm.mem_iff.2 (List.mem_cons_of_mem _ hjob'))
  | outside c =>
    have hle : s.workspace.connector.registry.nextId ≤
        (s.workspace.connector.amid c).registry.nextId := Nat.le_max_left _ _
    refine ⟨⟨fun id hid => Nat.lt_of_lt_of_le (h.connector.issued id hid) hle,
      fun id hid => h.connector.slot id (Nat.le_trans hle hid), he⟩,
      fun job hjob => (h.jobs job hjob).mono hle⟩

/-- A run in which others play fair keeps nothing for sessions that are still to come. -/
theorem run (h : s.Reserved) {es : List Event} (hes : s.Along Fair es) : (s.run es).Reserved :=
  hes.preserves (fun _ _ hs he => hs.step he) h

end Reserved

/-- Nothing is kept for any session at the start. -/
theorem start_reserved (splitRatio : Binary64) (nextId : Nat) (settings : LayoutSettings) :
    (start splitRatio nextId settings).Reserved :=
  ⟨⟨fun id hid => by simp [start, Registry.contains_iff] at hid, fun _ _ => rfl, fun _ _ => rfl⟩,
    by simp [start]⟩

end System

end Multiplexer
