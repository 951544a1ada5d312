import Mathlib.Data.List.Nodup
import Multiplexer.Proofs.Workspace.Discipline

/-!
# The balance of sessions

A session is registered as long as some leaf shows it or some job still has to
give it up, and never both. Every request and every turn keeps this balance, also
where it fails.
-/

namespace Multiplexer

theorem nodup_eraseDups {α : Type} [DecidableEq α] (xs : List α) : xs.eraseDups.Nodup := by
  match xs with
  | [] => simp
  | x :: xs =>
    rw [List.eraseDups_cons, List.nodup_cons]
    exact ⟨by simp [List.mem_eraseDups], nodup_eraseDups _⟩
termination_by xs.length
decreasing_by exact Nat.lt_succ_of_le (List.length_filter_le _ xs)

def Task.givesUp : Task → List SessionId
  | .destroying id _ => [id]
  | _ => []

/-- The sessions that a job has to give up. -/
def Job.givesUp : Job → List SessionId
  | .task t | .opening _ t | .undoing _ t | .closing _ t => t.givesUp
  | .clearing rest t => t.givesUp ++ rest
  | .over _ => []

namespace Task

/-- A task that destroys a session has it to give up. -/
theorem givesUp_of_mode {t : Task} {id : SessionId} (h : t.mode id = .destroying) :
    t.givesUp = [id] := by
  cases t with
  | destroying i todo =>
    by_cases hi : i = id
    · rw [← hi]
      rfl
    · simp [hi] at h
  | attempt a stage =>
    rw [mode_attempt] at h
    split at h
    · cases stage <;> cases h
    · cases h
  | watch session stage =>
    rw [mode_watch] at h
    split at h
    · cases stage <;> cases h
    · cases h
  | disconnecting i todo =>
    rw [mode_disconnecting] at h
    split at h <;> cases h
  | closing | «over» => cases h

/-- A task that destroys no session has none to give up. -/
theorem givesUp_of_not {t : Task} (h : ∀ id, t.mode id ≠ .destroying) : t.givesUp = [] := by
  cases t with
  | destroying i todo => exact absurd (by simp) (h i)
  | _ => rfl

theorem givesUp_congr {t t' : Task} (h : ∀ id, t'.mode id = .destroying ↔ t.mode id = .destroying) :
    t'.givesUp = t.givesUp := by
  by_cases hsome : ∃ id, t.mode id = .destroying
  · obtain ⟨id, hid⟩ := hsome
    rw [givesUp_of_mode hid, givesUp_of_mode ((h id).2 hid)]
  · have hnone : ∀ id, t.mode id ≠ .destroying := fun id hid => hsome ⟨id, hid⟩
    rw [givesUp_of_not hnone, givesUp_of_not fun id => fun hid => hnone id ((h id).1 hid)]

theorem givesUp_of_idle {t : Task} (h : ∀ id, t.mode id = .idle) : t.givesUp = [] :=
  givesUp_of_not fun id => by simp [h id]

end Task

def Job.Settled : Job → Prop
  | .task _ | .opening _ _ | .over _ => True
  | .undoing _ _ | .closing _ _ | .clearing _ _ => False

/-- A task that connects, watches or closes gives up no session. -/
def Job.Tame : Job → Prop
  | .task t | .opening _ t => t.givesUp = []
  | _ => True

theorem Job.Settled.givesUp {job : Job} (h : job.Settled) (ht : job.Tame) : job.givesUp = [] := by
  cases job with
  | task | opening => exact ht
  | «over» => rfl
  | undoing | closing | clearing => cases h

/-- Exactly the sessions that are shown or owed are registered. -/
structure Workspace.Balanced (w : Workspace) (owed : List SessionId) : Prop where
  planned : w.layout.Planned
  issued : ∀ id, w.connector.registry.contains id = true → id.value < w.connector.registry.nextId
  registered : ∀ id, w.connector.registry.contains id = true ↔ id ∈ w.layout.sessions ∨ id ∈ owed
  /-- No session is owed twice, or while it is shown. -/
  once : owed.Nodup
  apart : ∀ id ∈ owed, id ∉ w.layout.sessions

namespace Workspace.Balanced

variable {w : Workspace} {owed : List SessionId}

/-- The order of what is owed does not matter. -/
theorem perm {owed' : List SessionId} (h : w.Balanced owed) (hperm : owed.Perm owed') :
    w.Balanced owed' where
  planned := h.planned
  issued := h.issued
  registered id := by rw [h.registered, hperm.mem_iff]
  once := hperm.nodup_iff.1 h.once
  apart id hid := h.apart id (hperm.mem_iff.2 hid)

/-- The layout changes, and what it shows no more or not yet is owed. -/
theorem relayout {s : Layout} {ns : List Notice} {owed' : List SessionId} (h : w.Balanced owed)
    (hs : s.Planned)
    (hsame : ∀ id, id ∈ w.layout.sessions ∨ id ∈ owed ↔ id ∈ s.sessions ∨ id ∈ owed')
    (honce : owed'.Nodup) (hapart : ∀ id ∈ owed', id ∉ s.sessions) :
    Workspace.Balanced { w with layout := s, notices := ns } owed' :=
  ⟨hs, h.issued, fun id => (h.registered id).trans (hsame id), honce, hapart⟩

/-- An edit that shows the same sessions keeps the balance. -/
theorem sameSessions {s : Layout} {ns : List Notice} (h : w.Balanced owed)
    (hs : w.layout.SameSessions s) :
    Workspace.Balanced { w with layout := s, notices := ns } owed :=
  h.relayout hs.1 (fun id => by rw [hs.2]) h.once fun id hid => by
    rw [hs.2]
    exact h.apart id hid

/-- A turn of the connector that leaves the registry alone keeps the balance. -/
theorem reconnector {c : Connector} (h : w.Balanced owed)
    (hc : c.registry = w.connector.registry) :
    Workspace.Balanced { w with connector := c } owed := by
  obtain ⟨hplanned, hissued, hregistered, honce, hapart⟩ := h
  rw [← hc] at hissued hregistered
  exact ⟨hplanned, hissued, hregistered, honce, hapart⟩

/-- A session that was owed leaves the registry. -/
theorem removed {c : Connector} {id : SessionId} (h : w.Balanced (id :: owed))
    (hc : c.registry = (w.connector.registry.remove id).2) :
    Workspace.Balanced { w with connector := c } owed := by
  obtain ⟨hnot, honce⟩ := List.nodup_cons.1 h.once
  have hremains : ∀ i, c.registry.contains i = true ↔
      w.connector.registry.contains i = true ∧ i ≠ id := by
    rw [hc]
    exact w.connector.registry.contains_remove id
  refine ⟨h.planned, fun i hi => ?_, fun i => ?_, honce, fun i hi => h.apart i (by simp [hi])⟩
  · rw [hc]
    exact h.issued i ((hremains i).1 hi).1
  · rw [hremains, h.registered, List.mem_cons]
    have hapart : id ∉ w.layout.sessions := h.apart id (by simp)
    grind

/-- A new session is owed until some leaf shows it. -/
theorem created {c : Connector} {target : SessionTarget} {s : Session} (h : w.Balanced owed)
    (hc : w.connector.registry.create target = .ok (s, c.registry)) :
    Workspace.Balanced { w with connector := c } (s.id :: owed) := by
  obtain ⟨hid, hnext, hcontains⟩ := w.connector.registry.create_ok hc
  have hfresh : ¬(w.connector.registry.contains s.id = true) := by
    intro hs
    have hlt := h.issued s.id hs
    simp [hid] at hlt
  rw [h.registered, not_or] at hfresh
  rw [← hid] at hcontains
  refine ⟨h.planned, fun i hi => ?_, fun i => ?_, List.nodup_cons.2 ⟨hfresh.2, h.once⟩, ?_⟩
  · rw [hnext]
    rcases (hcontains i).1 hi with hi | rfl
    · exact Nat.lt_succ_of_lt (h.issued i hi)
    · simp [hid]
  · rw [hcontains, h.registered, List.mem_cons]
    tauto
  · intro i hi
    rcases List.mem_cons.1 hi with rfl | hi
    · exact hfresh.1
    · exact h.apart i hi

theorem amid (h : w.Balanced owed) (c : Connector) :
    Workspace.Balanced { w with connector := w.connector.amid c } owed where
  planned := h.planned
  issued id hid := Nat.lt_of_lt_of_le (h.issued id hid) (Nat.le_max_left _ _)
  registered := h.registered
  once := h.once
  apart := h.apart

end Workspace.Balanced

end Multiplexer
