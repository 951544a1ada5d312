import Multiplexer.Session.Registry

/-!
# Who is registered
-/

namespace Multiplexer

namespace Registry

variable (r : Registry) (id : SessionId)

theorem contains_iff : r.contains id = true ↔ ∃ s ∈ r.sessions, s.id = id := by
  simp [contains, get?]

/-- To remove a session leaves all others registered. -/
theorem contains_remove (i : SessionId) :
    (r.remove id).2.contains i = true ↔ r.contains i = true ∧ i ≠ id := by
  simp only [contains_iff, remove, List.mem_filter, ne_eq, decide_eq_true_eq]
  grind

/-- A new session gets the next id. -/
theorem create_ok {target : SessionTarget} {s : Session} {r' : Registry}
    (h : r.create target = .ok (s, r')) :
    s.id = ⟨r.nextId⟩ ∧ r'.nextId = r.nextId + 1 ∧
      ∀ i, r'.contains i = true ↔ r.contains i = true ∨ i = ⟨r.nextId⟩ := by
  unfold create at h
  split at h
  · injection h with h
    obtain ⟨rfl, rfl⟩ := Prod.mk.inj h
    refine ⟨rfl, rfl, fun i => ?_⟩
    simp only [contains_iff, List.mem_append, List.mem_singleton]
    grind
  · cases h

end Registry

end Multiplexer
