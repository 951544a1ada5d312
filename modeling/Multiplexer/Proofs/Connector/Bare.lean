import Multiplexer.Proofs.Connector.Roster
import Multiplexer.Proofs.Reopen.Rounds

/-!
# Sessions that hold nothing

A session without a connection, a watcher and an entry for the reopening of its
line gets none by the turns of others. An attempt gives it a connection when it
succeeds; until then, and when it fails, its turns change nothing but the state
of that one session.
-/

namespace Multiplexer

open TurnM Reopener

namespace Reopener

variable {r : Reopener} {id : SessionId}

theorem registered_drop : (r.drop id).1.registered = r.registered := by
  cases hlookup : r.registered.lookup id with
  | some n => exact (OnlyAt.drop hlookup).registered
  | none =>
    unfold drop
    rw [entry?_eq, hlookup]
    rfl

theorem lookup_register_other (params : SerialParams) {i : SessionId} (hi : i ≠ id) :
    (r.register id params).registered.lookup i = r.registered.lookup i := by
  have hne : (i == id) = false := by simpa using hi
  refine Eq.trans ?_ (Ordered.unregister.lookup i hi)
  exact List.lookup_cons.trans (by rw [hne])

theorem cancel_of_unknown (h : r.registered.lookup id = none) : r.cancel id = r := by
  unfold cancel onEntry
  rw [h]

theorem unregister_of_unknown (h : r.registered.lookup id = none) : r.unregister id = r := by
  have hkept : r.registered.filter (fun x => x.1 ≠ id) = r.registered :=
    List.filter_eq_self.2 fun x hx => by
      have hne : id ≠ x.1 := by simpa using List.lookup_eq_none_iff.1 h x hx
      exact decide_eq_true hne.symm
  unfold unregister
  dsimp only
  rw [cancel_of_unknown h, hkept]

end Reopener

/-- A pause enters no line and strikes out none. -/
theorem Pauses.registered {session : Session} {c c₁ : Connector} {stage : WatchStage} {s : Signal}
    {drop : Drop} {step : Reopener.Step} (h : Pauses session c stage s drop c₁ step) :
    step.1.registered = c.reopener.registered := by
  cases h with
  | dropped => exact registered_drop
  | calledOff | succeeded => rfl
  | forgotten drop l | overtaken drop l =>
    exact (OnlyAt.refused (c.trying l).reopener l _).registered
  | refused drop l => exact (OnlyAt.refused c.reopener l _).registered

namespace Move

variable {c c' : Connector} {t t' : Task} {s : Signal} {new : List Task}

/-- A turn leaves it alone whether any other session has an entry. -/
theorem lookup (h : Move c t s t' c' new) {i : SessionId} (ht : t.serves ≠ some i) :
    c'.reopener.registered.lookup i = c.reopener.registered.lookup i := by
  cases h with
  | pause session stage s drop c₁ step hpauses =>
    rw [Connector.reopener_paused, hpauses.registered]
  | dial a => exact Ordered.cancel.lookup i fun hi => ht (congrArg some hi.symm)
  | connect | reopen => rw [Connector.reopener_joined]
  | «open» a params =>
    have hi : a.session.id ≠ i := by simpa [Task.serves] using ht
    rw [Connector.reopener_joined]
    unfold Connector.rearmed
    dsimp only
    split
    · exact Ordered.reset.lookup i (Ne.symm hi)
    · exact lookup_register_other _ (Ne.symm hi)
  | _ => rfl

/-- A task as others start it does nothing for a session without a watcher. -/
theorem of_fresh (h : Move c t s t' c' new) (hfresh : t.Fresh)
    (hidle : ∀ i, t.serves = some i → (c.slot i).watcher = none) :
    c'.slot = c.slot ∧ c'.registry = c.registry ∧ c'.reopener = c.reopener ∧
      (t'.Fresh ∨ t'.serves = none) := by
  cases t with
  | watch session stage =>
    cases stage with
    | watching generation channel =>
      cases h with
      | stay => exact ⟨rfl, rfl, rfl, .inl hfresh⟩
      | stop | ignore => exact ⟨rfl, rfl, rfl, .inr rfl⟩
      | drop _ _ d w hw =>
        have hnone : c.watcher? session.id = none := hidle _ rfl
        cases hnone.symm.trans hw
      | pause session stage s d c₁ step hpauses => cases hpauses
    | _ => cases hfresh
  | closing todo =>
    cases h with
    | stay => exact ⟨rfl, rfl, rfl, .inl hfresh⟩
    | discard todo r t' ht =>
      rcases ht with rfl | rfl
      · exact ⟨rfl, rfl, rfl, .inl trivial⟩
      · exact ⟨rfl, rfl, rfl, .inr rfl⟩
  | _ => cases hfresh

theorem enlists (h : Move c t s t' c' new) (started : List Task) :
    Enlists started (started ++ new) := ⟨new, rfl, h.fresh⟩

end Move

namespace Connector

/-- A session has no connection, no watcher and no entry. -/
structure Bare (c : Connector) (id : SessionId) : Prop where
  connection : (c.slot id).connection = none
  watcher : (c.slot id).watcher = none
  entry : c.reopener.registered.lookup id = none

structure SameBut (id : SessionId) (c c' : Connector) : Prop where
  slot : ∀ i, i ≠ id → c'.slot i = c.slot i
  reopener : c'.reopener = c.reopener

variable {c c' : Connector} {id : SessionId}

theorem SameBut.refl (id : SessionId) (c : Connector) : c.SameBut id c := ⟨fun _ _ => rfl, rfl⟩

/-- What two turns leave alone they leave alone together. -/
theorem SameBut.trans {c'' : Connector} (h : c.SameBut id c') (h' : c'.SameBut id c'') :
    c.SameBut id c'' :=
  ⟨fun i hi => (h'.slot i hi).trans (h.slot i hi), h'.reopener.trans h.reopener⟩

namespace Bare

theorem of_slot (h : c.Bare id) (hslot : c'.slot id = c.slot id)
    (hentry : c'.reopener.registered.lookup id = none) : c'.Bare id :=
  ⟨hslot ▸ h.connection, hslot ▸ h.watcher, hentry⟩

/-- There is nothing to be closed. -/
theorem burden (h : c.Bare id) : c.burden id = [] := by
  have hnone : (c.status id).connection = none := h.connection
  unfold Connector.burden
  rw [hnone]

/-- There is nothing to release. -/
theorem released (h : c.Bare id) : c.released id = c := by
  have hnone : (c.status id).connection = none := h.connection
  have hunwatched : c.watcher? id = none := h.watcher
  unfold Connector.released Connector.stopWatcher
  rw [hnone, hunwatched]

/-- An attempt begins by claiming the one session and touches no other. -/
theorem begun (hentry : c.reopener.registered.lookup id = none) :
    (c.begun id).Bare id ∧ c.SameBut id (c.begun id) := by
  have hreopener : (c.begun id).reopener = c.reopener :=
    (c.setState id .connecting).reopener_released id
  have hslot := (c.slot_begun id id).trans (if_pos rfl)
  refine ⟨⟨by rw [hslot], by rw [hslot], hreopener ▸ hentry⟩, fun i hi => ?_, hreopener⟩
  rw [slot_begun, if_neg hi]

/-- A session that holds nothing is forgotten at once. -/
theorem exec_destroy {u : Turn} (h : u.connector.Bare id)
    (hregistered : u.connector.registry.contains id = true) :
    exec (destroy id) u = (.over (.ok ()), { u with connector :=
      { u.connector with registry := (u.connector.registry.remove id).2 } }) := by
  have hforgotten : { u.connector with
      reopener := u.connector.reopener.unregister id } = u.connector := by
    rw [unregister_of_unknown h.entry]
  have hmoves := moves_destroy id u hregistered
  rw [hforgotten, h.burden, h.released] at hmoves
  obtain ⟨t', c', new, hexec, hmove⟩ := hmoves
  rw [hexec]
  cases hmove with
  | stay _ _ hawaits => cases hawaits
  | destroying _ _ _ htail => exact absurd rfl htail
  | destroyed => simp

end Bare

end Connector

/-- The stages of an attempt that has made no connection, be it that it still tries or that it has
failed. -/
def AttemptStage.unmade : AttemptStage → Bool
  | .notingSuccess _ | .startingForwards _ => false
  | _ => true

theorem AttemptStage.not_flying_of_made {stage : AttemptStage} (h : stage.unmade = false) :
    stage.mode ≠ .flying := by
  cases stage <;> simp [unmade, mode] at *

namespace Move

variable {c c' : Connector} {t t' : Task} {s : Signal} {new : List Task} {a : Attempt}
  {stage : AttemptStage}

/-- An attempt for a session that holds nothing makes a connection at once, or it changes nothing
but the state of that session. -/
theorem unmade (h : Move c (.attempt a stage) s t' c' new) (hstage : stage.unmade = true)
    (hbare : c.Bare a.session.id) :
    (∃ connection, t' = .attempt a (.notingSuccess connection)) ∨
      (c'.Bare a.session.id ∧ c.SameBut a.session.id c' ∧ c'.registry = c.registry ∧ new = [] ∧
        ((∃ stage', t' = .attempt a stage' ∧ stage'.unmade = true) ∨
          ∃ e, stage = .notingFailure e ∧ t' = .over (.error e))) := by
  have hsame : ∀ i, i ≠ a.session.id → c'.slot i = c.slot i := fun i hi =>
    h.slot fun hserves => hi (Option.some.inj hserves).symm
  cases h with
  | connect | «open» => exact .inl ⟨_, rfl⟩
  | note | complete => cases hstage
  | stay | release =>
    exact .inr ⟨hbare, .refl _ c, rfl, rfl, .inl ⟨_, rfl, hstage⟩⟩
  | goOn a stage stage' s _ _ hrouted =>
    refine .inr ⟨hbare, .refl _ c, rfl, rfl, .inl ⟨_, rfl, ?_⟩⟩
    cases stage' <;> first | rfl | cases hrouted
  | dial a todo r params =>
    have hcancel : c.reopener.cancel a.session.id = c.reopener :=
      cancel_of_unknown hbare.entry
    refine .inr ⟨hbare.of_slot rfl ?_, ⟨hsame, hcancel⟩, rfl, rfl, .inl ⟨_, rfl, rfl⟩⟩
    show (c.reopener.cancel a.session.id).registered.lookup a.session.id = none
    rw [hcancel]
    exact hbare.entry
  | fail a stage s e =>
    have hslot := (c.slot_setState a.session.id a.session.id (.failed e.message)).trans (if_pos rfl)
    refine .inr ⟨⟨?_, ?_, hbare.entry⟩, ⟨hsame, rfl⟩, rfl, rfl, .inl ⟨_, rfl, rfl⟩⟩
    · rw [hslot]
      exact hbare.connection
    · rw [hslot]
      exact hbare.watcher
  | giveUp a e r =>
    exact .inr ⟨hbare.of_slot rfl hbare.entry, ⟨hsame, rfl⟩, rfl, rfl, .inr ⟨e, rfl, rfl⟩⟩

/-- An attempt that has made its connection does not fail any more. -/
theorem made (h : Move c (.attempt a stage) s t' c' new) (hstage : stage.unmade = false) :
    (∃ stage', t' = .attempt a stage' ∧ stage'.unmade = false) ∨ t' = .over (.ok ()) := by
  cases h with
  | stay => exact .inl ⟨_, rfl, hstage⟩
  | note => exact .inl ⟨_, rfl, rfl⟩
  | complete => exact .inr rfl
  | goOn _ _ _ _ _ hmode | fail _ _ _ _ hmode =>
    exact absurd hmode (AttemptStage.not_flying_of_made hstage)
  | _ => cases hstage

/-- A session that holds nothing gets nothing by the turn of a task that is for another one, or that
is as others start it. -/
theorem bare (h : Move c t s t' c' new) {id : SessionId}
    (ht : t.serves = some id → t.Fresh) (hbare : c.Bare id) :
    c'.Bare id ∧ (t'.serves = some id → t'.Fresh) := by
  by_cases hserves : t.serves = some id
  · have hidle : ∀ i, t.serves = some i → (c.slot i).watcher = none := by
      intro i hi
      obtain rfl := Option.some.inj (hserves.symm.trans hi)
      exact hbare.watcher
    obtain ⟨hslot, -, hreopener, ht'⟩ := h.of_fresh (ht hserves) hidle
    refine ⟨hbare.of_slot (congrFun hslot id) (hreopener ▸ hbare.entry), fun hid => ?_⟩
    rcases ht' with ht' | ht'
    · exact ht'
    · cases ht'.symm.trans hid
  · refine ⟨hbare.of_slot (h.slot hserves) ((h.lookup hserves).trans hbare.entry), fun hid => ?_⟩
    rcases h.serves with hsame | hnone
    · exact absurd (hsame.symm.trans hid) hserves
    · cases hnone.symm.trans hid

end Move

end Multiplexer
