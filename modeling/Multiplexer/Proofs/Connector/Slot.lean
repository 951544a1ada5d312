import Multiplexer.Connector.Basic

/-!
# Slots

What the connector keeps for one session: its state, its connection and its
watcher. Changes for one session leave the slots of all others alone.
-/

namespace Multiplexer

section Lookup

variable {α : Type} (xs : List (SessionId × α)) (id i : SessionId)

/-- Taking out the entries of one key leaves all others. -/
theorem lookup_erase :
    (xs.filter fun x => x.1 ≠ id).lookup i = if i = id then none else xs.lookup i := by
  induction xs with
  | nil => simp
  | cons x xs ih =>
    obtain ⟨k, a⟩ := x
    by_cases hk : k = id
    · subst hk
      rw [List.filter_cons_of_neg (by simp), ih]
      by_cases hi : i = k
      · simp [hi]
      · have hne : (i == k) = false := by simpa using hi
        rw [if_neg hi, if_neg hi, List.lookup_cons, hne]
    · rw [List.filter_cons_of_pos (by simpa using hk)]
      by_cases hi : i = k
      · subst hi
        rw [List.lookup_cons_self, List.lookup_cons_self, if_neg hk]
      · have hne : (i == k) = false := by simpa using hi
        rw [List.lookup_cons, List.lookup_cons, hne]
        exact ih

/-- A new entry replaces those of its key and leaves all others. -/
theorem lookup_put (a : α) :
    ((id, a) :: xs.filter fun x => x.1 ≠ id).lookup i = if i = id then some a else xs.lookup i := by
  by_cases hi : i = id
  · simp [hi]
  · have hne : (i == id) = false := by simpa using hi
    rw [if_neg hi, List.lookup_cons, hne, lookup_erase, if_neg hi]

end Lookup

structure Slot where
  state : SessionState := .idle
  connection : Option Connection := none
  watcher : Option Watcher := none
  deriving DecidableEq

namespace Connector

def slot (c : Connector) (id : SessionId) : Slot where
  state := (c.status id).state
  connection := (c.status id).connection
  watcher := c.watcher? id

/-- The slots are made of the states and the watchers. -/
theorem slot_congr {c c' : Connector} (hs : c'.statuses = c.statuses)
    (hw : c'.watchers = c.watchers) : c'.slot = c.slot := by
  funext id
  simp only [slot, status, watcher?, hs, hw]

variable (c : Connector) (id i : SessionId)

@[simp] theorem status_setStatus (s : SessionStatus) :
    (c.setStatus id s).status i = if i = id then s else c.status i := by
  unfold status setStatus
  rw [lookup_put]
  split <;> rfl

@[simp] theorem watcher?_setStatus (s : SessionStatus) :
    (c.setStatus id s).watcher? i = c.watcher? i := rfl

@[simp] theorem status_dropWatcher : (c.dropWatcher id).status i = c.status i := rfl

@[simp] theorem watcher?_dropWatcher :
    (c.dropWatcher id).watcher? i = if i = id then none else c.watcher? i :=
  lookup_erase c.watchers id i

@[simp] theorem status_stopWatcher : (c.stopWatcher id).status i = c.status i := by
  unfold stopWatcher
  split <;> rfl

@[simp] theorem watcher?_stopWatcher :
    (c.stopWatcher id).watcher? i = if i = id then none else c.watcher? i := by
  unfold stopWatcher
  split
  · exact c.watcher?_dropWatcher id i
  · rename_i hnone
    by_cases hi : i = id
    · rw [if_pos hi, hi, hnone]
    · rw [if_neg hi]

@[simp] theorem status_putWatcher (w : Watcher) : (c.putWatcher id w).status i = c.status i :=
  c.status_stopWatcher id i

@[simp] theorem watcher?_putWatcher (w : Watcher) :
    (c.putWatcher id w).watcher? i = if i = id then some w else c.watcher? i := by
  have hstop := c.watcher?_stopWatcher id i
  unfold watcher? at hstop ⊢
  by_cases hi : i = id
  · simp [putWatcher, hi]
  · have hne : (i == id) = false := by simpa using hi
    rw [if_neg hi] at hstop ⊢
    unfold putWatcher
    rw [List.lookup_cons, hne]
    exact hstop

@[simp] theorem slot_setState (state : SessionState) :
    (c.setState id state).slot i = if i = id then { c.slot id with state } else c.slot i := by
  unfold slot setState
  by_cases hi : i = id <;> simp [hi]

@[simp] theorem slot_setConnection (connection : Option Connection) :
    (c.setConnection id connection).slot i =
      if i = id then { c.slot id with connection } else c.slot i := by
  unfold slot setConnection
  by_cases hi : i = id <;> simp [hi]

@[simp] theorem slot_dropWatcher :
    (c.dropWatcher id).slot i =
      if i = id then { c.slot id with watcher := none } else c.slot i := by
  unfold slot
  by_cases hi : i = id <;> simp [hi]

@[simp] theorem slot_stopWatcher :
    (c.stopWatcher id).slot i =
      if i = id then { c.slot id with watcher := none } else c.slot i := by
  unfold slot
  by_cases hi : i = id <;> simp [hi]

@[simp] theorem registry_stopWatcher : (c.stopWatcher id).registry = c.registry := by
  unfold stopWatcher
  split <;> rfl

/-- A connection has been made and is watched. -/
def attached (connection : Connection) (w : Watcher) : Connector :=
  { (c.setStatus id { state := .connected, connection := some connection }).putWatcher id w with
    nextGeneration := c.nextGeneration + 1 }

@[simp] theorem slot_attached (connection : Connection) (w : Watcher) :
    (c.attached id connection w).slot i =
      if i = id then ⟨.connected, some connection, some w⟩ else c.slot i := by
  have hsame : (c.attached id connection w).slot =
      ((c.setStatus id { state := .connected, connection := some connection }).putWatcher id w).slot :=
    slot_congr rfl rfl
  rw [hsame]
  unfold slot
  by_cases hi : i = id <;> simp [hi]

@[simp] theorem registry_attached (connection : Connection) (w : Watcher) :
    (c.attached id connection w).registry = c.registry := by
  unfold attached putWatcher
  simp only [registry_stopWatcher]
  rfl

/-- A connector after others have used it. They may do anything but register sessions or touch
what is kept for them. -/
def amid (c others : Connector) : Connector :=
  { others with
    registry :=
      { c.registry with
        max := others.registry.max
        nextId := Nat.max c.registry.nextId others.registry.nextId }
    statuses := c.statuses
    watchers := c.watchers }

@[simp] theorem slot_amid (others : Connector) : (c.amid others).slot i = c.slot i := rfl

end Connector

end Multiplexer
