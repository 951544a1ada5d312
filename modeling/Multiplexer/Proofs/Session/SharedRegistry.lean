import Mathlib.Data.List.Nodup
import Mathlib.Logic.Function.Basic
import Multiplexer.Session.Registry

/-!
# A registry that many share

Sessions are kept in a map, which has no order of its own, and each has a number
from a counter that all registries share. A call that creates a session takes
several steps: it reads how many sessions there are, then how many there may be,
then makes the session and at last puts it into the map. A lock lets in one such
call at a time. Other calls go between its steps, but nobody sets the limit while
a call is let in. What all of them answer and leave is then what they do to a
registry one after the other, each at one moment of its own course.
-/

namespace Multiplexer

structure Enrolment where
  session : Session
  /-- A session has a higher number than all that were made before it. -/
  number : Nat
  state : SessionState := .idle
  deriving DecidableEq, Repr

inductive RegistryCall where
  /-- The call with a number asks for a session, and this id is drawn for it. -/
  | create (n : Nat) (target : SessionTarget) (id : SessionId)
  | remove (id : SessionId)
  | setMax (max : Nat)
  deriving DecidableEq, Repr

structure RegistryLog where
  registry : Registry
  created : List (Nat × Except RegistryError Session) := []
  removed : List (SessionId × Option Session) := []

namespace RegistryLog

def perform (l : RegistryLog) : RegistryCall → RegistryLog
  | .create n target id =>
    match { l.registry with nextId := id.value }.create target with
    | .ok (s, registry) => { l with registry, created := l.created ++ [(n, .ok s)] }
    | .error e => { l with created := l.created ++ [(n, .error e)] }
  | .remove id =>
    let (found, registry) := l.registry.remove id
    { l with registry, removed := l.removed ++ [(id, found)] }
  | .setMax max => { l with registry := l.registry.setMax max }

def of (max : Nat) (cs : List RegistryCall) : RegistryLog :=
  cs.foldl perform { registry := { max } }

/-- The last call finds what those before it have left. -/
theorem of_concat (max : Nat) (cs : List RegistryCall) (c : RegistryCall) :
    of max (cs ++ [c]) = (of max cs).perform c := by
  simp [of]

variable {l : RegistryLog}

/-- With room, a session is put behind the others. -/
theorem perform_create_of_room (h : l.registry.size < l.registry.max) (n : Nat)
    (target : SessionTarget) (id : SessionId) :
    l.perform (.create n target id) = { l with
      registry := { l.registry with
        sessions := l.registry.sessions ++ [⟨id, target⟩], nextId := id.value + 1 }
      created := l.created ++ [(n, .ok ⟨id, target⟩)] } := by
  have hsize : Registry.size { l.registry with nextId := id.value } < l.registry.max := h
  simp only [perform, Registry.create, if_pos hsize]

/-- Without room, a call says how many sessions there are and may be. -/
theorem perform_create_of_full (h : l.registry.max ≤ l.registry.size) (n : Nat)
    (target : SessionTarget) (id : SessionId) :
    l.perform (.create n target id) = { l with
      created := l.created ++ [(n, .error (.limitReached l.registry.size l.registry.max))] } := by
  have hsize : ¬ Registry.size { l.registry with nextId := id.value } < l.registry.max :=
    Nat.not_lt.2 h
  simp only [perform, Registry.create, if_neg hsize]
  rfl

end RegistryLog

inductive Creating where
  | entered
  | counted (current : Nat)
  /-- There is room. -/
  | admitted
  | built (e : Enrolment)

/-- The call that the lock has let in. -/
structure Creator where
  number : Nat
  target : SessionTarget
  progress : Creating := .entered

structure SharedRegistry where
  /-- What the map holds. Nobody sees in which order it was put in. -/
  entries : List Enrolment := []
  max : Nat := 64
  /-- The number of the next session. -/
  counter : Nat := 1
  /-- All calls that create a session, by number. -/
  calls : List SessionTarget := []
  active : Option Creator := none
  /-- Their answers, oldest first. -/
  created : List (Nat × Except RegistryError Enrolment) := []
  /-- The answers to calls that remove a session, oldest first. -/
  removed : List (SessionId × Option Session) := []

namespace SharedRegistry

inductive Event where
  | call (target : SessionTarget)
  /-- The turn of a call that creates a session. Nothing happens if the lock keeps it out. -/
  | go (n : Nat)
  | remove (id : SessionId)
  | setMax (max : Nat)
  /-- A session is made for someone else. -/
  | elsewhere
  | settle (id : SessionId) (state : SessionState)

def of (max : Nat) : SharedRegistry := { max }

def get? (w : SharedRegistry) (id : SessionId) : Option Enrolment :=
  w.entries.find? fun e => e.session.id == id

def require (w : SharedRegistry) (id : SessionId) : Except RegistryError Enrolment :=
  match w.get? id with
  | some e => .ok e
  | none => .error (.notFound id)

def listed (order : List Enrolment) : List Enrolment :=
  order.mergeSort fun a b => a.number ≤ b.number

def insert (w : SharedRegistry) (e : Enrolment) : SharedRegistry :=
  { w with entries := (w.entries.filter fun x => x.session.id ≠ e.session.id) ++ [e] }

def finish (w : SharedRegistry) (n : Nat) (result : Except RegistryError Enrolment) :
    SharedRegistry :=
  { w with active := none, created := w.created ++ [(n, result)] }

variable (ids : Nat → SessionId) (w : SharedRegistry)

/-- The next step of the call that is let in. A session with a number draws the id of that
number. -/
def advance (a : Creator) : SharedRegistry :=
  match a.progress with
  | .entered => { w with active := some { a with progress := .counted w.entries.length } }
  | .counted current =>
    if w.max ≤ current then w.finish a.number (.error (.limitReached current w.max))
    else { w with active := some { a with progress := .admitted } }
  | .admitted =>
    let e : Enrolment := { session := ⟨ids w.counter, a.target⟩, number := w.counter }
    { w with counter := w.counter + 1, active := some { a with progress := .built e } }
  | .built e => (w.insert e).finish a.number (.ok e)

def step : Event → SharedRegistry
  | .call target => { w with calls := w.calls ++ [target] }
  | .go n =>
    match w.active with
    | some a => if a.number = n then w.advance ids a else w
    | none =>
      match w.calls[n]? with
      | some target =>
        if n ∈ w.created.map Prod.fst then w else { w with active := some ⟨n, target, .entered⟩ }
      | none => w
  | .remove id => { w with
      entries := w.entries.filter fun e => e.session.id ≠ id
      removed := w.removed ++ [(id, (w.get? id).map Enrolment.session)] }
  | .setMax max => { w with max }
  | .elsewhere => { w with counter := w.counter + 1 }
  | .settle id state => { w with
      entries := w.entries.map fun e => if e.session.id = id then { e with state } else e }

def run (es : List Event) : SharedRegistry := es.foldl (step ids) w

/-- The call that takes effect in an event. A call that finds no room does so when it counts the
sessions, and one that finds room when it puts its session into the map. -/
def effect? : Event → Option RegistryCall
  | .go n =>
    match w.active with
    | some a =>
      if a.number = n then
        match a.progress with
        | .entered =>
          if w.max ≤ w.entries.length then some (.create n a.target (ids w.counter)) else none
        | .built e => some (.create n a.target e.session.id)
        | .counted _ | .admitted => none
      else none
    | none => none
  | .remove id => some (.remove id)
  | .setMax max => some (.setMax max)
  | .call _ | .elsewhere | .settle _ _ => none

def effects (ids : Nat → SessionId) : SharedRegistry → List Event → List RegistryCall
  | _, [] => []
  | w, e :: es => (w.effect? ids e).toList ++ effects ids (w.step ids e) es

/-- Whether the limit is set only while the lock is open. -/
def Undisturbed (ids : Nat → SessionId) : SharedRegistry → List Event → Prop
  | _, [] => True
  | w, e :: es => (∀ max, e = .setMax max → w.active = none) ∧ Undisturbed ids (w.step ids e) es

/-- The answer of a call that has found no room and not returned. -/
def pending : List (Nat × Except RegistryError Enrolment) :=
  match w.active with
  | some a =>
    match a.progress with
    | .counted current =>
      if w.max ≤ current then [(a.number, .error (.limitReached current w.max))] else []
    | .entered | .admitted | .built _ => []
  | none => []

/-- All sessions that were ever created, oldest first. -/
def born : List Enrolment := w.created.filterMap fun x => x.2.toOption

def Fits (a : Creator) : Prop :=
  match a.progress with
  | .entered => True
  | .counted current => w.entries.length ≤ current
  | .admitted => w.entries.length < w.max
  | .built e => w.entries.length < w.max ∧ e.session = ⟨ids e.number, a.target⟩ ∧
      e.state = .idle ∧ e.number < w.counter ∧ ∀ b ∈ w.born, b.number < e.number

/-- A map of sessions that were created one after the other, with one call let in at most. -/
structure Sound : Prop where
  ordered : w.entries.Pairwise fun a b => a.number < b.number
  known : ∀ e ∈ w.entries, ∃ b ∈ w.born, e.session = b.session ∧ e.number = b.number
  ages : w.born.Pairwise fun a b => a.number < b.number
  born : ∀ b ∈ w.born, b.number < w.counter ∧ b.session.id = ids b.number ∧ b.state = .idle
  once : (w.created.map Prod.fst).Nodup
  active : ∀ a, w.active = some a →
    w.calls[a.number]? = some a.target ∧ a.number ∉ w.created.map Prod.fst ∧ w.Fits ids a

variable {ids : Nat → SessionId} {w : SharedRegistry} {a : Creator}

/-- Sessions may go, and their states may change. -/
theorem Sound.thin (h : w.Sound ids) {entries : List Enrolment}
    {removed : List (SessionId × Option Session)}
    (hlength : entries.length ≤ w.entries.length)
    (hordered : entries.Pairwise fun a b => a.number < b.number)
    (hknown : ∀ e ∈ entries, ∃ x ∈ w.entries, e.session = x.session ∧ e.number = x.number) :
    Sound ids { w with entries, removed } where
  ordered := hordered
  known e he := by
    obtain ⟨x, hx, hsession, hnumber⟩ := hknown e he
    obtain ⟨b, hb, hsession', hnumber'⟩ := h.known x hx
    exact ⟨b, hb, hsession.trans hsession', hnumber.trans hnumber'⟩
  ages := h.ages
  born := h.born
  once := h.once
  active a ha := by
    obtain ⟨hcalled, hfresh, hfits⟩ := h.active a ha
    refine ⟨hcalled, hfresh, ?_⟩
    unfold Fits at hfits ⊢
    cases hprogress : a.progress with
    | entered => trivial
    | counted current =>
      simp only [hprogress] at hfits ⊢
      exact Nat.le_trans hlength hfits
    | admitted =>
      simp only [hprogress] at hfits ⊢
      exact Nat.lt_of_le_of_lt hlength hfits
    | built e =>
      simp only [hprogress] at hfits ⊢
      exact hfits.imp_left (Nat.lt_of_le_of_lt hlength)

/-- A session in the map has the id that was drawn for its number. -/
theorem Sound.id_eq (h : w.Sound ids) {e : Enrolment} (he : e ∈ w.entries) :
    e.session.id = ids e.number := by
  obtain ⟨b, hb, hsession, hnumber⟩ := h.known e he
  rw [hsession, hnumber]
  exact (h.born b hb).2.1

/-- The id of a session that is being created is in the map under no other session. -/
theorem Sound.insert_eq (h : w.Sound ids) (hids : Function.Injective ids) {e : Enrolment}
    (hid : e.session.id = ids e.number) (hnew : ∀ b ∈ w.born, b.number < e.number) :
    w.insert e = { w with entries := w.entries ++ [e] } := by
  have hother : ∀ x ∈ w.entries, x.session.id ≠ e.session.id := by
    intro x hx hsame
    obtain ⟨b, hb, -, hnumber⟩ := h.known x hx
    have hnumber' : x.number = e.number := hids (by rw [← h.id_eq hx, hsame, hid])
    exact Nat.ne_of_lt (hnew b hb) (hnumber.symm.trans hnumber')
  rw [insert, List.filter_eq_self.2 (by simpa using hother)]

@[simp] theorem born_finish_ok (w : SharedRegistry) (n : Nat) (e : Enrolment) :
    (w.finish n (.ok e)).born = w.born ++ [e] := by
  simp [born, finish, Except.toOption]

@[simp] theorem born_finish_error (w : SharedRegistry) (n : Nat) (e : RegistryError) :
    (w.finish n (.error e)).born = w.born := by
  simp [born, finish, Except.toOption]

theorem once_finish (h : w.Sound ids) (ha : w.active = some a)
    (result : Except RegistryError Enrolment) :
    ((w.finish a.number result).created.map Prod.fst).Nodup := by
  rw [finish, List.map_append, List.map_singleton, ← List.concat_eq_append]
  exact h.once.concat (h.active a ha).2.1

/-- A turn of the call that is let in keeps the map sound. -/
theorem Sound.advance (h : w.Sound ids) (hids : Function.Injective ids)
    (ha : w.active = some a) : (w.advance ids a).Sound ids := by
  obtain ⟨hcalled, hfresh, hfits⟩ := h.active a ha
  unfold SharedRegistry.advance
  unfold Fits at hfits
  cases hprogress : a.progress with
  | entered =>
    exact { h with
      active := fun a' ha' => by
        cases ha'
        exact ⟨hcalled, hfresh, Nat.le_refl _⟩ }
  | counted current =>
    simp only [hprogress] at hfits ⊢
    split
    · exact {
        ordered := h.ordered
        known := by rw [born_finish_error]; exact h.known
        ages := by rw [born_finish_error]; exact h.ages
        born := by rw [born_finish_error]; exact h.born
        once := once_finish h ha _
        active := by simp [finish] }
    · rename_i hroom
      exact { h with
        active := fun a' ha' => by
          cases ha'
          exact ⟨hcalled, hfresh, Nat.lt_of_le_of_lt hfits (Nat.not_le.1 hroom)⟩ }
  | admitted =>
    simp only [hprogress] at hfits ⊢
    exact { h with
      born := fun b hb => (h.born b hb).imp_left Nat.lt_succ_of_lt
      active := fun a' ha' => by
        cases ha'
        exact ⟨hcalled, hfresh, hfits, rfl, rfl, Nat.lt_succ_self _, fun b hb => (h.born b hb).1⟩ }
  | built e =>
    simp only [hprogress] at hfits ⊢
    obtain ⟨-, hsession, hstate, hnumber, hnew⟩ := hfits
    have hid : e.session.id = ids e.number := by rw [hsession]
    rw [h.insert_eq hids hid hnew]
    exact {
      ordered := by
        refine List.pairwise_append.2 ⟨h.ordered, List.pairwise_singleton _ _, fun x hx y hy => ?_⟩
        obtain rfl := List.mem_singleton.1 hy
        obtain ⟨b, hb, -, hsame⟩ := h.known x hx
        exact hsame ▸ hnew b hb
      known := by
        rw [born_finish_ok]
        refine List.forall_mem_append.2 ⟨fun x hx => ?_, by simp⟩
        obtain ⟨b, hb, hsame⟩ := h.known x hx
        exact ⟨b, List.mem_append_left _ hb, hsame⟩
      ages := by
        rw [born_finish_ok]
        refine List.pairwise_append.2 ⟨h.ages, List.pairwise_singleton _ _, fun b hb y hy => ?_⟩
        exact List.mem_singleton.1 hy ▸ hnew b hb
      born := by
        rw [born_finish_ok]
        refine List.forall_mem_append.2 ⟨h.born, ?_⟩
        simpa using ⟨hnumber, hid, hstate⟩
      once := once_finish h ha _
      active := by simp [finish] }

/-- Every event keeps the map sound that sets no limit in the middle of a call. -/
theorem Sound.step (h : w.Sound ids) (hids : Function.Injective ids) (e : Event)
    (hquiet : ∀ max, e = .setMax max → w.active = none) : (w.step ids e).Sound ids := by
  cases e with
  | call target =>
    exact { h with
      active := fun a ha => by
        obtain ⟨hcalled, hrest⟩ := h.active a ha
        obtain ⟨hlt, -⟩ := List.getElem?_eq_some_iff.1 hcalled
        exact ⟨by rwa [SharedRegistry.step, List.getElem?_append_left hlt], hrest⟩ }
  | go n =>
    rw [SharedRegistry.step]
    cases hactive : w.active with
    | some a =>
      simp only
      split
      · exact h.advance hids hactive
      · exact h
    | none =>
      cases hcall : w.calls[n]? with
      | none => exact h
      | some target =>
        simp only
        split
        · exact h
        · rename_i hfresh
          exact { h with
            active := fun a ha => by
              cases ha
              exact ⟨hcall, hfresh, trivial⟩ }
  | remove id =>
    exact h.thin (List.length_filter_le _ _) (h.ordered.sublist List.filter_sublist)
      fun e he => ⟨e, List.mem_of_mem_filter he, rfl, rfl⟩
  | setMax max =>
    have hidle := hquiet max rfl
    exact { h with active := by simp [SharedRegistry.step, hidle] }
  | elsewhere =>
    exact { h with
      born := fun b hb => (h.born b hb).imp_left Nat.lt_succ_of_lt
      active := fun a ha => by
        obtain ⟨hcalled, hfresh, hfits⟩ := h.active a ha
        refine ⟨hcalled, hfresh, ?_⟩
        unfold Fits at hfits ⊢
        cases hprogress : a.progress <;> simp only [hprogress] at hfits ⊢ <;> try exact hfits
        obtain ⟨hroom, hsession, hstate, hnumber, hnew⟩ := hfits
        exact ⟨hroom, hsession, hstate, Nat.lt_succ_of_lt hnumber, hnew⟩ }
  | settle id state =>
    refine h.thin (by simp) (List.pairwise_map.2 ?_) ?_
    · refine h.ordered.imp fun {a b} hab => ?_
      split <;> split <;> exact hab
    · rw [List.forall_mem_map]
      intro e he
      refine ⟨e, he, ?_⟩
      split <;> exact ⟨rfl, rfl⟩

structure Tracks (max : Nat) (cs : List RegistryCall) (w : SharedRegistry) : Prop where
  sessions : w.entries.map Enrolment.session = (RegistryLog.of max cs).registry.sessions
  limit : w.max = (RegistryLog.of max cs).registry.max
  created : (w.created ++ w.pending).map (fun x => (x.1, x.2.map Enrolment.session)) =
    (RegistryLog.of max cs).created
  removed : w.removed = (RegistryLog.of max cs).removed
  called : ∀ n target id, .create n target id ∈ cs → w.calls[n]? = some target

variable {max : Nat} {cs : List RegistryCall}

theorem Tracks.size (h : Tracks max cs w) :
    (RegistryLog.of max cs).registry.size = w.entries.length := by
  rw [Registry.size, ← h.sessions, List.length_map]

theorem get?_map (w : SharedRegistry) (id : SessionId) : (w.get? id).map Enrolment.session =
    (w.entries.map Enrolment.session).find? fun s => s.id == id := by
  rw [List.find?_map]
  rfl

/-- A look-up by id gives what the registry gives. -/
theorem Tracks.get? (h : Tracks max cs w) (id : SessionId) :
    (w.get? id).map Enrolment.session = (RegistryLog.of max cs).registry.get? id := by
  rw [get?_map, h.sessions, Registry.get?]

/-- A call that takes effect among those who were let in. -/
theorem Tracks.called_concat (h : Tracks max cs w) {n : Nat} {target : SessionTarget}
    (hcalled : w.calls[n]? = some target) (id : SessionId) :
    ∀ n' target' id', .create n' target' id' ∈ cs ++ [.create n target id] →
      w.calls[n']? = some target' := by
  intro n' target' id' hmem
  rcases List.mem_append.1 hmem with hmem | hmem
  · exact h.called n' target' id' hmem
  · cases List.mem_singleton.1 hmem
    exact hcalled

/-- A turn of the call that is let in does to the registry what takes effect in it, or nothing. -/
theorem Tracks.advance (h : Tracks max cs w) (hsound : w.Sound ids)
    (hids : Function.Injective ids) (ha : w.active = some a) :
    Tracks max (cs ++ (w.effect? ids (.go a.number)).toList) (w.advance ids a) := by
  obtain ⟨hcalled, -, hfits⟩ := hsound.active a ha
  have hcreated := h.created
  unfold pending at hcreated
  unfold SharedRegistry.advance effect?
  unfold Fits at hfits
  cases hprogress : a.progress with
  | entered =>
    simp only [ha, hprogress, if_true] at hcreated ⊢
    by_cases hfull : w.max ≤ w.entries.length
    · have hroom :
          (RegistryLog.of max cs).registry.max ≤ (RegistryLog.of max cs).registry.size := by
        rwa [h.size, ← h.limit]
      rw [if_pos hfull, Option.toList_some]
      have hperform := (RegistryLog.of_concat max cs _).trans
        (RegistryLog.perform_create_of_full hroom a.number a.target (ids w.counter))
      exact {
        sessions := by rw [hperform]; exact h.sessions
        limit := by rw [hperform]; exact h.limit
        created := by
          rw [hperform, ← hcreated, h.size, ← h.limit]
          simp [pending, hfull]
          rfl
        removed := by rw [hperform]; exact h.removed
        called := h.called_concat hcalled _ }
    · rw [if_neg hfull, Option.toList_none, List.append_nil]
      exact { h with created := by simpa [pending, hfull] using hcreated }
  | counted current =>
    simp only [ha, hprogress, if_true, Option.toList_none, List.append_nil] at hcreated ⊢
    by_cases hfull : w.max ≤ current
    · rw [if_pos hfull] at hcreated ⊢
      exact { h with created := by simpa [pending, finish] using hcreated }
    · rw [if_neg hfull] at hcreated ⊢
      exact { h with created := by simpa [pending] using hcreated }
  | admitted =>
    simp only [ha, hprogress, if_true, Option.toList_none, List.append_nil] at hcreated ⊢
    exact { h with created := by simpa [pending] using hcreated }
  | built e =>
    simp only [ha, hprogress, if_true, Option.toList_some] at hcreated hfits ⊢
    obtain ⟨hroom, hsession, -, -, hnew⟩ := hfits
    have hid : e.session.id = ids e.number := by rw [hsession]
    have hroom' : (RegistryLog.of max cs).registry.size < (RegistryLog.of max cs).registry.max := by
      rwa [h.size, ← h.limit]
    have hperform := (RegistryLog.of_concat max cs _).trans
      (RegistryLog.perform_create_of_room hroom' a.number a.target e.session.id)
    have hsame : (⟨e.session.id, a.target⟩ : Session) = e.session := by rw [hsession]
    rw [hsame] at hperform
    rw [hsound.insert_eq hids hid hnew]
    exact {
      sessions := by
        rw [hperform]
        simp [finish, h.sessions]
      limit := by rw [hperform]; exact h.limit
      created := by
        rw [hperform, ← hcreated]
        simp [finish, pending]
        rfl
      removed := by rw [hperform]; exact h.removed
      called := h.called_concat hcalled _ }

/-- The registry follows each event by the call that takes effect in it. -/
theorem Tracks.step (h : Tracks max cs w) (hsound : w.Sound ids) (hids : Function.Injective ids)
    (e : Event) (hquiet : ∀ max, e = .setMax max → w.active = none) :
    Tracks max (cs ++ (w.effect? ids e).toList) (w.step ids e) := by
  cases e with
  | call target =>
    rw [effect?, Option.toList_none, List.append_nil]
    exact { h with
      called := fun n target' id hmem => by
        have hcalled := h.called n target' id hmem
        obtain ⟨hlt, -⟩ := List.getElem?_eq_some_iff.1 hcalled
        rwa [SharedRegistry.step, List.getElem?_append_left hlt] }
  | go n =>
    cases hactive : w.active with
    | some a =>
      by_cases hturn : a.number = n
      · subst hturn
        simpa only [SharedRegistry.step, hactive, if_true] using h.advance hsound hids hactive
      · simpa only [SharedRegistry.step, effect?, hactive, if_neg hturn, Option.toList_none,
          List.append_nil] using h
    | none =>
      simp only [SharedRegistry.step, effect?, hactive, Option.toList_none, List.append_nil]
      cases hcall : w.calls[n]? with
      | none => exact h
      | some target =>
        simp only
        split
        · exact h
        · exact { h with created := by simpa [pending, hactive] using h.created }
  | remove id =>
    have hperform := RegistryLog.of_concat max cs (.remove id)
    exact {
      sessions := by
        rw [effect?, Option.toList_some, hperform]
        simp only [RegistryLog.perform, Registry.remove, ← h.sessions, List.filter_map]
        rfl
      limit := by rw [effect?, Option.toList_some, hperform]; exact h.limit
      created := by rw [effect?, Option.toList_some, hperform]; exact h.created
      removed := by
        rw [effect?, Option.toList_some, hperform]
        simp only [SharedRegistry.step, RegistryLog.perform, Registry.remove, ← h.removed, h.get?]
      called := by simpa [effect?, SharedRegistry.step] using h.called }
  | setMax limit =>
    have hidle := hquiet limit rfl
    have hperform := RegistryLog.of_concat max cs (.setMax limit)
    exact {
      sessions := by rw [effect?, Option.toList_some, hperform]; exact h.sessions
      limit := by rw [effect?, Option.toList_some, hperform]; rfl
      created := by
        rw [effect?, Option.toList_some, hperform]
        simpa [pending, hidle, SharedRegistry.step, RegistryLog.perform] using h.created
      removed := by rw [effect?, Option.toList_some, hperform]; exact h.removed
      called := by simpa [effect?, SharedRegistry.step] using h.called }
  | elsewhere =>
    rw [effect?, Option.toList_none, List.append_nil]
    exact { h with }
  | settle id state =>
    rw [effect?, Option.toList_none, List.append_nil]
    have hsame : ((fun e : Enrolment => e.session) ∘ fun e =>
        if e.session.id = id then { e with state } else e) = Enrolment.session := by
      funext e
      simp only [Function.comp_apply]
      split <;> rfl
    exact { h with
      sessions := by
        rw [← h.sessions, SharedRegistry.step, List.map_map]
        exact congrArg (List.map · w.entries) hsame }

/-- Over a whole run the registry follows the calls in the order of their effects. -/
theorem run_spec (hids : Function.Injective ids) (hsound : w.Sound ids) (h : Tracks max cs w)
    (es : List Event) (hquiet : Undisturbed ids w es) :
    (w.run ids es).Sound ids ∧ Tracks max (cs ++ effects ids w es) (w.run ids es) := by
  induction es generalizing w cs with
  | nil => exact ⟨hsound, by rwa [effects, List.append_nil]⟩
  | cons e es ih =>
    obtain ⟨hnow, hlater⟩ := hquiet
    rw [effects, ← List.append_assoc]
    exact ih (hsound.step hids e hnow) (h.step hsound hids e hnow) hlater

theorem sound_of (ids : Nat → SessionId) (max : Nat) : (of max).Sound ids where
  ordered := .nil
  known := by simp [of]
  ages := by simp [SharedRegistry.born, of]
  born := by simp [SharedRegistry.born, of]
  once := .nil
  active := by simp [of]

theorem tracks_of (max : Nat) : Tracks max [] (of max) where
  sessions := rfl
  limit := rfl
  created := rfl
  removed := rfl
  called := by simp

/-- However the map brings the sessions, they are listed in the order of creation. -/
theorem Sound.listed (h : w.Sound ids) {order : List Enrolment} (horder : order.Perm w.entries) :
    listed order = w.entries := by
  have hperm : (SharedRegistry.listed order).Perm w.entries :=
    (List.mergeSort_perm _ _).trans horder
  have hnumbers : (w.entries.map Enrolment.number).Nodup :=
    List.pairwise_map.2 (h.ordered.imp Nat.ne_of_lt)
  have hsorted : (SharedRegistry.listed order).Pairwise fun a b => a.number ≤ b.number := by
    refine (List.pairwise_mergeSort ?_ ?_ order).imp of_decide_eq_true
    · simpa using fun _ _ _ => Nat.le_trans
    · simpa using fun a b : Enrolment => Nat.le_total a.number b.number
  refine hperm.eq_of_pairwise (fun a b ha hb hab hba => ?_) hsorted (h.ordered.imp Nat.le_of_lt)
  exact List.inj_on_of_nodup_map hnumbers (hperm.subset ha) hb (Nat.le_antisymm hab hba)

/-- No id is given twice. -/
theorem Sound.nodup (h : w.Sound ids) (hids : Function.Injective ids) :
    (w.born.map fun e => e.session.id).Nodup := by
  refine List.pairwise_map.2 (h.ages.imp_of_mem fun {a b} ha hb hab hsame => ?_)
  rw [(h.born a ha).2.1, (h.born b hb).2.1] at hsame
  exact Nat.ne_of_lt hab (hids hsame)

/-- No call is answered twice. -/
theorem Sound.numbers_nodup (h : w.Sound ids) : ((w.created ++ w.pending).map Prod.fst).Nodup := by
  unfold pending
  cases hactive : w.active with
  | none => simpa using h.once
  | some a =>
    have hfresh := (h.active a hactive).2.1
    cases hprogress : a.progress with
    | entered | admitted | built => simpa [hprogress] using h.once
    | counted current =>
      simp only [hprogress]
      split
      · rw [List.map_append, List.map_singleton, ← List.concat_eq_append]
        exact h.once.concat hfresh
      · simpa using h.once

/-- More sessions than before are never more than allowed. -/
theorem Sound.fits_of_lt (h : w.Sound ids) (hids : Function.Injective ids) (e : Event)
    (hgrown : w.entries.length < (w.step ids e).entries.length) :
    (w.step ids e).entries.length ≤ (w.step ids e).max := by
  cases e with
  | call | setMax | elsewhere => exact absurd hgrown (Nat.lt_irrefl _)
  | remove id => exact absurd hgrown (Nat.not_lt.2 (List.length_filter_le _ _))
  | settle id state => simp [SharedRegistry.step] at hgrown
  | go n =>
    revert hgrown
    rw [SharedRegistry.step]
    cases hactive : w.active with
    | none =>
      cases w.calls[n]? with
      | none => simp
      | some target => simp only; split <;> simp
    | some a =>
      have hfits := (h.active a hactive).2.2
      unfold Fits at hfits
      simp only
      split <;> [skip; simp]
      unfold SharedRegistry.advance
      cases hprogress : a.progress with
      | entered | admitted => simp
      | counted current => simp only; split <;> simp [finish]
      | built e =>
        simp only [hprogress] at hfits ⊢
        obtain ⟨hroom, hsession, -, -, hnew⟩ := hfits
        rw [h.insert_eq hids (by rw [hsession]) hnew]
        intro _
        simpa [finish] using Nat.succ_le_of_lt hroom

/-- How many turns a call needs at most until it is answered. -/
def turnsLeft : Creating → Nat
  | .entered => 4
  | .counted _ => 3
  | .admitted => 2
  | .built _ => 1

def Event.isTurn (n : Nat) : Event → Bool
  | .go m => m = n
  | .call _ | .remove _ | .setMax _ | .elsewhere | .settle _ _ => false

/-- The lock is open to every call that is not answered yet. -/
theorem active_go {n : Nat} {target : SessionTarget} (hidle : w.active = none)
    (hcall : w.calls[n]? = some target) (hfresh : n ∉ w.created.map Prod.fst) :
    (w.step ids (.go n)).active = some ⟨n, target, .entered⟩ := by
  simp only [step, hidle, hcall, if_neg hfresh]

/-- A turn of the call that is let in answers it, or brings it nearer to its answer. -/
theorem advance_cases (ids : Nat → SessionId) (w : SharedRegistry) (a : Creator) :
    (∃ result, (w.advance ids a).created = w.created ++ [(a.number, result)]) ∨
      (w.advance ids a).created = w.created ∧ ∃ progress,
        (w.advance ids a).active = some { a with progress } ∧
        turnsLeft progress < turnsLeft a.progress := by
  unfold SharedRegistry.advance
  cases a.progress with
  | entered => exact .inr ⟨rfl, _, rfl, Nat.lt_succ_self 3⟩
  | counted current =>
    dsimp only
    split
    · exact .inl ⟨_, rfl⟩
    · exact .inr ⟨rfl, _, rfl, Nat.lt_succ_self 2⟩
  | admitted => exact .inr ⟨rfl, _, rfl, Nat.lt_succ_self 1⟩
  | built e => exact .inl ⟨_, rfl⟩

/-- Nothing but its own turns moves the call that is let in. -/
theorem active_step {e : Event} (ha : w.active = some a) (he : e.isTurn a.number = false) :
    (w.step ids e).active = some a := by
  cases e with
  | go n =>
    have hother : ¬ a.number = n := by simpa [Event.isTurn, eq_comm] using he
    simp only [step, ha, if_neg hother]
  | call | remove | setMax | elsewhere | settle => exact ha

/-- No answer is taken back. -/
theorem created_step (ids : Nat → SessionId) (w : SharedRegistry) (e : Event) :
    w.created <+: (w.step ids e).created := by
  cases e with
  | call | remove | setMax | elsewhere | settle => exact List.prefix_rfl
  | go n =>
    rw [step]
    cases hactive : w.active with
    | none =>
      cases w.calls[n]? with
      | none => exact List.prefix_rfl
      | some target => simp only; split <;> exact List.prefix_rfl
    | some a =>
      simp only
      split
      · rcases advance_cases ids w a with ⟨result, hanswered⟩ | ⟨hsame, -⟩
        · exact ⟨_, hanswered.symm⟩
        · exact hsame ▸ List.prefix_rfl
      · exact List.prefix_rfl

theorem created_run (ids : Nat → SessionId) (w : SharedRegistry) (es : List Event) :
    w.created <+: (w.run ids es).created := by
  induction es generalizing w with
  | nil => exact List.prefix_rfl
  | cons e es ih => exact (created_step ids w e).trans (ih _)

/-- A call that the lock has let in is answered once it has had its turns, whatever goes between
them. -/
theorem answered_of_turns (ha : w.active = some a) {es : List Event}
    (hturns : turnsLeft a.progress ≤ es.countP (Event.isTurn a.number)) :
    ∃ result, (a.number, result) ∈ (w.run ids es).created := by
  induction es generalizing w a with
  | nil =>
    have hpositive : 0 < turnsLeft a.progress := by cases a.progress <;> exact Nat.succ_pos _
    exact absurd hturns (Nat.not_le.2 hpositive)
  | cons e es ih =>
    cases he : e.isTurn a.number with
    | false =>
      rw [List.countP_cons_of_neg (by simp [he])] at hturns
      exact ih (active_step ha he) hturns
    | true =>
      rw [List.countP_cons_of_pos he] at hturns
      have hstep : w.step ids e = w.advance ids a := by
        cases e <;> simp_all [Event.isTurn, step]
      have hrun : w.run ids (e :: es) = (w.advance ids a).run ids es :=
        congrArg (fun w => w.run ids es) hstep
      rw [hrun]
      rcases advance_cases ids w a with ⟨result, hanswered⟩ | ⟨-, progress, hactive, hnearer⟩
      · exact ⟨result, (created_run ids _ es).subset (by simp [hanswered])⟩
      · exact ih (a := { a with progress }) hactive
          (Nat.le_of_lt_succ (Nat.lt_of_lt_of_le hnearer hturns))

/-- A call that finds the lock open is answered once it has had its turns, too. -/
theorem answered_of_open {n : Nat} {target : SessionTarget} (hidle : w.active = none)
    (hcall : w.calls[n]? = some target) (hfresh : n ∉ w.created.map Prod.fst) {es : List Event}
    (hturns : 4 ≤ es.countP (Event.isTurn n)) :
    ∃ result, (n, result) ∈ (w.run ids (.go n :: es)).created :=
  answered_of_turns (active_go hidle hcall hfresh) hturns

/-- A shared registry in which one sees what a registry holds. -/
structure Shows (w : SharedRegistry) (r : Registry) : Prop where
  list : ∀ order : List Enrolment, order.Perm w.entries →
    (listed order).map Enrolment.session = r.sessions
  distinct : (r.sessions.map Session.id).Nodup
  get : ∀ id, (w.get? id).map Enrolment.session = r.get? id
  require : ∀ id, (w.require id).map Enrolment.session = r.require id
  contains : ∀ id, (w.get? id).isSome = r.contains id
  size : w.entries.length = r.size
  limit : w.max = r.max

/-- What one sees of the map is what the registry holds. -/
theorem Tracks.shows (h : Tracks max cs w) (hsound : w.Sound ids) (hids : Function.Injective ids) :
    w.Shows (RegistryLog.of max cs).registry where
  list order horder := by rw [hsound.listed horder, h.sessions]
  distinct := by
    rw [← h.sessions, List.map_map]
    refine List.pairwise_map.2 (hsound.ordered.imp_of_mem fun {a b} ha hb hab hsame => ?_)
    rw [Function.comp_apply, Function.comp_apply, hsound.id_eq ha, hsound.id_eq hb] at hsame
    exact Nat.ne_of_lt hab (hids hsame)
  get := h.get?
  require id := by
    rw [SharedRegistry.require, Registry.require, ← h.get?]
    cases w.get? id <;> rfl
  contains id := by rw [Registry.contains, ← h.get?, Option.isSome_map]
  size := h.size.symm
  limit := h.limit

/-- Whatever calls there are, and however those that create sessions get in between each other,
what they answer and leave is what they do to a registry in the order in which they take effect.
Every call takes effect once, no id is given twice, and no call that creates a session brings
their number above the limit. -/
theorem registry_of_effects (hids : Function.Injective ids) {max : Nat} {es : List Event}
    (hquiet : Undisturbed ids (of max) es) :
    let w := (of max).run ids es
    let cs := effects ids (of max) es
    w.Shows (RegistryLog.of max cs).registry ∧
    (w.created ++ w.pending).map (fun x => (x.1, x.2.map Enrolment.session)) =
      (RegistryLog.of max cs).created ∧
    w.removed = (RegistryLog.of max cs).removed ∧
    (∀ n target id, .create n target id ∈ cs → w.calls[n]? = some target) ∧
    ((w.created ++ w.pending).map Prod.fst).Nodup ∧
    (w.born.map fun e => e.session.id).Nodup ∧ (∀ e ∈ w.born, e.state = .idle) ∧
    ∀ e, w.entries.length < (w.step ids e).entries.length →
      (w.step ids e).entries.length ≤ (w.step ids e).max := by
  intro w cs
  obtain ⟨hsound, htracks⟩ := run_spec hids (sound_of ids max) (tracks_of max) es hquiet
  rw [List.nil_append] at htracks
  exact ⟨htracks.shows hsound hids, htracks.created, htracks.removed, htracks.called,
    hsound.numbers_nodup, hsound.nodup hids, fun e he => (hsound.born e he).2.2,
    hsound.fits_of_lt hids⟩

/-- Two calls that come at once. The first session is removed while the other call is on its way
to find that there was no room. -/
def rivals : List Event :=
  let target := SessionTarget.serial { device := "/dev/ttyS0", baudRate := 9600 }
  [.call target, .call target, .go 1, .go 0, .go 1, .elsewhere, .go 1, .go 1, .go 1, .setMax 0,
    .go 0, .go 0, .remove ⟨2⟩, .go 0]

theorem registry_of_rivals : Function.Injective SessionId.mk ∧
    Undisturbed SessionId.mk (of 1) rivals ∧
    ((of 1).run SessionId.mk rivals).created.map Prod.fst = [1, 0] ∧
    ((of 1).run SessionId.mk rivals).Shows
      (RegistryLog.of 1 (effects SessionId.mk (of 1) rivals)).registry ∧
    (RegistryLog.of 1 (effects SessionId.mk (of 1) rivals)).created.getLast? =
      some (0, .error (.limitReached 1 0)) := by
  have hids : Function.Injective SessionId.mk := fun a b h => SessionId.mk.inj h
  have hquiet : Undisturbed SessionId.mk (of 1) rivals :=
    ⟨nofun, nofun, nofun, nofun, nofun, nofun, nofun, nofun, nofun, fun _ _ => rfl, nofun, nofun,
      nofun, nofun, trivial⟩
  exact ⟨hids, hquiet, by decide, (registry_of_effects hids hquiet).1, by decide⟩

end SharedRegistry

end Multiplexer
