import Multiplexer.Proofs.Layout.Notices

/-!
# Broadcasts

A layout in use, with listeners that come at any time. All of them are told the
same, one after the other in the order in which they came, and one that came
while the layout was empty knows from what it heard where the focus is.
-/

namespace Multiplexer

/-- A layout with its listeners, numbered in the order in which they came, and all that was
delivered to them. -/
structure Broadcast where
  layout : Layout
  audience : Audience Nat := {}
  delivered : List (Nat × Notice) := []

namespace Broadcast

inductive Event where
  | subscribe
  | operate (op : Layout.Operation)

def step (b : Broadcast) : Event → Broadcast
  | .subscribe => { b with audience := b.audience.subscribe b.audience.listeners.length }
  | .operate op =>
    { b with
      layout := b.layout.apply op
      delivered := b.delivered ++ b.audience.deliverAll (b.layout.told op) }

def run (b : Broadcast) (es : List Event) : Broadcast := es.foldl step b

theorem run_cons (b : Broadcast) (e : Event) (es : List Event) :
    b.run (e :: es) = (b.step e).run es := rfl

/-- What a listener has heard. -/
def heard (b : Broadcast) (k : Nat) : List Notice :=
  b.delivered.filterMap fun d => if d.1 = k then some d.2 else none

/-- What the layout tells at an event. -/
def tells (b : Broadcast) : Event → List Notice
  | .subscribe => []
  | .operate op => b.layout.told op

/-- What the layout tells in the course of a run. -/
def told : Broadcast → List Event → List Notice
  | _, [] => []
  | b, e :: es => b.tells e ++ (b.step e).told es

/-- Where the focus is for one who remembers the last notice of it. -/
def lastFocus (ns : List Notice) : Option PaneId :=
  ns.foldl (fun f n => match n with
    | .changed => f
    | .focus f' => f') none

/-- Notices say what became of the layout, and all listeners hear the same of it. -/
structure Faithful (b : Broadcast) : Prop where
  form : ∀ op, b.layout.told op = [] ∨ b.layout.told op = [.changed] ∨
    b.layout.told op = [.changed, .focus (b.layout.apply op).focused]
  silent : ∀ op, b.layout.told op = [] → b.layout.apply op = b.layout
  moved : ∀ op f, b.layout.told op = [.changed, .focus f] ↔
    (b.layout.apply op).focused ≠ b.layout.focused ∧ f = (b.layout.apply op).focused
  /-- Each notice goes to all before the next one does. -/
  delivered : ∀ op, (b.step (.operate op)).delivered = b.delivered ++
    (b.layout.told op).flatMap fun n => (List.range b.audience.listeners.length).map (·, n)
  heard : ∀ k < b.audience.listeners.length, ∀ es, (b.run es).heard k = b.heard k ++ b.told es
  /-- One who comes while there is nothing in focus can tell from then on where the focus is. -/
  recalled : b.layout.isEmpty = true → ∀ es, let b' := (b.step .subscribe).run es
    lastFocus (b'.heard b.audience.listeners.length) = b'.layout.focused

structure Orderly (b : Broadcast) : Prop where
  scene : ∃ σ, b.layout.Presents σ ∧ σ.Orderly
  numbered : b.audience.listeners = List.range b.audience.listeners.length
  /-- Nothing was delivered to one that has not come. -/
  known : ∀ d ∈ b.delivered, d.1 < b.audience.listeners.length

variable {b : Broadcast}

theorem length_subscribe (b : Broadcast) :
    (b.step .subscribe).audience.listeners.length = b.audience.listeners.length + 1 := by
  simp [step, Audience.subscribe]

/-- Of what is delivered to many, one of them hears all, and nobody else hears anything. -/
theorem filterMap_deliverAll (n k : Nat) (ns : List Notice) :
    ((⟨List.range n⟩ : Audience Nat).deliverAll ns).filterMap
        (fun d => if d.1 = k then some d.2 else none) = if k < n then ns else [] := by
  have hone : ∀ m : Notice, ((List.range n).map (·, m)).filterMap
      (fun d => if d.1 = k then some d.2 else none) = if k < n then [m] else [] := by
    intro m
    induction n with
    | zero => simp
    | succ n ih =>
      rw [List.range_succ, List.map_append, List.filterMap_append, ih]
      by_cases hk : n = k
      · simp [hk]
      · have hlt : k < n + 1 ↔ k < n := by omega
        simp [hk, hlt]
  induction ns with
  | nil => simp [Audience.deliverAll]
  | cons m ns ih =>
    rw [Audience.deliverAll, List.flatMap_cons, List.filterMap_append]
    have htail := ih
    rw [Audience.deliverAll] at htail
    rw [htail, Audience.deliver, hone]
    split <;> simp

theorem Orderly.empty (splitRatio : Binary64) (nextId : Nat) :
    Orderly { layout := { splitRatio, nextId } } where
  scene := ⟨{}, ⟨.empty _ _, rfl, rfl⟩, .empty⟩
  numbered := rfl
  known := by simp

/-- Every event keeps a broadcast in order. -/
theorem Orderly.step (h : b.Orderly) (e : Event) : (b.step e).Orderly := by
  cases e with
  | subscribe =>
    refine ⟨h.scene, ?_, fun d hd => ?_⟩
    · rw [length_subscribe, List.range_succ, ← h.numbered]
      rfl
    · rw [length_subscribe]
      exact Nat.lt_succ_of_lt (h.known d hd)
  | operate op =>
    refine ⟨?_, h.numbered, fun d hd => ?_⟩
    · obtain ⟨σ, hσ, ho⟩ := h.scene
      rcases hσ.apply op with hsame | ⟨told, σ', h', hstep⟩
      · exact ⟨σ, by rwa [Broadcast.step, hsame], ho⟩
      · exact ⟨σ', h', hstep.orderly ho⟩
    · rcases List.mem_append.mp hd with hd | hd
      · exact h.known d hd
      · obtain ⟨n, -, hd⟩ := List.mem_flatMap.mp hd
        obtain ⟨k, hk, rfl⟩ := List.mem_map.mp hd
        rw [h.numbered] at hk
        exact List.mem_range.mp hk

/-- A broadcast is in order after any run. -/
theorem Orderly.run (h : b.Orderly) (es : List Event) : (b.run es).Orderly := by
  induction es generalizing b with
  | nil => exact h
  | cons e es ih => exact ih (h.step e)

theorem Orderly.heard_step (h : b.Orderly) (e : Event) {k : Nat}
    (hk : k < b.audience.listeners.length) : (b.step e).heard k = b.heard k ++ b.tells e := by
  cases e with
  | subscribe => simp [heard, Broadcast.step, tells]
  | operate op =>
    have hnumbered : b.audience = ⟨List.range b.audience.listeners.length⟩ := by
      rw [← h.numbered]
    unfold heard
    rw [Broadcast.step, List.filterMap_append, hnumbered, filterMap_deliverAll, if_pos hk]
    rfl

/-- One who has come hears all that is told from then on. -/
theorem Orderly.heard_run (h : b.Orderly) {k : Nat} (hk : k < b.audience.listeners.length)
    (es : List Event) : (b.run es).heard k = b.heard k ++ b.told es := by
  induction es generalizing b with
  | nil => simp [Broadcast.run, told]
  | cons e es ih =>
    have hlength : k < (b.step e).audience.listeners.length := by
      cases e with
      | subscribe =>
        rw [length_subscribe]
        omega
      | operate op => exact hk
    rw [run_cons, ih (h.step e) hlength, h.heard_step e hk, told, List.append_assoc]

/-- One who has not come has heard nothing. -/
theorem Orderly.unheard (h : b.Orderly) : b.heard b.audience.listeners.length = [] := by
  refine List.filterMap_eq_nil_iff.mpr fun d hd => ?_
  have hlt := h.known d hd
  rw [if_neg (by omega)]

/-- Further notices lead the focus from where the earlier ones have left it. -/
theorem lastFocus_append {old new : Option PaneId} {ns ms : List Notice} (hold : lastFocus ns = old)
    (h : Announces old new ms) : lastFocus (ns ++ ms) = new := by
  unfold lastFocus at hold ⊢
  rw [List.foldl_append, hold]
  cases h <;> rfl

/-- One who remembers the last notice of the focus knows where it is. -/
theorem Orderly.lastFocus_run (h : b.Orderly) (es : List Event) {ns : List Notice}
    (hfocus : lastFocus ns = b.layout.focused) :
    lastFocus (ns ++ b.told es) = (b.run es).layout.focused := by
  induction es generalizing b ns with
  | nil =>
    rw [told, List.append_nil]
    exact hfocus
  | cons e es ih =>
    rw [run_cons, told, ← List.append_assoc]
    refine ih (h.step e) ?_
    cases e with
    | subscribe =>
      rw [tells, List.append_nil]
      exact hfocus
    | operate op =>
      obtain ⟨σ, hσ, ho⟩ := h.scene
      exact lastFocus_append hfocus (hσ.announces ho op).1

theorem Orderly.unfocused (h : b.Orderly) (hempty : b.layout.isEmpty = true) :
    b.layout.focused = none := by
  obtain ⟨σ, hσ, ho⟩ := h.scene
  have hplan : σ.plan = {} := hσ.represents.isEmpty_iff.mp hempty
  rw [hσ.focused]
  exact ho.aimed.none (by rw [hplan]) (by rw [hplan])

/-- A broadcast in order is faithful. -/
theorem Orderly.faithful (h : b.Orderly) : b.Faithful := by
  obtain ⟨σ, hσ, ho⟩ := h.scene
  refine ⟨fun op => (hσ.announces ho op).1.cases_told, fun op => (hσ.announces ho op).2,
    fun op => (hσ.announces ho op).1.focus_iff, fun op => ?_, fun k hk => h.heard_run hk,
    fun hempty es => ?_⟩
  · rw [← h.numbered]
    rfl
  · have hcame : b.audience.listeners.length < (b.step .subscribe).audience.listeners.length := by
      rw [length_subscribe]
      omega
    have hheard : (b.step .subscribe).heard b.audience.listeners.length = [] := h.unheard
    intro b'
    rw [(h.step .subscribe).heard_run hcame, hheard]
    exact (h.step .subscribe).lastFocus_run es (h.unfocused hempty).symm

/-- Whatever is asked of an empty layout and whoever comes to listen, the notices are faithful. -/
theorem faithful_after_events (splitRatio : Binary64) (nextId : Nat) (es : List Event) :
    (run { layout := { splitRatio, nextId } } es).Faithful :=
  ((Orderly.empty splitRatio nextId).run es).faithful

/-- A pane that is closed again was heard of from its first notice to its last. -/
example : (run { layout := {} } [.subscribe, .operate (.createRoot none), .operate .reset]).heard 0 =
    [.changed, .focus (some ⟨1⟩), .changed, .focus none] := by decide

end Broadcast

end Multiplexer
