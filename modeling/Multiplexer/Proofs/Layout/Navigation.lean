import Mathlib.Algebra.Ring.Int.Defs
import Mathlib.Data.List.Rotate
import Multiplexer.Proofs.Layout.Merging
import Multiplexer.Proofs.Layout.Reversal

/-!
# Moving the focus

The panes among which the focus moves form a ring. A move leads one place on or
back, and the layout that it leaves depends on where the focus is then and not
on the way: so moves add up, and a whole round changes nothing.
-/

namespace Multiplexer

/-- How many places on a move leads. -/
def Direction.stride : Direction → Int
  | .right | .down => 1
  | .left | .up => -1

theorem Direction.stride_of_forward {d : Direction} (h : d.backward = false) : d.stride = 1 := by
  cases d with
  | right | down => rfl
  | left | up => simp [backward] at h

/-- How a leaf looks when a pane has the focus and is in front of the tabs, if there are any. -/
def Leaf.look (tabbed : Bool) (front : PaneId) (l : Leaf) : Leaf :=
  { l with focused := l.id == front, visible := if tabbed then l.id == front else l.visible }

theorem Leaf.FlagChange.ofLook (tabbed : Bool) (front : PaneId) :
    FlagChange (Leaf.look tabbed front) := ⟨fun _ => rfl, fun _ => rfl, fun _ _ => rfl⟩

theorem Leaf.look_look (tabbed : Bool) (a b : PaneId) :
    Leaf.look tabbed b ∘ Leaf.look tabbed a = Leaf.look tabbed b := by
  funext l
  cases tabbed <;> rfl

namespace Layout

theorem wrap_lt (d : Direction) {i n : Nat} (hi : i < n) : wrap d i n < n := by
  unfold wrap
  split <;> exact Nat.mod_lt _ (Nat.zero_lt_of_lt hi)

theorem wrap_eq (d : Direction) {i n : Nat} (hi : i < n) :
    (wrap d i n : Int) = (i + d.stride) % n := by
  have hback : ((i + n - 1 : Nat) : Int) = i + -1 + n := by omega
  cases d <;> simp [wrap, Direction.backward, Direction.stride, hback]

theorem mapLeaves_congr {s : Layout} {f g : Leaf → Leaf} (h : ∀ l ∈ s.held, f l = g l) :
    s.mapLeaves f = s.mapLeaves g := by
  have hpanes : s.panes.map (Pane.mapLeaf f) = s.panes.map (Pane.mapLeaf g) := by
    refine List.map_congr_left fun p hp => ?_
    cases p with
    | leaf l => exact congrArg Pane.leaf (h l (mem_held.mpr hp))
    | container c => rfl
  rw [mapLeaves, hpanes, mapLeaves]

section Facing

/-- The layout with the focus on one of its panes, which is in front of the tabs if there are
any. -/
def facing (s : Layout) (front : PaneId) : Layout :=
  { s.mapLeaves (Leaf.look s.tabbed front) with
    activeTab := if s.tabbed then some front else s.activeTab
    focused := some front }

variable (s : Layout) (a b : PaneId)

@[simp] theorem focused_facing : (s.facing a).focused = some a := rfl

theorem tabbed_facing : (s.facing a).tabbed = s.tabbed := rfl

/-- Where the focus was before does not show. -/
theorem facing_facing : (s.facing a).facing b = s.facing b := by
  have hleaves : (s.mapLeaves (Leaf.look s.tabbed a)).mapLeaves (Leaf.look s.tabbed b) =
      s.mapLeaves (Leaf.look s.tabbed b) := by
    rw [mapLeaves_mapLeaves, Leaf.look_look]
  have hactive : (if s.tabbed then some b else (s.facing a).activeTab) =
      if s.tabbed then some b else s.activeTab := by
    unfold facing
    split_ifs <;> rfl
  have hpanes : ((s.facing a).facing b).panes = (s.facing b).panes :=
    (congrArg Layout.panes hleaves :)
  show ({ s with
    panes := ((s.facing a).facing b).panes
    activeTab := if s.tabbed then some b else (s.facing a).activeTab
    focused := some b } : Layout) = _
  rw [hpanes, hactive]
  rfl

@[simp] theorem order_facing : (s.facing a).order = s.order := by
  have hleaves : (s.facing a).leafIds = s.leafIds := by
    rw [← s.leafIds_mapLeaves (.ofLook s.tabbed a), leafIds_eq_idsUnder, leafIds_eq_idsUnder]
    exact congrArg (fun g => s.root.toList.flatMap g) (funext (idsUnder_congr rfl))
  rw [order, hleaves]
  rfl

end Facing

variable {s : Layout} {σ : Scene}

section Ring

theorem Represents.nodup_order {q : Plan} (h : s.Represents q) : s.order.Nodup := by
  have hall := h.nodup_everyLeaf
  unfold everyLeaf at hall
  have hboth := (List.nodup_append.mp hall).1
  unfold order
  split_ifs
  · exact (List.nodup_append.mp hboth).2.1
  · exact (List.nodup_append.mp hboth).1

/-- A layout with panes has leaves. -/
theorem Represents.held_ne_nil {q : Plan} (h : s.Represents q) (hsome : s.isEmpty = false) :
    s.held ≠ [] := by
  rw [ne_eq, h.held_eq_nil, Plan.leaves_eq]
  intro hnil
  obtain ⟨tree, tabs, bg⟩ := q
  have hempty : tree = none ∧ tabs = [] ∧ bg = [] := by
    cases tree with
    | none => simpa using hnil
    | some t => simp [t.leaves_ne_nil] at hnil
  obtain ⟨rfl, rfl, rfl⟩ := hempty
  rw [h.isEmpty_iff.mpr rfl] at hsome
  exact absurd hsome (by simp)

/-- In tabbed mode every leaf is a tab. -/
theorem Presents.id_mem_tabs (h : s.Presents σ) (htabs : s.tabbed = true) :
    ∀ l ∈ s.held, l.id ∈ s.tabs := by
  refine (h.represents.forall_held (P := fun l => l.id ∈ s.tabs) fun _ _ => .rfl).mpr ?_
  rw [h.tabs_eq htabs, h.represents.tabs, Plan.leaves_eq]
  intro l hl
  exact List.mem_map_of_mem (by simpa using hl)

theorem Regular.coherent (h : s.Regular σ) : s.Coherent := h.presents.coherent h.orderly

/-- Bringing a pane to the front leaves the layout that faces it. -/
theorem Regular.brought_eq (h : s.Regular σ) (id : PaneId) :
    (if s.tabbed then s.showTab id else s).refocus (some id) = s.facing id := by
  cases htabs : s.tabbed with
  | true =>
    have hlook : ∀ l ∈ s.held, (Leaf.refocus s.focused (some id) ∘ Leaf.front s.tabs id) l =
        Leaf.look true id l := fun l hl =>
      refocus_front (h.presents.id_mem_tabs htabs l hl) (h.marked l hl)
    have hpanes := congrArg Layout.panes (mapLeaves_congr hlook)
    rw [← mapLeaves_mapLeaves] at hpanes
    rw [if_pos rfl, showTab_eq, refocus_eq, facing, htabs]
    show ({ s with
      panes := ((s.mapLeaves (Leaf.front s.tabs id)).mapLeaves
        (Leaf.refocus s.focused (some id))).panes
      activeTab := some id
      focused := some id } : Layout) = _
    rw [hpanes]
    rfl
  | false =>
    have hlook : ∀ l ∈ s.held, Leaf.refocus s.focused (some id) l = Leaf.look false id l := by
      intro l hl
      rw [Leaf.refocus_of_mark (h.marked l hl)]
      simp [Leaf.look, Bool.beq_eq_decide_eq, eq_comm]
    rw [if_neg (by simp), refocus_eq, mapLeaves_congr hlook, facing, htabs]
    rfl

/-- A layout faces the pane that has the focus. -/
theorem Regular.facing_focus (h : s.Regular σ) {f : PaneId} (hf : s.focused = some f) :
    s.facing f = s := by
  have hc := h.coherent
  have hsome : s.held ≠ [] := fun hnil => by simp [hc.unfocused hnil] at hf
  obtain ⟨f', hf', -, hscreen, hflag⟩ := hc.focused hsome
  obtain rfl : f' = f := Option.some.inj (hf'.symm.trans hf)
  have hfocus : ∀ l ∈ s.held, (l.id == f') = l.focused := fun l hl => by
    rw [Bool.eq_iff_iff, beq_iff_eq, hflag l hl]
  have hsight : s.tabbed = true → ∀ l ∈ s.held, (l.id == f') = l.visible := fun htabs l hl => by
    rw [if_pos htabs] at hscreen
    rw [Bool.eq_iff_iff, beq_iff_eq, hc.visible l hl, visibleLeaves, if_pos htabs, hscreen]
    simp
  have hlook : ∀ l ∈ s.held, Leaf.look s.tabbed f' l = l := by
    intro l hl
    have hvisible : (if s.tabbed then l.id == f' else l.visible) = l.visible := by
      split_ifs with htabs
      · exact hsight htabs l hl
      · rfl
    rw [Leaf.look, hvisible, hfocus l hl]
  have hactive : (if s.tabbed then some f' else s.activeTab) = s.activeTab := by
    split_ifs at hscreen ⊢
    · exact hscreen.symm
    · rfl
  rw [facing, mapLeaves_congr (g := fun l => l) hlook, mapLeaves_id, hactive, ← hf']

/-- Of a layout with panes one has the focus, and it has one place in the order of panes. -/
theorem Regular.place (h : s.Regular σ) (hsome : s.isEmpty = false) :
    ∃ (i : Nat) (hi : i < s.order.length), s.focused = some s.order[i] := by
  obtain ⟨f, hf, -, hscreen, -⟩ := h.coherent.focused (h.presents.represents.held_ne_nil hsome)
  have hmem : f ∈ s.order := by
    unfold order
    split_ifs at hscreen ⊢
    · exact h.coherent.active.2 f hscreen
    · exact hscreen
  obtain ⟨i, hi, rfl⟩ := List.getElem_of_mem hmem
  exact ⟨i, hi, hf⟩

theorem Regular.idxOf?_place (h : s.Regular σ) {i : Nat} (hi : i < s.order.length)
    (hf : s.focused = some s.order[i]) : s.focused.bind s.order.idxOf? = some i := by
  rw [hf, Option.bind_some, List.idxOf?_eq_some_iff]
  exact ⟨hi, rfl, fun j hj he => Nat.ne_of_lt hj
    (h.presents.represents.nodup_order.getElem_inj_iff.mp he)⟩

theorem Regular.apply (h : s.Regular σ) (op : Operation) : ∃ σ', (s.apply op).Regular σ' := by
  rcases h.presents.apply op with hsame | ⟨told, σ', h', hstep⟩
  · exact ⟨σ, hsame.symm ▸ h⟩
  · exact ⟨σ', h', hstep.orderly h.orderly, hstep.headed h.headed⟩

/-- A move leads to the next place round the ring. -/
theorem Regular.run_navigate (h : s.Regular σ) (d : Direction) {i : Nat}
    (hi : i < s.order.length) (hf : s.focused = some s.order[i]) :
    ∃ (hlt : wrap d i s.order.length < s.order.length) (told : List Notice),
      s.run (navigate d) =
          (.ok (some s.order[wrap d i s.order.length]), s.apply (.navigate d), told) ∧
        s.apply (.navigate d) = s.facing s.order[wrap d i s.order.length] := by
  have hlt := wrap_lt d hi
  refine ⟨hlt, ?_⟩
  generalize hplace : s.order[wrap d i s.order.length] = next
  have hnext : s.neighbour? d = some next := by
    unfold neighbour?
    rw [h.idxOf?_place hi hf]
    exact (List.getElem?_eq_getElem hlt).trans (congrArg some hplace)
  have hrun : ∃ told, s.run (navigate d) = (.ok (some next), s.facing next, told) := by
    have hexec := exec_navigate s d
    rw [hnext] at hexec
    by_cases hsame : s.focused = some next
    · rw [h.facing_focus hsame, run_eq, hexec.trans (if_pos hsame)]
      exact ⟨_, rfl⟩
    · rw [← h.brought_eq next, run_eq, hexec.trans (if_neg hsame)]
      exact ⟨_, rfl⟩
  obtain ⟨told, hrun⟩ := hrun
  have hleft : s.apply (.navigate d) = s.facing next := congrArg (fun r => r.2.1) hrun
  exact ⟨told, by rw [hleft, hrun], hleft⟩

end Ring

section Moves

/-- The layout after some moves. -/
def navigated (s : Layout) (ds : List Direction) : Layout :=
  ds.foldl (fun s d => s.apply (.navigate d)) s

/-- Where the focus is after each of some moves. -/
def stops (s : Layout) (ds : List Direction) : List (Option PaneId) :=
  (List.range ds.length).map fun j => (s.navigated (ds.take (j + 1))).focused

/-- Moves add up. -/
theorem Regular.navigated_eq (h : s.Regular σ) (ds : List Direction) {i : Nat}
    (hi : i < s.order.length) (hf : s.focused = some s.order[i]) :
    ∃ (k : Nat) (hk : k < s.order.length),
      (k : Int) = (i + (ds.map Direction.stride).sum) % s.order.length ∧
        s.navigated ds = s.facing s.order[k] := by
  induction ds generalizing s σ i with
  | nil =>
    have hstay : (i : Int) = i % s.order.length :=
      (Int.emod_eq_of_lt (by omega) (by exact_mod_cast hi)).symm
    exact ⟨i, hi, by simpa using hstay, (h.facing_focus hf).symm⟩
  | cons d ds ih =>
    obtain ⟨hlt, -, -, hnext⟩ := h.run_navigate d hi hf
    obtain ⟨σ', h'⟩ := h.apply (.navigate d)
    rw [hnext] at h'
    obtain ⟨k, hk, hplace, hmoved⟩ := ih h' (i := wrap d i s.order.length)
      (by simpa using hlt) (by simp)
    simp only [order_facing, facing_facing] at hk hplace hmoved
    refine ⟨k, hk, ?_, ?_⟩
    · rw [hplace, wrap_eq d hi, Int.emod_add_emod, List.map_cons, List.sum_cons, Int.add_assoc]
    · rw [navigated, List.foldl_cons, hnext]
      exact hmoved

/-- As many moves on as there are panes lead to each of them and back. -/
theorem Regular.stops_eq (h : s.Regular σ) {ds : List Direction}
    (hlength : ds.length = s.order.length) (hforward : ∀ d ∈ ds, d.backward = false) {i : Nat}
    (hi : i < s.order.length) (hf : s.focused = some s.order[i]) :
    s.stops ds = (s.order.rotate (i + 1)).map some ∧ s.navigated ds = s := by
  have hsum : ∀ j ≤ ds.length, ((ds.take j).map Direction.stride).sum = (j : Int) := by
    intro j hj
    have hones : (ds.take j).map Direction.stride = List.replicate j 1 := by
      rw [List.eq_replicate_iff]
      refine ⟨by simp [hj], List.forall_mem_map.mpr fun d hd => ?_⟩
      exact Direction.stride_of_forward (hforward d (List.mem_of_mem_take hd))
    simp [hones]
  constructor
  · refine List.ext_getElem (by simp [stops, hlength]) fun j hj hj' => ?_
    have hstep : j < ds.length := by simpa [stops] using hj
    obtain ⟨k, hk, hplace, hmoved⟩ := h.navigated_eq (ds.take (j + 1)) hi hf
    rw [hsum _ hstep] at hplace
    obtain rfl : k = (j + (i + 1)) % s.order.length := by
      rw [← Nat.add_assoc, Nat.add_comm j i, Nat.add_assoc]
      exact_mod_cast hplace
    simp [stops, hmoved, List.getElem_rotate]
  · obtain ⟨k, hk, hplace, hmoved⟩ := h.navigated_eq ds hi hf
    have hround := hsum ds.length le_rfl
    rw [List.take_length] at hround
    obtain rfl : k = i := by
      rw [hround, hlength, Int.add_emod_right, Int.emod_eq_of_lt (by omega) (by omega)] at hplace
      exact_mod_cast hplace
    rw [hmoved, h.facing_focus hf]

/-- The panes stand in a ring, and the focus moves round it. -/
structure Circles (s : Layout) : Prop where
  nodup : s.order.Nodup
  /-- To look for the pane with the focus is to find it. So no place is taken modulo zero, and the
  place before it is counted from one that is not zero. -/
  place : ∃ i, s.focused.bind s.order.idxOf? = some i ∧ s.order[i]? = s.focused ∧
    0 < s.order.length ∧ 0 < i + s.order.length
  move : ∀ (d : Direction) (i : Nat) (hi : i < s.order.length), s.focused = some s.order[i] →
    ∃ (k : Nat) (hk : k < s.order.length) (told : List Notice),
      (k : Int) = (i + d.stride) % s.order.length ∧
        s.run (navigate d) = (.ok (some s.order[k]), s.apply (.navigate d), told) ∧
        (s.apply (.navigate d)).focused = some s.order[k] ∧
        (s.apply (.navigate d)).order = s.order
  /-- There and back again. -/
  back : ∀ d d', d.stride + d'.stride = 0 → s.navigated [d, d'] = s
  round : ∀ ds : List Direction, ds.length = s.order.length → (∀ d ∈ ds, d.backward = false) →
    (s.stops ds).Perm (s.order.map some) ∧ s.navigated ds = s
  /-- Of tabs the one with the focus is the active one and the only one in sight. -/
  front : s.tabbed = true → ∀ d, ∃ f, (s.apply (.navigate d)).tabbed = true ∧
    (s.apply (.navigate d)).focused = some f ∧ (s.apply (.navigate d)).activeTab = some f ∧
      (s.apply (.navigate d)).visibleLeaves = [f] ∧
      ∀ l ∈ (s.apply (.navigate d)).held, (l.visible = true ↔ l.id = f)

/-- The focus of a layout with panes goes round in a ring. -/
theorem Regular.circles (h : s.Regular σ) (hsome : s.isEmpty = false) : s.Circles := by
  obtain ⟨i, hi, hf⟩ := h.place hsome
  constructor
  case nodup => exact h.presents.represents.nodup_order
  case place =>
    have hpos : 0 < s.order.length := Nat.zero_lt_of_lt hi
    exact ⟨i, h.idxOf?_place hi hf, (List.getElem?_eq_getElem hi).trans hf.symm, hpos,
      Nat.add_pos_right i hpos⟩
  case move =>
    intro d j hj hj'
    obtain ⟨hlt, told, hrun, hnext⟩ := h.run_navigate d hj hj'
    refine ⟨wrap d j s.order.length, hlt, told, wrap_eq d hj, hrun, ?_, ?_⟩
    · rw [hnext, focused_facing]
    · rw [hnext, order_facing]
  case back =>
    intro d d' hzero
    obtain ⟨k, hk, hplace, hmoved⟩ := h.navigated_eq [d, d'] hi hf
    obtain rfl : k = i := by
      rw [List.map_cons, List.map_singleton, List.sum_cons, List.sum_singleton, hzero, Int.add_zero,
        Int.emod_eq_of_lt (by omega) (by omega)] at hplace
      exact_mod_cast hplace
    rw [hmoved, h.facing_focus hf]
  case round =>
    intro ds hlength hforward
    obtain ⟨hstops, hsame⟩ := h.stops_eq hlength hforward hi hf
    exact ⟨hstops ▸ (List.rotate_perm _ _).map some, hsame⟩
  case front =>
    intro htabs d
    obtain ⟨hlt, -, -, hnext⟩ := h.run_navigate d hi hf
    obtain ⟨σ', h'⟩ := h.apply (.navigate d)
    have hfront := h'.coherent.visible
    rw [hnext] at hfront ⊢
    have hactive : ∀ f, (s.facing f).activeTab = some f := fun f => if_pos htabs
    have hvisible : ∀ f, (s.facing f).visibleLeaves = [f] := fun f => by
      rw [visibleLeaves, if_pos ((s.tabbed_facing f).trans htabs), hactive]
      rfl
    refine ⟨_, (s.tabbed_facing _).trans htabs, focused_facing _ _, hactive _, hvisible _, ?_⟩
    intro l hl
    rw [hfront l hl, hvisible, List.mem_singleton]

/-- Whatever has been asked of a layout that was empty, if it has panes now, the focus goes round
them in a ring. -/
theorem circles_after_operations (splitRatio : Binary64) (nextId : Nat) (ops : List Operation)
    (hsome : (ops.foldl apply { splitRatio, nextId }).isEmpty = false) :
    (ops.foldl apply { splitRatio, nextId }).Circles := by
  obtain ⟨σ, h⟩ := regular_of_operations splitRatio nextId ops
  exact h.circles hsome

/-- Three leaves of a tree, with the focus on the one in the middle. -/
theorem circles_among_three :
    let s := [.createTab ⟨7⟩, .createTab ⟨9⟩, .createTab ⟨8⟩, .split ⟨3⟩ .vertical (some ⟨7⟩),
      .split ⟨3⟩ .horizontal none].foldl apply {}
    s.isEmpty = false ∧ s.order = [⟨3⟩, ⟨7⟩, ⟨5⟩] ∧ s.focused = some ⟨7⟩ ∧ s.Circles := by
  intro s
  have hsome : s.isEmpty = false := by decide
  exact ⟨hsome, by decide, by decide, circles_after_operations .half 1 _ hsome⟩

end Moves

end Layout

end Multiplexer
