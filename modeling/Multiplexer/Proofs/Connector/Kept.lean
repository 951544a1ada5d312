import Multiplexer.Proofs.Connector.Roster

/-!
# Serial sessions in order

What holds of a serial session as long as a task that only closes, notes or
forwards goes on at once. The line is called back by one watch at a time:
whenever the session has a connection, the entry for it is armed, and as long as
a loop runs that was not called off, the session waits for it.
-/

namespace Multiplexer

open TurnM Reopener

def Signal.inward : Signal → Bool
  | .cancelled | .stopped | .reported _ => true
  | .reply _ | .elapsed => false

namespace Reopener

variable {r r' : Reopener} {id : SessionId}

def Armed (r : Reopener) (id : SessionId) : Prop :=
  ∀ k, r.current id = some k → k.tripped = false ∧ k.cancelled = false

def Free (r : Reopener) (id : SessionId) : Prop :=
  ∀ k, r.current id = some k → k.reconnecting = false

/-- Giving up a loop would be told. -/
def Untripped (r : Reopener) (l : ReopenLoop) : Prop :=
  ∀ k, r.standing l.entry = some k → k.tripped = false

theorem Armed.altered {n : Nat} {g : Standing → Standing} (h : r.Armed id) (ha : Altered n g r r')
    (hg : ∀ k, (k.tripped = false → (g k).tripped = false) ∧ (g k).cancelled = k.cancelled) :
    r'.Armed id := by
  intro k hk
  rw [ha.current] at hk
  split at hk
  · obtain ⟨k₀, hk₀, rfl⟩ := Option.map_eq_some_iff.1 hk
    obtain ⟨htripped, hcancelled⟩ := h k₀ hk₀
    exact ⟨(hg k₀).1 htripped, (hg k₀).2.trans hcancelled⟩
  · exact h k hk

theorem Armed.congr (h : r.Armed id) (heq : r'.current id = r.current id) : r'.Armed id := by
  intro k hk
  exact h k (heq ▸ hk)

theorem armed_reset (r : Reopener) (id : SessionId) : (r.reset id).Armed id := by
  intro k hk
  have hregistered : (r.reset id).registered = r.registered := by
    unfold reset onEntry
    split <;> rfl
  obtain ⟨n, hlookup, hn⟩ := Option.bind_eq_some_iff.1 hk
  rw [hregistered] at hlookup
  rw [Ordered.standing_reset, if_pos hlookup] at hn
  obtain ⟨k₀, -, rfl⟩ := Option.map_eq_some_iff.1 hn
  exact ⟨rfl, rfl⟩

theorem armed_unregister (r : Reopener) (id : SessionId) : (r.unregister id).Armed id := by
  intro k hk
  have hlookup := lookup_erase (r.cancel id).registered id id
  rw [if_pos rfl] at hlookup
  have hnone : (r.unregister id).registered.lookup id = none := hlookup
  simp [current, hnone] at hk

/-- An entry that is made anew is armed. -/
theorem armed_register {loops : List ReopenLoop} (h : r.Sound loops) (params : SerialParams) :
    (r.register id params).Armed id := by
  intro k hk
  have hcurrent : (r.register id params).current id = some {} := by
    rw [current, Ordered.lookup_register, Option.bind_some,
      Ordered.standing_fresh h.standing_nextNumber]
  obtain rfl := Option.some.inj (hcurrent.symm.trans hk)
  exact ⟨rfl, rfl⟩

section Loops

variable {loops : List ReopenLoop} {l l' : ReopenLoop}

/-- A loop that was not called off is one on the entry that its session has. -/
theorem Sound.lookup_of_live (h : r.Sound loops) (hl : l ∈ loops) (hlive : r.isCancelled l = false) :
    r.registered.lookup l.session = some l.entry := by
  obtain ⟨k, hk, -, -⟩ := h.running l hl
  simp only [isCancelled_eq, hk, Bool.or_eq_false_iff] at hlive
  by_contra hne
  have horphan := h.orphan l.entry k hk fun j hj => hne (h.owner l hl j hj ▸ hj)
  rw [hlive.2] at horphan
  cases horphan

/-- A loop that was not called off runs on an armed entry. -/
theorem Sound.armed_of_live (h : r.Sound loops) (hl : l ∈ loops) (hlive : r.isCancelled l = false)
    (huntripped : r.Untripped l) : r.Armed l.session := by
  intro k hk
  rw [current, h.lookup_of_live hl hlive, Option.bind_some] at hk
  simp only [isCancelled_eq, hk, Bool.or_eq_false_iff] at hlive
  exact ⟨huntripped k hk, hlive.2⟩

/-- To cancel the reopening of a line calls off the loop on its entry. -/
theorem isCancelled_cancel (hlookup : r.registered.lookup id = some l.entry) :
    (r.cancel id).isCancelled l = true := by
  rw [isCancelled_eq, Ordered.standing_cancel, if_pos hlookup]
  cases r.standing l.entry with
  | none => rfl
  | some k => simp [Standing.cancel]

theorem untripped_drop (harmed : r.Armed id) (hpause : (r.drop id).2.2 = .delayed l) :
    (r.drop id).1.Untripped l := by
  obtain ⟨-, h⟩ | ⟨n, k, hlookup, hk, ⟨-, h⟩ | ⟨-, h⟩⟩ := r.drop_cases id
  · simp [h] at hpause
  · simp [h] at hpause
  · obtain ⟨r', events, l', h, ha, -, hentry, -⟩ | ⟨r', events, h, -⟩ := h
    · rw [h] at hpause ⊢
      obtain rfl : l' = l := by simpa using hpause
      intro k' hk'
      have hk'' : (r.standing n).map Standing.start = some k' := by
        rw [← hk', hentry, ha.standing, if_pos rfl]
      rw [hk] at hk''
      obtain rfl := Option.some.inj hk''
      exact (harmed k (by rw [current, hlookup, Option.bind_some, hk])).1
    · simp [h] at hpause

theorem untripped_refused {r₁ : Reopener} {k : Standing} (hr : Altered l.entry (fun k => k) r r₁)
    (hk : r.standing l.entry = some k) (h : r.Untripped l) {e : ConnectError}
    (hpause : (r₁.refused l e).2.2 = .delayed l') : (r₁.refused l e).1.Untripped l' := by
  have hk₁ : r₁.standing l.entry = some k := by simp [hr.standing, hk]
  obtain ⟨-, heq⟩ | ⟨-, hstepped⟩ := refused_cases l hk₁ e
  · rw [heq] at hpause
    cases hpause
  · generalize r₁.refused l e = step at hstepped hpause
    cases hstepped with
    | waits r' events l₁ ha hsession hentry htoken =>
      obtain rfl : l₁ = l' := by simpa using hpause
      intro k' hk'
      rw [hentry, ha.standing, if_pos rfl, hk₁] at hk'
      obtain rfl := Option.some.inj hk'
      exact h _ hk
    | gaveUp => cases hpause

end Loops

end Reopener

/-- A new connection arms the entry of its session. -/
theorem armed_rearmed {c : Connector} {loops : List ReopenLoop} (h : c.reopener.Sound loops)
    (id : SessionId) (params : SerialParams) : (c.rearmed id params).reopener.Armed id := by
  unfold Connector.rearmed
  dsimp only
  split
  · exact armed_reset _ _
  · exact armed_register h params

/-- What holds of a session while a watch over it is in some stage. -/
def WatchStage.Suits (id : SessionId) (c : Connector) : WatchStage → Prop
  | .closing .. => (c.slot id).state = .connected ∧ (c.slot id).watcher = none ∧
    c.reopener.Armed id ∧ c.reopener.Free id
  | .delayed _ l => (c.slot id).watcher = none ∧ c.reopener.Untripped l ∧
    (c.reopener.isCancelled l = false → (c.slot id).state = .disconnected)
  | .reopening _ l _ _ => c.reopener.Armed id ∧ c.reopener.Untripped l
  | .watching .. | .notingReopening .. => True

/-- What holds of a session on account of a task that is for it. -/
def Task.Suits (id : SessionId) (c : Connector) : Task → Prop
  | .attempt a stage => a.session.id = id →
    stage.routed = false ∧ ∃ params, a.session.target = .serial params
  | .watch session stage => session.id = id → stage.Suits id c
  | .disconnecting i _ => i = id → (c.slot id).state ≠ .connecting ∧ (c.slot id).watcher = none
  | _ => True

/-- A serial session is kept in order, given all tasks. -/
structure Kept (id : SessionId) (c : Connector) (ts : List Task) : Prop where
  flying : ts.countP (fun t => t.mode id = .flying) =
    if (c.slot id).state = .connecting then 1 else 0
  watched : ∀ w, (c.slot id).watcher = some w → (c.slot id).state = .connected
  paired : (c.slot id).watcher = none → (c.slot id).connection = none
  armed : ∀ w, (c.slot id).watcher = some w → c.reopener.Armed id
  suits : ∀ t ∈ ts, t.Suits id c

section Suits

variable {id : SessionId} {c c' : Connector} {t : Task}

theorem Task.Suits.of_serves (h : t.serves ≠ some id) : t.Suits id c := by
  cases t with
  | attempt | watch | disconnecting => exact fun hid => absurd (congrArg some hid) h
  | _ => trivial

theorem Task.Suits.of_fresh (h : t.Fresh) : t.Suits id c := by
  cases t with
  | watch session stage =>
    cases stage with
    | watching => exact fun _ => trivial
    | _ => cases h
  | closing => trivial
  | _ => cases h

theorem Task.mode_of_serves (h : t.serves ≠ some id) : t.mode id = .idle := by
  cases t with
  | attempt | watch | disconnecting | destroying => exact if_neg fun hid => h (congrArg some hid)
  | _ => rfl

/-- Nothing changes that a task is judged by. -/
theorem Task.Suits.congr (h : t.Suits id c) (hslot : c'.slot id = c.slot id)
    (hcurrent : c'.reopener.current id = c.reopener.current id)
    (hstanding : ∀ l ∈ t.loop?, c'.reopener.standing l.entry = c.reopener.standing l.entry) :
    t.Suits id c' := by
  cases t with
  | attempt | closing | destroying | «over» => exact h
  | disconnecting => exact fun hid => hslot ▸ h hid
  | watch session stage =>
    intro hid
    have hstage := h hid
    cases stage with
    | watching | notingReopening => trivial
    | closing =>
      obtain ⟨hstate, hwatcher, harmed, hfree⟩ := hstage
      exact ⟨hslot ▸ hstate, hslot ▸ hwatcher, harmed.congr hcurrent,
        fun k hk => hfree k (hcurrent ▸ hk)⟩
    | delayed d l =>
      have hl := hstanding l rfl
      obtain ⟨hwatcher, huntripped, hstate⟩ := hstage
      refine ⟨hslot ▸ hwatcher, fun k hk => huntripped k (hl ▸ hk), fun hlive => hslot ▸ hstate ?_⟩
      rw [isCancelled_eq, hl, ← isCancelled_eq] at hlive
      exact hlive
    | reopening d l =>
      have hl := hstanding l rfl
      obtain ⟨harmed, huntripped⟩ := hstage
      exact ⟨harmed.congr hcurrent, fun k hk => huntripped k (hl ▸ hk)⟩

end Suits

namespace Kept

variable {id : SessionId} {c c' : Connector} {t t' : Task} {ts new : List Task}

theorem perm {ts' : List Task} (h : Kept id c ts) (hperm : ts.Perm ts') : Kept id c ts' where
  flying := hperm.countP_eq _ ▸ h.flying
  watched := h.watched
  paired := h.paired
  armed := h.armed
  suits u hu := h.suits u (hperm.mem_iff.2 hu)

theorem countP_fresh {p : Task → Bool} (hp : ∀ u : Task, u.Fresh → p u = false)
    (hnew : ∀ u ∈ new, u.Fresh) : (t' :: (new ++ ts)).countP p = (t' :: ts).countP p := by
  have hzero : new.countP p = 0 := List.countP_eq_zero.2 fun u hu => by simp [hp u (hnew u hu)]
  simp [List.countP_cons, List.countP_append, hzero]

theorem flying_fresh (hnew : ∀ u ∈ new, u.Fresh) :
    (t' :: (new ++ ts)).countP (fun t => t.mode id = .flying) =
      (t' :: ts).countP fun t => t.mode id = .flying :=
  countP_fresh (fun u hu => by simp [hu.mode id]) hnew

/-- The tasks that a turn starts suit the session. -/
theorem forall_suits (hnew : ∀ u ∈ new, u.Fresh) (ht : t'.Suits id c')
    (hts : ∀ u ∈ ts, u.Suits id c') : ∀ u ∈ t' :: (new ++ ts), u.Suits id c' := by
  intro u hu
  obtain rfl | hu := List.mem_cons.1 hu
  · exact ht
  · obtain hu | hu := List.mem_append.1 hu
    · exact .of_fresh (hnew u hu)
    · exact hts u hu

/-- Nothing changes for the session. -/
theorem steady (h : Kept id c (t :: ts)) (hnew : ∀ u ∈ new, u.Fresh)
    (hmode : t'.mode id = t.mode id) (hslot : c'.slot id = c.slot id)
    (hcurrent : c'.reopener.current id = c.reopener.current id) (ht : t'.Suits id c')
    (hstanding : ∀ u ∈ ts, u.serves = some id → ∀ l ∈ u.loop?,
      c'.reopener.standing l.entry = c.reopener.standing l.entry) :
    Kept id c' (t' :: (new ++ ts)) where
  flying := by
    have hflying := h.flying
    rw [flying_fresh hnew, hslot, ← hflying]
    simp [List.countP_cons, hmode]
  watched := hslot ▸ h.watched
  paired := hslot ▸ h.paired
  armed w hw := (h.armed w (hslot ▸ hw)).congr hcurrent
  suits := by
    refine forall_suits hnew ht fun u hu => ?_
    by_cases hserves : u.serves = some id
    · exact (h.suits u (List.mem_cons_of_mem _ hu)).congr hslot hcurrent (hstanding u hu hserves)
    · exact .of_serves hserves

/-- A turn of a task that is not for the session. -/
theorem foreign {s : Signal} (h : Kept id c (t :: ts)) (ho : Exchange.Orderly c (t :: ts))
    (hmove : Move c t s t' c' new) (ht : t.serves ≠ some id) : Kept id c' (t' :: (new ++ ts)) := by
  obtain ⟨i, hi, hne⟩ : ∃ i, (∀ j, t.serves = some j → j = i) ∧ id ≠ i := by
    cases hserves : t.serves with
    | none => exact ⟨⟨id.value + 1⟩, by simp, fun heq => by cases id; simp at heq⟩
    | some i => exact ⟨i, by simp [eq_comm], fun heq => ht (by rw [hserves, heq])⟩
  obtain ⟨hstir, hown⟩ := ho.stir hmove hi
  have ht' : t'.serves ≠ some id := by
    obtain hserves | hserves := hmove.serves <;> rw [hserves]
    · exact ht
    · simp
  refine h.steady hmove.fresh ?_ (hmove.slot ht) (hstir.current ho.sound_cons hown hne)
    (.of_serves ht') fun u hu hserves l hl => ?_
  · rw [Task.mode_of_serves ht, Task.mode_of_serves ht']
  · have hsession : l.session = id :=
      Option.some.inj ((ho.owned u (List.mem_cons_of_mem _ hu) l hl).symm.trans hserves)
    exact hstir.standing_of_ne ho.sound_cons (List.mem_filterMap.2 ⟨u, hu, hl⟩)
      (hsession.trans_ne hne)

/-- An attempt is in flight: the session is connecting, and there is no other attempt. -/
theorem alone (h : Kept id c (t :: ts)) (ht : t.mode id = .flying) :
    (c.slot id).state = .connecting ∧ ∀ u ∈ ts, u.mode id ≠ .flying := by
  have hflying := h.flying
  rw [List.countP_cons_of_pos (by simpa using ht)] at hflying
  have hstate : (c.slot id).state = .connecting := by
    by_contra hne
    rw [if_neg hne] at hflying
    omega
  rw [if_pos hstate] at hflying
  have hzero : ts.countP (fun t => t.mode id = .flying) = 0 := by omega
  exact ⟨hstate, fun u hu => by simpa using List.countP_eq_zero.1 hzero u hu⟩

/-- The session is not connecting, and there is no attempt in flight. -/
theorem grounded (h : Kept id c ts) (hstate : (c.slot id).state ≠ .connecting) :
    ∀ u ∈ ts, u.mode id ≠ .flying := by
  have hflying := h.flying
  rw [if_neg hstate] at hflying
  exact fun u hu => by simpa using List.countP_eq_zero.1 hflying u hu

theorem countP_flying {ts : List Task} (h : ∀ u ∈ ts, u.mode id ≠ .flying) :
    ts.countP (fun t => t.mode id = .flying) = 0 :=
  List.countP_eq_zero.2 fun u hu => by simpa using h u hu

/-- The watches that wait for a delay, and what the session is like for them. -/
theorem delayed (h : Kept id c ts) {session : Session} {d : Drop} {l : ReopenLoop}
    (hmem : Task.watch session (.delayed d l) ∈ ts) (hid : session.id = id) :
    (c.slot id).watcher = none ∧ c.reopener.Untripped l ∧
      (c.reopener.isCancelled l = false → (c.slot id).state = .disconnected) :=
  h.suits _ hmem hid

/-- A turn of a task that is for the session. -/
theorem turn {own : Option ReopenLoop} (h : Kept id c (t :: ts))
    (ho : Exchange.Orderly c (t :: ts)) (hstir : c.reopener.Stir id t.loop? c'.reopener own)
    (hcalm : ∀ u ∈ ts, u.hurried = false) (hnew : ∀ u ∈ new, u.Fresh)
    (hflying : (t' :: ts).countP (fun t => t.mode id = .flying) =
      if (c'.slot id).state = .connecting then 1 else 0)
    (hwatched : ∀ w, (c'.slot id).watcher = some w →
      (c'.slot id).state = .connected ∧ c'.reopener.Armed id)
    (hpaired : (c'.slot id).watcher = none → (c'.slot id).connection = none)
    (ht' : t'.Suits id c')
    (hdelayed : ∀ session d l, Task.watch session (.delayed d l) ∈ ts → session.id = id →
      (c'.slot id).watcher = none ∧ (c'.reopener.isCancelled l = false →
        (c.slot id).state = .disconnected → (c'.slot id).state = .disconnected))
    (hreopening : ∀ session d l params channel,
      Task.watch session (.reopening d l params channel) ∈ ts → session.id = id →
        c'.reopener.Armed id) :
    Kept id c' (t' :: (new ++ ts)) where
  flying := (flying_fresh hnew).trans hflying
  watched w hw := (hwatched w hw).1
  paired := hpaired
  armed w hw := (hwatched w hw).2
  suits := by
    refine forall_suits hnew ht' fun u hu => ?_
    have hsuits := h.suits u (List.mem_cons_of_mem _ hu)
    have hleads : ∀ l ∈ u.loop?, c.reopener.Untripped l → c'.reopener.Untripped l ∧
        (c'.reopener.isCancelled l = false → c.reopener.isCancelled l = false) := by
      intro l hl huntripped
      obtain ⟨k, k', hk, hk', htoken, hleads, -⟩ :=
        hstir.others ho.sound_cons (List.mem_filterMap.2 ⟨u, hu, hl⟩)
      refine ⟨fun k₁ hk₁ => ?_, fun hlive => ?_⟩
      · obtain rfl := Option.some.inj (hk'.symm.trans hk₁)
        exact hleads.tripped (huntripped k hk)
      · by_contra hcancelled
        rw [isCancelled_of_leads hk hk' htoken hleads (by simpa using hcancelled)] at hlive
        cases hlive
    cases u with
    | attempt | closing | destroying | «over» => exact hsuits
    | disconnecting => cases hcalm _ hu
    | watch session stage =>
      intro hid
      cases stage with
      | watching | notingReopening => trivial
      | closing => cases hcalm _ hu
      | delayed d l =>
        obtain ⟨-, huntripped, hstate⟩ := hsuits hid
        obtain ⟨huntripped', hlive⟩ := hleads l rfl huntripped
        obtain ⟨hwatcher', hstate'⟩ := hdelayed session d l hu hid
        exact ⟨hwatcher', huntripped', fun hl => hstate' hl (hstate (hlive hl))⟩
      | reopening d l params channel =>
        exact ⟨hreopening session d l params channel hu hid, (hleads l rfl (hsuits hid).2).1⟩

/-- Only the task itself goes on. -/
theorem goesOn (h : Kept id c (t :: ts)) (hmode : t'.mode id = t.mode id)
    (hslot : c'.slot = c.slot) (hreopener : c'.reopener = c.reopener) (ht : t'.Suits id c') :
    Kept id c' (t' :: ([] ++ ts)) :=
  h.steady (by simp) hmode (by rw [hslot]) (by rw [hreopener]) ht
    fun _ _ _ _ _ => by rw [hreopener]

/-- Only the state of a session changes that has no watcher and no attempt in flight any more. -/
theorem settles {own : Option ReopenLoop} {state : SessionState} (h : Kept id c (t :: ts))
    (ho : Exchange.Orderly c (t :: ts)) (hstir : c.reopener.Stir id t.loop? c'.reopener own)
    (hcalm : ∀ u ∈ ts, u.hurried = false) (hslot : c'.slot id = { c.slot id with state })
    (hwatcher : (c.slot id).watcher = none) (hothers : ∀ u ∈ ts, u.mode id ≠ .flying)
    (hmode : t'.mode id ≠ .flying) (hstate : state ≠ .connecting)
    (hdisconnected : (c.slot id).state = .disconnected → state = .disconnected)
    (ht' : t'.Suits id c') : Kept id c' (t' :: ([] ++ ts)) := by
  refine h.turn ho hstir hcalm (by simp) ?_ ?_ ?_ ht' (fun _ _ _ _ _ => ?_) ?_
  · rw [hslot, List.countP_cons_of_neg (by simpa using hmode), countP_flying hothers, if_neg hstate]
  · simp [hslot, hwatcher]
  · rw [hslot]
    exact h.paired
  · rw [hslot]
    exact ⟨hwatcher, fun _ => hdisconnected⟩
  · exact fun _ _ _ _ _ hu hsession => absurd (if_pos hsession) (hothers _ hu)

/-- The slot of the session stays as it is, and so does what its entry is armed for. -/
theorem stays {own : Option ReopenLoop} (h : Kept id c (t :: ts))
    (ho : Exchange.Orderly c (t :: ts)) (hstir : c.reopener.Stir id t.loop? c'.reopener own)
    (hcalm : ∀ u ∈ ts, u.hurried = false) (hslot : c'.slot id = c.slot id)
    (hmode : t'.mode id = t.mode id)
    (harmed : (c.slot id).watcher ≠ none ∨ (∃ u ∈ ts, u.mode id = .flying) →
      c.reopener.Armed id → c'.reopener.Armed id)
    (ht' : t'.Suits id c') : Kept id c' (t' :: ([] ++ ts)) := by
  refine h.turn ho hstir hcalm (by simp) ?_ (fun w hw => ?_) ?_ ht' (fun _ d l hmem hid => ?_) ?_
  · have hflying := h.flying
    rw [hslot, ← hflying]
    simp [List.countP_cons, hmode]
  · rw [hslot] at hw ⊢
    exact ⟨h.watched w hw, harmed (.inl (by simp [hw])) (h.armed w hw)⟩
  · rw [hslot]
    exact h.paired
  · rw [hslot]
    exact ⟨(h.delayed (List.mem_cons_of_mem _ hmem) hid).1, fun _ h => h⟩
  · intro session d l params channel hu hid
    exact harmed (.inr ⟨_, hu, if_pos hid⟩) (h.suits _ (List.mem_cons_of_mem _ hu) hid).1

/-- A session has no watcher while an attempt for it is in flight. -/
theorem watcher_eq_none (h : Kept id c ts) (hstate : (c.slot id).state = .connecting) :
    (c.slot id).watcher = none := by
  cases hw : (c.slot id).watcher with
  | none => rfl
  | some w => cases hstate.symm.trans (h.watched w hw)

/-- The turn of an attempt to connect the session. -/
theorem attempt {a : Attempt} {stage : AttemptStage} {s : Signal}
    (h : Kept id c (.attempt a stage :: ts)) (ho : Exchange.Orderly c (.attempt a stage :: ts))
    (hid : a.session.id = id) (hmove : Move c (.attempt a stage) s t' c' new)
    (hcalm : ∀ u ∈ ts, u.hurried = false)
    (hlive : stage.hurried = false → s.inward = false → ∀ session d l,
      Task.watch session (.delayed d l) ∈ ts → c.reopener.isCancelled l = false) :
    Kept id c' (t' :: (new ++ ts)) := by
  obtain ⟨hrouted, params, hserial⟩ := h.suits _ List.mem_cons_self hid
  have hssh : ¬∃ target, a.session.target = .ssh target := by
    rintro ⟨target, htarget⟩
    cases hserial.symm.trans htarget
  have hstir := (ho.stir hmove (i := id) fun j hj => (Option.some.inj hj).symm.trans hid).1
  have hmode : ∀ stage', (Task.attempt a stage').mode id = stage'.mode := fun stage' => if_pos hid
  have hsuits : ∀ stage', stage'.routed = false → (Task.attempt a stage').Suits id c' :=
    fun stage' hstage' _ => ⟨hstage', params, hserial⟩
  have hfresh := hmove.fresh
  cases hmove with
  | stay => exact h.goesOn rfl rfl rfl (h.suits _ List.mem_cons_self)
  | release => exact h.goesOn (by rw [hmode, hmode]; rfl) rfl rfl (hsuits _ rfl)
  | note => exact h.goesOn (by rw [hmode, hmode]; rfl) rfl rfl (hsuits _ rfl)
  | complete | giveUp => exact h.goesOn (by rw [hmode]; rfl) rfl rfl trivial
  | connect => cases hrouted
  | goOn _ _ stage' _ hchain => exact (hchain.elim hssh (by simp [hrouted])).elim
  | dial a todo r params' htarget =>
    obtain ⟨hstate, hothers⟩ := h.alone (hmode _)
    refine h.turn ho hstir hcalm (by simp) ?_ (fun w hw => ?_) h.paired (hsuits _ rfl) ?_ ?_
    · have hflying := h.flying
      rw [List.countP_cons_of_pos (by rw [hmode]; rfl)] at hflying ⊢
      exact hflying
    · cases hstate.symm.trans (h.watched w hw)
    · exact fun _ d l hmem hsession =>
        ⟨(h.delayed (List.mem_cons_of_mem _ hmem) hsession).1, fun _ h => h⟩
    · exact fun _ _ _ _ _ hu hsession => absurd (if_pos hsession) (hothers _ hu)
  | fail a stage s e hstage =>
    obtain ⟨hstate, hothers⟩ := h.alone ((hmode _).trans hstage)
    have hslot : (c.setState a.session.id (.failed e.message)).slot id =
        { c.slot id with state := .failed e.message } := by simp [hid]
    refine h.settles ho hstir hcalm hslot (h.watcher_eq_none hstate) hothers ?_ nofun ?_ (hsuits _ rfl)
    · rw [hmode]
      exact nofun
    · exact fun hd => by cases hstate.symm.trans hd
  | «open» a params' terminal =>
    obtain ⟨hstate, hothers⟩ := h.alone (hmode _)
    have hslot := Connector.slot_joined (c.rearmed a.session.id params') a.session (.bare terminal)
      a.channel id
    rw [if_pos hid.symm] at hslot
    refine h.turn ho hstir hcalm hfresh ?_ (fun w hw => ?_) ?_ (hsuits _ rfl) ?_ ?_
    · rw [hslot, List.countP_cons_of_neg (by rw [hmode]; simp [AttemptStage.mode]),
        countP_flying hothers]
      rfl
    · rw [hslot, Connector.reopener_joined]
      exact ⟨rfl, hid ▸ armed_rearmed ho.sound _ _⟩
    · simp [hslot]
    · intro session d l hmem hsession
      have hlive' := hlive rfl rfl session d l hmem
      cases hstate.symm.trans ((h.delayed (List.mem_cons_of_mem _ hmem) hsession).2.2 hlive')
    · exact fun _ _ _ _ _ hu hsession => absurd (if_pos hsession) (hothers _ hu)

/-- A session with a watcher has no loop. -/
theorem free (h : Kept id c (t :: ts)) (ho : Exchange.Orderly c (t :: ts)) (ht : t.loop? = none)
    (hcalm : ∀ u ∈ ts, u.hurried = false) {w : Watcher} (hw : (c.slot id).watcher = some w) :
    c.reopener.Free id := by
  intro k hk
  by_contra hreconnecting
  obtain ⟨n, hlookup, hn⟩ := Option.bind_eq_some_iff.1 hk
  obtain ⟨l, hl, rfl⟩ := ho.sound.busy n k hn (by simpa using hreconnecting)
  obtain ⟨u, hu, hul⟩ := List.mem_filterMap.1 hl
  have hserves : u.serves = some id :=
    (ho.owned u hu l hul).trans (congrArg some (ho.sound.owner l hl id hlookup))
  have hstate := h.watched w hw
  have hothers := h.grounded (by rw [hstate]; exact nofun)
  obtain rfl | hu' := List.mem_cons.1 hu
  · cases ht.symm.trans hul
  · cases u with
    | watch session stage =>
      have hsession : session.id = id := Option.some.inj hserves
      cases stage with
      | delayed d l => cases hw.symm.trans (h.delayed hu hsession).1
      | reopening => exact absurd (if_pos hsession) (hothers _ hu)
      | notingReopening => cases hcalm _ hu'
      | _ => cases hul
    | _ => cases hul

section Watch

variable {session : Session} {d : Drop} {l : ReopenLoop} {own : Option ReopenLoop}

/-- The first turn of a watch with a drop of the connection that the session holds. -/
theorem drop {channel : ChannelId} {w : Watcher} {todo : List Call}
    (h : Kept session.id c (.watch session (.watching w.generation channel) :: ts))
    (ho : Exchange.Orderly c (.watch session (.watching w.generation channel) :: ts))
    (hw : (c.slot session.id).watcher = some w) (hcalm : ∀ u ∈ ts, u.hurried = false) :
    Kept session.id ((c.unread channel).severed session.id)
      (.watch session (.closing d todo) :: ([] ++ ts)) := by
  have hstate := h.watched w hw
  have hothers : ∀ u ∈ ts, u.mode session.id ≠ .flying :=
    fun u hu => h.grounded (by simp [hstate]) u (List.mem_cons_of_mem _ hu)
  have hslot := ((c.unread channel).slot_severed session.id session.id).trans (if_pos rfl)
  have hstir : c.reopener.Stir session.id none ((c.unread channel).severed session.id).reopener
      none := .orders .refl rfl
  refine h.turn ho hstir hcalm (by simp) ?_ (by simp) (by simp) (fun _ => ?_) ?_ ?_
  · have hstate' : (((c.unread channel).severed session.id).slot session.id).state = .connected := by
      rw [hslot]
      exact hstate
    rw [hstate', List.countP_cons_of_neg (by simp [WatchStage.mode]), countP_flying hothers]
    rfl
  · rw [WatchStage.Suits, hslot]
    exact ⟨hstate, rfl, h.armed w hw, h.free ho rfl hcalm hw⟩
  · intro _ d l hmem hsession
    cases hw.symm.trans (h.delayed (List.mem_cons_of_mem _ hmem) hsession).1
  · exact fun _ _ _ _ _ hu hsession => absurd (if_pos hsession) (hothers _ hu)

/-- Of two loops for the session one was called off. -/
theorem no_other_loop {u : Task} {session' : Session} {d' : Drop} {l' : ReopenLoop}
    (ho : Exchange.Orderly c (u :: ts)) (hl : u.loop? = some l) (hsession : l.session = session.id)
    (hlive : c.reopener.isCancelled l = false)
    (hmem : Task.watch session' (.delayed d' l') ∈ ts) (hid : session'.id = session.id)
    (hlive' : c.reopener.isCancelled l' = false) : False := by
  have hloops : l ∈ (u :: ts).filterMap Task.loop? := by simp [hl]
  have hloops' : l' ∈ ts.filterMap Task.loop? := List.mem_filterMap.2 ⟨_, hmem, rfl⟩
  have hsession' : l'.session = session.id :=
    (Option.some.inj (ho.owned _ (List.mem_cons_of_mem _ hmem) l' rfl)).symm.trans hid
  have hsound := ho.sound_cons
  rw [hl] at hsound
  have hlookup := ho.sound.lookup_of_live hloops hlive
  have hlookup' := hsound.lookup_of_live (List.mem_append_right _ hloops') hlive'
  rw [hsession] at hlookup
  rw [hsession', hlookup] at hlookup'
  have hapart : l.entry ∉ (ts.filterMap Task.loop?).map ReopenLoop.entry :=
    (List.nodup_cons.1 hsound.apart).1
  exact hapart (List.mem_map.2 ⟨l', hloops', (Option.some.inj hlookup').symm⟩)

/-- A watch claims the session for an attempt to open the line again. -/
theorem claim {params : SerialParams} {channel : ChannelId}
    (h : Kept session.id c (.watch session (.delayed d l) :: ts))
    (ho : Exchange.Orderly c (.watch session (.delayed d l) :: ts))
    (hstir : c.reopener.Stir session.id (some l) c'.reopener own)
    (hslot : c'.slot session.id = { c.slot session.id with state := .connecting })
    (hreopener : c'.reopener = (c.trying l).reopener)
    (hstate : (c.slot session.id).state = .disconnected) (hcalm : ∀ u ∈ ts, u.hurried = false)
    (hlive : ∀ session' d' l', Task.watch session' (.delayed d' l') ∈
      .watch session (.delayed d l) :: ts → c.reopener.isCancelled l' = false) :
    Kept session.id c' (.watch session (.reopening d l params channel) :: ([] ++ ts)) := by
  obtain ⟨hwatcher, huntripped, -⟩ := h.delayed List.mem_cons_self rfl
  have hothers : ∀ u ∈ ts, u.mode session.id ≠ .flying :=
    fun u hu => h.grounded (by simp [hstate]) u (List.mem_cons_of_mem _ hu)
  have hl := hlive session d l List.mem_cons_self
  have hsession : l.session = session.id :=
    (Option.some.inj (ho.owned _ List.mem_cons_self l rfl)).symm
  have ha : Altered l.entry (fun k => k) c.reopener c'.reopener := by
    rw [hreopener]
    exact attempt_altered l
  refine h.turn ho hstir hcalm (by simp) ?_ ?_ ?_ (fun _ => ⟨?_, fun k hk => ?_⟩) ?_ ?_
  · rw [hslot, List.countP_cons_of_pos (by simp [WatchStage.mode]), countP_flying hothers]
    rfl
  · simp [hslot, hwatcher]
  · rw [hslot]
    exact h.paired
  · have harmed := ho.sound.armed_of_live (by simp [Task.loop?]) hl huntripped
    exact (hsession ▸ harmed).altered ha fun k => ⟨fun h => h, rfl⟩
  · refine huntripped k ?_
    have hk' := (ha.standing l.entry).symm.trans hk
    simpa using hk'
  · intro session' d' l' hmem hid
    exact (no_other_loop ho rfl hsession hl hmem hid
      (hlive session' d' l' (List.mem_cons_of_mem _ hmem))).elim
  · exact fun _ _ _ _ _ hu hid => absurd (if_pos hid) (hothers _ hu)

/-- A line is open again, and the session gets it. -/
theorem reopen {params : SerialParams} {channel : ChannelId} {terminal : Terminal}
    (h : Kept session.id c (.watch session (.reopening d l params channel) :: ts))
    (ho : Exchange.Orderly c (.watch session (.reopening d l params channel) :: ts))
    (hstir : c.reopener.Stir session.id (some l)
      (c.joined session (.bare terminal) channel).reopener own)
    (hnew : ∀ u ∈ new, u.Fresh) (hcalm : ∀ u ∈ ts, u.hurried = false)
    (hlive : ∀ session' d' l', Task.watch session' (.delayed d' l') ∈ ts →
      c.reopener.isCancelled l' = false) :
    Kept session.id (c.joined session (.bare terminal) channel)
      (.watch session (.notingReopening d l) :: (new ++ ts)) := by
  obtain ⟨hstate, hothers⟩ := h.alone (if_pos rfl)
  have hslot := (c.slot_joined session (.bare terminal) channel session.id).trans (if_pos rfl)
  refine h.turn ho hstir hcalm hnew ?_ (fun w hw => ?_) ?_ (fun _ => trivial) ?_ ?_
  · rw [hslot, List.countP_cons_of_neg (by simp [WatchStage.mode]), countP_flying hothers]
    rfl
  · rw [hslot, Connector.reopener_joined]
    exact ⟨rfl, (h.suits _ List.mem_cons_self rfl).1⟩
  · simp [hslot]
  · intro session' d' l' hmem hid
    have hl := hlive session' d' l' hmem
    cases hstate.symm.trans ((h.delayed (List.mem_cons_of_mem _ hmem) hid).2.2 hl)
  · exact fun _ _ _ _ _ hu hid => absurd (if_pos hid) (hothers _ hu)

/-- A watch comes to a delay or to an end. -/
theorem pause {stage : WatchStage} {s : Signal} {c₁ : Connector} {step : Reopener.Step}
    (h : Kept session.id c (.watch session stage :: ts))
    (ho : Exchange.Orderly c (.watch session stage :: ts))
    (hstir : c.reopener.Stir session.id (Task.watch session stage).loop?
      (c₁.paused session d step).reopener own)
    (hpauses : Pauses session c stage s d c₁ step) (hcalm : ∀ u ∈ ts, u.hurried = false)
    (hlive : stage.hurried = false → s.inward = false → ∀ session' d l,
      Task.watch session' (.delayed d l) ∈ .watch session stage :: ts →
        c.reopener.isCancelled l = false) :
    Kept session.id (c₁.paused session d step) (step.2.2.task session d :: ([] ++ ts)) := by
  have hmode : ∀ stage', (Task.watch session stage').mode session.id = stage'.mode :=
    fun stage' => if_pos rfl
  have hsuits := h.suits _ List.mem_cons_self rfl
  have hpaused : (c₁.paused session d step).reopener = step.1 := Connector.reopener_paused ..
  have hslot : (c₁.paused session d step).slot = c₁.slot := Connector.slot_paused ..
  have htask : ∀ (hdelayed : ∀ l, step.2.2 = .delayed l →
      (Task.watch session (.delayed d l)).Suits session.id (c₁.paused session d step)),
      (step.2.2.task session d).Suits session.id (c₁.paused session d step) := by
    intro hdelayed
    cases hpause : step.2.2 with
    | delayed l => exact hdelayed l hpause
    | ended => trivial
  have hmode' : (step.2.2.task session d).mode session.id = .idle := by
    cases step.2.2 with
    | delayed => exact hmode _
    | ended => rfl
  cases hpauses with
  | dropped d todo r params hserial htodo =>
    obtain ⟨hstate, hwatcher, harmed, -⟩ := hsuits
    have hothers := h.grounded (by simp [hstate])
    have hslot' := (congrFun hslot session.id).trans
      ((c.slot_setState session.id session.id .disconnected).trans (if_pos rfl))
    refine h.settles ho hstir hcalm hslot' hwatcher
      (fun u hu => hothers u (List.mem_cons_of_mem _ hu)) (by simp [hmode']) (by simp)
      (fun _ => rfl) (htask fun l hl _ => ?_)
    rw [WatchStage.Suits, hslot', hpaused]
    exact ⟨hwatcher, untripped_drop harmed hl, fun _ => rfl⟩
  | calledOff d l =>
    refine h.stays ho hstir hcalm (congrFun hslot _) (hmode'.trans (hmode (.delayed d l)).symm)
      (fun _ ha => ?_) (htask fun l hl => by cases hl)
    rw [hpaused]
    exact ha.altered (calledOff_altered l) fun k => ⟨fun h => h, rfl⟩
  | forgotten d l hregistered =>
    obtain ⟨hwatcher, huntripped, hstate⟩ := hsuits
    have hstate' := hstate (hlive rfl rfl session d l List.mem_cons_self)
    have hothers := h.grounded (by simp [hstate'])
    obtain ⟨k, hk, -⟩ := ho.sound_cons.running l (by simp [Task.loop?])
    refine h.stays ho hstir hcalm (congrFun hslot _) (hmode'.trans (hmode (.delayed d l)).symm) ?_
      (htask fun l' hl' _ => ?_)
    · rintro (hw | ⟨u, hu, hflying⟩)
      · exact absurd hwatcher hw
      · exact absurd hflying (hothers u (List.mem_cons_of_mem _ hu))
    · rw [WatchStage.Suits, hslot, hpaused]
      exact ⟨hwatcher, untripped_refused (attempt_altered l) hk huntripped hl', fun _ => hstate'⟩
  | overtaken d l hregistered hstate =>
    exact absurd (hsuits.2.2 (hlive rfl rfl session d l List.mem_cons_self)) hstate
  | refused d l params channel e =>
    obtain ⟨hstate, hothers⟩ := h.alone (hmode _)
    have hslot' := (congrFun hslot session.id).trans
      ((c.slot_setState session.id session.id .disconnected).trans (if_pos rfl))
    obtain ⟨k, hk, -⟩ := ho.sound_cons.running l (by simp [Task.loop?])
    have hwatcher := h.watcher_eq_none hstate
    refine h.settles ho hstir hcalm hslot' hwatcher hothers (by simp [hmode']) (by simp)
      (fun _ => rfl) (htask fun l' hl' _ => ?_)
    rw [WatchStage.Suits, hslot', hpaused]
    exact ⟨hwatcher, untripped_refused .refl hk hsuits.2 hl', fun _ => rfl⟩
  | succeeded d l r =>
    refine h.stays ho hstir hcalm (congrFun hslot _)
      (hmode'.trans (hmode (.notingReopening d l)).symm) (fun _ ha => ?_)
      (htask fun l hl => by cases hl)
    rw [hpaused]
    exact ha.altered (succeeded_altered l) fun k => ⟨fun _ => rfl, rfl⟩

/-- The turn of a watch over the session. -/
theorem watch {stage : WatchStage} {s : Signal}
    (h : Kept session.id c (.watch session stage :: ts))
    (ho : Exchange.Orderly c (.watch session stage :: ts))
    (hmove : Move c (.watch session stage) s t' c' new) (hcalm : ∀ u ∈ ts, u.hurried = false)
    (hlive : stage.hurried = false → s.inward = false → ∀ session' d l,
      Task.watch session' (.delayed d l) ∈ .watch session stage :: ts →
        c.reopener.isCancelled l = false) :
    Kept session.id c' (t' :: (new ++ ts)) := by
  have hstir := (ho.stir hmove (i := session.id) fun j hj => (Option.some.inj hj).symm).1
  have hmode : ∀ stage', (Task.watch session stage').mode session.id = stage'.mode :=
    fun stage' => if_pos rfl
  have hsuits := h.suits _ List.mem_cons_self rfl
  have hfresh := hmove.fresh
  cases hmove with
  | stay => exact h.goesOn rfl rfl rfl (h.suits _ List.mem_cons_self)
  | stop | ignore => exact h.goesOn (by rw [hmode]; rfl) rfl rfl trivial
  | close => exact h.goesOn (by rw [hmode, hmode]; rfl) rfl rfl fun _ => hsuits
  | lose session d l hparams =>
    obtain ⟨k, hk, -⟩ := ho.sound_cons.running l (by simp [Task.loop?])
    exact absurd hparams (attempt_params l hk)
  | drop session channel d w hw => exact h.drop ho hw hcalm
  | report session d todo r target htarget htodo =>
    obtain ⟨hstate, hwatcher, -, -⟩ := hsuits
    have hothers := h.grounded (by simp [hstate])
    have hslot := (c.slot_setState session.id session.id .disconnected).trans (if_pos rfl)
    exact h.settles ho hstir hcalm hslot hwatcher (fun u hu => hothers u (List.mem_cons_of_mem _ hu))
      (by simp) (by simp) (fun _ => rfl) trivial
  | claim session d l params hparams hregistered hstate =>
    have hslot := ((c.trying l).slot_setState session.id session.id .connecting).trans (if_pos rfl)
    exact h.claim ho hstir hslot rfl hstate hcalm (hlive rfl rfl)
  | reopen session d l params channel terminal =>
    exact h.reopen ho hstir hfresh hcalm fun session' d' l' hmem =>
      hlive rfl rfl session' d' l' (List.mem_cons_of_mem _ hmem)
  | pause session stage s d c₁ step hpauses => exact h.pause ho hstir hpauses hcalm hlive

end Watch

/-- A task that does nothing for the session may be added. -/
theorem cons (h : Kept id c ts) (hmode : t.mode id ≠ .flying) (ht : t.Suits id c) :
    Kept id c (t :: ts) where
  flying := by rw [List.countP_cons_of_neg (by simpa using hmode), h.flying]
  watched := h.watched
  paired := h.paired
  armed := h.armed
  suits := List.forall_mem_cons.2 ⟨ht, h.suits⟩

theorem of_cons (h : Kept id c (t :: ts)) (hmode : t.mode id ≠ .flying) : Kept id c ts where
  flying := by rw [← h.flying, List.countP_cons_of_neg (by simpa using hmode)]
  watched := h.watched
  paired := h.paired
  armed := h.armed
  suits := (List.forall_mem_cons.1 h.suits).2

/-- Any turn, where no other task only closes, notes or forwards; when an answer from outside or
the end of a delay comes, no loop is called off. -/
theorem move {s : Signal} (h : Kept id c (t :: ts)) (ho : Exchange.Orderly c (t :: ts))
    (hmove : Move c t s t' c' new) (hcalm : ∀ u ∈ ts, u.hurried = false)
    (hlive : t.hurried = false → t.serves ≠ none → s.inward = false → ∀ session d l,
      Task.watch session (.delayed d l) ∈ t :: ts → c.reopener.isCancelled l = false) :
    Kept id c' (t' :: (new ++ ts)) := by
  by_cases hserves : t.serves = some id
  · cases t with
    | attempt a stage =>
      refine h.attempt ho (Option.some.inj hserves) hmove hcalm fun hstage hs session d l hmem => ?_
      exact hlive hstage nofun hs session d l (List.mem_cons_of_mem _ hmem)
    | watch session stage =>
      obtain rfl := Option.some.inj hserves
      exact h.watch ho hmove hcalm fun hstage hs => hlive hstage nofun hs
    | disconnecting i todo =>
      obtain rfl := Option.some.inj hserves
      have hstir := (ho.stir hmove (i := i) fun j hj => (Option.some.inj hj).symm).1
      obtain ⟨hstate, hwatcher⟩ := h.suits _ List.mem_cons_self rfl
      have hothers := h.grounded hstate
      cases hmove with
      | stay | disconnecting => exact h.goesOn rfl rfl rfl fun _ => ⟨hstate, hwatcher⟩
      | disconnected =>
        have hslot := (c.slot_setState i i .disconnected).trans (if_pos rfl)
        exact h.settles ho hstir hcalm hslot hwatcher
          (fun u hu => hothers u (List.mem_cons_of_mem _ hu)) nofun nofun (fun _ => rfl) trivial
    | destroying i todo =>
      have hmode : ∀ todo', (Task.destroying i todo').mode id ≠ .flying := by
        intro todo'
        rw [Task.mode_destroying]
        split <;> exact nofun
      cases hmove with
      | stay | destroying => exact h.goesOn rfl rfl rfl trivial
      | destroyed =>
        have hover : Kept id c (.over (.ok ()) :: ts) := (h.of_cons (hmode _)).cons nofun trivial
        exact hover.goesOn rfl rfl rfl trivial
    | closing | «over» => cases hserves
  · exact h.foreign ho hmove hserves

/-- The entry of another session changes. -/
theorem elsewhere {i : SessionId} (h : Kept id c ts) (ho : Exchange.Orderly c ts) (hi : id ≠ i)
    (hord : c.reopener.Ordered i c'.reopener) (hslot : c'.slot id = c.slot id) : Kept id c' ts := by
  have hstir : c.reopener.Stir i none c'.reopener none := .orders hord rfl
  have hover : Kept id c (.over (.ok ()) :: ts) := h.cons nofun trivial
  have hkept : Kept id c' (.over (.ok ()) :: ([] ++ ts)) :=
    hover.steady (by simp) rfl hslot (hstir.current ho.sound (by simp) hi) trivial
      fun u hu hserves l hl => by
        have hsession : l.session = id := Option.some.inj ((ho.owned u hu l hl).symm.trans hserves)
        exact hord.standing_of_ne ho.sound (List.mem_filterMap.2 ⟨u, hu, hl⟩)
          (hsession.trans_ne hi)
  exact hkept.of_cons nofun

/-- No slot changes, and no entry does so on account of a session. -/
theorem undisturbed (h : Kept id c ts) (ho : Exchange.Orderly c ts) (hslot : c'.slot = c.slot)
    (hord : ∀ i, c.reopener.Ordered i c'.reopener) : Kept id c' ts :=
  h.elsewhere (i := ⟨id.value + 1⟩) ho (fun heq => by cases id; simp at heq) (hord _)
    (congrFun hslot id)

theorem taking (h : Kept id c ts) (ho : Exchange.Orderly c ts) (t : Task) (s : Signal) :
    Kept id (c.taking t s) ts :=
  h.undisturbed ho (c.slot_taking t s) fun _ => by rw [c.reopener_taking]; exact .refl

/-- The entry of the session changes, and it may be told to give up what it holds. -/
theorem ordered (h : Kept id c ts) (ho : Exchange.Orderly c ts)
    (hord : c.reopener.Ordered id c'.reopener) (hcalm : ∀ u ∈ ts, u.hurried = false)
    (hslot : c'.slot id = c.slot id ∨
      c'.slot id = { c.slot id with connection := none, watcher := none })
    (harmed : (c'.slot id).watcher ≠ none ∨ (∃ u ∈ ts, u.mode id = .flying) →
      c'.reopener.Armed id) : Kept id c' ts := by
  have hstir : c.reopener.Stir id none c'.reopener none := .orders hord rfl
  have hover : Kept id c (.over (.ok ()) :: ts) := h.cons nofun trivial
  have hstate : (c'.slot id).state = (c.slot id).state := by
    obtain hslot | hslot := hslot <;> rw [hslot]
  have hwatcher : ∀ w, (c'.slot id).watcher = some w → (c.slot id).watcher = some w := by
    obtain hslot | hslot := hslot <;> rw [hslot]
    · exact fun _ h => h
    · exact nofun
  have hkept : Kept id c' (.over (.ok ()) :: ([] ++ ts)) := by
    refine hover.turn (ho.idle rfl) hstir hcalm (by simp) ?_ (fun w hw => ?_) ?_ trivial
      (fun _ d l hmem hid => ?_) ?_
    · rw [hstate]
      exact hover.flying
    · exact ⟨hstate.trans (h.watched w (hwatcher w hw)), harmed (.inl (by simp [hw]))⟩
    · obtain hslot | hslot := hslot <;> rw [hslot]
      · exact h.paired
      · exact fun _ => rfl
    · refine ⟨?_, fun _ hd => hstate.trans hd⟩
      cases hw : (c'.slot id).watcher with
      | none => rfl
      | some w => cases (hwatcher w hw).symm.trans (h.delayed hmem hid).1
    · exact fun _ _ _ _ _ hu hid => harmed (.inr ⟨_, hu, if_pos hid⟩)
  exact hkept.of_cons nofun

/-- A request to connect the session begins. -/
theorem connect {session : Session} {token : Token} {params : SerialParams}
    (h : Kept session.id c ts) (ho : Exchange.Orderly c ts)
    (hserial : session.target = .serial params) (hstate : (c.slot session.id).state ≠ .connecting)
    (hcalm : ∀ u ∈ ts, u.hurried = false)
    (hlive : ∀ session d l, Task.watch session (.delayed d l) ∈ ts →
      c.reopener.isCancelled l = false)
    (hmove : Move (c.begun session.id) (.attempt ⟨session, token, ⟨c.channels.length⟩⟩
      (.releasing (.stopForwards session.id :: c.burden session.id))) (.reply .done) t' c' new) :
    Kept session.id c' (t' :: (new ++ ts)) := by
  have hover : Kept session.id c (.over (.ok ()) :: ts) := h.cons nofun trivial
  have hothers := h.grounded hstate
  have hreopener : (c.begun session.id).reopener = c.reopener := Connector.reopener_released _ _
  have hslot := (c.slot_begun session.id session.id).trans (if_pos rfl)
  have hkept : ∀ (a : Attempt) (stage : AttemptStage) (d : Connector), a.session = session →
      stage.mode = .flying → stage.routed = false → d.slot session.id = ⟨.connecting, none, none⟩ →
      c.reopener.Ordered session.id d.reopener →
      (∀ session' drop l, Task.watch session' (.delayed drop l) ∈ ts → session'.id = session.id →
        d.reopener.isCancelled l = true) →
      Kept session.id d (.attempt a stage :: ([] ++ ts)) := by
    intro a stage d ha hstage hrouted hd hord hcalled
    have hmode : (Task.attempt a stage).mode session.id = .flying := (if_pos (by rw [ha])).trans hstage
    refine hover.turn (ho.idle rfl) (.orders hord rfl) hcalm (by simp) ?_ ?_ ?_ ?_
      (fun session' drop l hmem hid => ?_) ?_
    · rw [hd, List.countP_cons_of_pos (by rw [hmode]; rfl), countP_flying hothers]
      rfl
    · simp [hd]
    · simp [hd]
    · exact fun _ => ⟨hrouted, params, ha ▸ hserial⟩
    · rw [hd, hcalled session' drop l hmem hid]
      exact ⟨rfl, nofun⟩
    · exact fun _ _ _ _ _ hu hid => absurd (if_pos hid) (hothers _ hu)
  cases hmove with
  | stay _ _ hawaits => cases hawaits
  | goOn _ _ _ _ hssh =>
    obtain ⟨target, htarget⟩ | hrouted := hssh
    · cases hserial.symm.trans htarget
    · cases hrouted
  | fail _ _ _ _ _ hssh =>
    obtain ⟨target, htarget⟩ := hssh rfl
    cases hserial.symm.trans htarget
  | release _ _ _ htodo =>
    refine hkept _ _ _ rfl rfl rfl hslot (by rw [hreopener]; exact .refl)
      fun session' drop l hmem hid => absurd ?_ htodo
    -- a session with a loop has no connection to be closed first
    have hconnection : (c.status session.id).connection = none :=
      h.paired (h.delayed hmem hid).1
    simp [Connector.burden, hconnection]
  | dial _ _ _ params' _ htodo =>
    refine hkept _ _ _ rfl rfl rfl hslot (by rw [hreopener]; exact .cancel)
      fun session' drop l hmem hid => ?_
    have hloop : l ∈ ts.filterMap Task.loop? := List.mem_filterMap.2 ⟨_, hmem, rfl⟩
    have hsession : session'.id = l.session := Option.some.inj (ho.owned _ hmem l rfl)
    have hlookup := ho.sound.lookup_of_live hloop (hlive session' drop l hmem)
    rw [← hsession, hid] at hlookup
    rw [hreopener]
    exact isCancelled_cancel hlookup

end Kept

end Multiplexer
