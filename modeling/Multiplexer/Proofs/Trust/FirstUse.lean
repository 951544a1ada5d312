import Mathlib.Logic.Function.Basic
import Multiplexer.Proofs.Trust.Store
import Multiplexer.Trust.Verify

/-!
# Trust on first use

Any number of keys are verified against one store, in turns: a call reads the
store and may ask the user, and when the answer comes it writes over what it read
then. Whatever the order, a record that is not an initial one was accepted by the
user for its very host and algorithm.
-/

namespace Multiplexer

def PresentedKey.pair (key : PresentedKey) : String × String := (key.hostId, key.algorithm)

def KeyQuestion.pair (q : KeyQuestion) : String × String := (q.hostId, q.algorithm)

structure Vetting where
  store : TrustStore
  /-- The calls in the order in which they began. -/
  calls : List (PresentedKey × Verdict) := []
  /-- The questions that were answered, and whether the user accepted. -/
  answers : List (KeyQuestion × Bool) := []

namespace Vetting

inductive Event where
  | verify (key : PresentedKey) (now : Instant)
  | answer (call : Nat) (accept : Bool) (now : Instant)

/-- `fresh` gives the id of the record that a call makes, if it makes one. -/
def step (fresh : Nat → String) (v : Vetting) : Event → Vetting
  | .verify key now =>
    let r := key.check now v.store
    { v with store := r.2, calls := v.calls ++ [(key, r.1)] }
  | .answer n accept now =>
    match v.calls[n]? with
    | some (key, .asking i) =>
      let r := i.answer accept now (fresh n) v.store
      { store := r.2
        calls := v.calls.set n (key, .settled r.1)
        answers := v.answers ++ [(i.question, accept)] }
    | _ => v

def run (fresh : Nat → String) (v : Vetting) (es : List Event) : Vetting := es.foldl (step fresh) v

def Accepted (v : Vetting) (pair : String × String) (fingerprint : String) : Prop :=
  ∃ q, (q, true) ∈ v.answers ∧ q.pair = pair ∧ q.fingerprint = fingerprint

end Vetting

namespace PresentedKey

variable (key : PresentedKey) (now : Instant) (s : TrustStore)

@[simp] theorem pair_inquiry (stored : Option KeyRecord) :
    (key.inquiry stored).question.pair = key.pair := rfl

theorem check_eq : key.check now s =
    match (s.get? key.hostId key.algorithm).filter
      fun r => r.vouchesFor (Multiplexer.fingerprint key.rawKey) with
    | some r => (.settled (.ok ()), (s.touch? r.id now).getD s)
    | none => (.asking (key.inquiry (s.get? key.hostId key.algorithm)), s) := by
  have hfind : Keyring.find key.hostId key.algorithm s = .ok (s.get? key.hostId key.algorithm) := rfl
  have htouch : ∀ id, (Keyring.touch id now s).2 = (s.touch? id now).getD s := by
    intro id
    cases h : s.touch? id now <;> simp [Keyring.touch, h]
  unfold check
  rw [hfind]
  cases h : (s.get? key.hostId key.algorithm).filter
      fun r => r.vouchesFor (Multiplexer.fingerprint key.rawKey) with
  | some r => simp only [h, htouch]
  | none => simp only [h]

/-- The user is asked without any change, or the key is known and may be noted as seen. -/
theorem check_cases :
    key.check now s = (.asking (key.inquiry (s.get? key.hostId key.algorithm)), s) ∨
      ∃ r ∈ s.records, r.pair = key.pair ∧
        key.check now s = (.settled (.ok ()), (s.touch? r.id now).getD s) := by
  rw [check_eq]
  split
  · rename_i r hknown
    obtain ⟨hget, -⟩ := Option.filter_eq_some_iff.1 hknown
    obtain ⟨hr, hpair⟩ := TrustStore.of_get? hget
    exact .inr ⟨r, hr, hpair, rfl⟩
  · exact .inl rfl

end PresentedKey

namespace Inquiry

variable (i : Inquiry) (now : Instant) (freshId : String)

@[simp] theorem fingerprint_accepted :
    (i.accepted now freshId).fingerprint = i.question.fingerprint := by
  unfold accepted
  cases i.existing <;> rfl

@[simp] theorem trusted_accepted : (i.accepted now freshId).trusted = true := by
  unfold accepted
  cases i.existing <;> rfl

/-- The record that replaces another has its pair, and a new one that of the question. -/
theorem pair_accepted {pair : String × String} (hquestion : i.question.pair = pair)
    (hexisting : ∀ r, i.existing = some r → r.pair = pair) :
    (i.accepted now freshId).pair = pair := by
  unfold accepted
  cases h : i.existing with
  | none => exact hquestion
  | some r => exact hexisting r h

end Inquiry

namespace Vetting

/-- Calls keep their keys, whatever becomes of them, and answers stay given. -/
structure Extends (v v' : Vetting) : Prop where
  calls : ∀ (n : Nat) key verdict, v.calls[n]? = some (key, verdict) →
    ∃ verdict', v'.calls[n]? = some (key, verdict')
  answers : ∀ a ∈ v.answers, a ∈ v'.answers

section Ids

variable (fresh : Nat → String) (initial : TrustStore) (v : Vetting)

/-- The pair that an id stands for: that of an initial record, or of the key of the call that the id
was made for. -/
def Owns (id : String) (pair : String × String) : Prop :=
  (∃ r ∈ initial.records, r.id = id ∧ r.pair = pair) ∨
    ∃ n key verdict, v.calls[n]? = some (key, verdict) ∧ fresh n = id ∧ key.pair = pair

structure Distinct : Prop where
  injective : Function.Injective fresh
  nodup : (initial.records.map KeyRecord.id).Nodup
  apart : ∀ n, ∀ r ∈ initial.records, r.id ≠ fresh n

variable {fresh initial v}

/-- An id stands for one pair. -/
theorem Owns.unique (hids : Distinct fresh initial) {id : String} {p p' : String × String}
    (h : v.Owns fresh initial id p) (h' : v.Owns fresh initial id p') : p = p' := by
  rcases h with ⟨r, hr, hid, rfl⟩ | ⟨n, key, verdict, hcall, hid, rfl⟩ <;>
    rcases h' with ⟨r', hr', hid', rfl⟩ | ⟨n', key', verdict', hcall', hid', rfl⟩
  · rw [List.inj_on_of_nodup_map hids.nodup hr hr' (hid.trans hid'.symm)]
  · exact absurd (hid.trans hid'.symm) (hids.apart n' r hr)
  · exact absurd (hid'.trans hid.symm) (hids.apart n r' hr')
  · obtain rfl := hids.injective (hid.trans hid'.symm)
    rw [hcall] at hcall'
    injection hcall' with hcall'
    rw [(Prod.mk.inj hcall').1]

/-- What an id stands for it stands for later, too. -/
theorem Owns.mono {v' : Vetting} {id : String} {p : String × String} (h : v.Owns fresh initial id p)
    (hv : v.Extends v') : v'.Owns fresh initial id p := by
  rcases h with hinitial | ⟨n, key, verdict, hcall, hid, hpair⟩
  · exact .inl hinitial
  · obtain ⟨verdict', hcall'⟩ := hv.calls n key verdict hcall
    exact .inr ⟨n, key, verdict', hcall', hid, hpair⟩

end Ids

/-- Where a fingerprint in the store comes from. -/
def Vouched (initial : TrustStore) (v : Vetting) (r : KeyRecord) : Prop :=
  (∃ r₀ ∈ initial.records, r₀.pair = r.pair ∧ r.fingerprint = r₀.fingerprint ∧
      r.trusted = r₀.trusted) ∨
    r.trusted = true ∧ v.Accepted r.pair r.fingerprint

/-- Where a fingerprint comes from is not forgotten. -/
theorem Vouched.mono {initial : TrustStore} {v v' : Vetting} {r : KeyRecord}
    (h : v.Vouched initial r) (hv : v.Extends v') : v'.Vouched initial r :=
  h.imp_right fun ⟨htrusted, q, hq, hpair⟩ => ⟨htrusted, q, hv.answers _ hq, hpair⟩

structure Sound (fresh : Nat → String) (initial : TrustStore) (v : Vetting) : Prop where
  keyed : v.store.Keyed
  owns : ∀ r ∈ v.store.records, v.Owns fresh initial r.id r.pair
  vouched : ∀ r ∈ v.store.records, v.Vouched initial r
  /-- A question is about the key of its call, and so is the record that was read for it. -/
  asking : ∀ (n : Nat) key i, v.calls[n]? = some (key, .asking i) → i.question.pair = key.pair ∧
    ∀ r, i.existing = some r → r.pair = key.pair ∧ v.Owns fresh initial r.id r.pair

/-- Questions that come up in a turn are about what is stored. -/
def Asks (v v' : Vetting) : Prop :=
  ∀ (n : Nat) key i, v'.calls[n]? = some (key, .asking i) →
    v.calls[n]? = some (key, .asking i) ∨
      i.question.pair = key.pair ∧ ∀ r, i.existing = some r → r ∈ v.store.records ∧ r.pair = key.pair

namespace Sound

variable {fresh : Nat → String} {initial : TrustStore} {v : Vetting}

theorem start (hkeyed : initial.Keyed) : Sound fresh initial { store := initial } where
  keyed := hkeyed
  owns r hr := .inl ⟨r, hr, rfl, rfl⟩
  vouched r hr := .inl ⟨r, hr, rfl, rfl, rfl⟩
  asking n key i h := by simp at h

/-- Noting that the key of a record has been seen touches that record only. -/
theorem mem_touch (h : v.Sound fresh initial) (hids : Distinct fresh initial) {r : KeyRecord}
    (hr : r ∈ v.store.records) {now : Instant} {s' : TrustStore}
    (htouch : v.store.touch? r.id now = some s') (x : KeyRecord) :
    x ∈ s'.records ↔
      x = { r with lastSeen := now } ∨ x ∈ v.store.records ∧ x.pair ≠ r.pair := by
  obtain ⟨before, r', after, hid, hold, hnew⟩ := TrustStore.touch?_eq_some htouch
  have hr' : r' ∈ v.store.records := by simp [hold]
  have hpair : r'.pair = r.pair := by
    have howns := h.owns r' hr'
    rw [hid] at howns
    exact howns.unique hids (h.owns r hr)
  obtain rfl : r' = r := h.keyed.eq_of_pair hr' hr hpair
  have hothers : ∀ y ∈ before ++ after, y.pair ≠ r'.pair := by
    have hkeyed := h.keyed
    unfold TrustStore.Keyed at hkeyed
    rw [hold, (List.perm_middle.map _).nodup_iff, List.map_cons, List.nodup_cons] at hkeyed
    exact fun y hy heq => hkeyed.1 (List.mem_map.2 ⟨y, hy, heq⟩)
  have hbefore : x ∈ before → x.pair ≠ r'.pair := fun hx => hothers x (by simp [hx])
  have hafter : x ∈ after → x.pair ≠ r'.pair := fun hx => hothers x (by simp [hx])
  rw [hold, hnew]
  simp only [List.mem_append, List.mem_cons]
  grind

variable {v' : Vetting}

/-- The questions of later calls are about records that are owned. -/
theorem asking_of_asks (h : v.Sound fresh initial) (hv : v.Extends v') (hasks : v.Asks v') :
    ∀ (n : Nat) key i, v'.calls[n]? = some (key, .asking i) → i.question.pair = key.pair ∧
      ∀ r, i.existing = some r → r.pair = key.pair ∧ v'.Owns fresh initial r.id r.pair := by
  intro n key i hn
  rcases hasks n key i hn with hold | ⟨hquestion, hexisting⟩
  · obtain ⟨hquestion, hexisting⟩ := h.asking n key i hold
    exact ⟨hquestion, fun x hx => (hexisting x hx).imp_right fun howns => howns.mono hv⟩
  · refine ⟨hquestion, fun x hx => ?_⟩
    obtain ⟨hmem, hpair⟩ := hexisting x hx
    exact ⟨hpair, (h.owns x hmem).mono hv⟩

/-- A turn that leaves the store alone. -/
theorem keep (h : v.Sound fresh initial) (hstore : v'.store = v.store) (hv : v.Extends v')
    (hasks : v.Asks v') : v'.Sound fresh initial where
  keyed := hstore ▸ h.keyed
  owns x hx := (h.owns x (hstore ▸ hx)).mono hv
  vouched x hx := (h.vouched x (hstore ▸ hx)).mono hv
  asking := h.asking_of_asks hv hasks

/-- A turn in which one record takes the place of the one for its pair. -/
theorem put (h : v.Sound fresh initial) {r : KeyRecord} (hkeyed : v'.store.Keyed)
    (hmem : ∀ x, x ∈ v'.store.records ↔ x = r ∨ x ∈ v.store.records ∧ x.pair ≠ r.pair)
    (hv : v.Extends v') (hasks : v.Asks v') (howns : v'.Owns fresh initial r.id r.pair)
    (hvouched : v'.Vouched initial r) : v'.Sound fresh initial where
  keyed := hkeyed
  owns x hx := by
    rcases (hmem x).1 hx with rfl | ⟨hold, -⟩
    · exact howns
    · exact (h.owns x hold).mono hv
  vouched x hx := by
    rcases (hmem x).1 hx with rfl | ⟨hold, -⟩
    · exact hvouched
    · exact (h.vouched x hold).mono hv
  asking := h.asking_of_asks hv hasks

end Sound

section Step

variable {fresh : Nat → String} {initial : TrustStore} (v : Vetting)

/-- A call that verifies a key takes nothing from the calls before it. -/
theorem extends_verify (key : PresentedKey) (now : Instant) :
    v.Extends (v.step fresh (.verify key now)) where
  calls n key' verdict hn := by
    obtain ⟨hlt, -⟩ := List.getElem?_eq_some_iff.1 hn
    exact ⟨verdict, by rw [step, List.getElem?_append_left hlt, hn]⟩
  answers _ ha := ha

/-- A call that reads the store leaves its records vouched for. -/
theorem sound_verify (h : v.Sound fresh initial) (hids : Distinct fresh initial)
    (key : PresentedKey) (now : Instant) :
    (v.step fresh (.verify key now)).Sound fresh initial := by
  have hv : v.Extends (v.step fresh (.verify key now)) := v.extends_verify key now
  have hcalls : ∀ (n : Nat) key' i,
      (v.calls ++ [(key, (key.check now v.store).1)])[n]? = some (key', .asking i) →
        v.calls[n]? = some (key', .asking i) ∨
          key' = key ∧ (key.check now v.store).1 = .asking i := by
    intro n key' i hn
    rw [List.getElem?_append] at hn
    split at hn
    · exact .inl hn
    · have hnew := List.mem_of_getElem? hn
      rw [List.mem_singleton] at hnew
      obtain ⟨rfl, hi⟩ := Prod.mk.inj hnew
      exact .inr ⟨rfl, hi.symm⟩
  rcases key.check_cases now v.store with hask | ⟨r, hr, hpair, hknown⟩
  · refine h.keep (by rw [step, hask]) hv fun n key' i hn => ?_
    rcases hcalls n key' i hn with hold | ⟨rfl, hi⟩
    · exact .inl hold
    · rw [hask] at hi
      injection hi with hi
      subst hi
      exact .inr ⟨rfl, fun x hx => TrustStore.of_get? hx⟩
  · have hasks : v.Asks (v.step fresh (.verify key now)) := by
      intro n key' i hn
      rcases hcalls n key' i hn with hold | ⟨-, hi⟩
      · exact .inl hold
      · rw [hknown] at hi
        cases hi
    cases htouch : v.store.touch? r.id now with
    | none => exact h.keep (by rw [step, hknown, htouch]; rfl) hv hasks
    | some s' =>
      have hstore : (v.step fresh (.verify key now)).store = s' := by
        rw [step, hknown, htouch]
        rfl
      refine h.put (r := { r with lastSeen := now }) ?_ ?_ hv hasks ((h.owns r hr).mono hv)
        ((h.vouched r hr).mono hv)
      · rw [hstore]
        exact h.keyed.touch? htouch
      · rw [hstore]
        exact h.mem_touch hids hr htouch

section Answer

variable {v} {n : Nat} {key : PresentedKey} {i : Inquiry}
  (hcall : v.calls[n]? = some (key, .asking i))

include hcall

/-- An answer goes to the call that asked, and to the store as it is now. -/
theorem step_answer (accept : Bool) (now : Instant) :
    v.step fresh (.answer n accept now) =
      { store := (i.answer accept now (fresh n) v.store).2
        calls := v.calls.set n (key, .settled (i.answer accept now (fresh n) v.store).1)
        answers := v.answers ++ [(i.question, accept)] } := by
  simp only [step, hcall]

theorem extends_answer (accept : Bool) (now : Instant) :
    v.Extends (v.step fresh (.answer n accept now)) := by
  rw [step_answer hcall]
  refine ⟨fun m key' verdict hm => ?_, fun a ha => List.mem_append_left _ ha⟩
  obtain ⟨hlt, -⟩ := List.getElem?_eq_some_iff.1 hm
  by_cases hn : n = m
  · subst hn
    rw [hcall] at hm
    injection hm with hm
    obtain ⟨rfl, -⟩ := Prod.mk.inj hm
    exact ⟨_, List.getElem?_set_self hlt⟩
  · exact ⟨verdict, (List.getElem?_set_ne hn).trans hm⟩

theorem asks_answer (accept : Bool) (now : Instant) :
    v.Asks (v.step fresh (.answer n accept now)) := by
  intro m key' i' hm
  rw [step_answer hcall, List.getElem?_set] at hm
  split at hm
  · split at hm <;> cases hm
  · exact .inl hm

/-- An answer leaves the records vouched for, however late it comes. -/
theorem sound_answer (h : v.Sound fresh initial) (accept : Bool) (now : Instant) :
    (v.step fresh (.answer n accept now)).Sound fresh initial := by
  have hv : v.Extends (v.step fresh (.answer n accept now)) := extends_answer hcall accept now
  have hasks : v.Asks (v.step fresh (.answer n accept now)) := asks_answer hcall accept now
  cases accept with
  | false => exact h.keep (by rw [step_answer hcall]; rfl) hv hasks
  | true =>
    obtain ⟨hquestion, hexisting⟩ := h.asking n key i hcall
    have hpair := i.pair_accepted now (fresh n) hquestion fun r hr => (hexisting r hr).1
    have hstore : (v.step fresh (.answer n true now)).store =
        v.store.upsert (i.accepted now (fresh n)) := by
      rw [step_answer hcall]
      rfl
    refine h.put (r := i.accepted now (fresh n)) ?_ ?_ hv hasks ?_ (.inr ⟨by simp, ?_⟩)
    · rw [hstore]
      exact h.keyed.upsert _
    · rw [hstore]
      exact fun x => TrustStore.mem_upsert
    · rw [hpair]
      cases hi : i.existing with
      | none =>
        obtain ⟨verdict, hcall'⟩ := hv.calls n key _ hcall
        exact .inr ⟨n, key, verdict, hcall', by simp [Inquiry.accepted, hi, KeyRecord.accepted], rfl⟩
      | some r =>
        obtain ⟨hr, howns⟩ := hexisting r hi
        rw [← hr]
        simpa [Inquiry.accepted, hi] using howns.mono hv
    · refine ⟨i.question, ?_, hquestion.trans hpair.symm, by simp⟩
      rw [step_answer hcall]
      simp

end Answer

/-- Every event leaves the records vouched for. -/
theorem sound_step (h : v.Sound fresh initial) (hids : Distinct fresh initial) (e : Event) :
    (v.step fresh e).Sound fresh initial := by
  cases e with
  | verify key now => exact v.sound_verify h hids key now
  | answer n accept now =>
    cases hcall : v.calls[n]? with
    | none => simpa only [step, hcall] using h
    | some call =>
      obtain ⟨key, verdict⟩ := call
      cases verdict with
      | settled r => simpa only [step, hcall] using h
      | asking i => exact sound_answer hcall h accept now

/-- In any run the records stay vouched for. -/
theorem sound_run (h : v.Sound fresh initial) (hids : Distinct fresh initial) (es : List Event) :
    (v.run fresh es).Sound fresh initial := by
  induction es generalizing v with
  | nil => exact h
  | cons e es ih => exact ih _ (v.sound_step h hids e)

def Event.key? (v : Vetting) : Event → Option PresentedKey
  | .verify key _ => some key
  | .answer n _ _ => (v.calls[n]?).map Prod.fst

/-- A call that has to ask leaves the store alone. -/
theorem store_verify_of_asking {key : PresentedKey} {now : Instant} {i : Inquiry}
    (h : (key.check now v.store).1 = .asking i) :
    (v.step fresh (.verify key now)).store = v.store := by
  rcases key.check_cases now v.store with hask | ⟨r, -, -, hknown⟩
  · rw [step, hask]
  · rw [hknown] at h
    cases h

/-- A rejected key leaves the store alone. -/
theorem store_answer_of_rejected (n : Nat) (now : Instant) :
    (v.step fresh (.answer n false now)).store = v.store := by
  simp only [step]
  split <;> rfl

/-- Nothing happens to the records of other pairs. -/
theorem get?_step_of_ne (h : v.Sound fresh initial) (hids : Distinct fresh initial) (e : Event)
    {hostId algorithm : String} (hne : ∀ key, e.key? v = some key → key.pair ≠ (hostId, algorithm)) :
    (v.step fresh e).store.get? hostId algorithm = v.store.get? hostId algorithm := by
  have hkeyed := (v.sound_step h hids e).keyed
  cases e with
  | verify key now =>
    have hpair := hne key rfl
    rcases key.check_cases now v.store with hask | ⟨r, hr, hrpair, hknown⟩
    · rw [v.store_verify_of_asking (congrArg Prod.fst hask)]
    · cases htouch : v.store.touch? r.id now with
      | none => rw [step, hknown, htouch, Option.getD_none]
      | some s' =>
        rw [step, hknown, htouch, Option.getD_some] at hkeyed ⊢
        refine h.keyed.get?_congr hkeyed fun x hx => ?_
        have hxr : x.pair ≠ r.pair := by
          rw [hx, hrpair]
          exact hpair.symm
        rw [h.mem_touch hids hr htouch, or_iff_right, and_iff_left hxr]
        rintro rfl
        exact hxr rfl
  | answer n accept now =>
    cases hcall : v.calls[n]? with
    | none => simp only [step, hcall]
    | some call =>
      obtain ⟨key, verdict⟩ := call
      have hpair := hne key (by simp [Event.key?, hcall])
      cases verdict with
      | settled r => simp only [step, hcall]
      | asking i =>
        cases accept with
        | false => rw [v.store_answer_of_rejected]
        | true =>
          obtain ⟨hquestion, hexisting⟩ := h.asking n key i hcall
          have hnew := i.pair_accepted now (fresh n) hquestion fun r hr => (hexisting r hr).1
          rw [step_answer hcall] at hkeyed ⊢
          refine h.keyed.get?_congr hkeyed fun x hx => ?_
          have hxr : x.pair ≠ (i.accepted now (fresh n)).pair := by
            rw [hx, hnew]
            exact hpair.symm
          refine TrustStore.mem_upsert.trans ?_
          rw [or_iff_right, and_iff_left hxr]
          rintro rfl
          exact hxr rfl

end Step

/-- At any time, in whatever order calls are made and answered: a record is what the store gives for
its own host and algorithm, so there is one at most for the two. It is as an initial one, or it is
trusted and the user accepted its fingerprint for this host and algorithm. A turn concerns the
records of its own key only. A call that asks changes nothing until it is answered, and nothing if
the user declines. -/
theorem initial_or_accepted (fresh : Nat → String) (rs : List KeyRecord)
    (hids : Distinct fresh (.ofRecords rs)) (es : List Event) :
    let initial := TrustStore.ofRecords rs
    let v := run fresh { store := initial } es
    (∀ r ∈ v.store.records, v.store.get? r.hostId r.algorithm = some r) ∧
    (∀ hostId algorithm r, v.store.get? hostId algorithm = some r →
      r.hostId = hostId ∧ r.algorithm = algorithm ∧
        ((∃ r₀, initial.get? hostId algorithm = some r₀ ∧ r.fingerprint = r₀.fingerprint ∧
            r.trusted = r₀.trusted) ∨
          r.trusted = true ∧ v.Accepted (hostId, algorithm) r.fingerprint)) ∧
    (∀ (e : Event) hostId algorithm,
      (∀ key, e.key? v = some key → (key.hostId, key.algorithm) ≠ (hostId, algorithm)) →
        (v.step fresh e).store.get? hostId algorithm = v.store.get? hostId algorithm) ∧
    (∀ key now i, (key.check now v.store).1 = .asking i →
      (v.step fresh (.verify key now)).store = v.store) ∧
    ∀ n now, (v.step fresh (.answer n false now)).store = v.store := by
  intro initial v
  have hinitial : initial.Keyed := TrustStore.keyed_ofRecords rs
  have hsound : v.Sound fresh initial := sound_run _ (.start hinitial) hids es
  refine ⟨fun r hr => hsound.keyed.get?_iff.2 ⟨hr, rfl⟩, ?_, ?_, ?_, v.store_answer_of_rejected⟩
  · intro hostId algorithm r hget
    obtain ⟨hr, hpair⟩ := TrustStore.of_get? hget
    refine ⟨congrArg Prod.fst hpair, congrArg Prod.snd hpair, ?_⟩
    rcases hsound.vouched r hr with ⟨r₀, hr₀, hpair₀, hsame⟩ | haccepted
    · exact .inl ⟨r₀, hinitial.get?_iff.2 ⟨hr₀, hpair₀.trans hpair⟩, hsame⟩
    · exact .inr (hpair ▸ haccepted)
  · exact fun e hostId algorithm hne => v.get?_step_of_ne hsound hids e hne
  · exact fun key now i hask => v.store_verify_of_asking hask

def tally (n : Nat) : String := String.ofList (List.replicate (n + 1) '|')

def dayOne : Instant := { day := 20000, second := 0 }

/-- A host with one stored key. -/
def known : List KeyRecord :=
  [⟨"", "web", "ssh-rsa", "SHA256:old", dayOne, dayOne, false⟩]

def offered (rawKey : List UInt8) : PresentedKey := ⟨"web", "web", 22, "ssh-rsa", rawKey⟩

/-- Two calls have read the same record; both are accepted, the first one last. -/
theorem accepted_over_stale :
    Distinct tally (.ofRecords known) ∧
      (run tally { store := .ofRecords known } [.verify (offered [1]) dayOne,
        .verify (offered [2]) dayOne, .answer 1 true dayOne, .answer 0 true dayOne]).Accepted
          ("web", "ssh-rsa") (fingerprint [1]) := by
  have hids : Distinct tally (.ofRecords known) := by
    refine ⟨fun m n h => ?_, by decide, fun n r hr => ?_⟩
    · have hlength := congrArg String.length h
      simpa [tally] using hlength
    · obtain rfl : r = ⟨"", "web", "ssh-rsa", "SHA256:old", dayOne, dayOne, false⟩ := by
        simpa [known, TrustStore.ofRecords, TrustStore.upsert] using hr
      intro h
      have hlength := congrArg String.length h
      simp [tally] at hlength
  refine ⟨hids, ?_⟩
  have h := (initial_or_accepted tally known hids [.verify (offered [1]) dayOne,
    .verify (offered [2]) dayOne, .answer 1 true dayOne, .answer 0 true dayOne]).2.1 "web" "ssh-rsa"
      ⟨"", "web", "ssh-rsa", fingerprint [1], dayOne, dayOne, true⟩ rfl
  obtain ⟨-, -, ⟨r₀, hr₀, -, htrusted⟩ | ⟨-, haccepted⟩⟩ := h
  · have hr₀ : r₀ = ⟨"", "web", "ssh-rsa", "SHA256:old", dayOne, dayOne, false⟩ := by
      have hget : (TrustStore.ofRecords known).get? "web" "ssh-rsa" =
        some ⟨"", "web", "ssh-rsa", "SHA256:old", dayOne, dayOne, false⟩ := by decide
      rw [hget] at hr₀
      injection hr₀ with hr₀
      exact hr₀.symm
    rw [hr₀] at htrusted
    cases htrusted
  · exact haccepted

end Vetting

end Multiplexer
