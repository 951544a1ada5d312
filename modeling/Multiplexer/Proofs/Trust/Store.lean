import Mathlib.Data.List.Nodup
import Mathlib.Data.List.TakeDrop
import Mathlib.Data.List.TakeWhile
import Multiplexer.Trust.Store

/-!
# One record for a host and an algorithm

A store in memory holds at most one record for each host and algorithm, which is
what it gives when it is asked for the two. Each operation is told by the records
that are there afterwards.
-/

namespace Multiplexer

namespace KeyRecord

/-- What a record is kept for. -/
def pair (r : KeyRecord) : String × String := (r.hostId, r.algorithm)

@[simp] theorem isFor_iff (r : KeyRecord) (hostId algorithm : String) :
    r.isFor hostId algorithm = true ↔ r.pair = (hostId, algorithm) := by
  simp [isFor, pair]

end KeyRecord

namespace TrustStore

/-- No two records are for the same host and algorithm. -/
def Keyed (s : TrustStore) : Prop := (s.records.map KeyRecord.pair).Nodup

variable {s : TrustStore} {hostId algorithm : String} {r : KeyRecord}

/-- What is given for a host and an algorithm is a record for the two. -/
theorem of_get? (h : s.get? hostId algorithm = some r) :
    r ∈ s.records ∧ r.pair = (hostId, algorithm) := by
  unfold get? at h
  have hfor := List.find?_some h
  exact ⟨List.mem_of_find?_eq_some h, by simpa using hfor⟩

namespace Keyed

theorem eq_of_pair {r' : KeyRecord} (h : s.Keyed) (hr : r ∈ s.records) (hr' : r' ∈ s.records)
    (hpair : r.pair = r'.pair) : r = r' :=
  List.inj_on_of_nodup_map h hr hr' hpair

/-- What is given is the record that is held. -/
theorem get?_iff (h : s.Keyed) :
    s.get? hostId algorithm = some r ↔ r ∈ s.records ∧ r.pair = (hostId, algorithm) := by
  constructor
  · exact of_get?
  · rintro ⟨hr, hpair⟩
    cases hget : s.get? hostId algorithm with
    | none =>
      have hnot := List.find?_eq_none.1 hget r hr
      exact absurd ((r.isFor_iff ..).2 hpair) hnot
    | some x =>
      obtain ⟨hx, hxpair⟩ := of_get? hget
      rw [h.eq_of_pair hr hx (hpair.trans hxpair.symm)]

/-- Stores that hold the same records for a pair give the same for it. -/
theorem get?_congr {s' : TrustStore} (h : s.Keyed) (h' : s'.Keyed)
    (hsame : ∀ r : KeyRecord, r.pair = (hostId, algorithm) → (r ∈ s'.records ↔ r ∈ s.records)) :
    s'.get? hostId algorithm = s.get? hostId algorithm := by
  refine Option.ext fun r => ?_
  rw [h.get?_iff, h'.get?_iff]
  exact and_congr_left (hsame r)

end Keyed

/-- A record that is put in displaces those for its host and algorithm. -/
theorem mem_upsert {x : KeyRecord} :
    x ∈ (s.upsert r).records ↔ x = r ∨ x ∈ s.records ∧ x.pair ≠ r.pair := by
  have hfor : x.isFor r.hostId r.algorithm = true ↔ x.pair = r.pair := x.isFor_iff ..
  simp only [upsert, List.mem_append, List.mem_filter, List.mem_singleton, Bool.not_eq_true',
    ← Bool.not_eq_true, hfor]
  exact Or.comm

theorem get?_upsert_self (s : TrustStore) (r : KeyRecord) :
    (s.upsert r).get? r.hostId r.algorithm = some r := by
  have hnone : (s.records.filter fun x => !x.isFor r.hostId r.algorithm).find?
      (fun x => x.isFor r.hostId r.algorithm) = none := by
    rw [List.find?_eq_none]
    intro x hx
    simpa only [Bool.not_eq_true', Bool.not_eq_true] using (List.mem_filter.1 hx).2
  have hself : r.isFor r.hostId r.algorithm = true := (r.isFor_iff ..).2 rfl
  rw [get?, TrustStore.upsert, List.find?_append, hnone, Option.none_or]
  simp only [List.find?_cons, hself]

/-- To put a record in keeps the store at one for each host and algorithm. -/
theorem Keyed.upsert (h : s.Keyed) (r : KeyRecord) : (s.upsert r).Keyed := by
  unfold Keyed TrustStore.upsert
  rw [List.map_append, List.map_singleton, ← List.concat_eq_append]
  refine List.Nodup.concat ?_ (h.sublist (List.filter_sublist.map _))
  intro hmem
  obtain ⟨x, hx, hpair⟩ := List.mem_map.1 hmem
  have hnot := (List.mem_filter.1 hx).2
  have hfor : x.isFor r.hostId r.algorithm = true := (x.isFor_iff ..).2 hpair
  simp [hfor] at hnot

/-- A record that is put into a store is given for its host and algorithm, and the rest as before. -/
theorem Keyed.get?_upsert (h : s.Keyed) (r : KeyRecord) (hostId algorithm : String) :
    (s.upsert r).get? hostId algorithm =
      if r.pair = (hostId, algorithm) then some r else s.get? hostId algorithm := by
  split
  · rename_i hpair
    obtain ⟨rfl, rfl⟩ := Prod.mk.inj hpair
    exact get?_upsert_self s r
  · rename_i hpair
    refine h.get?_congr (h.upsert r) fun x hx => ?_
    have hother : x.pair ≠ r.pair := fun hsame => hpair (hsame.symm.trans hx)
    have hne : x ≠ r := fun hsame => hother (congrArg KeyRecord.pair hsame)
    simp [mem_upsert, hother, hne]

/-- A store that is made of records holds one for each host and algorithm. -/
theorem keyed_ofRecords (rs : List KeyRecord) : (ofRecords rs).Keyed := by
  suffices h : ∀ s : TrustStore, s.Keyed → (rs.foldl TrustStore.upsert s).Keyed from
    h {} List.nodup_nil
  induction rs with
  | nil => exact fun s hs => hs
  | cons r rs ih => exact fun s hs => ih _ (hs.upsert r)

/-- One record with the id has been seen now; the others stay. -/
theorem touch?_eq_some {id : String} {now : Instant} {s' : TrustStore}
    (h : s.touch? id now = some s') :
    ∃ before r after, r.id = id ∧ s.records = before ++ r :: after ∧
      s'.records = before ++ { r with lastSeen := now } :: after := by
  unfold touch? at h
  rw [List.span_eq_takeWhile_dropWhile] at h
  have hsplit := List.takeWhile_append_dropWhile (p := fun r : KeyRecord => decide (r.id ≠ id))
    (l := s.records)
  cases hrest : s.records.dropWhile fun r => r.id ≠ id with
  | nil =>
    rw [hrest] at h
    cases h
  | cons r after =>
    have hid := List.head?_dropWhile_not (fun r : KeyRecord => decide (r.id ≠ id)) s.records
    rw [hrest] at h hsplit hid
    injection h with h
    refine ⟨_, r, after, ?_, hsplit.symm, by rw [← h]⟩
    simpa using hid

theorem Keyed.touch? {id : String} {now : Instant} {s' : TrustStore} (h : s.Keyed)
    (htouch : s.touch? id now = some s') : s'.Keyed := by
  obtain ⟨before, r, after, -, hold, hnew⟩ := touch?_eq_some htouch
  unfold Keyed at h ⊢
  rw [hold, List.map_append, List.map_cons] at h
  rw [hnew, List.map_append, List.map_cons]
  exact h

/-- Only a record that is not there cannot be touched. -/
theorem touch?_eq_none_iff {id : String} {now : Instant} :
    s.touch? id now = none ↔ ∀ r ∈ s.records, r.id ≠ id := by
  unfold touch?
  rw [List.span_eq_takeWhile_dropWhile]
  have hrest : (s.records.dropWhile fun r => r.id ≠ id) = [] ↔ ∀ r ∈ s.records, r.id ≠ id := by
    simp [List.dropWhile_eq_nil_iff]
  rw [← hrest]
  cases s.records.dropWhile fun r => r.id ≠ id <;> simp

/-- A touched record is given as seen now, and the rest as before. -/
theorem Keyed.get?_touch? {id : String} {now : Instant} {s' : TrustStore} (h : s.Keyed)
    (htouch : s.touch? id now = some s') :
    ∃ r, r.id = id ∧ s.get? r.hostId r.algorithm = some r ∧
      ∀ hostId algorithm, s'.get? hostId algorithm =
        if r.pair = (hostId, algorithm) then some { r with lastSeen := now }
        else s.get? hostId algorithm := by
  have h' := h.touch? htouch
  obtain ⟨before, r, after, hid, hold, hnew⟩ := touch?_eq_some htouch
  have hr : r ∈ s.records := by simp [hold]
  have hnow : { r with lastSeen := now } ∈ s'.records := by simp [hnew]
  refine ⟨r, hid, h.get?_iff.2 ⟨hr, rfl⟩, fun hostId algorithm => ?_⟩
  split
  · rename_i hpair
    exact h'.get?_iff.2 ⟨hnow, hpair⟩
  · rename_i hpair
    refine h.get?_congr h' fun x hx => ?_
    have hother : x ≠ r := by
      rintro rfl
      exact hpair hx
    have hother' : x ≠ { r with lastSeen := now } := by
      rintro rfl
      exact hpair hx
    simp [hold, hnew, hother, hother']

end TrustStore

end Multiplexer
