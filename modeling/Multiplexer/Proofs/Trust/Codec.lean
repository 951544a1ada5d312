import Mathlib.Data.List.Perm.Basic
import Multiplexer.Proofs.Json.Encoding
import Multiplexer.Proofs.Time.Instant
import Multiplexer.Proofs.Trust.Store
import Multiplexer.Trust.File

/-!
# The text of a trust store

What is written for a store is read back as the same records, sorted, and a store
made of them answers every question like the one that was written.
-/

namespace Multiplexer

open Json.Reader

namespace KeyRecord

structure Timed (r : KeyRecord) : Prop where
  firstSeen : r.firstSeen.Valid
  lastSeen : r.lastSeen.Valid

variable {r : KeyRecord}

theorem writable_toJson (r : KeyRecord) : r.toJson.Writable :=
  Json.writable_obj (by simp [Json.writable_str, Json.Writable.bool])

/-- A record is read back as it was written. -/
theorem ofJson?_toJson (h : r.Timed) : KeyRecord.ofJson? r.toJson = some r := by
  have hfirst := Instant.ofText?_text h.firstSeen
  have hlast := Instant.ofText?_text h.lastSeen
  simp [KeyRecord.ofJson?, toJson, Json.obj, Json.fields?, Json.namedFields, Json.once,
    Json.Fields.required, Json.Fields.find?, time?, Json.text?, Json.bool?, Json.str, List.lookup_cons,
    hfirst, hlast]

/-- A record that was read has times that a clock can show. -/
theorem timed_of_ofJson? {j : Json} (h : KeyRecord.ofJson? j = some r) : r.Timed := by
  have hvalid {f : Json.Fields} {name : String} {t : Instant} (h : f.required name time? = some t) :
      t.Valid := by
    obtain ⟨j, -, hj⟩ := Option.bind_eq_some_iff.1 h
    obtain ⟨s, -, hs⟩ := Option.bind_eq_some_iff.1 hj
    exact Instant.valid_of_ofText? hs
  simp only [KeyRecord.ofJson?, Option.bind_eq_bind, Option.bind_eq_some_iff] at h
  obtain ⟨f, -, id, -, hostId, -, algorithm, -, fingerprint, -, first, hfirst, last, hlast, trusted, -,
    h⟩ := h
  cases h
  exact ⟨hvalid hfirst, hvalid hlast⟩

end KeyRecord

namespace TrustStore

def Timed (s : TrustStore) : Prop := ∀ r ∈ s.records, r.Timed

variable {s s' : TrustStore}

/-- To sort the records loses none. -/
theorem mem_sorted {r : KeyRecord} : r ∈ s.sorted ↔ r ∈ s.records :=
  (List.mergeSort_perm ..).mem_iff

/-- Records of which no two are for the same host and algorithm are all kept. -/
theorem ofRecords_of_nodup {rs : List KeyRecord} (h : (rs.map KeyRecord.pair).Nodup) :
    (ofRecords rs).records = rs := by
  suffices hfold : ∀ s : TrustStore, ((s.records ++ rs).map KeyRecord.pair).Nodup →
      (rs.foldl TrustStore.upsert s).records = s.records ++ rs from hfold {} h
  clear h
  induction rs with
  | nil => simp
  | cons r rs ih =>
    intro s hnodup
    have hupsert : (s.upsert r).records = s.records ++ [r] := by
      have hkeep : s.records.filter (fun x => !x.isFor r.hostId r.algorithm) = s.records := by
        refine List.filter_eq_self.2 fun x hx => ?_
        rw [Bool.not_eq_true', ← Bool.not_eq_true, KeyRecord.isFor_iff]
        intro hpair
        rw [List.map_append, List.nodup_append] at hnodup
        exact hnodup.2.2 _ (List.mem_map_of_mem hx) _ (List.mem_map_of_mem List.mem_cons_self) hpair
      rw [TrustStore.upsert, hkeep]
    rw [List.foldl_cons, ih _ (by rw [hupsert]; simpa using hnodup), hupsert]
    simp

/-- A store made of the sorted records gives the same for every host and algorithm. -/
theorem get?_ofRecords_sorted (h : s.Keyed) (hostId algorithm : String) :
    (ofRecords s.sorted).get? hostId algorithm = s.get? hostId algorithm := by
  have hsorted : (s.sorted.map KeyRecord.pair).Nodup :=
    ((List.mergeSort_perm s.records precedes).map _).nodup_iff.2 h
  refine h.get?_congr (keyed_ofRecords _) fun r _ => ?_
  rw [ofRecords_of_nodup hsorted, mem_sorted]

/-- A store that is made of records holds no others. -/
theorem mem_ofRecords {rs : List KeyRecord} {r : KeyRecord} (h : r ∈ (ofRecords rs).records) :
    r ∈ rs := by
  suffices hfold : ∀ s : TrustStore, r ∈ (rs.foldl TrustStore.upsert s).records →
      r ∈ s.records ∨ r ∈ rs by simpa using hfold {} h
  clear h
  induction rs with
  | nil => exact fun s h => .inl h
  | cons x rs ih =>
    intro s h
    rcases ih _ h with h | h
    · rcases mem_upsert.1 h with rfl | ⟨h, -⟩
      · exact .inr List.mem_cons_self
      · exact .inl h
    · exact .inr (List.mem_cons_of_mem _ h)

theorem Timed.upsert (h : s.Timed) {r : KeyRecord} (hr : r.Timed) : (s.upsert r).Timed := by
  intro x hx
  rcases mem_upsert.1 hx with rfl | ⟨hx, -⟩
  · exact hr
  · exact h x hx

theorem Timed.touch? (h : s.Timed) {id : String} {now : Instant} (hnow : now.Valid)
    (htouch : s.touch? id now = some s') : s'.Timed := by
  obtain ⟨before, r, after, -, hold, hnew⟩ := touch?_eq_some htouch
  intro x hx
  rw [hnew, List.mem_append, List.mem_cons] at hx
  have hmem (y : KeyRecord) (hy : y ∈ before ∨ y = r ∨ y ∈ after) : y.Timed :=
    h y (by rw [hold]; simpa using hy)
  rcases hx with hx | rfl | hx
  · exact hmem x (.inl hx)
  · exact ⟨(hmem r (.inr (.inl rfl))).firstSeen, hnow⟩
  · exact hmem x (.inr (.inr hx))

end TrustStore

namespace TrustFile

theorem timed_of_mapM {items : List Json} {rs : List KeyRecord}
    (h : items.mapM KeyRecord.ofJson? = some rs) : ∀ r ∈ rs, r.Timed := by
  induction items generalizing rs with
  | nil =>
    cases h
    simp
  | cons j items ih =>
    simp only [List.mapM_cons, Option.bind_eq_bind, Option.bind_eq_some_iff] at h
    obtain ⟨r, hr, rest, hrest, h⟩ := h
    cases h
    exact List.forall_mem_cons.2 ⟨KeyRecord.timed_of_ofJson? hr, ih hrest⟩

/-- All records that were read from a text have times that a clock can show. -/
theorem timed_of_records? {text : String} {rs : List KeyRecord} (h : records? text = some rs) :
    ∀ r ∈ rs, r.Timed := by
  unfold records? at h
  split at h
  · cases h
    simp
  · obtain ⟨j, -, hj⟩ := Option.bind_eq_some_iff.1 h
    obtain ⟨items, -, hitems⟩ := Option.bind_eq_some_iff.1 hj
    exact timed_of_mapM hitems

/-- What is written for a store is read as its records. -/
theorem records?_text {s : TrustStore} (h : s.Timed) : records? (text s) = some s.sorted := by
  have hwritable : (Json.array (s.sorted.map KeyRecord.toJson)).Writable := by
    refine .array ?_
    simp only [List.forall_mem_map]
    exact fun r _ => r.writable_toJson
  have hblank : allBlank (text s) = false := by
    have hstart : ∃ cs, (text s).toList = '[' :: cs := by
      unfold text
      cases s.sorted <;> exact ⟨_, by simp [Json.pretty]; rfl⟩
    obtain ⟨cs, hstart⟩ := hstart
    have hbracket : isBlank '[' = false := by decide
    simp [allBlank, hstart, hbracket]
  have hsorted : ∀ r ∈ s.sorted, r.Timed := fun r hr => h r (TrustStore.mem_sorted.1 hr)
  have hread : Json.ofText? (text s) = some (.array (s.sorted.map KeyRecord.toJson)) :=
    ofText?_pretty hwritable
  have hitems := Json.listOf_map fun r hr => KeyRecord.ofJson?_toJson (hsorted r hr)
  unfold records?
  rw [hblank, hread]
  exact hitems

/-- A store that was read has times that a clock can show, and one record for each host and
algorithm. -/
theorem load_spec {path : Path} {disk : Disk} {f : TrustFile} (h : load path disk = .ok f) :
    f.path = path ∧ f.disk = disk ∧ f.store.Keyed ∧ f.store.Timed := by
  unfold load at h
  split at h
  · cases h
    exact ⟨rfl, rfl, List.nodup_nil, by simp [TrustStore.Timed]⟩
  · cases h
  · split at h
    · rename_i rs hrs
      cases h
      exact ⟨rfl, rfl, TrustStore.keyed_ofRecords rs, fun r hr =>
        timed_of_records? hrs r (TrustStore.mem_ofRecords hr)⟩
    · cases h

/-- A file with the text of a store is read as a store that gives the same for every host and
algorithm. -/
theorem load_of_text {path : Path} {disk : Disk} {s : TrustStore} (hkeyed : s.Keyed)
    (htimed : s.Timed) (h : disk.readText path = .ok (text s)) :
    ∃ f, load path disk = .ok f ∧
      ∀ hostId algorithm, f.store.get? hostId algorithm = s.get? hostId algorithm := by
  refine ⟨{ store := .ofRecords s.sorted, path, disk }, ?_, s.get?_ofRecords_sorted hkeyed⟩
  simp only [load, h, records?_text htimed]

end TrustFile

end Multiplexer
