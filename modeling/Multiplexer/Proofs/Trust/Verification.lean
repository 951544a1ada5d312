import Multiplexer.Proofs.Trust.FirstUse
import Multiplexer.Rehearsal.TrustTrial

/-!
# One verification

A key is compared with the store, and where the store does not vouch for it the
user is asked. Reads, changes and notes of the store may each be refused. What
such a verification asks, returns and leaves is told by the records before it.
-/

namespace Multiplexer

/-- A store that keeps its records in memory. An operation does to the records what it does to those
of a `TrustStore`, or it is refused and leaves them alone. -/
structure Keyring.InMemory {σ : Type} [Keyring σ] (records : σ → TrustStore) : Prop where
  find : ∀ hostId algorithm s,
    Keyring.find hostId algorithm s = .ok ((records s).get? hostId algorithm) ∨
      ∃ e, Keyring.find hostId algorithm s = .error e
  upsert : ∀ r s,
    (Keyring.upsert r s).1 = .ok () ∧ records (Keyring.upsert r s).2 = (records s).upsert r ∨
      ∃ e, (Keyring.upsert r s).1 = .error e ∧ records (Keyring.upsert r s).2 = records s
  touch : ∀ id now s,
    (records s).touch? id now = some (records (Keyring.touch id now s).2) ∨
      records (Keyring.touch id now s).2 = records s

structure Verified (σ : Type) where
  result : Except ConnectError Unit
  /-- The questions to the user, oldest first. -/
  asked : List KeyQuestion
  store : σ

section

variable {σ : Type} [Keyring σ]

def PresentedKey.verify (key : PresentedKey) (user : KeyQuestion → Bool) (now later : Instant)
    (freshId : String) (store : σ) : Verified σ :=
  match key.check now store with
  | (.settled r, store) => ⟨r, [], store⟩
  | (.asking i, store) =>
    let (r, store) := i.answer (user i.question) later freshId store
    ⟨r, [i.question], store⟩

/-- Whether a record vouches for a key. -/
def KeyRecord.Trusts (r : KeyRecord) (key : PresentedKey) : Prop :=
  r.trusted = true ∧ r.fingerprint = Multiplexer.fingerprint key.rawKey

/-- The rules of trust on first use, for a verification in a store. -/
structure TrustOnFirstUse (records : σ → TrustStore) (key : PresentedKey)
    (user : KeyQuestion → Bool) (later : Instant) (freshId : String) (s : σ) (v : Verified σ) :
    Prop where
  /-- If the store cannot be read, nobody is asked. -/
  unread : ∀ e, Keyring.find key.hostId key.algorithm s = .error e →
    v.result = .error (.trustStore e.message) ∧ v.asked = [] ∧ v.store = s
  /-- If the key is the trusted one, nobody is asked, and only the time changes at which it was last
  seen, if anything does. -/
  known : ∀ r, Keyring.find key.hostId key.algorithm s = .ok (some r) → r.Trusts key →
    v.result = .ok () ∧ v.asked = [] ∧ ∃ seen, (records v.store).records =
      (records s).records.map fun x => if x = r then { r with lastSeen := seen } else x
  /-- In every other case the user is asked once, and told what was stored. -/
  asks : ∀ stored, Keyring.find key.hostId key.algorithm s = .ok stored →
    (∀ r, stored = some r → ¬ r.Trusts key) →
    v.asked = [{
      hostId := key.hostId, hostname := key.hostname, port := key.port, algorithm := key.algorithm
      fingerprint := fingerprint key.rawKey, rawKey := key.rawKey
      previous := stored.map KeyRecord.fingerprint }]
  rejected : ∀ q ∈ v.asked, user q = false →
    v.result = .error (.hostKeyRejected key.hostname key.algorithm) ∧ v.store = s
  /-- An accepted key is stored as the trusted one, if the store saves it. The record keeps the
  identity of the one that it replaces, and all others stay. -/
  accepted : ∀ q ∈ v.asked, user q = true → ∃ r : KeyRecord, r.Trusts key ∧ r.pair = key.pair ∧
    r.lastSeen = later ∧
    (∀ old, (records s).get? key.hostId key.algorithm = some old →
      r.id = old.id ∧ r.firstSeen = old.firstSeen) ∧
    ((records s).get? key.hostId key.algorithm = none → r.id = freshId ∧ r.firstSeen = later) ∧
    ((Keyring.upsert r s).1 = .ok () → v.result = .ok () ∧
      ∀ x, x ∈ (records v.store).records ↔ x = r ∨ x ∈ (records s).records ∧ x.pair ≠ key.pair) ∧
    ∀ e, (Keyring.upsert r s).1 = .error e →
      v.result = .error (.trustStore e.message) ∧ records v.store = records s
  /-- A key that was found good passes from then on as long as the store can be read, whatever else
  is refused. -/
  again : v.result = .ok () → ∀ s', records s' = records v.store →
    (∀ e, Keyring.find key.hostId key.algorithm s' ≠ .error e) → ∀ user now later freshId,
      (key.verify user now later freshId s').result = .ok () ∧
        (key.verify user now later freshId s').asked = []

end

/-- A record vouches for the fingerprint of a key exactly when it trusts the key. -/
theorem KeyRecord.vouchesFor_iff (r : KeyRecord) (key : PresentedKey) :
    r.vouchesFor (Multiplexer.fingerprint key.rawKey) = true ↔ r.Trusts key := by
  simp [vouchesFor, Trusts]

/-- Where ids are distinct, the record of an id is the one that is seen. -/
theorem TrustStore.records_touch {s s' : TrustStore} {r : KeyRecord} {now : Instant}
    (hids : (s.records.map KeyRecord.id).Nodup) (hr : r ∈ s.records)
    (h : s.touch? r.id now = some s') :
    s'.records = s.records.map fun x => if x = r then { r with lastSeen := now } else x := by
  obtain ⟨before, r', after, hid, hold, hnew⟩ := touch?_eq_some h
  obtain rfl : r' = r := List.inj_on_of_nodup_map hids (by simp [hold]) hr hid
  have hothers : r' ∉ before ++ after := by
    rw [hold, (List.perm_middle.map _).nodup_iff, List.map_cons, List.nodup_cons] at hids
    exact fun hmem => hids.1 (List.mem_map_of_mem hmem)
  have hkeep : ∀ xs : List KeyRecord, xs ⊆ before ++ after →
      (xs.map fun x => if x = r' then { r' with lastSeen := now } else x) = xs := by
    intro xs hxs
    refine (List.map_congr_left fun x hx => if_neg ?_).trans xs.map_id
    rintro rfl
    exact hothers (hxs hx)
  rw [hnew, hold, List.map_append, List.map_cons, if_pos rfl, hkeep before (by simp),
    hkeep after (by simp)]

namespace PresentedKey

variable {σ : Type} [Keyring σ] {s : σ} (key : PresentedKey) (user : KeyQuestion → Bool)
  (now later : Instant) (freshId : String)

/-- A store that cannot be read fails the verification, and nobody is asked. -/
theorem verify_of_unread {e : TrustError} (h : Keyring.find key.hostId key.algorithm s = .error e) :
    key.verify user now later freshId s = ⟨.error (.trustStore e.message), [], s⟩ := by
  simp only [verify, check, h]

/-- A trusted key passes without a question. -/
theorem verify_of_known {r : KeyRecord} (h : Keyring.find key.hostId key.algorithm s = .ok (some r))
    (htrusts : r.Trusts key) :
    key.verify user now later freshId s = ⟨.ok (), [], (Keyring.touch r.id now s).2⟩ := by
  have hfilter : (some r).filter (fun r => r.vouchesFor (Multiplexer.fingerprint key.rawKey)) =
      some r := by
    rw [Option.filter_some, if_pos ((r.vouchesFor_iff key).2 htrusts)]
  simp only [verify, check, h, hfilter]

/-- Any other key is up to the user. -/
theorem verify_of_unknown {stored : Option KeyRecord}
    (h : Keyring.find key.hostId key.algorithm s = .ok stored)
    (hnone : ∀ r, stored = some r → ¬ r.Trusts key) :
    key.verify user now later freshId s =
      ⟨((key.inquiry stored).answer (user (key.inquiry stored).question) later freshId s).1,
        [(key.inquiry stored).question],
        ((key.inquiry stored).answer (user (key.inquiry stored).question) later freshId s).2⟩ := by
  have hfilter : stored.filter (fun r => r.vouchesFor (Multiplexer.fingerprint key.rawKey)) =
      none := by
    refine Option.filter_eq_none_iff.2 fun r hr => ?_
    rw [r.vouchesFor_iff key]
    exact hnone r hr
  simp only [verify, check, h, hfilter]

end PresentedKey

namespace Keyring.InMemory

variable {σ : Type} [Keyring σ] {records : σ → TrustStore} (hσ : Keyring.InMemory records)
  {s : σ} {key : PresentedKey}
include hσ

/-- What is read is what is stored. -/
theorem of_find {hostId algorithm : String} {stored : Option KeyRecord}
    (h : Keyring.find hostId algorithm s = .ok stored) :
    (records s).get? hostId algorithm = stored := by
  rcases hσ.find hostId algorithm s with hread | ⟨e, hrefused⟩
  · rw [hread] at h
    injection h
  · rw [hrefused] at h
    cases h

theorem readable (h : ∀ e, Keyring.find key.hostId key.algorithm s ≠ .error e) :
    Keyring.find key.hostId key.algorithm s =
      .ok ((records s).get? key.hostId key.algorithm) :=
  (hσ.find ..).resolve_right fun ⟨e, he⟩ => h e he

variable (user : KeyQuestion → Bool) (now later : Instant) (freshId : String)

/-- A key passes that is stored as the trusted one, however the user would decide. -/
theorem verify_of_trusted (hread : ∀ e, Keyring.find key.hostId key.algorithm s ≠ .error e)
    {r : KeyRecord} (hget : (records s).get? key.hostId key.algorithm = some r)
    (htrusts : r.Trusts key) :
    (key.verify user now later freshId s).result = .ok () ∧
      (key.verify user now later freshId s).asked = [] := by
  have hfind := hσ.readable hread
  rw [hget] at hfind
  rw [key.verify_of_known user now later freshId hfind htrusts]
  exact ⟨rfl, rfl⟩

/-- Noting that a known key was seen leaves all but the time. -/
theorem records_touched (hids : ((records s).records.map KeyRecord.id).Nodup) {r : KeyRecord}
    (hr : r ∈ (records s).records) :
    ∃ seen, (records (Keyring.touch r.id now s).2).records =
      (records s).records.map fun x => if x = r then { r with lastSeen := seen } else x := by
  rcases hσ.touch r.id now s with htouch | hsame
  · exact ⟨now, TrustStore.records_touch hids hr htouch⟩
  · refine ⟨r.lastSeen, ?_⟩
    rw [hsame]
    refine ((List.map_congr_left fun x _ => ?_).trans (List.map_id _)).symm
    split
    · rename_i heq
      rw [heq]
      rfl
    · rfl

end Keyring.InMemory

namespace Inquiry

variable (key : PresentedKey) (stored : Option KeyRecord) (later : Instant) (freshId : String)

/-- The record of an accepted key trusts the key. -/
theorem trusts_accepted : ((key.inquiry stored).accepted later freshId).Trusts key :=
  ⟨trusted_accepted .., fingerprint_accepted ..⟩

theorem lastSeen_accepted : ((key.inquiry stored).accepted later freshId).lastSeen = later := by
  unfold accepted
  cases (key.inquiry stored).existing <;> rfl

theorem answer_accepted_of_ok {σ : Type} [Keyring σ] {i : Inquiry} {s : σ}
    (h : (Keyring.upsert (i.accepted later freshId) s).1 = .ok ()) :
    i.answer true later freshId s = (.ok (), (Keyring.upsert (i.accepted later freshId) s).2) := by
  simp only [answer, if_true, h]
  rfl

/-- An acceptance that the store refuses is an error. -/
theorem answer_accepted_of_error {σ : Type} [Keyring σ] {i : Inquiry} {s : σ} {e : TrustError}
    (h : (Keyring.upsert (i.accepted later freshId) s).1 = .error e) :
    i.answer true later freshId s =
      (.error (.trustStore e.message), (Keyring.upsert (i.accepted later freshId) s).2) := by
  simp only [answer, if_true, h]
  rfl

end Inquiry

namespace TrustOnFirstUse

variable {σ : Type} [Keyring σ] {records : σ → TrustStore} (hσ : Keyring.InMemory records) {s : σ}
  (key : PresentedKey) (user : KeyQuestion → Bool) (now later : Instant) (freshId : String)

/-- The rules hold where the store cannot be read. -/
theorem of_unread {e : TrustError} (h : Keyring.find key.hostId key.algorithm s = .error e) :
    TrustOnFirstUse records key user later freshId s (key.verify user now later freshId s) := by
  rw [key.verify_of_unread user now later freshId h]
  constructor <;> simp [h]

include hσ

/-- The rules hold for a trusted key. -/
theorem of_known (hkeyed : (records s).Keyed) (hids : ((records s).records.map KeyRecord.id).Nodup)
    {r : KeyRecord} (h : Keyring.find key.hostId key.algorithm s = .ok (some r))
    (htrusts : r.Trusts key) :
    TrustOnFirstUse records key user later freshId s (key.verify user now later freshId s) := by
  obtain ⟨hr, hpair⟩ := TrustStore.of_get? (hσ.of_find h)
  rw [key.verify_of_known user now later freshId h htrusts]
  exact {
    unread := by simp [h]
    known := by
      intro r' hr' _
      rw [h] at hr'
      cases hr'
      exact ⟨rfl, rfl, hσ.records_touched now hids hr⟩
    asks := by
      intro stored hstored hnone
      rw [h] at hstored
      cases hstored
      exact absurd htrusts (hnone r rfl)
    rejected := by simp
    accepted := by simp
    again := by
      intro _ s' hs' hread user now' later freshId
      have hseen : ∃ r', (records s').get? key.hostId key.algorithm = some r' ∧ r'.Trusts key := by
        rw [hs']
        rcases hσ.touch r.id now s with htouch | hsame
        · refine ⟨{ r with lastSeen := now }, (hkeyed.touch? htouch).get?_iff.2 ⟨?_, hpair⟩,
            htrusts⟩
          rw [TrustStore.records_touch hids hr htouch]
          exact List.mem_map.2 ⟨r, hr, if_pos rfl⟩
        · exact ⟨r, hsame ▸ hσ.of_find h, htrusts⟩
      obtain ⟨r', hget, htrusts'⟩ := hseen
      exact hσ.verify_of_trusted user now' later freshId hread hget htrusts' }

/-- The rules hold for a key that is not trusted. -/
theorem of_unknown {stored : Option KeyRecord}
    (h : Keyring.find key.hostId key.algorithm s = .ok stored)
    (hnone : ∀ r, stored = some r → ¬ r.Trusts key) :
    TrustOnFirstUse records key user later freshId s (key.verify user now later freshId s) := by
  have hget := hσ.of_find h
  have hpair : ((key.inquiry stored).accepted later freshId).pair = key.pair :=
    Inquiry.pair_accepted _ later freshId rfl fun r hr => (TrustStore.of_get? (hget.trans hr)).2
  have htrusts := Inquiry.trusts_accepted key stored later freshId
  rw [key.verify_of_unknown user now later freshId h hnone]
  exact {
    unread := by simp [h]
    known := by
      intro r hr hknown
      rw [h] at hr
      cases hr
      exact absurd hknown (hnone r rfl)
    asks := by
      intro stored' hstored' _
      rw [h] at hstored'
      cases hstored'
      rfl
    rejected := by
      intro q hq hrejects
      obtain rfl := List.mem_singleton.1 hq
      rw [hrejects]
      exact ⟨rfl, rfl⟩
    accepted := by
      intro q hq haccepts
      obtain rfl := List.mem_singleton.1 hq
      rw [haccepts]
      refine ⟨_, htrusts, hpair, Inquiry.lastSeen_accepted .., ?_, ?_, ?_, ?_⟩
      · intro old hold
        rw [hget] at hold
        subst hold
        exact ⟨rfl, rfl⟩
      · intro hold
        rw [hget] at hold
        subst hold
        exact ⟨rfl, rfl⟩
      · intro hsaved
        rw [Inquiry.answer_accepted_of_ok later freshId hsaved]
        refine ⟨rfl, fun x => ?_⟩
        rcases hσ.upsert ((key.inquiry stored).accepted later freshId) s with
          ⟨-, hstore⟩ | ⟨e, hrefused, -⟩
        · rw [hstore, TrustStore.mem_upsert, hpair]
        · rw [hsaved] at hrefused
          cases hrefused
      · intro e hrefused
        rw [Inquiry.answer_accepted_of_error later freshId hrefused]
        rcases hσ.upsert ((key.inquiry stored).accepted later freshId) s with
          ⟨hsaved, -⟩ | ⟨e, -, hstore⟩
        · rw [hsaved] at hrefused
          cases hrefused
        · exact ⟨rfl, hstore⟩
    again := by
      intro hok s' hs' hread user' now' later' freshId'
      cases haccepts : user (key.inquiry stored).question with
      | false =>
        rw [haccepts] at hok
        cases hok
      | true =>
        rw [haccepts] at hok hs'
        rcases hσ.upsert ((key.inquiry stored).accepted later freshId) s with
          ⟨hsaved, hstore⟩ | ⟨e, hrefused, -⟩
        · rw [Inquiry.answer_accepted_of_ok later freshId hsaved, hstore] at hs'
          refine hσ.verify_of_trusted user' now' later' freshId' hread ?_ htrusts
          obtain ⟨hhost, halgorithm⟩ := Prod.mk.inj hpair
          rw [hs', ← hhost, ← halgorithm]
          exact TrustStore.get?_upsert_self ..
        · rw [Inquiry.answer_accepted_of_error later freshId hrefused] at hok
          cases hok }

end TrustOnFirstUse

namespace Rehearsal

section Refusing

variable (s : Refusing TrustStore)

theorem find_refusing (hostId algorithm : String) : Keyring.find hostId algorithm s =
    if s.read then .error (.disk "read refused") else .ok (s.store.get? hostId algorithm) := rfl

theorem upsert_refusing (r : KeyRecord) : Keyring.upsert r s =
    if s.write then (.error (.disk "write refused"), s)
    else (.ok (), { s with store := s.store.upsert r }) := rfl

theorem store_touch_refusing (id : String) (now : Instant) : (Keyring.touch id now s).2.store =
    if s.touch then s.store else (s.store.touch? id now).getD s.store := by
  have htouch : Keyring.touch id now s =
    if s.touch then (.error (.disk "touch refused"), s)
    else ((Keyring.touch id now s.store).1,
      { s with store := (Keyring.touch id now s.store).2 }) := rfl
  rw [htouch]
  split
  · rfl
  · cases h : s.store.touch? id now <;> simp [Keyring.touch, h]

end Refusing

/-- A store of a rehearsal keeps its records in memory, whatever it refuses. -/
theorem inMemory_refusing : Keyring.InMemory fun s : Refusing TrustStore => s.store where
  find hostId algorithm s := by
    rw [find_refusing]
    cases s.read <;> simp
  upsert r s := by
    rw [upsert_refusing]
    cases s.write <;> simp
  touch id now s := by
    rw [store_touch_refusing]
    cases s.touch <;> cases s.store.touch? id now <;> simp

theorem TrustScene.run_freshId (s : TrustScene) : TrustScene.freshId.run s =
    (recordId s.freshIds, { s with freshIds := s.freshIds + 1 }) := rfl

/-- A rehearsed verification is one whose user answers at once. -/
theorem TrustScene.run_verify (key : PresentedKey) (accept : Bool) (s : TrustScene) :
    (TrustScene.verify key accept).run s =
      let v := key.verify (fun _ => accept) firstMoment firstMoment (recordId s.freshIds) s.store
      (v.result, { s with
        store := v.store
        hosts := key.hostId :: s.hosts
        freshIds := s.freshIds + v.asked.length
        asked := v.asked.head?.or s.asked }) := by
  unfold TrustScene.verify PresentedKey.verify
  rcases h : key.check firstMoment s.store with ⟨verdict | i, store⟩
  · simp [h, TrustScene.meet]
    rfl
  · simp [h, TrustScene.meet, TrustScene.run_freshId]
    rfl

end Rehearsal

/-- A key in a store in memory is verified by the rules of trust on first use: what is asked,
returned and left follows from the records, from what the store refuses and from what the user
decides. -/
theorem trustOnFirstUse_verify {σ : Type} [Keyring σ] {records : σ → TrustStore}
    (hσ : Keyring.InMemory records) (s : σ) (hkeyed : (records s).Keyed)
    (hids : ((records s).records.map KeyRecord.id).Nodup) (key : PresentedKey)
    (user : KeyQuestion → Bool) (now later : Instant) (freshId : String) :
    TrustOnFirstUse records key user later freshId s (key.verify user now later freshId s) := by
  rcases hσ.find key.hostId key.algorithm s with hfind | ⟨e, hfind⟩
  · by_cases hknown : ∃ r, (records s).get? key.hostId key.algorithm = some r ∧ r.Trusts key
    · obtain ⟨r, hget, htrusts⟩ := hknown
      rw [hget] at hfind
      exact .of_known hσ key user now later freshId hkeyed hids hfind htrusts
    · exact .of_unknown hσ key user now later freshId hfind fun r hget htrusts =>
        hknown ⟨r, hget, htrusts⟩
  · exact .of_unread key user now later freshId hfind

/-- The key of a host has changed; the store takes changes, and refuses to note what was seen. -/
theorem trustOnFirstUse_of_changed :
    let s : Rehearsal.Refusing TrustStore :=
      { store := .ofRecords
          [⟨"a", "web", "ssh-rsa", "SHA256:old", Vetting.dayOne, Vetting.dayOne, true⟩,
            ⟨"b", "db", "ssh-rsa", "SHA256:db", Vetting.dayOne, Vetting.dayOne, true⟩]
        touch := true }
    Keyring.InMemory (fun s : Rehearsal.Refusing TrustStore => s.store) ∧ s.store.Keyed ∧
      (s.store.records.map KeyRecord.id).Nodup ∧
      TrustOnFirstUse (fun s : Rehearsal.Refusing TrustStore => s.store) (Vetting.offered [1])
        (fun _ => true) Vetting.dayOne "c" s
        ((Vetting.offered [1]).verify (fun _ => true) Vetting.dayOne Vetting.dayOne "c" s) := by
  intro s
  have hkeyed : s.store.Keyed := TrustStore.keyed_ofRecords _
  have hids : (s.store.records.map KeyRecord.id).Nodup := by decide
  exact ⟨Rehearsal.inMemory_refusing, hkeyed, hids,
    trustOnFirstUse_verify Rehearsal.inMemory_refusing s hkeyed hids _ _ _ _ _⟩

end Multiplexer
