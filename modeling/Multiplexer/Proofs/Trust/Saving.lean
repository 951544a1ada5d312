import Multiplexer.Proofs.Disk.Entries
import Multiplexer.Proofs.Trust.Codec
import Multiplexer.Proofs.Trust.FirstUse

/-!
# Saving a change

A change of a trust file is made in memory and then saved in three operations on
files. What each of them leaves is told here, and what a call leaves that ends in
an error: the change stays in memory, the file stays as it was.
-/

namespace Multiplexer

inductive KeyringCall where
  | upsert (r : KeyRecord) (h : r.Timed)
  | touch (id : String) (now : Instant) (h : now.Valid)

namespace KeyringCall

def carryOut {σ : Type} [Keyring σ] : KeyringCall → σ → Except TrustError Unit × σ
  | .upsert r _ => Keyring.upsert r
  | .touch id now _ => Keyring.touch id now

/-- What a call makes of the records; nothing if it is about a record that is not there. -/
def change? : KeyringCall → TrustStore → Option TrustStore
  | .upsert r _, s => some (s.upsert r)
  | .touch id now _, s => s.touch? id now

/-- What a call fails with whose record is not there. -/
def notFound : KeyringCall → TrustError
  | .upsert r _ => .recordNotFound r.id
  | .touch id _ _ => .recordNotFound id

variable {s s' : TrustStore}

/-- A change leaves one record at most for each host and algorithm. -/
theorem keyed_change? {c : KeyringCall} (h : s.Keyed) (hchange : c.change? s = some s') :
    s'.Keyed := by
  cases c with
  | upsert r _ =>
    cases hchange
    exact h.upsert r
  | touch id now _ => exact h.touch? hchange

theorem timed_change? {c : KeyringCall} (h : s.Timed) (hchange : c.change? s = some s') :
    s'.Timed := by
  cases c with
  | upsert r hr =>
    cases hchange
    exact h.upsert hr
  | touch id now hnow => exact h.touch? hnow hchange

/-- A call on a file changes the records and saves them, unless its record is not there. -/
theorem carryOut_file (c : KeyringCall) (f : TrustFile) :
    c.carryOut f = match c.change? f.store with
      | some s => TrustFile.persist { f with store := s }
      | none => (.error c.notFound, f) := by
  cases c with
  | upsert r _ => rfl
  | touch id now _ =>
    unfold carryOut Keyring.touch change?
    cases f.store.touch? id now <;> rfl

end KeyringCall

namespace TrustFile

variable {f f' : TrustFile} {e : TrustError}

/-- The temporary file is another one in the same directory. -/
theorem temporary_spec {path : Path} (hpath : path ≠ []) :
    temporary path ≠ [] ∧ temporary path ≠ path ∧
      List.length (temporary path) = List.length path ∧
      List.dropLast (temporary path) = List.dropLast path :=
  Disk.withExtension_spec hpath (by decide)

/-- Saving leaves what is in memory. -/
theorem store_persist (f : TrustFile) : f.persist.2.store = f.store := by
  unfold persist
  repeat' split
  all_goals rfl

/-- An error of saving is one of the disk. It leaves memory and the entry of the file alone. -/
theorem persist_error (h : f.persist = (.error e, f')) :
    f'.store = f.store ∧ f'.path = f.path ∧ f'.disk.entry? f.path = f.disk.entry? f.path ∧
      ∃ reason, e = .disk reason := by
  have hkeep {disk : Disk} (hdisk : f.disk.createFolders f.path.dropLast = .ok disk) :
      disk.entry? f.path = f.disk.entry? f.path := by
    by_cases hpath : f.path = []
    · simp [hpath]
    · exact Disk.entry?_of_createFolders hpath hdisk rfl
  unfold persist at h
  split at h
  · cases h
    exact ⟨rfl, rfl, rfl, _, rfl⟩
  · rename_i disk hfolders
    split at h
    · cases h
      exact ⟨rfl, rfl, hkeep hfolders, _, rfl⟩
    · rename_i disk' hwrite
      split at h
      · cases h
        refine ⟨rfl, rfl, ?_, _, rfl⟩
        by_cases hpath : f.path = []
        · simp [hpath]
        · obtain ⟨hne, hother, -, -⟩ := temporary_spec hpath
          simp only [Disk.write_eq_ok hwrite, Disk.entry?_put _ hne, hother.symm, if_false,
            hkeep hfolders]
      · cases h

/-- What has been saved is in the file, and memory is as it was. -/
theorem persist_ok (h : f.persist = (.ok (), f')) :
    f'.store = f.store ∧ f'.path = f.path ∧ f'.disk.Reaches f.path ∧
      f'.disk.entry? f.path = some (.file (text f.store).toUTF8) := by
  unfold persist at h
  split at h
  · cases h
  · rename_i disk hfolders
    split at h
    · cases h
    · rename_i disk' hwrite
      split at h
      · cases h
      · rename_i disk'' hrename
        cases h
        exact ⟨rfl, rfl, Disk.replaced (by decide) hfolders hwrite hrename⟩

/-- A call that ends in an error was about a record that is not there and changes nothing, or else
its change is in memory and the file is as it was. -/
theorem error_cases {c : KeyringCall} (h : c.carryOut f = (.error e, f')) :
    (c.change? f.store = none ∧ e = c.notFound ∧ f' = f) ∨
      ∃ s reason, c.change? f.store = some s ∧ e = .disk reason ∧ f'.store = s ∧
        f'.path = f.path ∧ f'.disk.entry? f.path = f.disk.entry? f.path := by
  rw [KeyringCall.carryOut_file] at h
  cases hchange : c.change? f.store with
  | none =>
    rw [hchange] at h
    cases h
    exact .inl ⟨rfl, rfl, rfl⟩
  | some s =>
    rw [hchange] at h
    obtain ⟨hstore, hpath, hentry, reason, hreason⟩ := persist_error h
    exact .inr ⟨s, reason, rfl, hreason, hstore, hpath, hentry⟩

/-- A call that does not fail for the disk was about a record that is not there and changes nothing,
or else its change is in memory and in the file. -/
theorem saved_cases {c : KeyringCall} (h : ∀ reason, (c.carryOut f).1 ≠ .error (.disk reason)) :
    (c.change? f.store = none ∧ c.carryOut f = (.error c.notFound, f)) ∨
      ∃ s f', c.change? f.store = some s ∧ c.carryOut f = (.ok (), f') ∧ f'.store = s ∧
        f'.path = f.path ∧ f'.disk.Reaches f.path ∧
        f'.disk.entry? f.path = some (.file (text s).toUTF8) := by
  rw [KeyringCall.carryOut_file] at h ⊢
  cases hchange : c.change? f.store with
  | none => exact .inl ⟨rfl, rfl⟩
  | some s =>
    simp only [hchange] at h
    cases hpersist : persist { f with store := s } with
    | mk saved f' =>
      rw [hpersist] at h
      cases saved with
      | error e =>
        obtain ⟨-, -, -, reason, rfl⟩ := persist_error hpersist
        exact absurd rfl (h reason)
      | ok _ => exact .inr ⟨s, f', rfl, hpersist, persist_ok hpersist⟩

/-- How a file in memory is compared with a key. -/
theorem check_eq (key : PresentedKey) (now : Instant) (f : TrustFile) :
    key.check now f =
      match (f.store.get? key.hostId key.algorithm).filter
        fun r => r.vouchesFor (fingerprint key.rawKey) with
      | some r => (.settled (.ok ()), (Keyring.touch r.id now f).2)
      | none => (.asking (key.inquiry (f.store.get? key.hostId key.algorithm)), f) := rfl

/-- A key that was accepted passes from then on, whether or not it could be saved. -/
theorem passes_after_answer {key : PresentedKey} {now : Instant} {i : Inquiry}
    (h : key.check now f = (.asking i, f)) (f₁ : TrustFile) (soon later : Instant) (freshId : String) :
    (key.check later (i.answer true soon freshId f₁).2).1 = .settled (.ok ()) := by
  have hinquiry : i = key.inquiry (f.store.get? key.hostId key.algorithm) := by
    rw [check_eq] at h
    split at h
    · cases h
    · injection h with h _
      injection h with h
      exact h.symm
  have hpair : (i.accepted soon freshId).pair = key.pair := by
    subst hinquiry
    exact Inquiry.pair_accepted _ soon freshId rfl fun r hr => (TrustStore.of_get? hr).2
  have hvouches : (i.accepted soon freshId).vouchesFor (fingerprint key.rawKey) = true := by
    subst hinquiry
    simp [KeyRecord.vouchesFor, PresentedKey.inquiry]
  have hstore : (i.answer true soon freshId f₁).2.store =
      f₁.store.upsert (i.accepted soon freshId) :=
    store_persist { f₁ with store := f₁.store.upsert (i.accepted soon freshId) }
  have hget : (i.answer true soon freshId f₁).2.store.get? key.hostId key.algorithm =
      some (i.accepted soon freshId) := by
    obtain ⟨hhost, halgorithm⟩ := Prod.mk.inj hpair
    rw [hstore, ← hhost, ← halgorithm]
    exact TrustStore.get?_upsert_self ..
  rw [check_eq, hget]
  simp only [Option.filter_some, hvouches, if_true]

/-- A call that could not be saved leaves its change in memory, so a key whose acceptance ended in
an error passes the next time, while the file is as it was. Only a call about a record that is not
there changes nothing. -/
theorem unsaved_change_served (f : TrustFile) :
    (∀ c e f', KeyringCall.carryOut c f = (.error e, f') →
      (c.change? f.store = none ∧ e = c.notFound ∧ f' = f) ∨
        ∃ s reason, c.change? f.store = some s ∧ e = .disk reason ∧ f'.store = s ∧
          f'.path = f.path ∧ f'.disk.entry? f.path = f.disk.entry? f.path) ∧
    ∀ (key : PresentedKey) now i, key.check now f = (.asking i, f) →
      ∀ (f₁ : TrustFile) soon freshId e f', i.answer true soon freshId f₁ = (.error e, f') →
        ∀ later, (key.check later f').1 = .settled (.ok ()) := by
  refine ⟨fun c e f' h => error_cases h, fun key now i hask f₁ soon freshId e f' hanswer later => ?_⟩
  have hpass := passes_after_answer hask f₁ soon later freshId
  rwa [hanswer] at hpass

/-- A file that is missing, with a directory in place of its temporary file. -/
def obstructed : TrustFile :=
  { path := ["hosts.json"], disk := ⟨[(["hosts.json.tmp"], .folder)]⟩ }

def newcomer : PresentedKey := ⟨"web", "web.example.com", 22, "ssh-ed25519", [107, 49]⟩

def noon : Instant := { day := 20000, second := 43200 }

theorem valid_noon : noon.Valid := ⟨by decide, by decide, by decide, by decide⟩

/-- The key of a newcomer is accepted, cannot be saved, and passes all the same. -/
theorem newcomer_passes_unsaved :
    ∃ i f', newcomer.check noon obstructed = (.asking i, obstructed) ∧
      i.answer true noon "first" obstructed =
        (.error (.trustStore "IO error: Is a directory (os error 21)"), f') ∧
      (newcomer.check noon f').1 = .settled (.ok ()) := by
  have hask : newcomer.check noon obstructed = (.asking (newcomer.inquiry none), obstructed) := rfl
  have hanswer : (newcomer.inquiry none).answer true noon "first" obstructed =
      (.error (.trustStore "IO error: Is a directory (os error 21)"),
        ((newcomer.inquiry none).answer true noon "first" obstructed).2) := rfl
  exact ⟨_, _, hask, hanswer,
    (unsaved_change_served obstructed).2 _ _ _ hask _ _ _ _ _ hanswer noon⟩

/-- A call that ends in an error and changes what a file serves, which opened without fault; and a
key whose acceptance ends in an error and that passes the next time without a question. -/
theorem failed_save_changes_records :
    load ["hosts.json"] obstructed.disk = .ok obstructed ∧
    (∃ f', (KeyringCall.upsert (.accepted "first" "web" "ssh-ed25519" "SHA256:new" noon)
          ⟨valid_noon, valid_noon⟩).carryOut obstructed =
        (.error (.disk "Is a directory (os error 21)"), f') ∧
      f'.store.get? "web" "ssh-ed25519" ≠ obstructed.store.get? "web" "ssh-ed25519" ∧
      f'.store.forHost "web" ≠ obstructed.store.forHost "web") ∧
    ∃ i e f', newcomer.check noon obstructed = (.asking i, obstructed) ∧
      i.answer true noon "first" obstructed = (.error e, f') ∧
      (newcomer.check noon f').1 = .settled (.ok ()) := by
  have hask : newcomer.check noon obstructed = (.asking (newcomer.inquiry none), obstructed) := rfl
  have hanswer : (newcomer.inquiry none).answer true noon "first" obstructed =
      (.error (.trustStore "IO error: Is a directory (os error 21)"),
        ((newcomer.inquiry none).answer true noon "first" obstructed).2) := rfl
  exact ⟨rfl, ⟨_, rfl, by decide, by decide⟩, _, _, _, hask, hanswer,
    passes_after_answer hask obstructed noon noon "first"⟩

end TrustFile

end Multiplexer
