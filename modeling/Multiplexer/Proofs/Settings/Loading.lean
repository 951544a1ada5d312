import Mathlib.Tactic.SplitIfs
import Multiplexer.Proofs.Disk.Entries
import Multiplexer.Proofs.Settings.Clamping
import Multiplexer.Settings.Store

/-!
# Loading settings

A settings file that can be read gives settings, whatever is in it, unless it is
of a later version. What is damaged is copied aside first. But a file that is no
text counts as one that cannot be read: its bytes are refused and not copied.
-/

namespace Multiplexer

namespace Disk

variable {d : Disk} {p q : Path} {bytes : ByteArray}

theorem find_of_read (h : d.read p = .ok bytes) : d.find p = .ok (some (.file bytes)) := by
  unfold read at h
  cases hfind : d.find p with
  | error e => simp [hfind, bind, Except.bind] at h
  | ok found =>
    simp only [hfind, bind, Except.bind] at h
    split at h
    · cases h
      rfl
    · cases h
    · cases h

/-- The bytes of a file are its text, if they are one. -/
theorem readText_of_read (h : d.read p = .ok bytes) :
    d.readText p = match String.fromUTF8? bytes with
      | some text => .ok text
      | none => .error .notText := by
  rw [readText, h]
  rfl

/-- Paths in one directory are reached together. -/
theorem Reaches.neighbour (h : d.Reaches p) (hlength : List.length q = List.length p)
    (hdir : List.dropLast q = List.dropLast p) : d.Reaches q := by
  intro i hi
  have htake : ∀ r : Path, i < List.length r → List.take i r = List.take i (List.dropLast r) := by
    intro r hr
    rw [List.dropLast_eq_take, List.take_take, Nat.min_eq_left (by omega)]
  rw [htake q hi, hdir, ← htake p (by omega)]
  exact h i (by omega)

/-- Only a directory in its place keeps a file from being written where the way is clear. -/
theorem write_of_reaches (h : d.Reaches p) (hfree : d.entry? p ≠ some .folder)
    (bytes : ByteArray) : d.write p bytes = .ok (d.put p (.file bytes)) := by
  unfold write
  rw [find_of_reaches h]
  cases hentry : d.entry? p with
  | none => rfl
  | some e =>
    cases e with
    | file old => rfl
    | folder => exact absurd hentry hfree

theorem copy_of_read (h : d.read p = .ok bytes) (q : Path) : d.copy p q = d.write q bytes := by
  rw [copy, find_of_read h]
  rfl

end Disk

namespace SettingsFile

variable {now : Instant} {p : Path} {d : Disk} {bytes : ByteArray}

def aside (now : Instant) (p : Path) : Path := Disk.withExtension p ("json.backup." ++ stamp now)

def decode? (bytes : ByteArray) : Option Settings :=
  (String.fromUTF8? bytes).bind Settings.ofText?

theorem aside_spec (now : Instant) (hp : p ≠ []) : aside now p ≠ [] ∧ aside now p ≠ p ∧
    List.length (aside now p) = List.length p ∧ List.dropLast (aside now p) = List.dropLast p :=
  Disk.withExtension_spec hp (by rw [String.toList_append]; exact List.mem_append_left _ (by decide))

section Copy

theorem ne_nil_of_read (h : d.read p = .ok bytes) : p ≠ [] := by
  rintro rfl
  have hfolder := (Disk.entry?_of_find (Disk.find_of_read h)).symm.trans d.entry?_nil
  cases hfolder

theorem reaches_aside (now : Instant) (h : d.read p = .ok bytes) : d.Reaches (aside now p) :=
  have hspec := aside_spec now (ne_nil_of_read h)
  (Disk.reaches_of_find (Disk.find_of_read h)).neighbour hspec.2.2.1 hspec.2.2.2

/-- Only a directory in its place keeps the copy from being made. -/
theorem copy_aside (now : Instant) (h : d.read p = .ok bytes)
    (hfree : d.entry? (aside now p) ≠ some .folder) : ∃ d', d.copy p (aside now p) = .ok d' :=
  ⟨_, (Disk.copy_of_read h _).trans (Disk.write_of_reaches (reaches_aside now h) hfree bytes)⟩

/-- The copy has the bytes of the file, and the file and all else is as it was. -/
theorem copied (h : d.read p = .ok bytes) {d' : Disk} (hcopy : d.copy p (aside now p) = .ok d') :
    d'.read (aside now p) = .ok bytes ∧ d'.read p = .ok bytes ∧
      ∀ q, q ≠ aside now p → d'.entry? q = d.entry? q := by
  obtain ⟨hne, hother, hlength, hdir⟩ := aside_spec now (ne_nil_of_read h)
  obtain rfl := Disk.write_eq_ok ((Disk.copy_of_read h _).symm.trans hcopy)
  have hfile := Disk.entry?_of_find (Disk.find_of_read h)
  have hreaches := Disk.reaches_of_find (Disk.find_of_read h)
  refine ⟨?_, ?_, fun q hq => by rw [Disk.entry?_put d hne, if_neg hq]⟩
  · exact Disk.read_of_reaches ((reaches_aside now h).put hne (Disk.beside_of_length (Nat.le_refl _)) _)
      (by rw [Disk.entry?_put d hne, if_pos rfl])
  · exact Disk.read_of_reaches (hreaches.put hne (Disk.beside_of_length (by omega)) _)
      (by rw [Disk.entry?_put d hne, if_neg hother.symm, hfile])

end Copy

section Verdict

/-! What bytes are taken for does not depend on where they stand. -/

/-- Whether some bytes are a text that gives no settings. -/
def damaged (bytes : ByteArray) : Bool :=
  (String.fromUTF8? bytes).any fun text => (Settings.ofText? text).isNone

def verdict (bytes : ByteArray) : Except SettingsError Settings :=
  match String.fromUTF8? bytes with
  | none => .error (.disk .notText)
  | some text => (interpret text).map fun s => s.getD {}

/-- Some bytes are no text, damaged, or settings. -/
theorem content (bytes : ByteArray) : String.fromUTF8? bytes = none ∨ damaged bytes = true ∨
    ∃ s, decode? bytes = some s := by
  unfold damaged decode?
  cases String.fromUTF8? bytes with
  | none => exact .inl rfl
  | some text =>
    cases hsettings : Settings.ofText? text with
    | none => simp [hsettings]
    | some s => exact .inr (.inr ⟨s, hsettings⟩)

/-- Bytes that are no text are refused. -/
theorem verdict_of_notText (h : String.fromUTF8? bytes = none) :
    verdict bytes = .error (.disk .notText) := by
  rw [verdict, h]

/-- A damaged text gives the default settings. -/
theorem verdict_of_damaged (h : damaged bytes = true) : verdict bytes = .ok {} := by
  obtain ⟨text, htext, hnone⟩ := (Option.any_eq_true _ _).mp h
  simp only [verdict, htext, interpret, Option.isNone_iff_eq_none.mp hnone]
  rfl

/-- Settings are made valid, unless they are of a later version. -/
theorem verdict_of_decode {s : Settings} (h : decode? bytes = some s) :
    verdict bytes = if settingsVersion < s.version then .error (.versionTooNew s.version)
      else .ok s.sanitized := by
  obtain ⟨text, htext, hsettings⟩ := Option.bind_eq_some_iff.mp h
  simp only [verdict, htext, interpret, hsettings]
  split <;> rfl

theorem decode?_of_notText (h : String.fromUTF8? bytes = none) : decode? bytes = none := by
  rw [decode?, h]
  rfl

theorem decode?_of_damaged (h : damaged bytes = true) : decode? bytes = none := by
  obtain ⟨text, htext, hnone⟩ := (Option.any_eq_true _ _).mp h
  rw [decode?, htext]
  exact Option.isNone_iff_eq_none.mp hnone

theorem fromUTF8?_of_damaged (h : damaged bytes = true) : String.fromUTF8? bytes ≠ none := by
  obtain ⟨text, htext, -⟩ := (Option.any_eq_true _ _).mp h
  simp [htext]

theorem fromUTF8?_of_decode {s : Settings} (h : decode? bytes = some s) :
    String.fromUTF8? bytes ≠ none := fun hnone => by simp [decode?_of_notText hnone] at h

/-- A version is too new exactly when the settings in the file name it and it is. -/
theorem verdict_tooNew_iff (v : Nat) : verdict bytes = .error (.versionTooNew v) ↔
    ∃ s, decode? bytes = some s ∧ s.version = v ∧ settingsVersion < v := by
  rcases content bytes with h | h | ⟨s, h⟩
  · simp [verdict_of_notText h, decode?_of_notText h]
  · simp [verdict_of_damaged h, decode?_of_damaged h]
  · rw [verdict_of_decode h, h]
    split_ifs with hnew
    · simp only [Except.error.injEq, SettingsError.versionTooNew.injEq, Option.some.injEq,
        exists_eq_left']
      exact ⟨fun he => ⟨he, he ▸ hnew⟩, And.left⟩
    · simp only [Option.some.injEq, exists_eq_left', false_iff]
      rintro ⟨rfl, hnew'⟩
      exact hnew hnew'

/-- A file that can be read is refused exactly when it is no text. -/
theorem verdict_disk_iff (e : DiskError) : verdict bytes = .error (.disk e) ↔
    e = .notText ∧ String.fromUTF8? bytes = none := by
  rcases content bytes with h | h | ⟨s, h⟩
  · simp [verdict_of_notText h, h, eq_comm]
  · simp [verdict_of_damaged h, fromUTF8?_of_damaged h]
  · rw [verdict_of_decode h]
    split_ifs <;> simp [fromUTF8?_of_decode h]

/-- Settings that are given out are valid and of a known version. -/
theorem sound_of_verdict {s : Settings} (hs : verdict bytes = .ok s) :
    s.layout.isValid = true ∧ s.version ≤ settingsVersion := by
  rcases content bytes with h | h | ⟨k, h⟩
  · simp [verdict_of_notText h] at hs
  · obtain rfl : {} = s := by simpa [verdict_of_damaged h] using hs
    exact ⟨by decide, Nat.le_refl _⟩
  · rw [verdict_of_decode h] at hs
    split_ifs at hs with hnew
    obtain rfl : k.sanitized = s := by simpa using hs
    exact ⟨k.layout.isValid_sanitized, Nat.not_lt.mp hnew⟩

end Verdict

/-- A backup copies the file aside. -/
theorem backup_of_read (now : Instant) (h : d.read p = .ok bytes) :
    backup now p d = (d.copy p (aside now p)).map fun d' => (aside now p, d') := by
  have hexists : d.exists? p = true := by rw [Disk.exists?, Disk.find_of_read h]
  unfold backup
  rw [hexists]
  show (d.copy p (aside now p) >>= fun d' => pure (aside now p, d')) = _
  cases d.copy p (aside now p) <;> rfl

/-- Loading a file that can be read goes by its bytes. -/
theorem load_of_read (now : Instant) (h : d.read p = .ok bytes) :
    load now p d = (verdict bytes,
      if damaged bytes then match d.copy p (aside now p) with
        | .ok d' => d'
        | .error _ => d
      else d) := by
  rw [load, Disk.readText_of_read h, backup_of_read now h, verdict, damaged]
  cases String.fromUTF8? bytes with
  | none => rfl
  | some text =>
    dsimp only [interpret]
    cases hsettings : Settings.ofText? text with
    | none => cases d.copy p (aside now p) <;> simp [hsettings, Except.map]
    | some s => by_cases hnew : settingsVersion < s.version <;> simp [hsettings, hnew, Except.map]

structure Loads (now : Instant) (p : Path) (d : Disk) (bytes : ByteArray) : Prop where
  tooNew_iff : ∀ v, (load now p d).1 = .error (.versionTooNew v) ↔
    ∃ s, decode? bytes = some s ∧ s.version = v ∧ settingsVersion < v
  /-- Bytes that are no text are the only other thing that is refused. -/
  disk_iff : ∀ e, (load now p d).1 = .error (.disk e) ↔
    e = .notText ∧ String.fromUTF8? bytes = none
  sound : ∀ s, (load now p d).1 = .ok s → s.layout.isValid = true ∧ s.version ≤ settingsVersion
  kept : ∀ s, decode? bytes = some s → s.version ≤ settingsVersion →
    (load now p d).1 = .ok { s with layout := if s.layout.isValid then s.layout else {} }
  /-- Text that is damaged counts as the default settings, and its bytes are copied aside, which
  only a directory can prevent. -/
  copied : ∀ text, String.fromUTF8? bytes = some text → Settings.ofText? text = none →
    (load now p d).1 = .ok {} ∧
      (∀ d', d.copy p (aside now p) = .ok d' →
        (load now p d).2 = d' ∧ d'.read (aside now p) = .ok bytes) ∧
      (d.entry? (aside now p) ≠ some .folder → ∃ d', d.copy p (aside now p) = .ok d')
  /-- Nothing else leaves a copy. -/
  unchanged : decode? bytes ≠ none ∨ String.fromUTF8? bytes = none → (load now p d).2 = d
  spared : (load now p d).2.read p = .ok bytes
  elsewhere : ∀ q, q ≠ aside now p → Disk.entry? (load now p d).2 q = d.entry? q

/-- Whatever is in a settings file that can be read, it is loaded by these rules. -/
theorem loads_of_read (now : Instant) (h : d.read p = .ok bytes) : Loads now p d bytes := by
  have hload := load_of_read now h
  constructor
  case tooNew_iff => rw [hload]; exact verdict_tooNew_iff
  case disk_iff => rw [hload]; exact verdict_disk_iff
  case sound => rw [hload]; exact fun _ => sound_of_verdict
  case kept =>
    intro s hs hold
    rw [hload, verdict_of_decode hs]
    exact if_neg (Nat.not_lt.mpr hold)
  case copied =>
    intro text htext hnone
    have hdamaged : damaged bytes = true := by simp [damaged, htext, hnone]
    rw [hload, if_pos hdamaged]
    refine ⟨verdict_of_damaged hdamaged, fun d' hcopy => ⟨by rw [hcopy], ?_⟩, copy_aside now h⟩
    exact (SettingsFile.copied h hcopy).1
  case unchanged =>
    intro hcontent
    have hdamaged : damaged bytes ≠ true := by
      rintro hdamaged
      rcases hcontent with hdecode | hnone
      · exact hdecode (decode?_of_damaged hdamaged)
      · exact fromUTF8?_of_damaged hdamaged hnone
    rw [hload, if_neg hdamaged]
  case spared =>
    rw [hload]
    split_ifs
    · cases hcopy : d.copy p (aside now p) with
      | error e => exact h
      | ok d' => exact (SettingsFile.copied h hcopy).2.1
    · exact h
  case elsewhere =>
    intro q hq
    rw [hload]
    split_ifs
    · cases hcopy : d.copy p (aside now p) with
      | error e => rfl
      | ok d' => exact (SettingsFile.copied h hcopy).2.2 q hq
    · rfl

/-- A file that ends too soon. -/
theorem loads_of_brace :
    let d : Disk := ⟨[(["settings.json"], .file "\x7b".toUTF8)]⟩
    d.read ["settings.json"] = .ok "\x7b".toUTF8 ∧
      ∀ now, Loads now ["settings.json"] d "\x7b".toUTF8 := by
  intro d
  have hread : d.read ["settings.json"] = .ok "\x7b".toUTF8 := rfl
  exact ⟨hread, fun now => loads_of_read now hread⟩

/-- A file of one byte that is no text. It gives neither settings nor a version that is too new,
and no copy of it is made, though nothing is in the way of one. -/
theorem load_fails_on_stray_byte :
    let d : Disk := ⟨[(["settings.json"], .file ⟨#[0xff]⟩)]⟩
    d.read ["settings.json"] = .ok ⟨#[0xff]⟩ ∧ decode? ⟨#[0xff]⟩ = none ∧
      ∀ now, load now ["settings.json"] d = (.error (.disk .notText), d) ∧
        d.entry? (aside now ["settings.json"]) = none ∧
        ∃ d', d.copy ["settings.json"] (aside now ["settings.json"]) = .ok d' := by
  intro d
  have hread : d.read ["settings.json"] = .ok ⟨#[0xff]⟩ := rfl
  refine ⟨hread, rfl, fun now => ?_⟩
  obtain ⟨hne, hother, -⟩ := aside_spec now (ne_nil_of_read hread)
  have hfree : d.entry? (aside now ["settings.json"]) = none := by
    rw [Disk.entry?_of_ne_nil _ hne]
    simp [d, List.lookup_cons, beq_eq_false_iff_ne.mpr hother]
  exact ⟨load_of_read now hread, hfree, copy_aside now hread (by simp [hfree])⟩

end SettingsFile

end Multiplexer
