import Multiplexer.Proofs.Settings.Codec
import Multiplexer.Proofs.Settings.Loading

/-!
# Loading what was saved

Settings that were saved are loaded again, and only a layout that is out of range
is replaced. This is so as long as the numbers of the layout are finite. One that
is not finite is saved without complaint, but the file then counts as damaged, and
nothing that it holds is loaded.
-/

namespace Multiplexer

namespace LayoutSettings

/-- A number between zero and one is finite. -/
theorem isFinite_of_properRatio {x : Binary64} (h : properRatio x = true) : x.isFinite = true := by
  obtain ⟨hpos, hlt⟩ := properRatio_iff.1 h
  have hzero : Binary64.zero.key = 0 := by decide
  have hone : Binary64.one.key < Binary64.ceiling := by decide
  obtain ⟨-, -, hpos⟩ := Binary64.lt_iff.1 hpos
  obtain ⟨-, -, hlt⟩ := Binary64.lt_iff.1 hlt
  unfold Binary64.key at hpos hlt hzero hone
  unfold Binary64.isFinite
  cases hnegative : x.negative with
  | true =>
    simp only [hnegative, if_true] at hpos
    omega
  | false =>
    simp only [hnegative, Bool.false_eq_true, if_false] at hpos hlt
    simp only [decide_eq_true_eq]
    omega

/-- The numbers of a valid layout are finite. -/
theorem isFinite_of_isValid {s : LayoutSettings} (h : s.isValid = true) :
    ∀ x ∈ s.values, x.isFinite = true := by
  obtain ⟨hmin, hordered, hmax, hdefault⟩ := isValid_iff.1 h
  have hmin' := properRatio_iff.2 ⟨hmin, Binary64.lt_of_le_of_lt hordered hmax⟩
  have hmax' := properRatio_iff.2 ⟨Binary64.lt_of_lt_of_le hmin hordered, hmax⟩
  simpa [values] using ⟨isFinite_of_properRatio hdefault, isFinite_of_properRatio hmin',
    isFinite_of_properRatio hmax'⟩

end LayoutSettings

namespace SettingsFile

variable {s : Settings} {p : Path} {d d' : Disk}

/-- What was saved is in the file. -/
theorem save_ok (h : save s p d = (.ok (), d')) :
    d'.Reaches p ∧ d'.entry? p = some (.file s.text.toUTF8) := by
  unfold save at h
  split at h
  · cases h
  · rename_i hfolders
    split at h
    · cases h
    · rename_i hwrite
      split at h
      · cases h
      · rename_i hrename
        cases h
        exact Disk.replaced (by decide) hfolders hwrite hrename

/-- Settings whose layout has a number that is not finite are saved and then lost, and a copy is all
that is left of them. -/
theorem load_of_not_finite (hsave : save s p d = (.ok (), d')) {x : Binary64}
    (hx : x ∈ s.layout.values) (h : x.isFinite = false) (now : Instant) :
    (load now p d').1 = .ok {} ∧ (load now p d').2.read p = .ok s.text.toUTF8 ∧
      (d'.entry? (aside now p) ≠ some .folder →
        (load now p d').2.read (aside now p) = .ok s.text.toUTF8) := by
  obtain ⟨hreaches, hentry⟩ := save_ok hsave
  have hread := Disk.read_of_reaches hreaches hentry
  have hdamaged : damaged s.text.toUTF8 = true := by
    rw [damaged, Disk.fromUTF8?_toUTF8, Option.any_some, Settings.ofText?_of_not_finite hx h]
    rfl
  rw [load_of_read now hread, if_pos hdamaged]
  refine ⟨verdict_of_damaged hdamaged, ?_, fun hfree => ?_⟩
  · cases hcopy : d'.copy p (aside now p) with
    | error e => exact hread
    | ok d'' => exact (copied hread hcopy).2.1
  · obtain ⟨d'', hcopy⟩ := copy_aside now hread hfree
    rw [hcopy]
    exact (copied hread hcopy).1

/-- Settings are loaded as they were saved, with the profiles written in any order, and only a
layout that is not valid is replaced. This takes a layout of finite numbers that are read back as
they are written; if one is not finite, the file counts as damaged. -/
theorem load_of_saved (hs : s.InRange) (hversion : s.version ≤ settingsVersion) {order : Profiles}
    (horder : order.Perm s.profiles) (hsave : save { s with profiles := order } p d = (.ok (), d'))
    (hfloats : ∀ x ∈ s.layout.values, x.isFinite = true → x.ReadsBack) (now : Instant) :
    ((∀ x ∈ s.layout.values, x.isFinite = true) → load now p d' = (.ok s.sanitized, d')) ∧
    (s.layout.isValid = true → load now p d' = (.ok s, d')) ∧
    ∀ x ∈ s.layout.values, x.isFinite = false →
      (load now p d').1 = .ok {} ∧
      (load now p d').2.read p = .ok (Settings.text { s with profiles := order }).toUTF8 ∧
      (d'.entry? (aside now p) ≠ some .folder → (load now p d').2.read (aside now p) =
        .ok (Settings.text { s with profiles := order }).toUTF8) := by
  have hfinite (h : ∀ x ∈ s.layout.values, x.isFinite = true) :
      load now p d' = (.ok s.sanitized, d') := by
    obtain ⟨hreaches, hentry⟩ := save_ok hsave
    have htext :=
      Settings.ofText?_of_readsBack hs hversion (fun x hx => hfloats x hx (h x hx)) horder
    rw [load, Disk.readText_of_reaches hreaches hentry]
    simp only [interpret, htext, if_neg (Nat.not_lt.2 hversion)]
  refine ⟨hfinite, fun hvalid => ?_, fun x hx h => load_of_not_finite hsave hx h now⟩
  have hsame : s.sanitized = s := by
    rw [Settings.sanitized, LayoutSettings.sanitized, if_pos hvalid]
  rw [hfinite (LayoutSettings.isFinite_of_isValid hvalid), hsame]

def swapped : Settings :=
  { reopen := { maxAttempts := 9 }
    layout := { minRatio := ⟨0x3feccccccccccccd⟩, maxRatio := ⟨0x3fb999999999999a⟩ }
    profiles :=
      [("lab", []), ("office", [{ hostId := "gw", hostname := "gw.lab", username := "ops" }])] }

/-- The profiles are written in the other order, and only the bounds are replaced. -/
theorem load_of_swapped :
    ∃ d', save { swapped with profiles := swapped.profiles.reverse } ["settings.json"] {} =
        (.ok (), d') ∧
      ∀ now, load now ["settings.json"] d' = (.ok { swapped with layout := {} }, d') := by
  have hrange : swapped.InRange := {
    reopen := ⟨by decide, by decide⟩
    connect := ⟨by decide, by decide, by decide, by decide, by decide, by decide⟩
    profiles := by simp [swapped, Profiles.InRange, portLimit]
    ordered := List.pairwise_pair.2 (by decide) }
  have hfinite : ∀ x ∈ swapped.layout.values, x.isFinite = true := by decide
  have hfloats : ∀ x ∈ swapped.layout.values, Json.float? (Json.float x) = some x := by
    decide +kernel
  obtain ⟨d', hsave⟩ : ∃ d', save { swapped with profiles := swapped.profiles.reverse }
      ["settings.json"] {} = (.ok (), d') := ⟨_, rfl⟩
  exact ⟨d', hsave, fun now => (load_of_saved hrange (by decide) (List.reverse_perm _) hsave
    (fun x hx _ => hfloats x hx) now).1 hfinite⟩

/-- Settings with a bound that is no number. -/
def unbounded : Settings :=
  { reopen := { maxAttempts := 9 }, layout := { minRatio := Binary64.nan } }

/-- Settings that are saved and then loaded as the default ones, although only a bound of their
layout is out of range. -/
theorem save_loses_unbounded :
    unbounded.InRange ∧ unbounded.version ≤ settingsVersion ∧
      ∃ d', save unbounded ["settings.json"] {} = (.ok (), d') ∧
        ∀ now, (load now ["settings.json"] d').1 = .ok {} ∧
          (load now ["settings.json"] d').1 ≠ .ok unbounded.sanitized := by
  have hrange : unbounded.InRange := {
    reopen := ⟨by decide, by decide⟩
    connect := ⟨by decide, by decide, by decide, by decide, by decide, by decide⟩
    profiles := by simp [unbounded, Profiles.InRange]
    ordered := .nil }
  have hnan : Binary64.nan ∈ unbounded.layout.values := by decide
  obtain ⟨d', hsave⟩ : ∃ d', save unbounded ["settings.json"] {} = (.ok (), d') := ⟨_, rfl⟩
  refine ⟨hrange, by decide, d', hsave, fun now => ?_⟩
  have hlost := (load_of_not_finite hsave hnan (by decide) now).1
  exact ⟨hlost, by rw [hlost]; decide⟩

end SettingsFile

end Multiplexer
