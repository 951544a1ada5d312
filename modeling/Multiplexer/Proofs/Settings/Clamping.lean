import Mathlib.Tactic.SplitIfs
import Multiplexer.Layout.Basic
import Multiplexer.Settings.Basic

/-!
# Divider positions within bounds

Doubles are compared by their keys, and one that is no number compares with
nothing. The bounds that a position is clamped to are those of the settings or, if
these are invalid, the default ones; either way they are in order and strictly
between zero and one, so that every position becomes a proper ratio.
-/

namespace Multiplexer

namespace Binary64

variable {x y z : Binary64}

/-- A double is below another if both are numbers and their keys are in order. -/
theorem lt_iff : x.lt y = true ↔ x.isNaN = false ∧ y.isNaN = false ∧ x.key < y.key := by
  simp [lt, and_assoc]

/-- A double is at or below another if both are numbers and their keys are in order. -/
theorem le_iff : x.le y = true ↔ x.isNaN = false ∧ y.isNaN = false ∧ x.key ≤ y.key := by
  simp [le, and_assoc]

theorem le_refl (h : x.isNaN = false) : x.le x = true := le_iff.2 ⟨h, h, Int.le_refl _⟩

/-- Of two numbers, one that is not below the other is at or above it. -/
theorem le_of_not_lt (hx : x.isNaN = false) (hy : y.isNaN = false) (h : ¬x.lt y = true) :
    y.le x = true := by
  refine le_iff.2 ⟨hy, hx, Int.not_lt.1 fun hlt => h (lt_iff.2 ⟨hx, hy, hlt⟩)⟩

theorem not_lt_of_le (h : x.le y = true) : ¬y.lt x = true := fun hlt =>
  Int.not_lt.2 (le_iff.1 h).2.2 (lt_iff.1 hlt).2.2

theorem le_trans (h : x.le y = true) (h' : y.le z = true) : x.le z = true := by
  obtain ⟨hx, -, hxy⟩ := le_iff.1 h
  obtain ⟨-, hz, hyz⟩ := le_iff.1 h'
  exact le_iff.2 ⟨hx, hz, Int.le_trans hxy hyz⟩

theorem lt_of_lt_of_le (h : x.lt y = true) (h' : y.le z = true) : x.lt z = true := by
  obtain ⟨hx, -, hxy⟩ := lt_iff.1 h
  obtain ⟨-, hz, hyz⟩ := le_iff.1 h'
  exact lt_iff.2 ⟨hx, hz, Int.lt_of_lt_of_le hxy hyz⟩

theorem lt_of_le_of_lt (h : x.le y = true) (h' : y.lt z = true) : x.lt z = true := by
  obtain ⟨hx, -, hxy⟩ := le_iff.1 h
  obtain ⟨-, hz, hyz⟩ := lt_iff.1 h'
  exact lt_iff.2 ⟨hx, hz, Int.lt_of_le_of_lt hxy hyz⟩

end Binary64

/-- A proper ratio lies strictly between zero and one. -/
theorem properRatio_iff {r : Binary64} :
    properRatio r = true ↔ Binary64.zero.lt r = true ∧ r.lt Binary64.one = true := by
  simp [properRatio]

namespace LayoutSettings

variable {s : LayoutSettings} {x y : Binary64}

/-- What becomes of a divider position under some bounds. -/
structure Clamps (bounds : LayoutSettings) (share : Binary64 → Binary64) : Prop where
  /-- Only between bounds that are in order can a number be clamped at all. -/
  ordered : bounds.minRatio.le bounds.maxRatio = true
  nan : ∀ x, x.isNaN = true → share x = bounds.defaultSplitRatio
  within : ∀ x, x.isNaN = false →
    bounds.minRatio.le (share x) = true ∧ (share x).le bounds.maxRatio = true
  same : ∀ x, bounds.minRatio.le x = true → x.le bounds.maxRatio = true → share x = x
  mono : ∀ x y, x.le y = true → (share x).le (share y) = true

/-- Bounds are valid in order and strictly between zero and one, with a proper ratio to start from.
-/
theorem isValid_iff : s.isValid = true ↔ Binary64.zero.lt s.minRatio = true ∧
    s.minRatio.le s.maxRatio = true ∧ s.maxRatio.lt Binary64.one = true ∧
    properRatio s.defaultSplitRatio = true := by
  simp only [isValid, properRatio, Bool.and_eq_true, and_assoc]

/-- Layout settings that are made valid are valid. -/
theorem isValid_sanitized (s : LayoutSettings) : s.sanitized.isValid = true := by
  unfold sanitized
  split
  · assumption
  · decide

/-- What is no number becomes the default ratio. -/
theorem clampRatio_of_nan (h : x.isNaN = true) :
    s.clampRatio x = s.sanitized.defaultSplitRatio := by
  simp [clampRatio, h]

/-- A number outside the bounds becomes the nearest bound. -/
theorem clampRatio_of_number (h : x.isNaN = false) :
    s.clampRatio x = if x.lt s.sanitized.minRatio then s.sanitized.minRatio
      else if s.sanitized.maxRatio.lt x then s.sanitized.maxRatio else x := by
  simp [clampRatio, h]

/-- A number comes to lie within the bounds. -/
theorem clampRatio_within (h : x.isNaN = false) :
    s.sanitized.minRatio.le (s.clampRatio x) = true ∧
      (s.clampRatio x).le s.sanitized.maxRatio = true := by
  obtain ⟨-, hordered, -⟩ := isValid_iff.1 s.isValid_sanitized
  obtain ⟨hmin, hmax, -⟩ := Binary64.le_iff.1 hordered
  rw [clampRatio_of_number h]
  split_ifs with hlow hhigh
  · exact ⟨Binary64.le_refl hmin, hordered⟩
  · exact ⟨hordered, Binary64.le_refl hmax⟩
  · exact ⟨Binary64.le_of_not_lt h hmin hlow, Binary64.le_of_not_lt hmax h hhigh⟩

/-- A number within the bounds is kept. -/
theorem clampRatio_of_within (hlow : s.sanitized.minRatio.le x = true)
    (hhigh : x.le s.sanitized.maxRatio = true) : s.clampRatio x = x := by
  rw [clampRatio_of_number (Binary64.le_iff.1 hlow).2.1, if_neg (Binary64.not_lt_of_le hlow),
    if_neg (Binary64.not_lt_of_le hhigh)]

/-- To clamp keeps the order of numbers. -/
theorem clampRatio_mono (h : x.le y = true) : (s.clampRatio x).le (s.clampRatio y) = true := by
  obtain ⟨hx, hy, -⟩ := Binary64.le_iff.1 h
  obtain ⟨hxlow, hxhigh⟩ := clampRatio_within (s := s) hx
  obtain ⟨hylow, hyhigh⟩ := clampRatio_within (s := s) hy
  by_cases hxmin : x.lt s.sanitized.minRatio = true
  · have hshare : s.clampRatio x = s.sanitized.minRatio := by
      rw [clampRatio_of_number hx, if_pos hxmin]
    rwa [hshare]
  by_cases hymax : s.sanitized.maxRatio.lt y = true
  · -- A bound that is exceeded is what the greater position becomes.
    have hshare : s.clampRatio y = s.sanitized.maxRatio := by
      have hymin : ¬y.lt s.sanitized.minRatio = true := fun hlt =>
        hxmin (Binary64.lt_of_le_of_lt h hlt)
      rw [clampRatio_of_number hy, if_neg hymin, if_pos hymax]
    rwa [hshare]
  · have hmin := (Binary64.le_iff.1 hxlow).1
    have hmax := (Binary64.le_iff.1 hyhigh).2.1
    have hbelow := Binary64.le_of_not_lt hx hmin hxmin
    have habove := Binary64.le_of_not_lt hmax hy hymax
    rwa [clampRatio_of_within hbelow (Binary64.le_trans h habove),
      clampRatio_of_within (Binary64.le_trans hbelow h) habove]

theorem clamps_clampRatio (s : LayoutSettings) : s.sanitized.Clamps s.clampRatio where
  ordered := (isValid_iff.1 s.isValid_sanitized).2.1
  nan _ := clampRatio_of_nan
  within _ := clampRatio_within
  same _ := clampRatio_of_within
  mono _ _ := clampRatio_mono

/-- Whatever is clamped becomes a proper ratio. -/
theorem properRatio_clampRatio (s : LayoutSettings) (x : Binary64) :
    properRatio (s.clampRatio x) = true := by
  obtain ⟨hmin, -, hmax, hdefault⟩ := isValid_iff.1 s.isValid_sanitized
  cases hx : x.isNaN with
  | true => rwa [clampRatio_of_nan hx]
  | false =>
    obtain ⟨hlow, hhigh⟩ := clampRatio_within (s := s) hx
    exact properRatio_iff.2 ⟨Binary64.lt_of_lt_of_le hmin hlow, Binary64.lt_of_le_of_lt hhigh hmax⟩

end LayoutSettings

end Multiplexer
