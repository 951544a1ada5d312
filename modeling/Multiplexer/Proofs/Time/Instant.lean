import Mathlib.Tactic.IntervalCases
import Mathlib.Tactic.SplitIfs
import Multiplexer.Time.Instant

/-!
# Reading instants that were written

An instant that a clock can show is read back from its text, and reading gives
no other. For the date an era of four centuries is split into centuries, fours
of years, years and days; in this order each but the last has its full length.
-/

namespace Multiplexer

namespace Instant

/-- Whether a clock can show an instant: the day has its seconds, only the last second of a minute
may be a leap second, and the year is one that a date may have. -/
structure Valid (t : Instant) : Prop where
  second : t.second < 86400
  nanos : t.nanos < 2 * billion
  leap : billion ≤ t.nanos → t.second % 60 = 59
  year : yearInRange (dateOf t.day).1 = true

section Calendar

/-- A day of an era has a century, four years, a year and a day. -/
theorem era_split {n : Nat} (h : n < 146096) :
    ∃ c q k t, c ≤ 3 ∧ q ≤ 24 ∧ k ≤ 3 ∧ t ≤ 365 ∧ (t = 365 → k = 3 ∧ q ≤ 23) ∧
      n = 36524 * c + 1461 * q + 365 * k + t := by
  refine ⟨n / 36524, n % 36524 / 1461, min (n % 36524 % 1461 / 365) 3,
    n % 36524 % 1461 - 365 * min (n % 36524 % 1461 / 365) 3, ?_, ?_, ?_, ?_, ?_, ?_⟩ <;> omega

/-- The year that is computed for a day is the one that it was split into. -/
theorem yearOfEra_eq {c q k t n : Nat} (hc : c ≤ 3) (hq : q ≤ 24) (hk : k ≤ 3) (ht : t ≤ 365)
    (hleap : t = 365 → k = 3 ∧ q ≤ 23) (hn : n = 36524 * c + 1461 * q + 365 * k + t) :
    (n - n / 1460 + n / 36524 - n / 146096) / 365 = 100 * c + 4 * q + k := by
  have hcentury : n / 36524 = c := by omega
  have hera : n / 146096 = 0 := by omega
  -- The leap days before are as many as full spans of 1460 days, give or take one.
  have hspans : n / 1460 = 25 * c + q ∨ n / 1460 = 25 * c + q + 1 := by omega
  have hmore : n / 1460 = 25 * c + q + 1 → 0 < t := by omega
  have hfewer : n / 1460 = 25 * c + q → t < 365 := by omega
  rw [hcentury, hera]
  omega

/-- The year of a day within an era, and the day of this year; the last day is there in leap years
only. -/
theorem yearOfEra_spec {n : Nat} (h : n < 146097) :
    ∃ y d, y = (n - n / 1460 + n / 36524 - n / 146096) / 365 ∧ y ≤ 399 ∧ d ≤ 365 ∧
      n = 365 * y + y / 4 - y / 100 + d ∧
      (d = 365 → (y + 1) % 4 = 0 ∧ ((y + 1) % 100 ≠ 0 ∨ (y + 1) % 400 = 0)) := by
  by_cases hlast : n = 146096
  · exact ⟨399, 365, by omega, by omega, by omega, by omega, by omega⟩
  · obtain ⟨c, q, k, t, hc, hq, hk, ht, hleap, hn⟩ := era_split (n := n) (by omega)
    have hfours : (100 * c + 4 * q + k) / 4 = 25 * c + q := by omega
    have hcenturies : (100 * c + 4 * q + k) / 100 = c := by omega
    refine ⟨_, t, (yearOfEra_eq hc hq hk ht hleap hn).symm, ?_, ht, ?_, ?_⟩
    · omega
    · rw [hfours, hcenturies]
      omega
    · omega

/-- A day number and the date that it is the number of. -/
theorem dateOf_spec (day : Int) :
    ∃ (era : Int) (y d : Nat), y ≤ 399 ∧ d ≤ 365 ∧
      (d = 365 → (y + 1) % 4 = 0 ∧ ((y + 1) % 100 ≠ 0 ∨ (y + 1) % 400 = 0)) ∧
      day + 719468 = era * 146097 + (365 * y + y / 4 - y / 100 + d : Nat) ∧
      dateOf day =
        (if (5 * d + 2) / 153 < 10 then (y : Int) + era * 400 else (y : Int) + era * 400 + 1,
          if (5 * d + 2) / 153 < 10 then (5 * d + 2) / 153 + 3 else (5 * d + 2) / 153 - 9,
          d - (153 * ((5 * d + 2) / 153) + 2) / 5 + 1) := by
  have hfdiv : (day + 719468).fdiv 146097 = (day + 719468) / 146097 :=
    Int.fdiv_eq_ediv_of_nonneg _ (by decide)
  obtain ⟨n, hn⟩ : ∃ n : Nat, n = (day + 719468 - (day + 719468) / 146097 * 146097).toNat := ⟨_, rfl⟩
  obtain ⟨y, d, hy, hy', hd, hsum, hleap⟩ := yearOfEra_spec (n := n) (by omega)
  refine ⟨(day + 719468) / 146097, y, d, hy', hd, hleap, by omega, ?_⟩
  have hday : n - (365 * y + y / 4 - y / 100) = d := by omega
  unfold dateOf
  simp only [hfdiv, ← hn, ← hy, hday]
  by_cases hmonth : (5 * d + 2) / 153 < 10
  · have hlate : ¬ (5 * d + 2) / 153 + 3 ≤ 2 := by omega
    simp only [hmonth, if_true, hlate, if_false]
  · have hearly : (5 * d + 2) / 153 - 9 ≤ 2 := by omega
    simp only [hmonth, if_false, hearly, if_true]

/-- The date of a day is the date of no other day. -/
theorem dayOf_dateOf (day : Int) : dayOf (dateOf day).1 (dateOf day).2.1 (dateOf day).2.2 = day := by
  obtain ⟨era, y, d, hy, hd, -, hday, hdate⟩ := dateOf_spec day
  have hera : ((y : Int) + era * 400).fdiv 400 = era := by
    rw [Int.fdiv_eq_ediv_of_nonneg _ (by decide)]
    omega
  rw [hdate]
  unfold dayOf
  by_cases hmonth : (5 * d + 2) / 153 < 10
  · have hlate : ¬ (5 * d + 2) / 153 + 3 ≤ 2 := by omega
    have hmarch : 2 < (5 * d + 2) / 153 + 3 := by omega
    simp only [hmonth, if_true, hlate, if_false, hmarch, hera]
    omega
  · have hearly : (5 * d + 2) / 153 - 9 ≤ 2 := by omega
    have hmarch : ¬ 2 < (5 * d + 2) / 153 - 9 := by omega
    have hyear : (y : Int) + era * 400 + 1 - 1 = y + era * 400 := by omega
    simp only [hmonth, if_false, hearly, if_true, hmarch, hyear, hera]
    omega

/-- The month and the day of a date are those of the calendar. -/
theorem dateOf_ranges (day : Int) :
    (1 ≤ (dateOf day).2.1 ∧ (dateOf day).2.1 ≤ 12) ∧ 1 ≤ (dateOf day).2.2 ∧
      (dateOf day).2.2 ≤ monthLength (dateOf day).1 (dateOf day).2.1 := by
  obtain ⟨era, y, d, hy, hd, hleap, -, hdate⟩ := dateOf_spec day
  have hleapYear : d = 365 → isLeapYear ((y : Int) + era * 400 + 1) = true := by
    intro hlast
    have := hleap hlast
    simp only [isLeapYear, Bool.and_eq_true, Bool.or_eq_true, decide_eq_true_eq]
    omega
  obtain ⟨m, hm⟩ : ∃ m, m = (5 * d + 2) / 153 := ⟨_, rfl⟩
  have hlast : m ≤ 11 := by omega
  rw [hdate, ← hm]
  by_cases hmonth : m < 10
  · simp only [hmonth, if_true]
    refine ⟨by omega, by omega, ?_⟩
    interval_cases m <;> simp [monthLength] <;> omega
  · simp only [hmonth, if_false]
    refine ⟨by omega, by omega, ?_⟩
    obtain rfl | rfl : m = 10 ∨ m = 11 := by omega
    · simp [monthLength]
      omega
    · by_cases hday : d = 365
      · simp [monthLength, hleapYear hday, hday]
      · simp only [monthLength]
        split <;> split <;> omega

end Calendar

section Numerals

theorem toList_padded (width n : Nat) :
    (padded width n).toList =
      List.replicate (width - (Nat.toDigits 10 n).length) '0' ++ Nat.toDigits 10 n := by
  simp [padded, ← String.length_toList, Nat.toList_repr]

theorem isDigit_padded (width n : Nat) : ∀ c ∈ (padded width n).toList, c.isDigit = true := by
  intro c hc
  rw [toList_padded, List.mem_append] at hc
  rcases hc with hc | hc
  · rw [List.eq_of_mem_replicate hc]
    decide
  · exact Nat.isDigit_of_mem_toDigits (by decide) (by decide) hc

/-- A number that fits is written in as many digits as asked for. -/
theorem length_padded {width n : Nat} (hwidth : 0 < width) (h : n < 10 ^ width) :
    (padded width n).toList.length = width := by
  have hlength := (Nat.length_toDigits_le_iff (b := 10) (by decide) hwidth).2 h
  rw [toList_padded, List.length_append, List.length_replicate]
  omega

theorem padded_ne_nil (width n : Nat) : (padded width n).toList ≠ [] := by
  rw [toList_padded]
  exact List.append_ne_nil_of_right_ne_nil _ Nat.toDigits_ne_nil

/-- A padded number has its value. -/
theorem digitsValue_padded (width n : Nat) : digitsValue (padded width n).toList = n := by
  have hzeros (k : Nat) : digitsValue (List.replicate k '0') = 0 := by
    induction k with
    | zero => rfl
    | succ k ih => rwa [List.replicate_succ, digitsValue, List.foldl_cons]
  have hdigits : digitsValue (Nat.toDigits 10 n) = n :=
    Nat.ofDigitChars_toDigits (b := 10) (by decide) (by decide)
  rw [toList_padded, digitsValue, List.foldl_append, ← digitsValue, hzeros]
  exact hdigits

/-- Whether a text does not go on with a digit. -/
def NoDigit (rest : Rest) : Prop := ∀ c, rest.head? = some c → c.isDigit = false

/-- Digits are read up to the width or to what is no digit, whichever comes first. -/
theorem takeWhile_take {ds rest : Rest} {width : Nat} (hds : ∀ c ∈ ds, c.isDigit = true)
    (hwidth : ds.length = width ∨ ds.length ≤ width ∧ NoDigit rest) :
    ((ds ++ rest).take width).takeWhile Char.isDigit = ds := by
  rcases hwidth with rfl | ⟨hle, hrest⟩
  · rw [List.take_left]
    have hall : (ds ++ []).takeWhile Char.isDigit = _ := List.takeWhile_append_of_pos hds
    simpa using hall
  · rw [List.take_append, List.take_of_length_le hle, List.takeWhile_append_of_pos hds]
    have hnone : (rest.take (width - ds.length)).takeWhile Char.isDigit = [] := by
      cases rest with
      | nil => simp
      | cons c rest =>
        cases width - ds.length with
        | zero => rfl
        | succ k => simp [hrest c rfl]
    rw [hnone, List.append_nil]

/-- A numeral is read up to its width, or to where the digits end. -/
theorem number?_append {ds rest : Rest} {width : Nat} (hds : ∀ c ∈ ds, c.isDigit = true)
    (hne : ds ≠ []) (hwidth : ds.length = width ∨ ds.length ≤ width ∧ NoDigit rest) :
    number? width (ds ++ rest) = some (digitsValue ds, rest) := by
  simp [number?, takeWhile_take hds hwidth, hne]

theorem toNat_of_isDigit {c : Char} (h : c.isDigit = true) : 48 ≤ c.toNat ∧ c.toNat ≤ 57 := by
  simp only [Char.isDigit, Bool.and_eq_true, decide_eq_true_eq] at h
  exact ⟨UInt32.le_iff_toNat_le.1 h.1, UInt32.le_iff_toNat_le.1 h.2⟩

theorem not_blank_of_isDigit {c : Char} (h : c.isDigit = true) : isBlank c = false := by
  have := toNat_of_isDigit h
  simp [isBlank, blankRanges]
  omega

theorem skipBlanks_cons {c : Char} (h : isBlank c = false) (cs : Rest) :
    skipBlanks (c :: cs) = c :: cs := by
  simp [skipBlanks, h]

theorem skipBlanks_digits {ds : Rest} (hds : ∀ c ∈ ds, c.isDigit = true) (hne : ds ≠ [])
    (rest : Rest) : skipBlanks (ds ++ rest) = ds ++ rest := by
  cases ds with
  | nil => exact absurd rfl hne
  | cons c ds => exact skipBlanks_cons (not_blank_of_isDigit (hds c List.mem_cons_self)) _

/-- Two digits in their range are read back. -/
theorem within?_padded (low high : Nat) {n : Nat} (hlow : low ≤ n) (hhigh : n ≤ high) (hn : n < 100)
    (rest : Rest) : within? low high ((padded 2 n).toList ++ rest) = some (n, rest) := by
  have hread : number? 2 ((padded 2 n).toList ++ rest) = _ :=
    number?_append (isDigit_padded 2 n) (padded_ne_nil 2 n) (.inl (length_padded (by decide) hn))
  simp only [within?, skipBlanks_digits (isDigit_padded 2 n) (padded_ne_nil 2 n), hread,
    digitsValue_padded, Option.bind_eq_bind, Option.bind_some, hlow, hhigh, and_self, if_true]

theorem mark?_cons {c : Char} (h : isBlank c = false) (rest : Rest) :
    mark? c (c :: rest) = some rest := by
  simp [mark?, skipBlanks_cons h]

/-- A year with the hyphen behind it. -/
theorem year?_yearText (y : Int) (rest : Rest) :
    year? ((yearText y).toList ++ '-' :: rest) = some (y, '-' :: rest) := by
  have hhyphen : NoDigit ('-' :: rest) := by
    rintro c ⟨⟩
    decide
  have hsigned : number? ((padded 4 y.natAbs).toList ++ '-' :: rest).length
      ((padded 4 y.natAbs).toList ++ '-' :: rest) = some (y.natAbs, '-' :: rest) := by
    rw [number?_append (isDigit_padded 4 y.natAbs) (padded_ne_nil 4 y.natAbs)
      (.inr ⟨by simp, hhyphen⟩), digitsValue_padded]
  unfold yearText
  split_ifs with hshort hnegative
  · have hread : number? 4 ((padded 4 y.toNat).toList ++ '-' :: rest) = _ :=
      number?_append (isDigit_padded 4 y.toNat) (padded_ne_nil 4 y.toNat)
        (.inl (length_padded (by decide) (by omega)))
    obtain ⟨c, cs, hc⟩ := List.exists_cons_of_ne_nil (padded_ne_nil 4 y.toNat)
    have hdigit : c.isDigit = true := isDigit_padded 4 y.toNat c (by simp [hc])
    have hsign : c ≠ '-' ∧ c ≠ '+' := by
      constructor <;> rintro rfl <;> revert hdigit <;> decide
    have hvalue : ((y.toNat : Nat) : Int) = y := by omega
    unfold year?
    rw [skipBlanks_digits (isDigit_padded 4 y.toNat) (padded_ne_nil 4 y.toNat)]
    split
    · simp_all
    · simp_all
    · simp only [hread, digitsValue_padded, Option.map_some, hvalue]
  · have hvalue : -((y.natAbs : Nat) : Int) = y := by omega
    have htext : ("-" ++ padded 4 y.natAbs).toList = '-' :: (padded 4 y.natAbs).toList := by simp
    rw [htext, List.cons_append, year?, skipBlanks_cons (c := '-') (by decide)]
    simp only [hsigned, Option.map_some, hvalue]
  · have hvalue : ((y.natAbs : Nat) : Int) = y := by omega
    have htext : ("+" ++ padded 4 y.natAbs).toList = '+' :: (padded 4 y.natAbs).toList := by simp
    rw [htext, List.cons_append, year?, skipBlanks_cons (c := '+') (by decide)]
    simp only [hsigned, Option.map_some, hvalue]

/-- A fraction with the last letter of an instant behind it. -/
theorem fraction?_fractionText {n : Nat} (h : n < billion) (rest : Rest) :
    fraction? ((fractionText n).toList ++ 'Z' :: rest) = some (n, 'Z' :: rest) := by
  have hlast : NoDigit ('Z' :: rest) := by
    rintro c ⟨⟩
    decide
  have hpoint {width m : Nat} (hwidth : 0 < width) (hle : width ≤ 9) (hm : m < 10 ^ width)
      (hn : m * Nat.pow 10 (9 - width) = n) :
      fraction? (("." ++ padded width m).toList ++ 'Z' :: rest) = some (n, 'Z' :: rest) := by
    have htext : ("." ++ padded width m).toList = '.' :: (padded width m).toList := by simp
    have hlength := length_padded hwidth hm
    have htake : (((padded width m).toList ++ 'Z' :: rest).take 9).takeWhile Char.isDigit = _ :=
      takeWhile_take (isDigit_padded width m) (.inr ⟨by omega, hlast⟩)
    have hdrop : ('Z' :: rest).dropWhile Char.isDigit = 'Z' :: rest := by
      simp [hlast 'Z' rfl]
    rw [htext, List.cons_append, fraction?]
    simp only [htake, List.isEmpty_eq_false_iff.2 (padded_ne_nil width m), Bool.false_eq_true,
      if_false, hlength, List.drop_left' hlength, hdrop, digitsValue_padded, hn]
  unfold fractionText
  split_ifs with hzero hmilli hmicro
  · subst hzero
    rfl
  · exact hpoint (by decide) (by decide) (by simp only [billion] at h; omega)
      (by simp only [Nat.pow_eq]; omega)
  · exact hpoint (by decide) (by decide) (by simp only [billion] at h; omega)
      (by simp only [Nat.pow_eq]; omega)
  · exact hpoint (by decide) (by decide) (by simp only [billion] at h; omega)
      (by simp only [Nat.pow_eq]; omega)

end Numerals

section Texts

/-- A date is read back from its text. -/
theorem date?_text (day : Int) (hyear : yearInRange (dateOf day).1 = true) (rest : Rest) :
    date? ((yearText (dateOf day).1).toList ++ '-' :: ((padded 2 (dateOf day).2.1).toList ++
      '-' :: ((padded 2 (dateOf day).2.2).toList ++ rest))) = some (day, rest) := by
  obtain ⟨⟨hlow, hhigh⟩, hfirst, hlast⟩ := dateOf_ranges day
  have hlong : monthLength (dateOf day).1 (dateOf day).2.1 ≤ 31 := by
    unfold monthLength
    split_ifs <;> omega
  have hmonth := within?_padded _ _ hlow hhigh (by omega)
    ('-' :: ((padded 2 (dateOf day).2.2).toList ++ rest))
  have hday := within?_padded _ _ hfirst (hlast.trans hlong) (by omega) rest
  simp only [date?, year?_yearText, mark?_cons (c := '-') (by decide), hmonth, hday, hyear, hlast,
    dayOf_dateOf, Option.bind_eq_bind, Option.bind_some, decide_true, Bool.and_self, if_true]

/-- A time of day is read back from its text. -/
theorem clock?_text {t : Instant} (h : t.Valid) (rest : Rest) :
    clock? ((padded 2 (t.second / 3600)).toList ++ ':' :: ((padded 2 (t.second / 60 % 60)).toList ++
      ':' :: ((padded 2 (t.second % 60 + t.nanos / billion)).toList ++
        ((fractionText (t.nanos % billion)).toList ++ 'Z' :: rest)))) =
      some ((t.second, t.nanos), 'Z' :: rest) := by
  have hday := h.second
  have hnanos := h.nanos
  have hleap := h.leap
  have hover : (t.second % 60 + t.nanos / billion) / 60 = t.nanos / billion := by
    simp only [billion] at hnanos hleap ⊢
    omega
  have hhour := within?_padded 0 23 (n := t.second / 3600) (by omega) (by omega)
    (by omega)
  have hminute := within?_padded 0 59 (n := t.second / 60 % 60) (by omega)
    (by omega) (by omega)
  have hsecond := within?_padded 0 60 (n := t.second % 60 + t.nanos / billion)
    (Nat.zero_le _) (by simp only [billion] at hnanos ⊢; omega) (by simp only [billion] at hnanos ⊢; omega)
  have hfraction := fraction?_fractionText (n := t.nanos % billion) (Nat.mod_lt _ (by decide)) rest
  have htotal : t.second / 3600 * 3600 + t.second / 60 % 60 * 60 +
      (t.second % 60 + t.nanos / billion - t.nanos / billion) = t.second := by
    rw [Nat.add_sub_cancel]
    omega
  have hparts : t.nanos % billion + t.nanos / billion * billion = t.nanos := Nat.mod_add_div' ..
  simp only [clock?, hhour, mark?_cons (c := ':') (by decide), hminute, hsecond, hfraction, hover,
    htotal, hparts, Option.bind_eq_bind, Option.bind_some]

/-- An instant that a clock can show is read back from its text. -/
theorem ofText?_text {t : Instant} (h : t.Valid) : ofText? t.text = some t := by
  have htext : t.text.toList =
      (yearText (dateOf t.day).1).toList ++ '-' :: ((padded 2 (dateOf t.day).2.1).toList ++
        '-' :: ((padded 2 (dateOf t.day).2.2).toList ++
          'T' :: ((padded 2 (t.second / 3600)).toList ++ ':' ::
            ((padded 2 (t.second / 60 % 60)).toList ++ ':' ::
              ((padded 2 (t.second % 60 + t.nanos / billion)).toList ++
                ((fractionText (t.nanos % billion)).toList ++ ['Z'])))))) := by
    simp [text]
  have hday := h.second
  have hfdiv : (t.second : Int).fdiv 86400 = 0 := by
    rw [Int.fdiv_eq_ediv_of_nonneg _ (by decide)]
    omega
  have hfmod : ((t.second : Int).fmod 86400).toNat = t.second := by
    rw [Int.fmod_eq_emod_of_nonneg _ (by decide)]
    omega
  have hoffset : offset? ['Z'] = some (0, []) := by decide
  have hskip : skipBlanks ['Z'] = ['Z'] := by decide
  have hend : skipBlanks [] = [] := rfl
  unfold ofText?
  rw [htext, date?_text t.day h.year]
  simp only [clock?_text h, hskip, hoffset, hend, Option.bind_eq_bind, Option.bind_some]
  simp [hfdiv, hfmod, h.year]

/-- What is read in a range is in it. -/
theorem within?_range {low high n : Nat} {cs rest : Rest} (h : within? low high cs = some (n, rest)) :
    low ≤ n ∧ n ≤ high := by
  simp only [within?, Option.bind_eq_bind, Option.bind_eq_some_iff] at h
  obtain ⟨⟨m, cs'⟩, -, h⟩ := h
  split at h
  · rename_i hrange
    cases h
    exact hrange
  · cases h

theorem digitsValue_lt {ds : List Char} (hds : ∀ c ∈ ds, c.isDigit = true) :
    digitsValue ds < 10 ^ ds.length := by
  have hfold (ds : List Char) (hds : ∀ c ∈ ds, c.isDigit = true) (n : Nat) :
      ds.foldl (fun n c => 10 * n + (c.toNat - '0'.toNat)) n < (n + 1) * 10 ^ ds.length := by
    induction ds generalizing n with
    | nil => simp
    | cons c ds ih =>
      have hdigit := toNat_of_isDigit (hds c List.mem_cons_self)
      have hstep := ih (fun c hc => hds c (List.mem_cons_of_mem _ hc)) (10 * n + (c.toNat - '0'.toNat))
      have hzero : '0'.toNat = 48 := rfl
      have hmono : (10 * n + (c.toNat - '0'.toNat) + 1) * 10 ^ ds.length ≤
          ((n + 1) * 10) * 10 ^ ds.length := Nat.mul_le_mul_right _ (by omega)
      rw [List.foldl_cons, List.length_cons, Nat.pow_succ']
      calc _ < (10 * n + (c.toNat - '0'.toNat) + 1) * 10 ^ ds.length := hstep
        _ ≤ ((n + 1) * 10) * 10 ^ ds.length := hmono
        _ = (n + 1) * (10 * 10 ^ ds.length) := Nat.mul_assoc ..
  have hstart := hfold ds hds 0
  rwa [Nat.zero_add, Nat.one_mul] at hstart

theorem fraction?_range {n : Nat} {cs rest : Rest} (h : fraction? cs = some (n, rest)) :
    n < billion := by
  unfold fraction? at h
  split at h
  · rename_i cs
    have hds : ∀ c ∈ (cs.take 9).takeWhile Char.isDigit, c.isDigit = true :=
      List.all_eq_true.1 List.all_takeWhile
    have hlength : ((cs.take 9).takeWhile Char.isDigit).length ≤ 9 :=
      ((List.takeWhile_prefix _).length_le).trans (by simp)
    dsimp only at h
    split at h
    · cases h
    · cases h
      have hpow : 10 ^ ((cs.take 9).takeWhile Char.isDigit).length *
          Nat.pow 10 (9 - ((cs.take 9).takeWhile Char.isDigit).length) = billion := by
        rw [Nat.pow_eq, ← Nat.pow_add, Nat.add_sub_cancel' hlength]
        rfl
      calc _ < 10 ^ ((cs.take 9).takeWhile Char.isDigit).length *
            Nat.pow 10 (9 - ((cs.take 9).takeWhile Char.isDigit).length) :=
            Nat.mul_lt_mul_of_pos_right (digitsValue_lt hds) (Nat.pow_pos (by decide))
        _ = billion := hpow
  · cases h
    decide

/-- What a time of day gives is a second of the day and a fraction, leap seconds at the end of a
minute only. -/
theorem clock?_range {second nanos : Nat} {cs rest : Rest}
    (h : clock? cs = some ((second, nanos), rest)) :
    second < 86400 ∧ nanos < 2 * billion ∧ (billion ≤ nanos → second % 60 = 59) := by
  simp only [clock?, Option.bind_eq_bind, Option.bind_eq_some_iff] at h
  obtain ⟨⟨hour, _⟩, hhour, _, _, ⟨minute, _⟩, hminute, _, _, ⟨s, _⟩, hsecond, ⟨n, _⟩, hfraction, h⟩ := h
  have := within?_range hhour
  have := within?_range hminute
  have := within?_range hsecond
  have := fraction?_range hfraction
  cases h
  simp only [billion] at *
  refine ⟨by omega, by omega, fun hleap => ?_⟩
  obtain rfl : s = 60 := by omega
  omega

/-- An offset is in whole minutes. -/
theorem offset?_minutes {east : Int} {cs rest : Rest} (h : offset? cs = some (east, rest)) :
    60 ∣ east := by
  unfold offset? at h
  split at h
  · cases h
    exact Int.dvd_zero 60
  · split at h
    · cases h
      exact Int.dvd_zero 60
    · cases h
      exact Int.dvd_zero 60
    · simp only [Option.bind_eq_bind] at h
      split at h
      · cases h
      · simp only [Option.bind_eq_some_iff] at h
        obtain ⟨⟨hours, _⟩, -, ⟨minutes, _⟩, -, h⟩ := h
        split at h
        · cases h
        · cases h
          split <;> omega
    · cases h

/-- Reading gives no instants but those that a clock can show. -/
theorem valid_of_ofText? {s : String} {t : Instant} (h : ofText? s = some t) : t.Valid := by
  simp only [ofText?, Option.bind_eq_bind, Option.bind_eq_some_iff] at h
  obtain ⟨⟨day, cs⟩, -, h⟩ := h
  split at h
  case h_4 => cases h
  all_goals
    simp only [Option.bind_some, Option.bind_eq_some_iff] at h
    obtain ⟨⟨⟨second, nanos⟩, _⟩, hclock, ⟨east, _⟩, hoffset, h⟩ := h
    obtain ⟨hday, hnanos, hleap⟩ := clock?_range hclock
    have hminutes := offset?_minutes hoffset
    split at h
    · cases h
    · split at h
      · rename_i hyear
        cases h
        have hfmod : ((second : Int) - east).fmod 86400 = ((second : Int) - east) % 86400 :=
          Int.fmod_eq_emod_of_nonneg _ (by decide)
        refine ⟨?_, hnanos, fun hleapSecond => ?_, hyear⟩
        · simp only [hfmod]
          omega
        · have := hleap hleapSecond
          simp only [hfmod]
          omega
      · cases h

end Texts

end Instant

end Multiplexer
