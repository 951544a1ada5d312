import Mathlib.Data.Nat.Digits.Defs
import Multiplexer.Json.Decode
import Multiplexer.Proofs.Json.RoundTrip

/-!
# Numbers and lists as they are written

Every number that is written is a numeral of the grammar, and a natural is read
back as itself. A double that is not finite is written as `null`, which is read as
no double. A list is read back if its items are.
-/

namespace Multiplexer

namespace Digits

theorem ofNat_of_lt {n : Nat} (h : n < 10) : ofNat n = [⟨n, h⟩] := by
  have hdigit : ∀ d : Fin 10,
      Fin.ofNat 10 ((Nat.digitChar d.val).toNat - '0'.toNat) = d := by decide
  rw [ofNat, Nat.toDigits_of_lt_base h, List.map_singleton, hdigit ⟨n, h⟩]

theorem ofNat_of_le {n : Nat} (h : 10 ≤ n) :
    ofNat n = ofNat (n / 10) ++ [⟨n % 10, Nat.mod_lt n (by decide)⟩] := by
  have hlast := ofNat_of_lt (Nat.mod_lt n (by decide : 0 < 10))
  rw [ofNat, Nat.toDigits_of_lt_base (Nat.mod_lt n (by decide))] at hlast
  rw [ofNat, Nat.toDigits_of_base_le (by decide) h, List.map_append, hlast, ofNat]

theorem ofNat_ne_nil (n : Nat) : ofNat n ≠ [] := by
  simp [ofNat, Nat.toDigits_ne_nil]

/-- The digits of a natural have its value. -/
theorem value_ofNat (n : Nat) : value (ofNat n) = n := by
  induction n using Nat.strong_induction_on with
  | _ n ih =>
    rcases Nat.lt_or_ge n 10 with h | h
    · rw [ofNat_of_lt h]
      simp [value]
    · have hvalue := ih (n / 10) (by omega)
      unfold value at hvalue ⊢
      rw [ofNat_of_le h, List.foldl_append, hvalue, List.foldl_cons, List.foldl_nil]
      exact Nat.div_add_mod n 10

theorem head?_append {ds : Digits} (h : ds ≠ []) (ds' : Digits) : (ds ++ ds').head? = ds.head? := by
  cases ds with
  | nil => exact absurd rfl h
  | cons d ds => rfl

/-- Only zero is written with a zero in front. -/
theorem head?_ofNat {n : Nat} (h : n ≠ 0) : (ofNat n).head?.map Fin.val ≠ some 0 := by
  induction n using Nat.strong_induction_on with
  | _ n ih =>
    rcases Nat.lt_or_ge n 10 with hlt | hge
    · simpa [ofNat_of_lt hlt] using h
    · rw [ofNat_of_le hge, head?_append (ofNat_ne_nil _)]
      exact ih (n / 10) (by omega) (by omega)

theorem noZero_ofNat (n : Nat) (h : 1 < (ofNat n).length) :
    (ofNat n).head?.map Fin.val ≠ some 0 := by
  refine head?_ofNat ?_
  rintro rfl
  rw [ofNat_of_lt (by decide)] at h
  exact absurd h (by decide)

theorem head?_take (ds : Digits) {k : Nat} (h : 0 < k) : (ds.take k).head? = ds.head? := by
  rw [List.head?_take, if_neg (Nat.ne_of_gt h)]

end Digits

namespace Numeral

/-- An integer is written as a numeral of the grammar. -/
theorem wellFormed_ofInt (n : Int) : (ofInt n).WellFormed where
  whole := Digits.ofNat_ne_nil _
  noZero := Digits.noZero_ofNat _
  fraction := by simp [ofInt]
  exponent := by simp [ofInt]

/-- A natural that is written is read back. -/
theorem nat?_ofInt (n : Nat) : (ofInt n).nat? = some n := by
  have hnegative : ¬ ((n : Int) < 0) := Int.not_lt.2 (Int.natCast_nonneg n)
  simp [nat?, ofInt, isInteger, Digits.value_ofNat, hnegative]

/-- However many digits a decimal has and wherever its point stands, its numeral has digits before
the point, after the point if there is one, and in the exponent if there is one. -/
theorem wellFormed_ofDecimal (negative : Bool) (d : Decimal) :
    (ofDecimal negative d).WellFormed := by
  have hne := Digits.ofNat_ne_nil d.digits
  have hpos := List.length_pos_iff.2 hne
  unfold ofDecimal
  dsimp only
  split_ifs with hzero hwhole hpoint hsmall hone
  · exact ⟨by simp, by simp, by simp, by simp⟩
  · refine ⟨by simp [hne], fun _ => ?_, by simp, by simp⟩
    rw [Digits.head?_append hne]
    exact Digits.head?_ofNat hzero
  · have hlt : ((Digits.ofNat d.digits).length + d.scale).toNat <
        (Digits.ofNat d.digits).length := by omega
    refine ⟨by simp [hne]; omega, fun _ => ?_, ?_, by simp⟩
    · rw [Digits.head?_take _ (by omega)]
      exact Digits.head?_ofNat hzero
    · simpa using hlt
  · exact ⟨by simp, by simp, by simp [hne], by simp⟩
  · exact ⟨by simp [hne], fun h => by simp [hone] at h, by simp, by simp [Digits.ofNat_ne_nil]⟩
  · have hmore : (Digits.ofNat d.digits).drop 1 ≠ [] := by
      rw [ne_eq, List.drop_eq_nil_iff]
      omega
    exact ⟨by simp [hne], fun h => by simp at h, fun h => hmore (Option.some.inj h),
      by simp [Digits.ofNat_ne_nil]⟩

end Numeral

namespace Json

theorem writable_nat (n : Nat) : (nat n).Writable := .number (Numeral.wellFormed_ofInt n)

theorem writable_str (s : String) : (str s).Writable := .string s

/-- A double is written as a numeral, or as `null`. -/
theorem writable_float (x : Binary64) : (float x).Writable := by
  unfold float
  split_ifs
  · exact .number (Numeral.wellFormed_ofDecimal _ _)
  · exact .null

theorem writable_obj {fields : List (String × Json)} (h : ∀ f ∈ fields, f.2.Writable) :
    (obj fields).Writable :=
  .object (List.forall_mem_map.2 fun _ _ => rfl) (List.forall_mem_map.2 h)

@[simp] theorem nat?_nat (n : Nat) : (nat n).nat? = some n := Numeral.nat?_ofInt n

theorem natBelow_nat {n limit : Nat} (h : n < limit) : natBelow limit (nat n) = some n := by
  simp [natBelow, h]

/-- What is written for a double that is not finite is read as no double. -/
theorem float?_float_of_not_finite {x : Binary64} (h : x.isFinite = false) :
    float? (float x) = none := by
  rw [float, h]
  rfl

/-- A list is read back if each of its items is. -/
theorem listOf_map {α : Type} {write : α → Json} {read : Json → Option α} {xs : List α}
    (h : ∀ x ∈ xs, read (write x) = some x) :
    listOf read (.array (xs.map write)) = some xs := by
  show (xs.map write).mapM read = some xs
  induction xs with
  | nil => rfl
  | cons x xs ih =>
    obtain ⟨hx, hxs⟩ := List.forall_mem_cons.1 h
    simp [hx, ih hxs]

end Json

end Multiplexer
