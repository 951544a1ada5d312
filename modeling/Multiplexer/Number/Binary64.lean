/-!
# Double-precision numbers by their bits

A `Binary64` is the 64-bit word of an IEEE 754 double. Comparison reads the
word as a signed magnitude, and every arithmetic result is an exact quotient of
naturals rounded once, to nearest with ties to even.
-/

namespace Multiplexer

structure Binary64 where
  bits : UInt64
  deriving DecidableEq, Repr, Inhabited

namespace Binary64

def negative (x : Binary64) : Bool := x.bits ≥ 0x8000000000000000

/-- The word without its sign bit. -/
def magnitude (x : Binary64) : Nat := x.bits.toNat % Nat.pow 2 63

/-- The least magnitude that is no finite number. -/
def ceiling : Nat := 2047 * Nat.pow 2 52

def isNaN (x : Binary64) : Bool := ceiling < x.magnitude

def isInfinite (x : Binary64) : Bool := x.magnitude = ceiling

def isFinite (x : Binary64) : Bool := x.magnitude < ceiling

def isZero (x : Binary64) : Bool := x.magnitude = 0

/-- Order of the numbers: both zeros have key `0`. -/
def key (x : Binary64) : Int := if x.negative then -(x.magnitude : Int) else x.magnitude

def lt (x y : Binary64) : Bool := !x.isNaN && !y.isNaN && decide (x.key < y.key)

def le (x y : Binary64) : Bool := !x.isNaN && !y.isNaN && decide (x.key ≤ y.key)

def withSign (negative : Bool) (magnitude : Nat) : Binary64 :=
  ⟨UInt64.ofNat (magnitude % Nat.pow 2 63 + if negative then Nat.pow 2 63 else 0)⟩

def neg (x : Binary64) : Binary64 := withSign (!x.negative) x.magnitude

def zero : Binary64 := ⟨0⟩
def half : Binary64 := ⟨0x3fe0000000000000⟩
def one : Binary64 := ⟨0x3ff0000000000000⟩
def nan : Binary64 := ⟨0x7ff8000000000000⟩
def infinity : Binary64 := ⟨0x7ff0000000000000⟩

/-- Significand of a finite number: its value is `significand * 2 ^ (exponent - 1074)`. -/
def significand (x : Binary64) : Nat :=
  let field := x.magnitude / Nat.pow 2 52
  if field = 0 then x.magnitude else x.magnitude % Nat.pow 2 52 + Nat.pow 2 52

/-- Exponent of a finite number, counted from the least one. -/
def exponent (x : Binary64) : Nat := x.magnitude / Nat.pow 2 52 - 1

/-- Quotient to the nearest natural, a tie to the even one. -/
def roundQuotient (num den : Nat) : Nat :=
  let q := num / den
  let r := num % den
  if 2 * r > den ∨ (2 * r = den ∧ q % 2 = 1) then q + 1 else q

/-- Largest `e` with `2 ^ e * den ≤ 2 ^ 1022 * num`, or `0`. -/
def scaleOf (num den : Nat) : Nat :=
  let e := num.log2 + 1022 - den.log2
  if num * Nat.pow 2 1022 < den * Nat.pow 2 e then e - 1 else e

/-- The magnitude nearest to `num / den`, for positive `den`. -/
def magnitudeOf (num den : Nat) : Nat :=
  let e := if num = 0 then 0 else scaleOf num den
  min ceiling (e * Nat.pow 2 52 + roundQuotient (num * Nat.pow 2 1074) (den * Nat.pow 2 e))

/-- The number nearest to a quotient of naturals with a sign. -/
def ofQuotient (negative : Bool) (num den : Nat) : Binary64 :=
  withSign negative (magnitudeOf num den)

def ofNat (n : Nat) : Binary64 := ofQuotient false n 1

/-- Product of a finite number and a natural, rounded once. -/
def mulNat (x : Binary64) (n : Nat) : Binary64 :=
  ofQuotient x.negative (x.significand * Nat.pow 2 x.exponent * n) (Nat.pow 2 1074)

/-- Quotient of a finite number and a positive natural, rounded once. -/
def divNat (x : Binary64) (n : Nat) : Binary64 :=
  ofQuotient x.negative (x.significand * Nat.pow 2 x.exponent) (Nat.pow 2 1074 * n)

end Binary64

end Multiplexer
