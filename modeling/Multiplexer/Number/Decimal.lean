import Multiplexer.Number.Binary64

/-!
# Shortest decimal digits of a double

For one digit, two, and so on up to seventeen, the two neighbours of the value
on that decimal grid are tested against the interval of reals that round to the
value. The first grid with a hit wins, and of two hits the nearer one.
-/

namespace Multiplexer

/-- `digits` times ten to the power `scale`. -/
structure Decimal where
  digits : Nat
  scale : Int
  deriving DecidableEq, Repr

namespace Decimal

/-- Decimal digits of a natural, most significant first. -/
def digitsOf (n : Nat) : List Char := Nat.toDigits 10 n

/-- Number of the decimal point: the value is `0.digits` times ten to this power. -/
def point (d : Decimal) : Int := (digitsOf d.digits).length + d.scale

def stripZeros : Nat → Decimal → Decimal
  | 0, d => d
  | fuel + 1, d =>
    if d.digits ≠ 0 ∧ d.digits % 10 = 0 then stripZeros fuel ⟨d.digits / 10, d.scale + 1⟩ else d

/-- A positive double with its rounding interval, over the common denominator `den`. -/
structure Interval where
  low : Nat
  value : Nat
  high : Nat
  den : Nat
  /-- Whether both ends themselves round to the value. -/
  closed : Bool

/-- The interval of reals that round to a finite positive double. -/
def Interval.of (x : Binary64) : Interval :=
  let m := x.significand * Nat.pow 2 x.exponent
  let up := Nat.pow 2 x.exponent
  let down := if x.significand = Nat.pow 2 52 ∧ x.exponent ≠ 0 then up / 2 else up
  { low := 4 * m - 2 * down, value := 4 * m, high := 4 * m + 2 * up, den := Nat.pow 2 1076
    closed := x.significand % 2 = 0 }

/-- Whether `num / den'` lies in the interval. -/
def Interval.holds (i : Interval) (num den' : Nat) : Bool :=
  if i.closed then decide (i.low * den' ≤ num * i.den) && decide (num * i.den ≤ i.high * den')
  else decide (i.low * den' < num * i.den) && decide (num * i.den < i.high * den')

/-- A power of ten as a quotient. -/
def power (scale : Int) : Nat × Nat :=
  if scale < 0 then (1, Nat.pow 10 scale.natAbs) else (Nat.pow 10 scale.natAbs, 1)

/-- The point of the grid `10 ^ scale` that lies in the interval and nearest to its value. -/
def Interval.onGrid? (i : Interval) (scale : Int) : Option Decimal :=
  let (up, down) := power scale
  let below := i.value * down / (i.den * up)
  let hit := fun d : Nat => d ≠ 0 && i.holds (d * up) down
  let lower := i.value * down - below * (i.den * up)
  match hit below, hit (below + 1) with
  | true, true =>
    if 2 * lower ≤ i.den * up then some ⟨below, scale⟩ else some ⟨below + 1, scale⟩
  | true, false => some ⟨below, scale⟩
  | false, true => some ⟨below + 1, scale⟩
  | false, false => none

/-- Power of ten of the leading digit of a finite positive double. -/
def leading (i : Interval) : Int :=
  let n := (digitsOf i.value).length
  let d := (digitsOf i.den).length
  let e : Int := (n : Int) - d
  let (up, down) := power e
  if i.value * down < i.den * up then e - 1 else e

def firstGrid (i : Interval) (scale : Int) : Nat → Decimal
  | 0 => ⟨i.value / i.den, 0⟩
  | fuel + 1 => (i.onGrid? scale).getD (firstGrid i (scale - 1) fuel)

/-- Fewest digits that read back as the finite number `x`, without its sign. -/
def shortest (x : Binary64) : Decimal :=
  if x.isZero then ⟨0, 0⟩
  else
    let i := Interval.of x
    stripZeros 20 (firstGrid i (leading i + 1) 19)

def zeros (n : Nat) : List Char := List.replicate n '0'

/-- Digits with the point written where it falls, no exponent and no trailing point. -/
def positional (d : Decimal) : List Char :=
  let ds := digitsOf d.digits
  if 0 ≤ d.scale then
    if d.digits = 0 then ['0'] else ds ++ zeros d.scale.toNat
  else if 0 < d.point then ds.take d.point.toNat ++ '.' :: ds.drop d.point.toNat
  else '0' :: '.' :: (zeros d.point.natAbs ++ ds)

end Decimal

/-- The text of a number in a message: shortest digits and never an exponent. -/
def Binary64.text (x : Binary64) : String :=
  let sign := if x.negative then ['-'] else []
  if x.isNaN then "NaN"
  else if x.isInfinite then String.ofList (sign ++ ['i', 'n', 'f'])
  else String.ofList (sign ++ (Decimal.shortest x).positional)

end Multiplexer
