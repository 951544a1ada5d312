import Multiplexer.Number.Decimal

/-!
# JSON values as written

A value keeps what its text says and no more than that: a numeral is its digits
(so `1.0` is not `1`), and a string with an unpaired surrogate escape is kept
as a string without a text. What a numeral means is settled where it is used.
-/

namespace Multiplexer

abbrev Digits := List (Fin 10)

/-- A number as it is written. An exponent has a sign and digits. -/
structure Numeral where
  negative : Bool
  whole : Digits
  fraction : Option Digits
  exponent : Option (Bool × Digits)
  deriving DecidableEq, Repr

inductive Json where
  | null
  | bool (b : Bool)
  | number (n : Numeral)
  /-- A string; `none` stands for one that names half of a surrogate pair. -/
  | string (s : Option String)
  | array (items : List Json)
  | object (fields : List (Option String × Json))
  deriving Inhabited

namespace Digits

def ofNat (n : Nat) : Digits := (Nat.toDigits 10 n).map fun c => Fin.ofNat 10 (c.toNat - '0'.toNat)

def value (ds : Digits) : Nat := ds.foldl (fun n d => 10 * n + d.val) 0

def chars (ds : Digits) : List Char := ds.map fun d => Nat.digitChar d.val

end Digits

namespace Numeral

def ofInt (n : Int) : Numeral := ⟨n < 0, Digits.ofNat n.natAbs, none, none⟩

def isInteger (n : Numeral) : Bool := n.fraction.isNone && n.exponent.isNone

/-- The natural that an integer literal stands for; `-0` is no natural. -/
def nat? (n : Numeral) : Option Nat :=
  if n.isInteger && !n.negative then some (Digits.value n.whole) else none

/-- Significand and power of ten while the significand fits in 64 bits. Later digits of the
whole part count as powers of ten, and later digits of the fraction are dropped. -/
def accumulate (n : Numeral) : Nat × Int :=
  let limit := Nat.pow 2 64
  let rec whole : Nat → Digits → Nat × Int
    | s, [] => (s, 0)
    | s, d :: ds => if 10 * s + d.val < limit then whole (10 * s + d.val) ds else (s, ds.length + 1)
  let rec fraction : Nat → Int → Digits → Nat × Int
    | s, e, [] => (s, e)
    | s, e, d :: ds =>
      if 10 * s + d.val < limit then fraction (10 * s + d.val) (e - 1) ds else (s, e)
  let (s, e) := whole 0 n.whole
  fraction s e (n.fraction.getD [])

/-- Significand times a power of ten, in steps of at most `10 ^ 308`, each rounded once. -/
def scaled : Nat → Binary64 → Int → Option Binary64
  | 0, _, _ => none
  | fuel + 1, x, e =>
    if e.natAbs ≤ 308 then
      if 0 ≤ e then
        let y := x.mulNat (Nat.pow 10 e.natAbs)
        if y.isInfinite then none else some y
      else some (x.divNat (Nat.pow 10 e.natAbs))
    else if x.isZero then some x
    else if 0 ≤ e then none
    else scaled fuel (x.divNat (Nat.pow 10 308)) (e + 308)

/-- Bounds of the power of ten that a numeral may name. -/
def greatestPower : Int := Int.pow 2 31 - 1
def leastPower : Int := -(Int.pow 2 31)

/-- The double that a numeral stands for, if it is finite. -/
def float? (n : Numeral) : Option Binary64 :=
  let (s, e) := n.accumulate
  let sign := fun x : Binary64 => if n.negative then x.neg else x
  match n.exponent with
  | none => (scaled 8 (Binary64.ofNat s) e).map sign
  | some (down, ds) =>
    let power : Int := Digits.value ds
    if greatestPower < power then
      if s = 0 ∨ down then some (sign Binary64.zero) else none
    else
      let total := if down then max leastPower (e - power) else min greatestPower (e + power)
      (scaled 8 (Binary64.ofNat s) total).map sign

end Numeral

namespace Json

def str (s : String) : Json := .string (some s)

def nat (n : Nat) : Json := .number (Numeral.ofInt n)

def obj (fields : List (String × Json)) : Json := .object (fields.map fun (k, v) => (some k, v))

/-- First field of the name. -/
def field? (name : String) : Json → Option Json
  | .object fields => (fields.find? fun f => f.1 == some name).map (·.2)
  | _ => none

def isNull : Json → Bool
  | .null => true
  | _ => false

def text? : Json → Option String
  | .string s => s
  | _ => none

def bool? : Json → Option Bool
  | .bool b => some b
  | _ => none

def items? : Json → Option (List Json)
  | .array items => some items
  | _ => none

def nat? : Json → Option Nat
  | .number n => n.nat?
  | _ => none

/-- Levels of arrays and objects. -/
def depth : Json → Nat
  | .array items => depths items + 1
  | .object fields => fieldDepths fields + 1
  | _ => 0
where
  depths : List Json → Nat
    | [] => 0
    | j :: js => max (depth j) (depths js)
  fieldDepths : List (Option String × Json) → Nat
    | [] => 0
    | (_, j) :: fs => max (depth j) (fieldDepths fs)

/-- Whether every string has a text and every number a finite value, as a reader needs that
keeps the whole value. -/
def sound : Json → Bool
  | .string s => s.isSome
  | .number n => n.float?.isSome
  | .array items => allSound items
  | .object fields => fieldsSound fields
  | _ => true
where
  allSound : List Json → Bool
    | [] => true
    | j :: js => sound j && allSound js
  fieldsSound : List (Option String × Json) → Bool
    | [] => true
    | (k, j) :: fs => k.isSome && sound j && fieldsSound fs

end Json

end Multiplexer
