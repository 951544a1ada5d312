import Multiplexer.Text.Blank

/-!
# Instants

An instant is a day, a second of that day and nanoseconds, in universal time. A
leap second is the last second with a billion nanoseconds or more. Dates follow
the Gregorian calendar in both directions.
-/

namespace Multiplexer

structure Instant where
  /-- Days since the first of January 1970. -/
  day : Int
  second : Nat
  nanos : Nat := 0
  deriving DecidableEq, Repr

namespace Instant

def isLeapYear (y : Int) : Bool := y % 4 = 0 && (y % 100 ≠ 0 || y % 400 = 0)

def monthLength (y : Int) (m : Nat) : Nat :=
  if m = 2 then if isLeapYear y then 29 else 28
  else if m = 4 ∨ m = 6 ∨ m = 9 ∨ m = 11 then 30
  else 31

/-- Day number of a date. Years are counted from March, so that the leap day comes last. -/
def dayOf (year : Int) (month day : Nat) : Int :=
  let y := if month ≤ 2 then year - 1 else year
  let era := y.fdiv 400
  let yearOfEra := y - era * 400
  let month' := if month > 2 then month - 3 else month + 9
  let dayOfYear : Int := ((153 * month' + 2) / 5 + day : Nat) - 1
  let dayOfEra := yearOfEra * 365 + yearOfEra / 4 - yearOfEra / 100 + dayOfYear
  era * 146097 + dayOfEra - 719468

/-- Year, month and day of a day number. -/
def dateOf (day : Int) : Int × Nat × Nat :=
  let z := day + 719468
  let era := z.fdiv 146097
  let dayOfEra := (z - era * 146097).toNat
  let yearOfEra := (dayOfEra - dayOfEra / 1460 + dayOfEra / 36524 - dayOfEra / 146096) / 365
  let dayOfYear := dayOfEra - (365 * yearOfEra + yearOfEra / 4 - yearOfEra / 100)
  let month' := (5 * dayOfYear + 2) / 153
  let month := if month' < 10 then month' + 3 else month' - 9
  let year := (yearOfEra : Int) + era * 400
  (if month ≤ 2 then year + 1 else year, month, dayOfYear - (153 * month' + 2) / 5 + 1)

/-- Years that a date may have. -/
def yearInRange (y : Int) : Bool := -262143 ≤ y && y ≤ 262142

/-- A decimal numeral with zeros in front up to a width. -/
def padded (width n : Nat) : String :=
  let ds := toString n
  String.ofList (List.replicate (width - ds.length) '0') ++ ds

def yearText (y : Int) : String :=
  if 0 ≤ y ∧ y ≤ 9999 then padded 4 y.toNat
  else (if y < 0 then "-" else "+") ++ padded 4 y.natAbs

/-- Fraction of a second in milli-, micro- or nanoseconds, whichever loses nothing. -/
def fractionText (nanos : Nat) : String :=
  if nanos = 0 then ""
  else if nanos % 1000000 = 0 then "." ++ padded 3 (nanos / 1000000)
  else if nanos % 1000 = 0 then "." ++ padded 6 (nanos / 1000)
  else "." ++ padded 9 nanos

def billion : Nat := 1000000000

def text (t : Instant) : String :=
  let (y, m, d) := dateOf t.day
  let leap := t.nanos / billion
  yearText y ++ "-" ++ padded 2 m ++ "-" ++ padded 2 d ++ "T" ++
    padded 2 (t.second / 3600) ++ ":" ++
    padded 2 (t.second / 60 % 60) ++ ":" ++ padded 2 (t.second % 60 + leap) ++
    fractionText (t.nanos % billion) ++ "Z"

/-- Milliseconds later. -/
def plusMs (t : Instant) (ms : Nat) : Instant :=
  let nanos := t.nanos + ms % 1000 * 1000000
  let second := t.second + ms / 1000 + nanos / billion
  { day := t.day + (second / 86400 : Nat), second := second % 86400, nanos := nanos % billion }

abbrev Rest := List Char

def digitsValue (cs : List Char) : Nat := cs.foldl (fun n c => 10 * n + (c.toNat - '0'.toNat)) 0

/-- A numeral of at least one and at most `width` digits. -/
def number? (width : Nat) (cs : Rest) : Option (Nat × Rest) :=
  let ds := (cs.take width).takeWhile Char.isDigit
  if ds.isEmpty then none else some (digitsValue ds, cs.drop ds.length)

/-- A numeral in a range, with blanks before it. -/
def within? (low high : Nat) (cs : Rest) : Option (Nat × Rest) := do
  let (n, rest) ← number? 2 (skipBlanks cs)
  if low ≤ n ∧ n ≤ high then some (n, rest) else none

/-- A year: four digits at most, or any number of them after a sign. -/
def year? (cs : Rest) : Option (Int × Rest) :=
  match skipBlanks cs with
  | '-' :: cs => (number? cs.length cs).map fun (n, rest) => (-(n : Int), rest)
  | '+' :: cs => (number? cs.length cs).map fun (n, rest) => ((n : Int), rest)
  | cs => (number? 4 cs).map fun (n, rest) => ((n : Int), rest)

/-- A mark with blanks before it. -/
def mark? (mark : Char) (cs : Rest) : Option Rest :=
  match skipBlanks cs with
  | c :: rest => if c = mark then some rest else none
  | [] => none

/-- A fraction of a second; digits after the ninth are passed over. -/
def fraction? : Rest → Option (Nat × Rest)
  | '.' :: cs =>
    let ds := (cs.take 9).takeWhile Char.isDigit
    if ds.isEmpty then none
    else some (digitsValue ds * Nat.pow 10 (9 - ds.length),
      (cs.drop ds.length).dropWhile Char.isDigit)
  | cs => some (0, cs)

/-- Seconds east of universal time. -/
def offset? (cs : Rest) : Option (Int × Rest) :=
  if (cs.take 3).map Char.toUpper = ['U', 'T', 'C'] then some (0, cs.drop 3)
  else
    match cs with
    | 'Z' :: rest => some (0, rest)
    | 'z' :: rest => some (0, rest)
    | c :: rest => do
      let west := c = '-' || c = '\u2212'
      if !west && c ≠ '+' then none
      let two (cs : Rest) : Option (Nat × Rest) :=
        let ds := (cs.take 2).takeWhile Char.isDigit
        if ds.length = 2 then some (digitsValue ds, cs.drop 2) else none
      let (hours, rest) ← two rest
      let (minutes, rest) ← two (rest.dropWhile fun c => c = ':' || isBlank c)
      if minutes > 59 then none
      let seconds : Int := hours * 3600 + minutes * 60
      some (if west then -seconds else seconds, rest)
    | [] => none

def date? (cs : Rest) : Option (Int × Rest) := do
  let (year, cs) ← year? cs
  let (month, cs) ← within? 1 12 (← mark? '-' cs)
  let (day, cs) ← within? 1 31 (← mark? '-' cs)
  if yearInRange year && decide (day ≤ monthLength year month) then
    some (dayOf year month day, cs)
  else none

def clock? (cs : Rest) : Option ((Nat × Nat) × Rest) := do
  let (hour, cs) ← within? 0 23 cs
  let (minute, cs) ← within? 0 59 (← mark? ':' cs)
  let (second, cs) ← within? 0 60 (← mark? ':' cs)
  let (nanos, cs) ← fraction? cs
  let leap := second / 60
  some ((hour * 3600 + minute * 60 + (second - leap), nanos + leap * billion), cs)

/-- The instant that a date, a time of day and an offset name. -/
def ofText? (s : String) : Option Instant := do
  let (day, cs) ← date? s.toList
  let cs ← match cs with
    | 'T' :: rest => some rest
    | 't' :: rest => some rest
    | ' ' :: rest => some rest
    | _ => none
  let ((second, nanos), cs) ← clock? cs
  let (east, cs) ← offset? (skipBlanks cs)
  if !(skipBlanks cs).isEmpty || east.natAbs ≥ 86400 then none
  let total := (second : Int) - east
  let t : Instant := { day := day + total.fdiv 86400, second := (total.fmod 86400).toNat, nanos }
  if yearInRange (dateOf t.day).1 then some t else none

end Instant

end Multiplexer
