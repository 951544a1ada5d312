import Multiplexer.Json.Value

/-!
# Writing JSON text

Two layouts of one value: everything on one line, or an item a line with two
blanks for each level. Only quotes, backslashes and control characters are
escaped in a string.
-/

namespace Multiplexer

namespace Numeral

def chars (n : Numeral) : List Char :=
  (if n.negative then ['-'] else []) ++ n.whole.chars ++
  (match n.fraction with
    | some ds => '.' :: ds.chars
    | none => []) ++
  (match n.exponent with
    | some (down, ds) => 'e' :: ((if down then ['-'] else []) ++ ds.chars)
    | none => [])

/-- How a number is written in JSON text: shortest digits, in positional form with at least
one place if the point stands from five places before to sixteen places into the digits, and
else with an exponent. -/
def ofDecimal (negative : Bool) (d : Decimal) : Numeral :=
  let ds := Digits.ofNat d.digits
  let places : Int := ds.length
  let point := places + d.scale
  let zero : Fin 10 := ⟨0, Nat.zero_lt_succ 9⟩
  let zeros (n : Nat) : Digits := List.replicate n zero
  if d.digits = 0 then ⟨negative, [zero], some [zero], none⟩
  else if 0 ≤ d.scale ∧ point ≤ 16 then ⟨negative, ds ++ zeros d.scale.toNat, some [zero], none⟩
  else if 0 < point ∧ point ≤ 16 then
    ⟨negative, ds.take point.toNat, some (ds.drop point.toNat), none⟩
  else if -5 < point ∧ point ≤ 0 then ⟨negative, [zero], some (zeros point.natAbs ++ ds), none⟩
  else
    let e := point - 1
    ⟨negative, ds.take 1, if ds.length = 1 then none else some (ds.drop 1),
      some (e < 0, Digits.ofNat e.natAbs)⟩

end Numeral

namespace Json

/-- A double as a JSON value: one that is not finite becomes `null`. -/
def float (x : Binary64) : Json :=
  if x.isFinite then .number (Numeral.ofDecimal x.negative (Decimal.shortest x)) else .null

def hexChars (n : Nat) : List Char := [Nat.digitChar (n / 16), Nat.digitChar (n % 16)]

def escape (c : Char) : List Char :=
  if c == '"' then ['\\', '"']
  else if c == '\\' then ['\\', '\\']
  else if c == '\x08' then ['\\', 'b']
  else if c == '\x0c' then ['\\', 'f']
  else if c == '\n' then ['\\', 'n']
  else if c == '\r' then ['\\', 'r']
  else if c == '\t' then ['\\', 't']
  else if c.toNat < 0x20 then ['\\', 'u', '0', '0'] ++ hexChars c.toNat
  else [c]

def quote (s : String) : String :=
  "\"".append ((s.foldl (fun out c => out ++ String.ofList (escape c)) "").push '"')

def scalar : Json → String
  | .bool true => "true"
  | .bool false => "false"
  | .number n => String.ofList n.chars
  | .string s => quote (s.getD "")
  | _ => "null"

/-- The value on one line. -/
def compact : Json → String
  | .array items => ("[" ++ compactItems items).push ']'
  | .object fields => ("\x7b" ++ compactFields fields).push '\x7d'
  | j => scalar j
where
  compactItems : List Json → String
    | [] => ""
    | [j] => compact j
    | j :: js => compact j ++ "," ++ compactItems js
  compactFields : List (Option String × Json) → String
    | [] => ""
    | [(k, j)] => quote (k.getD "") ++ ":" ++ compact j
    | (k, j) :: fs => quote (k.getD "") ++ ":" ++ compact j ++ "," ++ compactFields fs

def indent (level : Nat) : String := String.ofList ('\n' :: List.replicate (2 * level) ' ')

/-- The value with an item a line, inside `level` levels. -/
def pretty (level : Nat) : Json → String
  | .array [] => "[]"
  | .array items => "[" ++ prettyItems (level + 1) items ++ indent level ++ "]"
  | .object [] => "\x7b\x7d"
  | .object fields => "\x7b" ++ prettyFields (level + 1) fields ++ indent level ++ "\x7d"
  | j => scalar j
where
  prettyItems (level : Nat) : List Json → String
    | [] => ""
    | [j] => indent level ++ pretty level j
    | j :: js => indent level ++ pretty level j ++ "," ++ prettyItems level js
  prettyFields (level : Nat) : List (Option String × Json) → String
    | [] => ""
    | [(k, j)] => indent level ++ quote (k.getD "") ++ ": " ++ pretty level j
    | (k, j) :: fs =>
      indent level ++ quote (k.getD "") ++ ": " ++ pretty level j ++ "," ++ prettyFields level fs

end Json

end Multiplexer
