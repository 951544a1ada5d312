import Multiplexer.Json.Value

/-!
# Reading JSON text

The grammar alone: a text is a value with blanks around it and nothing after
it. Each function takes what is left of the text and returns what it leaves;
fuel is the length of the text, since every call reads a character.
-/

namespace Multiplexer

namespace Json.Reader

abbrev Rest := List Char

def isBlank (c : Char) : Bool := c == ' ' || c == '\n' || c == '\t' || c == '\r'

def skip (cs : Rest) : Rest := cs.dropWhile isBlank

def digit? (c : Char) : Option (Fin 10) :=
  if c.isDigit then some ⟨(c.toNat - '0'.toNat) % 10, Nat.mod_lt _ (Nat.zero_lt_succ 9)⟩ else none

def digits : Rest → Digits × Rest
  | [] => ([], [])
  | c :: cs =>
    match digit? c with
    | some d => let (ds, rest) := digits cs; (d :: ds, rest)
    | none => ([], c :: cs)

/-- Digits, of which at least one must be there. -/
def digits? (cs : Rest) : Option (Digits × Rest) :=
  match digits cs with
  | ([], _) => none
  | found => some found

def whole? (cs : Rest) : Option (Digits × Rest) := do
  let (ds, rest) ← digits? cs
  if ds.length > 1 && ds.head?.map Fin.val == some 0 then none else some (ds, rest)

def fraction? : Rest → Option (Option Digits × Rest)
  | '.' :: cs => (digits? cs).map fun (ds, rest) => (some ds, rest)
  | cs => some (none, cs)

def power? : Rest → Option ((Bool × Digits) × Rest)
  | '+' :: cs => (digits? cs).map fun (ds, rest) => ((false, ds), rest)
  | '-' :: cs => (digits? cs).map fun (ds, rest) => ((true, ds), rest)
  | cs => (digits? cs).map fun (ds, rest) => ((false, ds), rest)

def exponent? : Rest → Option (Option (Bool × Digits) × Rest)
  | 'e' :: cs => (power? cs).map fun (p, rest) => (some p, rest)
  | 'E' :: cs => (power? cs).map fun (p, rest) => (some p, rest)
  | cs => some (none, cs)

def numeral? (cs : Rest) : Option (Numeral × Rest) := do
  let (negative, cs) := match cs with
    | '-' :: rest => (true, rest)
    | _ => (false, cs)
  let (whole, cs) ← whole? cs
  let (fraction, cs) ← fraction? cs
  let (exponent, cs) ← exponent? cs
  some (⟨negative, whole, fraction, exponent⟩, cs)

def hexDigit? (c : Char) : Option Nat :=
  if c.isDigit then some (c.toNat - '0'.toNat)
  else if 'a' ≤ c ∧ c ≤ 'f' then some (c.toNat - 'a'.toNat + 10)
  else if 'A' ≤ c ∧ c ≤ 'F' then some (c.toNat - 'A'.toNat + 10)
  else none

def hex4? : Rest → Option (Nat × Rest)
  | a :: b :: c :: d :: rest => do
    let a ← hexDigit? a
    let b ← hexDigit? b
    let c ← hexDigit? c
    let d ← hexDigit? d
    some (((a * 16 + b) * 16 + c) * 16 + d, rest)
  | _ => none

/-- Meaning of the letter after a backslash. -/
def escape? : Char → Option Char
  | '"' => some '"'
  | '\\' => some '\\'
  | '/' => some '/'
  | 'b' => some '\x08'
  | 'f' => some '\x0c'
  | 'n' => some '\n'
  | 'r' => some '\r'
  | 't' => some '\t'
  | _ => none

/-- One item of a string: a character, or the 16-bit unit of an escape. -/
inductive Item where
  | char (c : Char)
  | unit (n : Nat)

def isLeading (n : Nat) : Bool := 0xd800 ≤ n && n < 0xdc00
def isTrailing (n : Nat) : Bool := 0xdc00 ≤ n && n < 0xe000

/-- The text of a string's items; surrogates must come in pairs. -/
def text? : List Item → Option (List Char)
  | [] => some []
  | .char c :: rest => (text? rest).map (c :: ·)
  | .unit a :: .unit b :: rest =>
    if isLeading a then
      if isTrailing b then
        (text? rest).map (Char.ofNat ((a - 0xd800) * 0x400 + (b - 0xdc00) + 0x10000) :: ·)
      else none
    else if isTrailing a then none
    else (text? (.unit b :: rest)).map (Char.ofNat a :: ·)
  | .unit a :: rest =>
    if isLeading a || isTrailing a then none else (text? rest).map (Char.ofNat a :: ·)

/-- Items up to the closing quote. -/
def items? : Nat → List Item → Rest → Option (List Item × Rest)
  | 0, _, _ => none
  | _ + 1, _, [] => none
  | fuel + 1, read, c :: cs =>
    if c == '"' then some (read.reverse, cs)
    else if c == '\\' then
      match cs with
      | 'u' :: cs =>
        match hex4? cs with
        | some (n, cs) => items? fuel (.unit n :: read) cs
        | none => none
      | e :: cs =>
        match escape? e with
        | some d => items? fuel (.char d :: read) cs
        | none => none
      | [] => none
    else if c.toNat < 0x20 then none
    else items? fuel (.char c :: read) cs

/-- A string after its opening quote. -/
def string? (fuel : Nat) (cs : Rest) : Option (Option String × Rest) :=
  (items? fuel [] cs).map fun (items, rest) => ((text? items).map String.ofList, rest)

def word? (word : List Char) (j : Json) (cs : Rest) : Option (Json × Rest) :=
  if word.isPrefixOf cs then some (j, cs.drop word.length) else none

mutual

def value? : Nat → Rest → Option (Json × Rest)
  | 0, _ => none
  | fuel + 1, cs =>
    match skip cs with
    | '"' :: cs => (string? fuel cs).map fun (s, rest) => (.string s, rest)
    | '[' :: cs =>
      match skip cs with
      | ']' :: cs => some (.array [], cs)
      | cs => elements? fuel [] cs
    | '\x7b' :: cs =>
      match skip cs with
      | '\x7d' :: cs => some (.object [], cs)
      | cs => members? fuel [] cs
    | 't' :: cs => word? ['r', 'u', 'e'] (.bool true) cs
    | 'f' :: cs => word? ['a', 'l', 's', 'e'] (.bool false) cs
    | 'n' :: cs => word? ['u', 'l', 'l'] .null cs
    | cs => (numeral? cs).map fun (n, rest) => (.number n, rest)

/-- The rest of an array that is not empty. -/
def elements? : Nat → List Json → Rest → Option (Json × Rest)
  | 0, _, _ => none
  | fuel + 1, read, cs =>
    match value? fuel cs with
    | none => none
    | some (j, cs) =>
      match skip cs with
      | ',' :: cs => elements? fuel (j :: read) cs
      | ']' :: cs => some (.array (j :: read).reverse, cs)
      | _ => none

/-- The rest of an object that is not empty. -/
def members? : Nat → List (Option String × Json) → Rest → Option (Json × Rest)
  | 0, _, _ => none
  | fuel + 1, read, cs =>
    match skip cs with
    | '"' :: cs =>
      match string? fuel cs with
      | none => none
      | some (name, cs) =>
        match skip cs with
        | ':' :: cs =>
          match value? fuel cs with
          | none => none
          | some (j, cs) =>
            match skip cs with
            | ',' :: cs => members? fuel ((name, j) :: read) cs
            | '\x7d' :: cs => some (.object ((name, j) :: read).reverse, cs)
            | _ => none
        | _ => none
    | _ => none

end

end Json.Reader

/-- The value that a text is, with blanks around it. -/
def Json.ofText? (text : String) : Option Json := do
  let cs := text.toList
  let (j, rest) ← Json.Reader.value? (cs.length + 1) cs
  if (Json.Reader.skip rest).isEmpty then some j else none

end Multiplexer
