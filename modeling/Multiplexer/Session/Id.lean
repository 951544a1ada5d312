/-!
# Session ids

An id is a 128-bit number. It is written as 32 hexadecimal digits in groups of
8, 4, 4, 4 and 12, and may be read back without the dashes, in braces or as a
URN.
-/

namespace Multiplexer

structure SessionId where
  value : Nat
  deriving DecidableEq, Repr, Inhabited

namespace SessionId

/-- The low `count` hexadecimal digits, most significant first. -/
def hexDigits (n : Nat) : Nat → List Char
  | 0 => []
  | count + 1 => hexDigits (n / 16) count ++ [Nat.digitChar (n % 16)]

def groups : List Nat := [8, 4, 4, 4, 12]

/-- Groups of the given sizes with dashes between them. -/
def dashed : List Nat → List Char → List Char
  | [], _ => []
  | [n], cs => cs.take n
  | n :: ns, cs => cs.take n ++ '-' :: dashed ns (cs.drop n)

def text (id : SessionId) : String := String.ofList (dashed groups (hexDigits id.value 32))

def hexValue? (c : Char) : Option Nat :=
  if '0' ≤ c ∧ c ≤ '9' then some (c.toNat - '0'.toNat)
  else if 'a' ≤ c ∧ c ≤ 'f' then some (c.toNat - 'a'.toNat + 10)
  else if 'A' ≤ c ∧ c ≤ 'F' then some (c.toNat - 'A'.toNat + 10)
  else none

def ofHex? (cs : List Char) : Option SessionId :=
  (cs.foldlM (fun n c => (hexValue? c).map (16 * n + ·)) 0).map SessionId.mk

/-- The digits of a dashed text, if its dashes stand between the groups. -/
def undashed? : List Nat → List Char → Option (List Char)
  | [], _ => none
  | [n], cs => if cs.length = n then some cs else none
  | n :: ns, cs =>
    match cs.drop n with
    | '-' :: rest => (undashed? ns rest).map (cs.take n ++ ·)
    | _ => none

def ofDashed? (cs : List Char) : Option SessionId := do ofHex? (← undashed? groups cs)

def urn : List Char := "urn:uuid:".toList

def ofText? (s : String) : Option SessionId :=
  let cs := s.toList
  if s.utf8ByteSize = 32 then ofHex? cs
  else if s.utf8ByteSize = 36 then ofDashed? cs
  else if s.utf8ByteSize = 38 then
    if cs.head? = some '\x7b' ∧ cs.getLast? = some '\x7d' then ofDashed? (cs.drop 1).dropLast
    else none
  else if s.utf8ByteSize = 45 ∧ urn.isPrefixOf cs then ofDashed? (cs.drop urn.length)
  else none

end SessionId

end Multiplexer
