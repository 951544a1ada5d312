/-!
# Blank characters

The characters with the Unicode property `White_Space`.
-/

namespace Multiplexer

def blankRanges : List (Nat × Nat) :=
  [(0x9, 0xd), (0x20, 0x20), (0x85, 0x85), (0xa0, 0xa0), (0x1680, 0x1680), (0x2000, 0x200a),
    (0x2028, 0x2029), (0x202f, 0x202f), (0x205f, 0x205f), (0x3000, 0x3000)]

def isBlank (c : Char) : Bool := blankRanges.any fun (low, high) => low ≤ c.toNat && c.toNat ≤ high

def skipBlanks (cs : List Char) : List Char := cs.dropWhile isBlank

/-- No character but blanks. -/
def allBlank (s : String) : Bool := s.toList.all isBlank

end Multiplexer
