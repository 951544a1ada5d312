import Multiplexer.Json.Value
import Multiplexer.Rehearsal.Cast

/-!
# Labels in place of ids

Ids differ from run to run, so a script and a report use labels for them. A
label of a script that is not known yet stands for a session that is nowhere. A
session without a label is given the first free one where it first appears, and
the same holds of records of keys. Tokens have names in scripts only.
-/

namespace Multiplexer.Rehearsal

structure Labels where
  known : List (String × SessionId) := []
  /-- Serial of the next id that belongs to no session. -/
  nowhere : Nat := 0xf00000000000
  /-- Serials of records of keys in the order of their appearance. -/
  records : List String := []
  tokens : List String := []

abbrev Labelling := StateM Labels

namespace Labels

/-- What all ids of sessions begin with, and all ids of records of keys. -/
def sessionMark : String := "00000000-0000-0000-0000-"
def recordMark : String := "80000000-0000-0000-0000-"

def idOf (label : String) : Labelling SessionId := do
  let s ← get
  match s.known.lookup label with
  | some id => return id
  | none =>
    let id : SessionId := ⟨s.nowhere⟩
    set { s with known := (label, id) :: s.known, nowhere := s.nowhere + 1 }
    return id

def give (label : String) (id : SessionId) : Labelling Unit :=
  modify fun s => { s with known := (label, id) :: s.known }

/-- The first label of the form `s1`, `s2`, … that is not in use. -/
def free (s : Labels) : String :=
  let numbered := (List.range (s.known.length + 1)).map fun n => "s" ++ toString (n + 1)
  (numbered.find? fun l => (s.known.lookup l).isNone).getD "s"

def labelOf (id : SessionId) : Labelling String := do
  let s ← get
  match s.known.find? fun k => k.2 == id with
  | some (label, _) => return label
  | none =>
    let label := s.free
    give label id
    return label

def recordLabel (serial : String) : Labelling String := do
  let s ← get
  match s.records.findIdx? (· == serial) with
  | some n => return "new" ++ toString (n + 1)
  | none =>
    set { s with records := s.records ++ [serial] }
    return "new" ++ toString (s.records.length + 1)

/-- The id of a record that was given a label. -/
def recordNamed (label : String) : Labelling String := do
  let serials := (← get).records
  match (List.range serials.length).find? fun n => "new" ++ toString (n + 1) == label with
  | some n => return recordMark ++ serials.getD n ""
  | none => return label

/-- The number of a token name. Number `0` is left to the token that is never cancelled. -/
def tokenOf (name : String) : Labelling Token := do
  let s ← get
  match s.tokens.findIdx? (· == name) with
  | some n => return ⟨n + 1⟩
  | none =>
    set { s with tokens := s.tokens ++ [name] }
    return ⟨s.tokens.length + 1⟩

/-- Replace the 12 characters behind each mark, and the mark with them. -/
def replaceMarked (mark : String) (label : String → Labelling String) (s : String) :
    Labelling String := do
  let parts := s.splitOn mark
  let tails ← parts.tail.mapM fun part => do
    let cs := part.toList
    return (← label (String.ofList (cs.take 12))) ++ String.ofList (cs.drop 12)
  return parts.headD "" ++ String.join tails

def sessionLabel (serial : String) : Labelling String := do
  match SessionId.ofHex? serial.toList with
  | some id => labelOf id
  | none => return serial

/-- A text with labels for all ids in it. -/
def relabelText (s : String) : Labelling String := do
  replaceMarked recordMark recordLabel (← replaceMarked sessionMark sessionLabel s)

/-- A value with labels for all ids in its texts, in the order of the text. -/
def relabel : Json → Labelling Json
  | .string (some s) => return .str (← relabelText s)
  | .array items => return .array (← relabelAll items)
  | .object fields => return .object (← relabelFields fields)
  | j => return j
where
  relabelAll : List Json → Labelling (List Json)
    | [] => return []
    | j :: js => do
      let j ← relabel j
      return j :: (← relabelAll js)
  relabelFields : List (Option String × Json) → Labelling (List (Option String × Json))
    | [] => return []
    | (k, j) :: fs => do
      let j ← relabel j
      return (k, j) :: (← relabelFields fs)

end Labels

end Multiplexer.Rehearsal
