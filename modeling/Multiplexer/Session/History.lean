import Multiplexer.Json.Decode
import Multiplexer.Time.Instant

/-!
# Connection history

One entry for each attempt to connect. The log keeps the latest entries up to
its capacity, oldest first.
-/

namespace Multiplexer

/-- Greatest number of characters of an error in the history. -/
def errorLimit : Nat := 1000

/-- The first `max` characters. -/
def truncate (s : String) (max : Nat) : String := String.ofList (s.toList.take max)

theorem truncate_truncate (s : String) (max : Nat) :
    truncate (truncate s max) max = truncate s max := by
  simp [truncate, List.take_take]

structure HistoryEntry where
  hostId : String
  success : Bool
  error : Option String
  time : Instant
  deriving DecidableEq, Repr

namespace HistoryEntry

def succeeded (hostId : String) (time : Instant) : HistoryEntry := ⟨hostId, true, none, time⟩

def failed (hostId error : String) (time : Instant) : HistoryEntry :=
  ⟨hostId, false, some (truncate error errorLimit), time⟩

def ofJson? (j : Json) : Option HistoryEntry := do
  let f ← j.fields? ["hostId", "success", "error", "timestamp"]
  return {
    hostId := ← f.required "hostId" Json.text?
    success := ← f.required "success" Json.bool?
    error := ← f.optional "error" Json.text?
    time := ← f.required "timestamp" fun j => j.text?.bind Instant.ofText? }

def toJson (e : HistoryEntry) : Json :=
  .obj [("hostId", .str e.hostId), ("success", .bool e.success),
    ("error", match e.error with
      | some s => .str s
      | none => .null), ("timestamp", .str e.time.text)]

end HistoryEntry

structure History where
  entries : List HistoryEntry := []
  capacity : Nat := 500
  deriving DecidableEq, Repr

namespace History

/-- An empty log; a capacity of `0` counts as one. -/
def ofCapacity (capacity : Nat) : History := { capacity := max capacity 1 }

def record (h : History) (e : HistoryEntry) : History :=
  let kept := if h.entries.length = h.capacity then h.entries.drop 1 else h.entries
  { h with entries := kept ++ [e] }

def forHost (h : History) (hostId : String) : List HistoryEntry :=
  h.entries.filter fun e => e.hostId == hostId

end History

end Multiplexer
