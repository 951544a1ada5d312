import Multiplexer.Json.Decode
import Multiplexer.Time.Instant

/-!
# Host key records

The fingerprint that is stored for a host and a key algorithm, and whether the
user trusts it.
-/

namespace Multiplexer

structure KeyRecord where
  id : String
  hostId : String
  algorithm : String
  fingerprint : String
  firstSeen : Instant
  lastSeen : Instant
  trusted : Bool
  deriving DecidableEq, Repr

namespace KeyRecord

/-- A record of a key that is trusted from now on. -/
def accepted (id hostId algorithm fingerprint : String) (now : Instant) : KeyRecord :=
  ⟨id, hostId, algorithm, fingerprint, now, now, true⟩

/-- Whether the record is for a host and an algorithm. -/
def isFor (r : KeyRecord) (hostId algorithm : String) : Bool :=
  r.hostId == hostId && r.algorithm == algorithm

def vouchesFor (r : KeyRecord) (fingerprint : String) : Bool :=
  r.trusted && r.fingerprint == fingerprint

def time? (j : Json) : Option Instant := j.text?.bind Instant.ofText?

def ofJson? (j : Json) : Option KeyRecord := do
  let f ← j.fields? ["id", "hostId", "algorithm", "fingerprint", "firstSeen", "lastSeen",
    "isTrusted"]
  return {
    id := ← f.required "id" Json.text?
    hostId := ← f.required "hostId" Json.text?
    algorithm := ← f.required "algorithm" Json.text?
    fingerprint := ← f.required "fingerprint" Json.text?
    firstSeen := ← f.required "firstSeen" time?
    lastSeen := ← f.required "lastSeen" time?
    trusted := ← f.required "isTrusted" Json.bool? }

def toJson (r : KeyRecord) : Json :=
  .obj [("id", .str r.id), ("hostId", .str r.hostId), ("algorithm", .str r.algorithm),
    ("fingerprint", .str r.fingerprint), ("firstSeen", .str r.firstSeen.text),
    ("lastSeen", .str r.lastSeen.text), ("isTrusted", .bool r.trusted)]

end KeyRecord

end Multiplexer
