import Multiplexer.Trust.Record

/-!
# Stores of trusted keys

A store keeps at most one record for each host and algorithm. What a verifier
needs of any store are three operations, each of which may fail; a store that is
kept in memory alone never fails but for a record that is not there.
-/

namespace Multiplexer

inductive TrustError where
  | disk (reason : String)
  /-- The file holds no list of records. -/
  | damaged
  | recordNotFound (id : String)
  deriving DecidableEq, Repr

def TrustError.message : TrustError → String
  | .disk reason => "IO error: " ++ reason
  | .damaged => "JSON error"
  | .recordNotFound id => "Fingerprint record not found: " ++ id

/-- A word for the cause. -/
def TrustError.kind : TrustError → String
  | .disk _ => "Io"
  | .damaged => "Json"
  | .recordNotFound _ => "RecordNotFound"

/-- The operations of a store. A failed change may have changed the store all the same. -/
class Keyring (σ : Type) where
  find : String → String → σ → Except TrustError (Option KeyRecord)
  /-- Put a record in the place of the one for its host and algorithm. -/
  upsert : KeyRecord → σ → Except TrustError Unit × σ
  /-- Note that the key of a record has been seen. -/
  touch : String → Instant → σ → Except TrustError Unit × σ

structure TrustStore where
  records : List KeyRecord := []
  deriving DecidableEq, Repr

namespace TrustStore

def get? (s : TrustStore) (hostId algorithm : String) : Option KeyRecord :=
  s.records.find? fun r => r.isFor hostId algorithm

def upsert (s : TrustStore) (r : KeyRecord) : TrustStore :=
  ⟨s.records.filter (fun x => !x.isFor r.hostId r.algorithm) ++ [r]⟩

/-- Of several records for one host and algorithm the last is kept. -/
def ofRecords (rs : List KeyRecord) : TrustStore := rs.foldl upsert {}

/-- The store with the first record of an id seen now. -/
def touch? (s : TrustStore) (id : String) (now : Instant) : Option TrustStore :=
  let (before, rest) := s.records.span fun r => r.id ≠ id
  match rest with
  | r :: after => some ⟨before ++ { r with lastSeen := now } :: after⟩
  | [] => none

def size (s : TrustStore) : Nat := s.records.length

def forHost (s : TrustStore) (hostId : String) : List KeyRecord :=
  s.records.filter fun r => r.hostId == hostId

/-- Whether a record stands before another: by host, then by algorithm. -/
def precedes (a b : KeyRecord) : Bool :=
  decide (a.hostId < b.hostId) || a.hostId == b.hostId && decide (a.algorithm ≤ b.algorithm)

def sorted (s : TrustStore) : List KeyRecord := s.records.mergeSort precedes

instance : Keyring TrustStore where
  find hostId algorithm s := .ok (s.get? hostId algorithm)
  upsert r s := (.ok (), s.upsert r)
  touch id now s :=
    match s.touch? id now with
    | some s => (.ok (), s)
    | none => (.error (.recordNotFound id), s)

end TrustStore

end Multiplexer
