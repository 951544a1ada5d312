import Multiplexer.Connect.Error
import Multiplexer.Prompt.Question
import Multiplexer.Trust.Fingerprint
import Multiplexer.Trust.Store

/-!
# Verifying host keys

A key whose fingerprint is stored as trusted passes. Any other key is a question
to the user, and only an accepted key is stored. Between question and answer the
store may change: the answer is written over the record that was read before.
-/

namespace Multiplexer

/-- A host key as a server presents it. -/
structure PresentedKey where
  hostId : String
  hostname : String
  port : Nat
  algorithm : String
  rawKey : List UInt8
  deriving DecidableEq, Repr

/-- A question that waits for its answer. -/
structure Inquiry where
  question : KeyQuestion
  /-- The record that was stored when the question came up. -/
  existing : Option KeyRecord
  deriving DecidableEq, Repr

inductive Verdict where
  | settled (result : Except ConnectError Unit)
  | asking (inquiry : Inquiry)

namespace PresentedKey

variable {σ : Type} [Keyring σ]

def inquiry (key : PresentedKey) (existing : Option KeyRecord) : Inquiry :=
  ⟨⟨key.hostId, key.hostname, key.port, key.algorithm, Multiplexer.fingerprint key.rawKey,
    key.rawKey, existing.map KeyRecord.fingerprint⟩, existing⟩

/-- Compare a key with the store. That a known key cannot be noted as seen is no fault. -/
def check (key : PresentedKey) (now : Instant) (store : σ) : Verdict × σ :=
  match Keyring.find key.hostId key.algorithm store with
  | .error e => (.settled (.error (.trustStore e.message)), store)
  | .ok stored =>
    match stored.filter fun r => r.vouchesFor (Multiplexer.fingerprint key.rawKey) with
    | some r => (.settled (.ok ()), (Keyring.touch r.id now store).2)
    | none => (.asking (key.inquiry stored), store)

end PresentedKey

namespace Inquiry

variable {σ : Type} [Keyring σ]

/-- The record of an accepted key. It keeps the identity of the record it replaces. -/
def accepted (i : Inquiry) (now : Instant) (freshId : String) : KeyRecord :=
  match i.existing with
  | some r => { r with fingerprint := i.question.fingerprint, lastSeen := now, trusted := true }
  | none =>
    .accepted freshId i.question.hostId i.question.algorithm i.question.fingerprint now

/-- Act on the user's answer. -/
def answer (i : Inquiry) (accept : Bool) (now : Instant) (freshId : String) (store : σ) :
    Except ConnectError Unit × σ :=
  if accept then
    let (r, store) := Keyring.upsert (i.accepted now freshId) store
    (r.mapError fun e => .trustStore e.message, store)
  else (.error (.hostKeyRejected i.question.hostname i.question.algorithm), store)

end Inquiry

end Multiplexer
