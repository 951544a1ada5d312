import Multiplexer.Settings.Basic
import Multiplexer.Trust.Verify

/-!
# Handshakes

A handshake lasts until the key of the server is found good, and no longer than
the settings allow. The time that the user takes to decide about the key counts.
Once it is over nothing changes its result.
-/

namespace Multiplexer

inductive HandshakeStage where
  /-- The key of the server is to come. -/
  | greeting
  /-- The user is asked about the key. -/
  | asking (inquiry : Inquiry)
  | ended (result : Except ConnectError Unit)

structure Handshake where
  hop : Hop
  /-- When it is given up, in milliseconds. -/
  deadline : Nat
  stage : HandshakeStage := .greeting

namespace Handshake

def begin (settings : ConnectSettings) (hop : Hop) (now : Nat) : Handshake :=
  { hop, deadline := now + settings.timeoutSecs * 1000 }

def result? (h : Handshake) : Option (Except ConnectError Unit) :=
  match h.stage with
  | .ended r => some r
  | _ => none

def finish (h : Handshake) (r : Except ConnectError Unit) : Handshake :=
  if h.result?.isSome then h else { h with stage := .ended r }

/-- Give up once the deadline has come. -/
def expire (h : Handshake) (now : Nat) : Handshake :=
  if now < h.deadline then h
  else h.finish (.error (.timeout ("Connection to " ++ h.hop.address ++ " timed out")))

/-- The stream to the server is broken. -/
def breakOff (h : Handshake) (reason : String) : Handshake := h.finish (.error (.protocol reason))

def keyOf (h : Handshake) (algorithm : String) (rawKey : List UInt8) : PresentedKey :=
  ⟨h.hop.hostId, h.hop.hostname, h.hop.port, algorithm, rawKey⟩

variable {σ : Type} [Keyring σ]

/-- The server has shown its key. -/
def hearKey (h : Handshake) (algorithm : String) (rawKey : List UInt8) (now : Instant) (store : σ) :
    Handshake × σ :=
  match h.stage with
  | .greeting =>
    match (h.keyOf algorithm rawKey).check now store with
    | (.settled r, store) => (h.finish r, store)
    | (.asking inquiry, store) => ({ h with stage := .asking inquiry }, store)
  | _ => (h, store)

/-- The user has decided about the key. -/
def answer (h : Handshake) (accept : Bool) (now : Instant) (freshId : String) (store : σ) :
    Handshake × σ :=
  match h.stage with
  | .asking inquiry =>
    let (r, store) := inquiry.answer accept now freshId store
    (h.finish r, store)
  | _ => (h, store)

end Handshake

end Multiplexer
