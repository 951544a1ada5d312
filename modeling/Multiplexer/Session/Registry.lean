import Multiplexer.Session.Id
import Multiplexer.Session.Target

/-!
# The registry of sessions

The live sessions in order of creation, up to a limit that may change at any
time. Ids are never given twice.
-/

namespace Multiplexer

structure Session where
  id : SessionId
  target : SessionTarget
  deriving DecidableEq, Repr

inductive SessionState where
  | idle
  | connecting
  | connected
  /-- Dropped or disconnected after it was connected. -/
  | disconnected
  | failed (error : String)
  deriving DecidableEq, Repr

namespace SessionState

def text : SessionState → String
  | .idle => "idle"
  | .connecting => "connecting"
  | .connected => "connected"
  | .disconnected => "disconnected"
  | .failed _ => "failed"

/-- Whether a new attempt may start. -/
def canConnect : SessionState → Bool
  | .connecting | .connected => false
  | _ => true

def isConnected (s : SessionState) : Bool := s == .connected

end SessionState

inductive RegistryError where
  | limitReached (current max : Nat)
  | notFound (session : SessionId)
  deriving DecidableEq, Repr

def RegistryError.message : RegistryError → String
  | .limitReached current max =>
    "Session limit reached: " ++ toString current ++ "/" ++ toString max
  | .notFound s => "Session not found: " ++ s.text

/-- A word for the cause. -/
def RegistryError.kind : RegistryError → String
  | .limitReached _ _ => "SessionLimitReached"
  | .notFound _ => "NotFound"

structure Registry where
  sessions : List Session := []
  max : Nat := 64
  nextId : Nat := 1
  deriving DecidableEq, Repr

namespace Registry

def size (r : Registry) : Nat := r.sessions.length

def get? (r : Registry) (id : SessionId) : Option Session := r.sessions.find? fun s => s.id == id

def contains (r : Registry) (id : SessionId) : Bool := (r.get? id).isSome

def require (r : Registry) (id : SessionId) : Except RegistryError Session :=
  match r.get? id with
  | some s => .ok s
  | none => .error (.notFound id)

def create (r : Registry) (target : SessionTarget) : Except RegistryError (Session × Registry) :=
  if r.size < r.max then
    let s : Session := ⟨⟨r.nextId⟩, target⟩
    .ok (s, { r with sessions := r.sessions ++ [s], nextId := r.nextId + 1 })
  else .error (.limitReached r.size r.max)

def remove (r : Registry) (id : SessionId) : Option Session × Registry :=
  (r.get? id, { r with sessions := r.sessions.filter fun s => s.id ≠ id })

def setMax (r : Registry) (max : Nat) : Registry := { r with max }

@[simp] theorem size_setMax (r : Registry) (max : Nat) : (r.setMax max).size = r.size := rfl

end Registry

end Multiplexer
