import Multiplexer.Rehearsal.Cast
import Multiplexer.Rehearsal.Report
import Multiplexer.Trust.File

/-!
# Trust stores with a scripted user

Keys are shown to a verifier over a store in memory or on a file, and the user
answers each question at once.
-/

namespace Multiplexer.Rehearsal

instance {σ τ : Type} [Keyring σ] [Keyring τ] : Keyring (σ ⊕ τ) where
  find hostId algorithm
    | .inl s => Keyring.find hostId algorithm s
    | .inr t => Keyring.find hostId algorithm t
  upsert r
    | .inl s => let (result, s) := Keyring.upsert r s; (result, .inl s)
    | .inr t => let (result, t) := Keyring.upsert r t; (result, .inr t)
  touch id now
    | .inl s => let (result, s) := Keyring.touch id now s; (result, .inl s)
    | .inr t => let (result, t) := Keyring.touch id now t; (result, .inr t)

structure TrustScene where
  store : Refusing (TrustStore ⊕ TrustFile)
  /-- Hosts that have been asked for or written since the store was opened. -/
  hosts : List String := []
  freshIds : Nat := 0
  /-- The last question to the user. -/
  asked : Option KeyQuestion := none

abbrev TrustM := StateM TrustScene

namespace TrustScene

def meet (hostId : String) : TrustM Unit := modify fun s => { s with hosts := hostId :: s.hosts }

def freshId : TrustM String := do
  let n := (← get).freshIds
  modify fun s => { s with freshIds := n + 1 }
  return recordId n

def verify (key : PresentedKey) (accept : Bool) : TrustM (Except ConnectError Unit) := do
  meet key.hostId
  let (verdict, store) := key.check firstMoment (← get).store
  modify fun s => { s with store }
  match verdict with
  | .settled r => return r
  | .asking i =>
    modify fun s => { s with asked := some i.question }
    let (r, store) := i.answer accept firstMoment (← freshId) (← get).store
    modify fun s => { s with store }
    return r

def find (hostId algorithm : String) : TrustM (Except TrustError (Option KeyRecord)) := do
  meet hostId
  return Keyring.find hostId algorithm (← get).store

def upsert (r : KeyRecord) : TrustM (Except TrustError Unit) := do
  meet r.hostId
  let (result, store) := Keyring.upsert r (← get).store
  modify fun s => { s with store }
  return result

def touch (id : String) : TrustM (Except TrustError Unit) := do
  let (result, store) := Keyring.touch id firstMoment (← get).store
  modify fun s => { s with store }
  return result

/-- The records in memory. -/
def records (s : TrustScene) : TrustStore :=
  match s.store.store with
  | .inl t => t
  | .inr f => f.store

def file? (s : TrustScene) : Option TrustFile := s.store.store.getRight?

/-- Change what is on the disk behind the store's back. -/
def onDisk (f : TrustFile → Disk) : TrustM Unit :=
  modify fun s =>
    match s.store.store with
    | .inl _ => s
    | .inr t => { s with store := { s.store with store := .inr { t with disk := f t } } }

/-- A store in the place of the old one, in full order. -/
def replace (store : TrustStore ⊕ TrustFile) : TrustM Unit :=
  modify fun s => { s with store := { store }, hosts := [] }

/-- Read the file of the store anew; what was in memory alone is lost. -/
def reopen : TrustM (Except TrustError Unit) := do
  match (← get).file? with
  | none =>
    replace (.inl {})
    return .ok ()
  | some f =>
    match TrustFile.load f.path f.disk with
    | .error e => return .error e
    | .ok f =>
      replace (.inr f)
      return .ok ()

/-- The records of the hosts met, and of some others. -/
def shown (s : TrustScene) (others : List String) : TrustStore :=
  ⟨s.records.records.filter fun r => (others ++ s.hosts).contains r.hostId⟩

end TrustScene

namespace Report

def keyQuestion (q : KeyQuestion) : Json :=
  .obj [("request", q.toJson), ("raw", .str (hexText q.rawKey)), ("change", .bool q.isChange)]

/-- A text in which recent times are not told. -/
def timeless (s : String) : String :=
  let part (p : String) : String :=
    match Instant.ofText? p with
    | some t => if t.day < recent then p else "now"
    | none => p
  "\"".intercalate ((s.splitOn "\"").map part)

end Report

end Multiplexer.Rehearsal
