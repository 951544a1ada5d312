import Multiplexer.Session.Id
import Multiplexer.Session.TargetJson

/-!
# Forward rules

Which port of which side is forwarded where, and what became of a forward that
was started for a session.
-/

namespace Multiplexer

inductive ForwardType where
  | localPort
  | remotePort
  | dynamicPort
  deriving DecidableEq, Repr

namespace ForwardType

def text : ForwardType → String
  | .localPort => "local"
  | .remotePort => "remote"
  | .dynamicPort => "dynamic"

def names : List (String × ForwardType) :=
  [("local", .localPort), ("remote", .remotePort), ("dynamic", .dynamicPort)]

end ForwardType

inductive ForwardStatus where
  | starting
  | active
  | stopped
  | error
  deriving DecidableEq, Repr

namespace ForwardStatus

def text : ForwardStatus → String
  | .starting => "starting"
  | .active => "active"
  | .stopped => "stopped"
  | .error => "error"

def names : List (String × ForwardStatus) :=
  [("starting", .starting), ("active", .active), ("stopped", .stopped), ("error", .error)]

end ForwardStatus

structure ForwardRule where
  id : String
  type : ForwardType
  bindAddress : String
  bindPort : Nat
  targetHost : String
  targetPort : Nat
  autoStart : Bool := false
  description : Option String := none
  deriving DecidableEq, Repr

namespace ForwardRule

def bindAddr (r : ForwardRule) : String := r.bindAddress ++ ":" ++ toString r.bindPort

def ofJson? (j : Json) : Option ForwardRule := do
  let f ← j.fields? ["id", "forwardType", "bindAddress", "bindPort", "targetHost", "targetPort",
    "autoStart", "description"]
  return {
    id := ← f.required "id" Json.text?
    type := ← f.required "forwardType" (Json.nameOf .text ForwardType.names)
    bindAddress := ← f.required "bindAddress" Json.text?
    bindPort := ← f.required "bindPort" (Json.natBelow portLimit)
    targetHost := ← f.required "targetHost" Json.text?
    targetPort := ← f.required "targetPort" (Json.natBelow portLimit)
    autoStart := ← f.orDefault "autoStart" false Json.bool?
    description := ← f.optional "description" Json.text? }

def toJson (r : ForwardRule) : Json :=
  .obj [("id", .str r.id), ("forwardType", .str r.type.text), ("bindAddress", .str r.bindAddress),
    ("bindPort", .nat r.bindPort), ("targetHost", .str r.targetHost),
    ("targetPort", .nat r.targetPort), ("autoStart", .bool r.autoStart),
    ("description", match r.description with
      | some s => .str s
      | none => .null)]

end ForwardRule

/-- A forward that was started for a session, or failed to start. -/
structure ForwardHandle where
  ruleId : String
  session : SessionId
  type : ForwardType
  /-- Address it listens on. -/
  bound : Option String
  status : ForwardStatus
  error : Option String
  deriving DecidableEq, Repr

end Multiplexer
