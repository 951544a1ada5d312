import Multiplexer.Json.Decode

/-!
# Questions to the user

Two kinds of question come up while a connection is made: whether to trust a
host key, and what to answer to the prompts of a server.
-/

namespace Multiplexer

/-- A presented host key that is not trusted yet, or no longer. -/
structure KeyQuestion where
  hostId : String
  hostname : String
  port : Nat
  algorithm : String
  fingerprint : String
  rawKey : List UInt8
  /-- The fingerprint stored before, if there is one. -/
  previous : Option String
  deriving DecidableEq, Repr

def KeyQuestion.isChange (q : KeyQuestion) : Bool := q.previous.isSome

structure PromptLine where
  prompt : String
  /-- Whether the answer may be shown. -/
  echo : Bool
  deriving DecidableEq, Repr

/-- One round of prompts. -/
structure PromptSet where
  name : String := ""
  instructions : String := ""
  prompts : List PromptLine := []
  deriving DecidableEq, Repr

namespace PromptLine

def ofJson? (j : Json) : Option PromptLine := do
  let f ← j.fields? ["prompt", "echo"]
  return { prompt := ← f.required "prompt" Json.text?, echo := ← f.required "echo" Json.bool? }

def toJson (p : PromptLine) : Json := .obj [("prompt", .str p.prompt), ("echo", .bool p.echo)]

end PromptLine

namespace PromptSet

def ofJson? (j : Json) : Option PromptSet := do
  let f ← j.fields? ["name", "instructions", "prompts"]
  return {
    name := ← f.required "name" Json.text?
    instructions := ← f.required "instructions" Json.text?
    prompts := ← f.required "prompts" (Json.listOf PromptLine.ofJson?) }

def toJson (p : PromptSet) : Json :=
  .obj [("name", .str p.name), ("instructions", .str p.instructions),
    ("prompts", .array (p.prompts.map PromptLine.toJson))]

end PromptSet

/-- The question as other parts of an application see it, without the raw key. -/
def KeyQuestion.toJson (q : KeyQuestion) : Json :=
  .obj [("hostId", .str q.hostId), ("hostname", .str q.hostname), ("port", .nat q.port),
    ("algorithm", .str q.algorithm), ("fingerprint", .str q.fingerprint),
    ("previousFingerprint", match q.previous with
      | some s => .str s
      | none => .null)]

end Multiplexer
