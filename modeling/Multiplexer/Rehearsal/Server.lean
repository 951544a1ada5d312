import Multiplexer.Hop.Login
import Multiplexer.Json.Writer
import Multiplexer.Rehearsal.Script

/-!
# Servers that follow a script

A server shows one and the same key, accepts the logins that it is told to and
opens channels or refuses them. The home directory of the user holds a key, its
certificate and a file that is neither.
-/

namespace Multiplexer.Rehearsal

inductive ServerMode where
  /-- Never verdict anything. -/
  | silent
  /-- Breaks the stream. -/
  | gone
  /-- There is no way to it. -/
  | unreachable
  | speaking
  deriving DecidableEq, Repr

/-- Prompts, and the answers that are right; `none` stands for any. -/
structure PromptRound where
  set : PromptSet
  expected : Option (List String) := none
  deriving DecidableEq, Repr

structure ScriptedServer where
  mode : ServerMode := .speaking
  password : Option String := none
  takesKeys : Bool := false
  takesCertificates : Bool := false
  /-- Rounds of prompts; `none` if logins by prompts are rejected. -/
  rounds : Option (List PromptRound) := none
  /-- Whether the first round comes again and again. -/
  repeats : Bool := false
  refusesSessions : Bool := false
  refusesTunnels : Bool := false
  deriving Repr

def serverAlgorithm : String := "ssh-ed25519"

def serverKey : List UInt8 := Script.unhex
  ("0000000b7373682d65643235353139" ++
    "000000208a88e3dd7409f195fd52db2d3cba5d72ca6709bf1d94121bf3748801b40f6f5c").toList

def homePath : String := "/home/user"

/-- Files whose text is the name of what they hold. -/
def keyFiles : KeyFiles where
  home := homePath
  disk :=
    let home : Path := ["home", "user"]
    let file (d : Disk) (name : String) : Disk := d.put (home ++ [name]) (.file name.toUTF8)
    ["id", "id-cert.pub", "garbage"].foldl file ((Disk.put {} ["home"] .folder).put home .folder)
  secretKey? text := if text = "id" then some ⟨serverAlgorithm⟩ else none
  certificate? text := if text = "id-cert.pub" then some ⟨"oracle"⟩ else none

namespace ScriptedServer

def verdict (yes : Bool) : LoginReply := if yes then .success else .failure

/-- What the server notes and replies, with the rounds that are left. -/
def reply (s : ScriptedServer) (rounds : List PromptRound) :
    LoginRequest → List String × LoginReply × List PromptRound
  | .password user p =>
    (["auth password " ++ user ++ " " ++ p], verdict (s.password == some p), rounds)
  | .key user k => (["auth publickey " ++ user ++ " " ++ k.algorithm], verdict s.takesKeys, rounds)
  | .certificate user _ c =>
    (["auth certificate " ++ user ++ " " ++ c.keyId], verdict s.takesCertificates, rounds)
  | .prompts user =>
    match s.rounds with
    | none => ([], .failure, rounds)
    | some rs => (["auth kbi " ++ user], ask rs, rs)
  | .answers texts =>
    let (r, rest) : LoginReply × List PromptRound := match rounds with
      | [] => (.failure, [])
      | r :: rest =>
        if r.expected.any (· ≠ texts) then (.failure, rounds)
        else if s.repeats then (ask rounds, rounds)
        else (ask rest, rest)
    (["answers " ++ (Json.array (texts.map .str)).compact], r, rest)
where
  ask : List PromptRound → LoginReply
    | [] => .success
    | r :: _ => .prompts r.set

end ScriptedServer

namespace Script

def roundOf (j : Json) : PromptRound :=
  let line (j : Json) : PromptLine :=
    let items := (j.items?).getD []
    ⟨((items[0]?).bind text?).getD "", ((items[1]?).bind Json.bool?).getD false⟩
  { set := ⟨textAt j "name", textAt j "instructions", (itemsAt j "prompts").map line⟩
    expected := (field? j "expect").map fun _ => textsAt j "expect" }

def serverAt (j : Json) (k : String) : ScriptedServer :=
  let j := (field? j k).getD (.object [])
  { mode := match textAt j "mode" with
      | "silent" => .silent
      | "hangup" | "garbage" => .gone
      | "tcp" | "tcp_refused" => .unreachable
      | _ => .speaking
    password := textAt? j "password"
    takesKeys := flagAt j "publickey"
    takesCertificates := flagAt j "certificate"
    rounds := (field? j "kbi").map fun _ => (itemsAt j "kbi").map roundOf
    repeats := flagAt j "kbi_repeat"
    refusesSessions := flagAt j "no_session"
    refusesTunnels := flagAt j "no_tunnel" }

/-- A hop with the home directory in its paths. -/
def hopAt (j : Json) (k : String) : Except Fault Hop := do
  let hop ← readAt (Hop.ofJson? .text 0) j k
  let homed (path : String) : String := path.replace "$DIR" homePath
  let auth := match hop.auth with
    | .key path pass => .key (homed path) pass
    | .certificate path cert pass => .certificate (homed path) (homed cert) pass
    | auth => auth
  return { hop with auth }

/-- A record, which may be one of the very key of the server. -/
def recordOfServer (j : Json) : Except Fault KeyRecord := do
  let r ← recordOf j
  return if flagAt j "right" then { r with fingerprint := fingerprint serverKey } else r

end Script

end Multiplexer.Rehearsal
