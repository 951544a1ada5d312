import Multiplexer.Json.Decode
import Multiplexer.Session.Target

/-!
# Targets as JSON

The written form of everything that names a remote end. Credentials are a
choice tagged `type`, targets a choice tagged `kind`; `level` counts the arrays
and objects around a value in its text.
-/

namespace Multiplexer

open Json (Source)

def portLimit : Nat := Nat.pow 2 16

namespace AuthMethod

inductive Tag where
  | password
  | key
  | certificate
  | keyboardInteractive

def tags : List (String × Tag) :=
  [("password", .password), ("key", .key), ("certificate", .certificate),
    ("keyboard_interactive", .keyboardInteractive)]

def ofTagged? : Tag → Json → Option AuthMethod
  | .password, j => do
    let f ← j.fields? ["password"]
    return .password (← f.required "password" Json.text?)
  | .key, j => do
    let f ← j.fields? ["key_path", "passphrase"]
    return .key (← f.required "key_path" Json.text?) (← f.optional "passphrase" Json.text?)
  | .certificate, j => do
    let f ← j.fields? ["key_path", "cert_path", "passphrase"]
    return .certificate (← f.required "key_path" Json.text?) (← f.required "cert_path" Json.text?)
      (← f.optional "passphrase" Json.text?)
  | .keyboardInteractive, j => if j.nothingLeft then some .keyboardInteractive else none

def ofJson? (source : Source) (level : Nat) (j : Json) : Option AuthMethod := do
  if source = .text ∧ !j.keepable level then none
  let (tag, rest) ← j.tagged? source "type" tags
  ofTagged? tag rest

def textOrNull : Option String → Json
  | some s => .str s
  | none => .null

def toJson (a : AuthMethod) : Json :=
  .obj (("type", .str a.kind) :: match a with
    | .password p => [("password", .str p)]
    | .key path phrase => [("key_path", .str path), ("passphrase", textOrNull phrase)]
    | .certificate path cert phrase =>
      [("key_path", .str path), ("cert_path", .str cert), ("passphrase", textOrNull phrase)]
    | .keyboardInteractive => [])

end AuthMethod

namespace Hop

def ofJson? (source : Source) (level : Nat) (j : Json) : Option Hop := do
  let f ← j.fields? ["host_id", "hostname", "port", "username", "auth"]
  return {
    hostId := ← f.required "host_id" Json.text?
    hostname := ← f.required "hostname" Json.text?
    port := ← f.orDefault "port" 22 (Json.natBelow portLimit)
    username := ← f.required "username" Json.text?
    auth := ← f.required "auth" (AuthMethod.ofJson? source (level + 1)) }

def toJson (h : Hop) : Json :=
  .obj [("host_id", .str h.hostId), ("hostname", .str h.hostname), ("port", .nat h.port),
    ("username", .str h.username), ("auth", h.auth.toJson)]

end Hop

namespace JumpHost

def ofJson? (j : Json) : Option JumpHost := do
  let f ← j.fields? ["host_id", "hostname", "port", "username"]
  return {
    hostId := ← f.required "host_id" Json.text?
    hostname := ← f.required "hostname" Json.text?
    port := ← f.orDefault "port" 22 (Json.natBelow portLimit)
    username := ← f.required "username" Json.text? }

def toJson (h : JumpHost) : Json :=
  .obj [("host_id", .str h.hostId), ("hostname", .str h.hostname), ("port", .nat h.port),
    ("username", .str h.username)]

end JumpHost

namespace SshTarget

def ofJson? (source : Source) (level : Nat) (j : Json) : Option SshTarget := do
  let f ← j.fields? ["host", "proxy_jump"]
  return {
    host := ← f.required "host" (Hop.ofJson? source (level + 1))
    proxyJump := ← f.orDefault "proxy_jump" none (Json.orNull Json.text?) }

def fields (t : SshTarget) : List (String × Json) :=
  ("host", t.host.toJson) :: (t.proxyJump.toList.map fun p => ("proxy_jump", .str p))

def toJson (t : SshTarget) : Json := .obj t.fields

end SshTarget

def Parity.names : List (String × Parity) := [("none", .none), ("odd", .odd), ("even", .even)]

def Parity.text : Parity → String
  | .none => "none"
  | .odd => "odd"
  | .even => "even"

def FlowControl.names : List (String × FlowControl) :=
  [("none", .none), ("software", .software), ("hardware", .hardware)]

def FlowControl.text : FlowControl → String
  | .none => "none"
  | .software => "software"
  | .hardware => "hardware"

namespace SerialParams

def ofJson? (source : Source) (j : Json) : Option SerialParams := do
  let f ← j.fields? ["device", "baudRate", "dataBits", "parity", "stopBits", "flowControl"]
  return {
    device := ← f.required "device" Json.text?
    baudRate := ← f.required "baudRate" (Json.natBelow (Nat.pow 2 32))
    dataBits := ← f.orDefault "dataBits" 8 (Json.natBelow (Nat.pow 2 8))
    parity := ← f.orDefault "parity" .none (Json.nameOf source Parity.names)
    stopBits := ← f.orDefault "stopBits" 1 (Json.natBelow (Nat.pow 2 8))
    flowControl := ← f.orDefault "flowControl" .none (Json.nameOf source FlowControl.names) }

def fields (p : SerialParams) : List (String × Json) :=
  [("device", .str p.device), ("baudRate", .nat p.baudRate), ("dataBits", .nat p.dataBits),
    ("parity", .str p.parity.text), ("stopBits", .nat p.stopBits),
    ("flowControl", .str p.flowControl.text)]

def toJson (p : SerialParams) : Json := .obj p.fields

end SerialParams

namespace SessionTarget

inductive Tag where
  | ssh
  | serial

def tags : List (String × Tag) := [("ssh", .ssh), ("serial", .serial)]

def ofJson? (j : Json) : Option SessionTarget := do
  if !j.keepable 0 then none
  match ← j.tagged? .text "kind" tags with
  | (.ssh, rest) => return .ssh (← SshTarget.ofJson? .kept 0 rest)
  | (.serial, rest) => return .serial (← SerialParams.ofJson? .kept rest)

def toJson : SessionTarget → Json
  | .ssh t => .obj (("kind", .str "ssh") :: t.fields)
  | .serial p => .obj (("kind", .str "serial") :: p.fields)

end SessionTarget

namespace TerminalSize

def ofJson? (j : Json) : Option TerminalSize := do
  let f ← j.fields? ["cols", "rows"]
  return { cols := ← f.required "cols" (Json.natBelow (Nat.pow 2 32))
           rows := ← f.required "rows" (Json.natBelow (Nat.pow 2 32)) }

def toJson (t : TerminalSize) : Json := .obj [("cols", .nat t.cols), ("rows", .nat t.rows)]

end TerminalSize

end Multiplexer
