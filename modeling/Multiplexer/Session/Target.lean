/-!
# What a session connects to

An SSH target is a host with the credentials for it, reached directly or through
the jump hosts of a named profile. A serial target is a device with its line
parameters.
-/

namespace Multiplexer

inductive AuthMethod where
  | password (password : String)
  | key (keyPath : String) (passphrase : Option String)
  | certificate (keyPath certPath : String) (passphrase : Option String)
  | keyboardInteractive
  deriving DecidableEq, Repr

def AuthMethod.kind : AuthMethod → String
  | .password _ => "password"
  | .key _ _ => "key"
  | .certificate _ _ _ => "certificate"
  | .keyboardInteractive => "keyboard_interactive"

/-- One host on the way to a target, or the target itself. -/
structure Hop where
  hostId : String
  hostname : String
  port : Nat := 22
  username : String
  auth : AuthMethod
  deriving DecidableEq, Repr

def Hop.address (h : Hop) : String := h.hostname ++ ":" ++ toString h.port

def Hop.label (h : Hop) : String := h.username ++ "@" ++ h.address

/-- A jump host of a profile: a hop whose credentials are kept elsewhere. -/
structure JumpHost where
  hostId : String
  hostname : String
  port : Nat := 22
  username : String
  deriving DecidableEq, Repr

def JumpHost.toHop (j : JumpHost) (auth : AuthMethod) : Hop :=
  { hostId := j.hostId, hostname := j.hostname, port := j.port, username := j.username, auth }

structure SshTarget where
  host : Hop
  /-- Name of the profile with the jump hosts. -/
  proxyJump : Option String := none
  deriving DecidableEq, Repr

inductive Parity where
  | none
  | odd
  | even
  deriving DecidableEq, Repr

inductive FlowControl where
  | none
  | software
  | hardware
  deriving DecidableEq, Repr

structure SerialParams where
  device : String
  baudRate : Nat
  dataBits : Nat := 8
  parity : Parity := .none
  stopBits : Nat := 1
  flowControl : FlowControl := .none
  deriving DecidableEq, Repr

inductive SessionTarget where
  | ssh (target : SshTarget)
  | serial (params : SerialParams)
  deriving DecidableEq, Repr

inductive ConnectionKind where
  | sshDirect
  | sshProxyChain
  | serial
  deriving DecidableEq, Repr

def ConnectionKind.text : ConnectionKind → String
  | .sshDirect => "ssh_direct"
  | .sshProxyChain => "ssh_proxy_chain"
  | .serial => "serial"

namespace SessionTarget

def kind : SessionTarget → ConnectionKind
  | .ssh t => if t.proxyJump.isSome then .sshProxyChain else .sshDirect
  | .serial _ => .serial

/-- Key of the target in the history and among trusted hosts. -/
def hostId : SessionTarget → String
  | .ssh t => t.host.hostId
  | .serial p => p.device

def label : SessionTarget → String
  | .ssh t => t.host.label
  | .serial p => p.device ++ "@" ++ toString p.baudRate

end SessionTarget

structure TerminalSize where
  cols : Nat := 80
  rows : Nat := 24
  deriving DecidableEq, Repr

end Multiplexer
