import Multiplexer.Chain.Resolver
import Multiplexer.Session.History
import Multiplexer.Trust.Verify

/-!
# Collaborators that follow a script

The cast answers every call that a connection is made of. How a host or a device
behaves is set by its name, and what the user answers is set beforehand. Every
call leaves a line in the journal.

A call that takes time is a deed: what has been done of it so far.
-/

namespace Multiplexer.Rehearsal

/-- How a host or a device answers. -/
structure Behaviour where
  delayMs : Nat := 0
  /-- Cancelled on the way. -/
  cancel : Option Token := none
  hang : Bool := false
  error : Option ConnectError := none
  /-- How many more times it fails; `none` stands for every time. -/
  failures : Option Nat := none
  key : Option (List UInt8) := none
  algorithm : String := "ssh-ed25519"
  tunnelCancel : Option Token := none
  tunnelError : Option ConnectError := none
  terminalCancel : Option Token := none
  terminalError : Option ConnectError := none
  writeError : Option ConnectError := none
  deriving Repr

/-- What the user answers. -/
structure User where
  /-- Time to decide about a host key. -/
  delayMs : Nat := 0
  /-- Hosts whose keys are rejected. -/
  rejects : List String := []
  /-- Answers to prompts; `none` stands for a cancelled dialog. -/
  answers : Option (List String) := none
  deriving Repr

/-- A store some of whose operations are out of order. -/
structure Refusing (σ : Type) where
  store : σ
  read : Bool := false
  write : Bool := false
  touch : Bool := false

instance {σ : Type} [Keyring σ] : Keyring (Refusing σ) where
  find hostId algorithm s :=
    if s.read then .error (.disk "read refused") else Keyring.find hostId algorithm s.store
  upsert r s :=
    if s.write then (.error (.disk "write refused"), s)
    else
      let (result, store) := Keyring.upsert r s.store
      (result, { s with store })
  touch id now s :=
    if s.touch then (.error (.disk "touch refused"), s)
    else
      let (result, store) := Keyring.touch id now s.store
      (result, { s with store })

structure StagedTerminal where
  label : String
  alive : Bool := true
  deriving Repr

structure Cast where
  behaviours : List (String × Behaviour) := []
  user : User := {}
  profiles : Profiles := []
  book : CredentialBook := {}
  trust : Refusing TrustStore := { store := {} }
  history : History := {}
  links : Nat := 0
  tunnels : Nat := 0
  terminals : List StagedTerminal := []
  /-- The channels that terminals of a host or a device were given, latest first. -/
  reporters : List (String × ChannelId) := []
  freshIds : Nat := 0
  journal : List String := []
  /-- Tokens that were cancelled on the way. -/
  cancels : List Token := []

inductive Deed where
  | delayed (call : Call) (behaviour : Behaviour)
  | asking (hop : Hop) (inquiry : Inquiry)
  deriving Repr

/-- How far a call has come. -/
inductive Progress where
  | replied (r : Reply)
  | busy (ms : Nat) (deed : Deed)
  | stuck

/-- Time of the first moment of a rehearsal. -/
def firstMoment : Instant := { day := 20500, second := 0 }

def moment (now : Nat) : Instant := firstMoment.plusMs now

def hexText (bytes : List UInt8) : String :=
  String.ofList (bytes.flatMap fun b => SessionId.hexDigits b.toNat 2)

def Parity.shown : Parity → String
  | .none => "None"
  | .odd => "Odd"
  | .even => "Even"

def FlowControl.shown : FlowControl → String
  | .none => "None"
  | .software => "Software"
  | .hardware => "Hardware"

def sizeText (s : TerminalSize) : String := toString s.cols ++ "x" ++ toString s.rows

/-- The text of a record id. -/
def recordId (n : Nat) : String := (⟨Nat.pow 2 127 + n⟩ : SessionId).text

abbrev CastM := StateM Cast

namespace Cast

def log (line : String) : CastM Unit := modify fun c => { c with journal := c.journal ++ [line] }

def behaviour (name : String) : CastM Behaviour := do
  return ((← get).behaviours.lookup name).getD {}

def setBehaviour (c : Cast) (name : String) (b : Behaviour) : Cast :=
  { c with behaviours := (name, b) :: c.behaviours.filter fun x => x.1 ≠ name }

def cancel (t : Token) : CastM Unit := modify fun c => { c with cancels := c.cancels ++ [t] }

def report (name : String) (channel : ChannelId) : CastM Unit :=
  modify fun c => { c with reporters := (name, channel) :: c.reporters }

/-- The error that a host or a device fails with this time. -/
def failure? (name : String) (b : Behaviour) : CastM (Option ConnectError) := do
  match b.error with
  | none => return none
  | some e =>
    let current ← behaviour name
    match current.failures with
    | none => return some e
    | some 0 => return none
    | some (n + 1) =>
      modify fun c => c.setBehaviour name { current with failures := some n }
      return some e

def isAlive (c : Cast) (t : Terminal) : Bool := (c.terminals[t.number]?).any StagedTerminal.alive

def openTerminal (label : String) : CastM Reply := do
  let n := (← get).terminals.length
  modify fun c => { c with terminals := c.terminals ++ [{ label }] }
  return .terminal ⟨n, label⟩

def openLink (hop : Hop) : CastM Reply := do
  let n := (← get).links
  modify fun c => { c with links := n + 1 }
  return .link ⟨n, hop.hostId⟩

def openTunnel : CastM Reply := do
  let n := (← get).tunnels
  modify fun c => { c with tunnels := n + 1 }
  return .tunnel ⟨n⟩

/-- The user's question to log, with more about it before the last word. -/
def questionText (q : KeyQuestion) (more : String) : String :=
  "prompt hostkey " ++ q.hostId ++ " " ++ q.hostname ++ ":" ++ toString q.port ++ " " ++
    q.algorithm ++ " " ++ q.fingerprint ++ " raw=" ++ hexText q.rawKey ++ more ++ " change=" ++ toString q.isChange

/-- Ask for a code where the credentials are to be typed in. -/
def authenticate (hop : Hop) : CastM Reply := do
  match hop.auth with
  | .keyboardInteractive =>
    log ("prompt kbi " ++ hop.hostId ++ " 1")
    match (← get).user.answers with
    | none => return .failed .authenticationCancelled
    | some ["123456"] => openLink hop
    | some _ => return .failed (.authenticationFailed "wrong code")
  | _ => openLink hop

/-- The user has decided about a key. -/
def decide (now : Nat) (hop : Hop) (inquiry : Inquiry) : CastM Reply := do
  let c ← get
  let accept := !c.user.rejects.contains inquiry.question.hostId
  let (r, trust) := inquiry.answer accept (moment now) (recordId c.freshIds) c.trust
  set { c with trust, freshIds := c.freshIds + 1 }
  match r with
  | .ok _ => authenticate hop
  | .error e => return .failed e

/-- Show a key to the verifier. -/
def verify (now : Nat) (hop : Hop) (b : Behaviour) : CastM Progress := do
  let key : PresentedKey :=
    ⟨hop.hostId, hop.hostname, hop.port, b.algorithm,
      b.key.getD ("key-" ++ hop.hostId).toUTF8.toList⟩
  let (verdict, trust) := key.check (moment now) (← get).trust
  modify fun c => { c with trust }
  match verdict with
  | .settled (.ok _) => return .replied (← authenticate hop)
  | .settled (.error e) => return .replied (.failed e)
  | .asking inquiry =>
    log (questionText inquiry.question (" previous=" ++ inquiry.question.previous.getD "-"))
    match (← get).user.delayMs with
    | 0 => return .replied (← decide now hop inquiry)
    | ms => return .busy ms (.asking hop inquiry)

/-- What a call does after the delay of its host or device. -/
def act (now : Nat) (call : Call) (name : String) (b : Behaviour) : CastM Progress := do
  if let some t := b.cancel then cancel t
  if b.hang then return .stuck
  if let some e ← failure? name b then return .replied (.failed e)
  match call with
  | .hop hop _ => verify now hop b
  | _ => return .replied (← openTerminal name)

def delayed (now : Nat) (call : Call) (name : String) : CastM Progress := do
  let b ← behaviour name
  match b.delayMs with
  | 0 => act now call name b
  | ms => return .busy ms (.delayed call b)

/-- Take a call. -/
def begin (now : Nat) (cancelled : Token → Bool) (call : Call) : CastM Progress := do
  match call with
  | .resolve target token =>
    let c ← get
    match resolveChain c.profiles c.book target (cancelled token) with
    | .ok hops => return .replied (.hops hops)
    | .error e => return .replied (.failed e)
  | .hop hop tunnel =>
    log ("connect " ++ hop.hostId ++ " " ++ hop.label ++ " " ++ hop.auth.kind ++
      (if tunnel.isSome then " (tunnelled)" else ""))
    delayed now call hop.hostId
  | .tunnel link host port =>
    log ("tunnel " ++ link.label ++ "->" ++ host ++ ":" ++ toString port)
    let b ← behaviour link.label
    match b.tunnelCancel, b.tunnelError with
    | some t, _ =>
      cancel t
      return .stuck
    | none, some e => return .replied (.failed e)
    | none, none => return .replied (← openTunnel)
  | .terminal link size channel =>
    log ("terminal " ++ link.label ++ " " ++ sizeText size)
    report link.label channel
    let b ← behaviour link.label
    match b.terminalCancel, b.terminalError with
    | some t, _ =>
      cancel t
      return .stuck
    | none, some e => return .replied (.failed e)
    | none, none => return .replied (← openTerminal link.label)
  | .serial p channel =>
    log ("open " ++ p.device ++ " " ++ toString p.baudRate ++ " " ++ toString p.dataBits ++
      Parity.shown p.parity ++ toString p.stopBits ++ " " ++ FlowControl.shown p.flowControl)
    report p.device channel
    delayed now call p.device
  | .closeTerminal t =>
    log ("close terminal " ++ t.label)
    modify fun c =>
      { c with terminals := c.terminals.modify t.number fun x => { x with alive := false } }
    return .replied .done
  | .closeLink l =>
    log ("close " ++ l.label)
    return .replied .done
  | .note hostId none =>
    log ("history ok=true " ++ hostId)
    modify fun c => { c with history := c.history.record (.succeeded hostId (moment now)) }
    return .replied .done
  | .note hostId (some error) =>
    log ("history ok=false " ++ hostId ++ ": " ++ error)
    modify fun c => { c with history := c.history.record (.failed hostId error (moment now)) }
    return .replied .done
  | .startForwards session hostId connection token =>
    log ("forward start " ++ session.text ++ " " ++ hostId ++ " alive=" ++
      toString ((← get).isAlive connection.terminal) ++ " cancelled=" ++ toString (cancelled token))
    return .replied .done
  | .stopForwards session =>
    log ("forward stop " ++ session.text)
    return .replied .done

/-- Go on with a call after its time has passed. -/
def resume (now : Nat) : Deed → CastM Progress
  | .delayed call b =>
    match call with
    | .hop hop _ => act now call hop.hostId b
    | .serial p _ => act now call p.device b
    | _ => return .stuck
  | .asking hop inquiry => return .replied (← decide now hop inquiry)

/-- Tokens cancelled since the last time they were taken out. -/
def takeCancels : CastM (List Token) := do
  let c ← get
  set { c with cancels := [] }
  return c.cancels

/-- Write to a terminal, or say why that fails. -/
def write (t : Terminal) (bytes : List UInt8) : CastM (Option ConnectError) := do
  log ("write " ++ t.label ++ " " ++ hexText bytes)
  return (← behaviour t.label).writeError

def resize (t : Terminal) (size : TerminalSize) : CastM Unit :=
  log ("resize " ++ t.label ++ " " ++ sizeText size)

end Cast

end Multiplexer.Rehearsal
