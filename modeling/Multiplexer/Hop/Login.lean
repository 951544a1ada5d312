import Multiplexer.Hop.KeyFile
import Multiplexer.Prompt.Question
import Multiplexer.Session.Target

/-!
# Logging in to a hop

A password, a key or a certificate is shown once and then accepted or rejected.
A login by prompts takes rounds: the server sends prompts, the user answers them
or calls off, and the answers go back if there is one for each prompt. After the
last round that is allowed the server is no longer heard.
-/

namespace Multiplexer

/-- Greatest number of rounds of prompts that a user is asked to answer. -/
def maxPromptRounds : Nat := 10

inductive LoginRequest where
  | password (user password : String)
  | key (user : String) (key : SecretKey)
  | certificate (user : String) (key : SecretKey) (certificate : Certificate)
  /-- Ask for prompts. -/
  | prompts (user : String)
  | answers (texts : List String)
  deriving DecidableEq, Repr

inductive LoginReply where
  | success
  | failure
  | prompts (set : PromptSet)
  /-- Nothing came back, for a reason. -/
  | broken (reason : String)
  deriving DecidableEq, Repr

inductive LoginStage where
  /-- The server decides at once. -/
  | deciding
  /-- The server is to send prompts or to decide, with so many rounds answered. -/
  | awaiting (rounds : Nat)
  /-- The user is asked. -/
  | asking (rounds : Nat) (set : PromptSet)
  | ended (result : Except ConnectError Unit)

structure Login where
  hostname : String
  stage : LoginStage

namespace Login

def fail (l : Login) (e : ConnectError) : Login := { l with stage := .ended (.error e) }

def reject (l : Login) (reason : String) : Login := l.fail (.authenticationFailed reason)

/-- Begin to log in. Keys are read first, and nothing is sent without them. -/
def start (files : KeyFiles) (hop : Hop) : Login × Option LoginRequest :=
  let login (stage : LoginStage) : Login := ⟨hop.hostname, stage⟩
  let request : Except ConnectError LoginRequest := match hop.auth with
    | .password p => .ok (.password hop.username p)
    | .key path _ => do return .key hop.username (← files.loadSecretKey path)
    | .certificate path certPath _ => do
      let key ← files.loadSecretKey path
      return .certificate hop.username key (← files.loadCertificate certPath)
    | .keyboardInteractive => .ok (.prompts hop.username)
  match request with
  | .ok (.prompts user) => (login (.awaiting 0), some (.prompts user))
  | .ok r => (login .deciding, some r)
  | .error e => (login (.ended (.error e)), none)

/-- The server has replied. -/
def hear (l : Login) (r : LoginReply) : Login :=
  match l.stage, r with
  | .deciding, .success => { l with stage := .ended (.ok ()) }
  | .deciding, .broken reason => l.reject reason
  | .deciding, _ => l.reject ("Authentication to " ++ l.hostname ++ " rejected")
  | .awaiting 0, .broken reason => l.reject ("KBI start failed: " ++ reason)
  | .awaiting _, .broken reason => l.reject ("KBI respond failed: " ++ reason)
  | .awaiting n, r =>
    if maxPromptRounds ≤ n then
      l.reject ("Too many keyboard-interactive rounds from " ++ l.hostname)
    else
      match r with
      | .success => { l with stage := .ended (.ok ()) }
      | .prompts set => { l with stage := .asking n set }
      | _ => l.reject "Authentication rejected by server"
  | _, _ => l

/-- The user has answered, or called off. -/
def answer (l : Login) (answers : Option (List String)) : Login × Option LoginRequest :=
  match l.stage, answers with
  | .asking _ _, none => (l.fail .authenticationCancelled, none)
  | .asking n set, some texts =>
    if texts.length = set.prompts.length then
      ({ l with stage := .awaiting (n + 1) }, some (.answers texts))
    else
      (l.reject ("Expected " ++ toString set.prompts.length ++ " responses, got " ++
        toString texts.length), none)
  | _, _ => (l, none)

end Login

end Multiplexer
