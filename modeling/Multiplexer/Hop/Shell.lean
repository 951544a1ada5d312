import Multiplexer.Connect.Error
import Multiplexer.Lifecycle.Channel
import Multiplexer.Session.Target

/-!
# Shells

A shell passes commands on to its channel and what the channel sends on to the
reader, until either side ends it. An end that comes from the far side or from a
failed write is reported once; one that the user asked for is not. A resize that
fails ends nothing.
-/

namespace Multiplexer

/-- What the channel of a shell brings. -/
inductive ChannelMessage where
  | data (bytes : List UInt8)
  /-- Bytes of another stream; stream 1 holds error messages. -/
  | extended (stream : Nat) (bytes : List UInt8)
  | eof
  | closed
  | exitStatus (status : Nat)
  | other
  /-- The connection under the channel is gone. -/
  | sessionEnded
  deriving DecidableEq, Repr

/-- What happens to a shell. A request comes with the reason for which the channel refuses it. -/
inductive ShellEvent where
  | write (bytes : List UInt8) (refused : Option String)
  | resize (size : TerminalSize) (refused : Option String)
  | close
  /-- Nobody can give commands any more. -/
  | abandoned
  | received (message : ChannelMessage)
  deriving DecidableEq, Repr

/-- What the channel has taken. -/
inductive ShellRequest where
  | data (bytes : List UInt8)
  | window (size : TerminalSize)
  | eof
  deriving DecidableEq, Repr

structure Shell where
  alive : Bool := true
  /-- Requests that the channel took, oldest first. -/
  sent : List ShellRequest := []
  /-- Chunks for the reader, oldest first. -/
  output : List (List UInt8) := []
  /-- Reports that the shell has ended. -/
  reports : List Drop := []
  deriving DecidableEq, Repr

namespace Shell

/-- Terminal type that is asked for. -/
def terminalType : String := "xterm-256color"

def send (s : Shell) (r : ShellRequest) : Shell := { s with sent := s.sent ++ [r] }

def pass (s : Shell) (bytes : List UInt8) : Shell := { s with output := s.output ++ [bytes] }

/-- End as the user wishes. -/
def leave (s : Shell) : Shell := { s.send .eof with alive := false }

/-- End for a reason. -/
def lose (s : Shell) (source : DropSource) (reason : String) : Shell :=
  { s with alive := false, reports := s.reports ++ [⟨source, reason⟩] }

def receive (s : Shell) : ChannelMessage → Shell
  | .data bytes => s.pass bytes
  | .extended stream bytes => if stream = 1 then s.pass bytes else s
  | .eof => s.lose .connection "channel EOF"
  | .closed => s.lose .connection "channel closed"
  | .sessionEnded => s.lose .transport "SSH session ended"
  | .exitStatus _ | .other => s

/-- Take an event. A shell that has ended takes none. -/
def step (s : Shell) (e : ShellEvent) : Shell :=
  if s.alive then
    match e with
    | .write bytes none => s.send (.data bytes)
    | .write _ (some reason) => s.lose .transport reason
    | .resize size none => s.send (.window size)
    | .resize _ (some _) => s
    | .close | .abandoned => s.leave
    | .received m => s.receive m
  else s

/-- A command to a shell on a hop, refused once the shell has ended. -/
def command (s : Shell) (label : String) (e : ShellEvent) : Except ConnectError Shell :=
  if s.alive then .ok (s.step e)
  else .error (.transport ("Shell on " ++ label ++ " is closed"))

/-- Forget what was sent, shown and reported so far. -/
def told (s : Shell) : Shell := { s with sent := [], output := [], reports := [] }

end Shell

/-- Why a hop opens no tunnel. -/
def tunnelRefused (label host : String) (port : Nat) (reason : String) : ConnectError :=
  .transport ("Failed to open tunnel to " ++ host ++ ":" ++ toString port ++ " from " ++ label ++
    ": " ++ reason)

end Multiplexer
