import Multiplexer.Forward.Forwarder

/-!
# Ports to bind

Which addresses can be bound: numeric ones and those of this machine, if no
forward listens there yet and the port is not taken from the start. Nobody can
be reached from outside.
-/

namespace Multiplexer.Rehearsal

/-- A port that someone else listens on. -/
def busyPort : Nat := 4711

/-- Whether an address is four numbers below 256 with dots between them. -/
def isNumeric (address : String) : Bool :=
  let parts := address.splitOn "."
  parts.length == 4 && parts.all fun p => p.toList.all Char.isDigit && p.toNat?.any (· < 256)

/-- An address as it is written before a port; `none` if no machine has it. -/
def hostText? (address : String) : Option String :=
  if isNumeric address then some address
  else if address == "localhost" then some "127.0.0.1"
  else if address == "::1" || address == "[::1]" then some "[::1]"
  else if address == "::" || address == "[::]" then some "[::]"
  else none

def bindPort (f : Forwarder) (rule : ForwardRule) : Except BindFault String :=
  match hostText? rule.bindAddress with
  | none =>
    .error (.other "failed to lookup address information: Temporary failure in name resolution")
  | some host =>
    let taken := f.running.any fun r => r.rule.bindAddr == rule.bindAddr
    if rule.bindPort = busyPort || rule.bindPort ≠ 0 && taken then .error .addressInUse
    else .ok (host ++ ":*")

/-- A text with a word for the port that is taken. -/
def shownPort (s : String) : String := s.replace (":" ++ toString busyPort) ":<busy>"

end Multiplexer.Rehearsal
