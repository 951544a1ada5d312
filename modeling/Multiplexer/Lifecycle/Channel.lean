import Multiplexer.Lifecycle.Latch

/-!
# Reports that a connection has ended

Whatever notices the end of a connection reports it into the channel of that
connection. The reader takes the first report and passes over all later ones,
and is told the end once no reporter is left.
-/

namespace Multiplexer

inductive DropSource where
  | connection
  | bridge
  | transport
  deriving DecidableEq, Repr

def DropSource.text : DropSource → String
  | .connection => "connection"
  | .bridge => "bridge"
  | .transport => "transport"

structure Drop where
  source : DropSource
  reason : String
  deriving DecidableEq, Repr

structure Channel where
  /-- Reports that nobody has read yet, oldest first. -/
  queue : List Drop := []
  latch : Latch := {}
  /-- How many can still report. -/
  reporters : Nat := 1
  /-- Whether someone still reads. -/
  read : Bool := true
  deriving DecidableEq, Repr

/-- What a reader learns. -/
inductive Reading where
  | report (d : Drop)
  | ended
  | nothingYet
  deriving DecidableEq, Repr

namespace Channel

/-- Report the end; nothing happens once nobody reads. -/
def publish (c : Channel) (d : Drop) : Channel :=
  if c.read then { c with queue := c.queue ++ [d] } else c

def addReporter (c : Channel) : Channel := { c with reporters := c.reporters + 1 }

def dropReporter (c : Channel) : Channel := { c with reporters := c.reporters - 1 }

def dropReader (c : Channel) : Channel := { c with read := false, queue := [] }

/-- The first report ever read; duplicates are taken out and passed over. -/
def next (c : Channel) : Reading × Channel :=
  match c.queue with
  | [] => (if c.reporters = 0 then .ended else .nothingYet, c)
  | d :: rest =>
    match c.latch.trip with
    | (true, latch) => (.report d, { c with queue := rest, latch })
    | (false, latch) =>
      (if c.reporters = 0 then .ended else .nothingYet, { c with queue := [], latch })

def fired (c : Channel) : Bool := c.latch.tripped

end Channel

end Multiplexer
