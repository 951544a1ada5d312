/-!
# Latches

A latch lets the first caller pass and holds every later one until it is armed
again.
-/

namespace Multiplexer

structure Latch where
  tripped : Bool := false
  deriving DecidableEq, Repr

namespace Latch

/-- Whether the caller passes, and the latch behind it. -/
def trip (l : Latch) : Bool × Latch := (!l.tripped, ⟨true⟩)

def rearm (_ : Latch) : Latch := ⟨false⟩

@[simp] theorem trip_armed : (⟨false⟩ : Latch).trip = (true, ⟨true⟩) := rfl

@[simp] theorem trip_tripped : (⟨true⟩ : Latch).trip = (false, ⟨true⟩) := rfl

@[simp] theorem rearm_tripped (l : Latch) : l.rearm.tripped = false := rfl

end Latch

end Multiplexer
