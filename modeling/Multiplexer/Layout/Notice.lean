import Multiplexer.Layout.Pane

/-!
# Notices of a layout

What a layout tells its listeners. Every notice goes to each listener, in the
order in which they subscribed.
-/

namespace Multiplexer

inductive Notice where
  | changed
  | focus (pane : Option PaneId)
  deriving DecidableEq, Repr

/-- Listeners in order of subscription. -/
structure Audience (α : Type) where
  listeners : List α := []

namespace Audience

variable {α : Type}

def subscribe (a : Audience α) (l : α) : Audience α := ⟨a.listeners ++ [l]⟩

/-- Who receives a notice, and in what order. -/
def deliver (a : Audience α) (n : Notice) : List (α × Notice) := a.listeners.map (·, n)

def deliverAll (a : Audience α) (ns : List Notice) : List (α × Notice) := ns.flatMap a.deliver

end Audience

end Multiplexer
