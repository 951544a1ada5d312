import Multiplexer.Number.Binary64
import Multiplexer.Session.Id

/-!
# Panes

A leaf shows a session or nothing; a container divides its space between two
panes. Every pane names its parent, and a container names its children.
-/

namespace Multiplexer

structure PaneId where
  number : Nat
  deriving DecidableEq, Repr, Inhabited

def PaneId.text (id : PaneId) : String := "pane-" ++ toString id.number

inductive Orientation where
  | horizontal
  | vertical
  deriving DecidableEq, Repr

def Orientation.text : Orientation → String
  | .horizontal => "horizontal"
  | .vertical => "vertical"

def Orientation.names : List (String × Orientation) :=
  [("horizontal", .horizontal), ("vertical", .vertical)]

inductive Direction where
  | left
  | right
  | up
  | down
  deriving DecidableEq, Repr

def Direction.text : Direction → String
  | .left => "left"
  | .right => "right"
  | .up => "up"
  | .down => "down"

def Direction.names : List (String × Direction) :=
  [("left", .left), ("right", .right), ("up", .up), ("down", .down)]

/-- Whether a move in this direction goes to an earlier pane. -/
def Direction.backward : Direction → Bool
  | .left | .up => true
  | .right | .down => false

structure Leaf where
  id : PaneId
  session : Option SessionId
  focused : Bool := false
  primary : Bool
  visible : Bool := true
  parent : Option PaneId := none
  deriving DecidableEq, Repr

def Leaf.shows (l : Leaf) (s : SessionId) : Bool := l.session == some s

structure Container where
  id : PaneId
  orientation : Orientation
  /-- Share of the first child. -/
  ratio : Binary64
  first : PaneId
  second : PaneId
  parent : Option PaneId
  deriving DecidableEq, Repr

namespace Container

/-- The other child. -/
def siblingOf (c : Container) (child : PaneId) : PaneId :=
  if c.first = child then c.second else c.first

def replaceChild (c : Container) (old new : PaneId) : Container :=
  if c.first = old then { c with first := new }
  else if c.second = old then { c with second := new }
  else c

end Container

inductive Pane where
  | leaf (l : Leaf)
  | container (c : Container)
  deriving DecidableEq, Repr

namespace Pane

def id : Pane → PaneId
  | .leaf l => l.id
  | .container c => c.id

def parent : Pane → Option PaneId
  | .leaf l => l.parent
  | .container c => c.parent

def leaf? : Pane → Option Leaf
  | .leaf l => some l
  | .container _ => none

def container? : Pane → Option Container
  | .container c => some c
  | .leaf _ => none

def isLeaf (p : Pane) : Bool := p.leaf?.isSome

def withParent (parent : Option PaneId) : Pane → Pane
  | .leaf l => .leaf { l with parent }
  | .container c => .container { c with parent }

@[simp] theorem withParent_id (parent : Option PaneId) (p : Pane) :
    (p.withParent parent).id = p.id := by cases p <;> rfl

@[simp] theorem withParent_parent (parent : Option PaneId) (p : Pane) :
    (p.withParent parent).parent = parent := by cases p <;> rfl

end Pane

end Multiplexer
