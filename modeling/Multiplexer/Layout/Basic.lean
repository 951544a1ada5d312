import Multiplexer.Layout.Notice
import Multiplexer.Number.Decimal

/-!
# Layouts

A layout is in tree mode or in tabbed mode. The panes of both live in one list
in order of allocation. In tree mode there is a root, and panes that were tabs
before wait in the background; in tabbed mode there is no root and one tab is
active. Ids are never used twice.
-/

namespace Multiplexer

structure Layout where
  panes : List Pane := []
  root : Option PaneId := none
  tabs : List PaneId := []
  activeTab : Option PaneId := none
  background : List PaneId := []
  focused : Option PaneId := none
  /-- Share of the first child of a new container. -/
  splitRatio : Binary64 := Binary64.half
  nextId : Nat := 1
  deriving DecidableEq, Repr

inductive LayoutError where
  | rootExists
  | paneNotFound (pane : PaneId)
  | notALeaf (pane : PaneId)
  | notAContainer (pane : PaneId)
  | paneHidden (pane : PaneId)
  | sessionNotDisplayed (session : SessionId)
  | invalidRatio (ratio : Binary64)
  | emptyLayout
  deriving DecidableEq, Repr

def LayoutError.message : LayoutError → String
  | .rootExists => "Layout already has a root pane"
  | .paneNotFound p => "Pane not found: " ++ p.text
  | .notALeaf p => "Pane " ++ p.text ++ " is not a leaf"
  | .notAContainer p => "Pane " ++ p.text ++ " is not a container"
  | .paneHidden p => "Pane " ++ p.text ++ " is hidden in the background"
  | .sessionNotDisplayed s => "Session " ++ s.text ++ " is not displayed in any pane"
  | .invalidRatio r => "Split ratio must be between 0 and 1 (exclusive), got " ++ r.text
  | .emptyLayout => "Layout is empty"

/-- A word for the cause. -/
def LayoutError.kind : LayoutError → String
  | .rootExists => "RootExists"
  | .paneNotFound _ => "PaneNotFound"
  | .notALeaf _ => "NotALeaf"
  | .notAContainer _ => "NotAContainer"
  | .paneHidden _ => "PaneHidden"
  | .sessionNotDisplayed _ => "SessionNotDisplayed"
  | .invalidRatio _ => "InvalidRatio"
  | .emptyLayout => "EmptyLayout"

/-- Strictly between `0` and `1`. -/
def properRatio (r : Binary64) : Bool := Binary64.zero.lt r && r.lt Binary64.one

namespace Layout

/-- An empty layout whose containers start at the given ratio. -/
def withRatio (r : Binary64) : Except LayoutError Layout :=
  if properRatio r then .ok { splitRatio := r } else .error (.invalidRatio r)

def pane? (s : Layout) (id : PaneId) : Option Pane := s.panes.find? fun p => p.id == id

def leaf? (s : Layout) (id : PaneId) : Option Leaf := (s.pane? id).bind Pane.leaf?

def container? (s : Layout) (id : PaneId) : Option Container := (s.pane? id).bind Pane.container?

def tabbed (s : Layout) : Bool := !s.tabs.isEmpty

def isEmpty (s : Layout) : Bool := s.panes.isEmpty

/-- Leaves at or below a pane, first children before second ones, to a depth of `fuel`. -/
def leavesUnder (s : Layout) : Nat → PaneId → List Leaf
  | 0, _ => []
  | fuel + 1, id =>
    match s.pane? id with
    | some (.leaf l) => [l]
    | some (.container c) => s.leavesUnder fuel c.first ++ s.leavesUnder fuel c.second
    | none => []

/-- The leaves of the tree in order. No branch is longer than the number of panes. -/
def leaves (s : Layout) : List Leaf :=
  match s.root with
  | some id => s.leavesUnder s.panes.length id
  | none => []

def leafIds (s : Layout) : List PaneId := s.leaves.map Leaf.id

/-- Tree leaves, then tabs, then background panes. -/
def everyLeaf (s : Layout) : List PaneId := s.leafIds ++ s.tabs ++ s.background

def leafCount (s : Layout) : Nat := s.panes.countP Pane.isLeaf

/-- The leaves on screen. -/
def visibleLeaves (s : Layout) : List PaneId :=
  if s.tabbed then s.activeTab.toList else s.leafIds

def showsAt (s : Layout) (session : SessionId) (id : PaneId) : Bool :=
  (s.leaf? id).any fun l => l.shows session

def leavesFor (s : Layout) (session : SessionId) : List PaneId :=
  s.everyLeaf.filter (s.showsAt session)

def primaryFor (s : Layout) (session : SessionId) : Option PaneId :=
  s.everyLeaf.find? fun id => (s.leaf? id).any fun l => l.shows session && l.primary

def hasPrimary (s : Layout) (session : SessionId) : Bool := (s.primaryFor session).isSome

def displays (s : Layout) (session : SessionId) : Bool := s.everyLeaf.any (s.showsAt session)

/-- The sessions that some leaf shows, each once. -/
def sessions (s : Layout) : List SessionId :=
  (s.panes.filterMap fun p => p.leaf?.bind Leaf.session).eraseDups

/-- Panes in the order in which focus moves. -/
def order (s : Layout) : List PaneId := if s.tabbed then s.tabs else s.leafIds

/-- Change one pane in place. -/
def modify (s : Layout) (id : PaneId) (f : Pane → Pane) : Layout :=
  { s with panes := s.panes.map fun p => if p.id = id then f p else p }

def modifyLeaf (s : Layout) (id : PaneId) (f : Leaf → Leaf) : Layout :=
  s.modify id fun
    | .leaf l => .leaf (f l)
    | p => p

def remove (s : Layout) (id : PaneId) : Layout :=
  { s with panes := s.panes.filter fun p => p.id ≠ id }

def add (s : Layout) (p : Pane) : Layout := { s with panes := s.panes ++ [p] }

/-- A new id and the layout that will not give it again. -/
def fresh (s : Layout) : PaneId × Layout := (⟨s.nextId⟩, { s with nextId := s.nextId + 1 })

/-- Move the focus flag. -/
def refocus (s : Layout) (target : Option PaneId) : Layout :=
  if s.focused = target then s
  else
    let drop (s : Layout) := match s.focused with
      | some id => s.modifyLeaf id fun l => { l with focused := false }
      | none => s
    let give (s : Layout) := match target with
      | some id => s.modifyLeaf id fun l => { l with focused := true }
      | none => s
    { give (drop s) with focused := target }

/-- Make one tab the active and only visible one. -/
def showTab (s : Layout) (active : PaneId) : Layout :=
  let s := s.tabs.foldl (fun s id => s.modifyLeaf id fun l => { l with visible := id == active }) s
  { s with activeTab := some active }

/-- Give the primary flag of a session that has none to the first leaf showing it. -/
def promote (s : Layout) (session : SessionId) : Layout :=
  if s.hasPrimary session then s
  else
    match s.everyLeaf.find? (s.showsAt session) with
    | some heir => s.modifyLeaf heir fun l => { l with primary := true }
    | none => s

/-- Tabs to tree: the chosen tab becomes the root, the others go to the background. -/
def plant (s : Layout) (chosen : PaneId) : Layout :=
  let others := s.tabs.filter fun id => id ≠ chosen
  let hide (s : Layout) (id : PaneId) :=
    s.modifyLeaf id fun l => { l with visible := false, parent := none }
  let s := others.foldl hide s
  let s := s.modifyLeaf chosen fun l => { l with visible := true, parent := none }
  { s with
    tabs := [], activeTab := none, background := s.background ++ others, root := some chosen }

/-- Candidates for tabs sorted out so far: the kept ones in order and the dropped ones. -/
structure Sorting where
  kept : List Leaf := []
  dropped : List PaneId := []

/-- Keep one leaf per session, at the place of the first and preferring the primary one. -/
def Sorting.add (q : Sorting) (l : Leaf) : Sorting :=
  match l.session with
  | none => { q with kept := q.kept ++ [l] }
  | some session =>
    match q.kept.find? fun k => k.shows session with
    | none => { q with kept := q.kept ++ [l] }
    | some k =>
      if l.primary then
        { kept := q.kept.map fun k' => if k'.id = k.id then l else k'
          dropped := q.dropped ++ [k.id] }
      else { q with dropped := q.dropped ++ [l.id] }

/-- The leaves that may become tabs: those of the tree, then the background panes. -/
def candidates (s : Layout) : List Leaf := s.leaves ++ s.background.filterMap s.leaf?

/-- Tree to tabs: tree leaves and background panes become tabs, one for each session, and all
else is discarded. Focus on a discarded pane is dropped. -/
def unroot (s : Layout) : Layout :=
  let sorted := s.candidates.foldl Sorting.add {}
  let tabs := sorted.kept.map Leaf.id
  let panes := s.panes.filter fun p => p.isLeaf && !sorted.dropped.contains p.id
  let s := { s with panes, background := [], root := none, tabs }
  let s := tabs.foldl
    (fun s id => s.modifyLeaf id fun l => { l with parent := none, visible := false }) s
  let s := (sorted.kept.filterMap Leaf.session).foldl promote s
  if s.focused.any fun id => (s.pane? id).isNone then { s with focused := none } else s

/-- Make the last background pane the root; the focus goes where the result says. -/
def restore (s : Layout) : Option PaneId × Layout :=
  match s.background.getLast? with
  | none => (none, s)
  | some id =>
    let s := s.modifyLeaf id fun l => { l with visible := true, parent := none }
    (some id, { s with background := s.background.dropLast, root := some id })

end Layout

end Multiplexer
