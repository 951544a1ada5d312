import Multiplexer.Layout.Basic

/-!
# Operations on a layout

An edit runs on a layout with an outbox of notices and may fail part of the
way; what it has changed by then stays. Every operation sends its own notices:
that the layout changed, and then, if it moved the focus, where it is now.
-/

namespace Multiplexer

/-- What an edit works on. -/
structure Draft where
  layout : Layout
  outbox : List Notice := []

abbrev Edit (α : Type) := ExceptT LayoutError (StateM Draft) α

namespace Edit

def layout : Edit Layout := do return (← get).layout

def update (f : Layout → Layout) : Edit Unit := modify fun d => { d with layout := f d.layout }

def send (n : Notice) : Edit Unit := modify fun d => { d with outbox := d.outbox ++ [n] }

def newId : Edit PaneId := do
  let (id, s) := (← layout).fresh
  update fun _ => s
  return id

end Edit

/-- What closing a pane tells its caller. -/
structure ClosedPane where
  pane : PaneId
  session : Option SessionId
  /-- Whether another leaf shows the session. -/
  stillDisplayed : Bool
  deriving DecidableEq, Repr

namespace Layout

open Edit

/-- The result of an edit with the layout and the notices it leaves. -/
def run {α : Type} (e : Edit α) (s : Layout) : Except LayoutError α × Layout × List Notice :=
  let (r, d) := (ExceptT.run e).run { layout := s }
  (r, d.layout, d.outbox)

def requireLeaf (id : PaneId) : Edit Leaf := do
  match (← layout).pane? id with
  | some (.leaf l) => return l
  | some (.container _) => throw (.notALeaf id)
  | none => throw (.paneNotFound id)

/-- Focus a pane that the operation put there, and tell so. -/
def finish (id : PaneId) : Edit PaneId := do
  update (·.refocus (some id))
  send .changed
  send (.focus (some id))
  return id

/-- Focus a pane or none, and tell of the focus only if it moved. -/
def settle (target : Option PaneId) : Edit Unit := do
  let moved := decide ((← layout).focused ≠ target)
  update (·.refocus target)
  send .changed
  if moved then send (.focus target)

/-- Put a pane into the slot that another had under a parent, or at the root. -/
def attach (id : PaneId) (parent : Option PaneId) (previous : PaneId) : Edit Unit := do
  match parent with
  | none => update fun s => { s with root := some id }
  | some p =>
    match (← layout).pane? p with
    | some (.container c) => update (·.modify p fun _ => .container (c.replaceChild previous id))
    | some (.leaf _) => throw (.notAContainer p)
    | none => throw (.paneNotFound p)
  if ((← layout).pane? id).isNone then throw (.paneNotFound id)
  update (·.modify id (Pane.withParent parent))

/-- Replace a pane by a container of it and a new leaf. -/
def insertSplit (target : PaneId) (orientation : Orientation) (session : Option SessionId)
    (primary : Bool) : Edit PaneId := do
  let s ← layout
  let some pane := s.pane? target | throw (.paneNotFound target)
  let parent := pane.parent
  let box ← newId
  let new ← newId
  update (·.add (.container
    { id := box, orientation, ratio := s.splitRatio, first := target, second := new, parent }))
  update (·.add (.leaf { id := new, session, primary, parent := some box }))
  attach box parent target
  update (·.modify target (Pane.withParent (some box)))
  return new

/-- A leaf that may be split, after the tabs have become a tree if it was one of them. -/
def prepareSplit (id : PaneId) : Edit Unit := do
  let _ ← requireLeaf id
  let s ← layout
  if s.background.contains id then throw (.paneHidden id)
  if s.tabs.contains id then update (·.plant id)

/-- The first leaf of a layout that has none. -/
def createRoot (session : Option SessionId) : Edit PaneId := do
  let s ← layout
  if s.root.isSome || s.tabbed || !s.background.isEmpty then throw .rootExists
  let id ← newId
  let primary := session.any fun x => !s.hasPrimary x
  update fun s => { s.add (.leaf { id, session, primary }) with root := some id }
  finish id

/-- Drop every pane. -/
def reset : Edit Unit := do
  let s ← layout
  update fun s =>
    { s with
      panes := [], root := none, tabs := [], activeTab := none, background := [], focused := none }
  send .changed
  if s.focused.isSome then send (.focus none)

/-- Place a new leaf beside a leaf. -/
def split (id : PaneId) (orientation : Orientation) (session : Option SessionId) : Edit PaneId := do
  prepareSplit id
  let s ← layout
  let primary := session.any fun x => !s.hasPrimary x
  finish (← insertSplit id orientation session primary)

/-- Place a second view of a leaf's session beside it. A leaf without a session stays as it is. -/
def mirror (id : PaneId) (orientation : Orientation) : Edit PaneId := do
  let l ← requireLeaf id
  if l.session.isNone then return id
  prepareSplit id
  finish (← insertSplit id orientation l.session false)

/-- Take a tab out; the last tab takes over from an active one. Returns the new focus. -/
def closeTab (id : PaneId) : Edit (Option PaneId) := do
  update fun s => { s.remove id with tabs := s.tabs.erase id }
  let s ← layout
  if s.tabs.isEmpty then
    update fun s => { s with activeTab := none }
    return none
  else if s.activeTab = some id then
    let some next := s.tabs.getLast? | throw .emptyLayout
    update (·.showTab next)
    return some next
  else return s.focused

/-- Take a tree leaf out; its sibling gets the parent's slot. Returns the new focus. -/
def closeTreeLeaf (l : Leaf) : Edit (Option PaneId) := do
  update (·.remove l.id)
  let s ← layout
  match l.parent with
  | none =>
    let (focus, s) := { s with root := none }.restore
    update fun _ => s
    return focus
  | some p =>
    match s.pane? p with
    | some (.container c) =>
      let sibling := c.siblingOf l.id
      update (·.remove p)
      attach sibling c.parent p
      if s.focused = some l.id then
        let s ← layout
        if (s.leaf? sibling).isSome then return some sibling
        return s.leafIds.head?
      return s.focused
    | some (.leaf _) =>
      update (·.remove p)
      throw (.notAContainer p)
    | none => throw (.paneNotFound p)

/-- Close a leaf. Its primary flag goes to another leaf of the session. -/
def close (id : PaneId) : Edit ClosedPane := do
  let l ← requireLeaf id
  let s ← layout
  let focus ←
    if s.tabs.contains id then closeTab id
    else if s.background.contains id then do
      update fun s => { s.remove id with background := s.background.erase id }
      pure s.focused
    else closeTreeLeaf l
  match l.session with
  | some session => if l.primary then update (·.promote session)
  | none => pure ()
  settle focus
  let s ← layout
  return { pane := id, session := l.session, stillDisplayed := l.session.any s.displays }

/-- Focus a leaf on screen, or a tab, which becomes the active one. -/
def setFocused (id : PaneId) : Edit Unit := do
  let _ ← requireLeaf id
  let s ← layout
  if s.background.contains id then throw (.paneHidden id)
  if s.focused = some id then return
  if s.tabs.contains id then update (·.showTab id)
  let _ ← finish id

/-- Index after a move by one that wraps at both ends. -/
def wrap (d : Direction) (i n : Nat) : Nat := if d.backward then (i + n - 1) % n else (i + 1) % n

/-- Move the focus to the neighbour in the order of panes. -/
def navigate (d : Direction) : Edit (Option PaneId) := do
  let s ← layout
  let order := s.order
  let index := match s.focused.bind order.idxOf? with
    | some i => wrap d i order.length
    | none => 0
  match order[index]? with
  | none => return none
  | some target =>
    if s.focused ≠ some target then
      if s.tabbed then update (·.showTab target)
      let _ ← finish target
    return some target

/-- A new tab at the end, which becomes the active one. -/
def createTab (session : SessionId) : Edit PaneId := do
  if !(← layout).tabbed then update unroot
  let s ← layout
  let id ← newId
  update fun s' =>
    let s' := s'.add (.leaf { id, session := some session, primary := !s.hasPrimary session })
    { s' with tabs := s'.tabs ++ [id] }
  update (·.showTab id)
  finish id

/-- Bring the tab of a session to the front. -/
def activateTab (session : SessionId) : Edit PaneId := do
  let s ← layout
  let some target := s.tabs.find? (s.showsAt session) | throw (.sessionNotDisplayed session)
  update (·.showTab target)
  settle (some target)
  return target

/-- Bring a session to the front: its tab, its tree leaf, or a background pane, for which the
layout becomes tabbed. -/
def activate (session : SessionId) : Edit PaneId := do
  let s ← layout
  if s.tabbed then activateTab session
  else if s.root.isNone then throw .emptyLayout
  else
    match s.leaves.find? fun l => l.shows session with
    | some l =>
      setFocused l.id
      return l.id
    | none =>
      if s.background.any (s.showsAt session) then
        update unroot
        activateTab session
      else throw (.sessionNotDisplayed session)

/-- Change the share of a container's first child. -/
def setRatio (id : PaneId) (ratio : Binary64) : Edit Unit := do
  if !properRatio ratio then throw (.invalidRatio ratio)
  match (← layout).pane? id with
  | some (.container c) => update (·.modify id fun _ => .container { c with ratio })
  | some (.leaf _) => throw (.notAContainer id)
  | none => throw (.paneNotFound id)
  send .changed

end Layout

end Multiplexer
