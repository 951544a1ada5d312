import Multiplexer.Layout.Edit

/-!
# Running edits

An edit takes a draft to a result and a draft. What the steps of an edit do is
stated as equations of `exec`, so that an edit is run by rewriting.
-/

namespace Multiplexer

namespace Edit

variable {α β : Type}

def exec (e : Edit α) (d : Draft) : Except LayoutError α × Draft := StateT.run (ExceptT.run e) d

@[simp] theorem exec_pure (a : α) (d : Draft) : exec (pure a) d = (.ok a, d) := rfl

@[simp] theorem exec_throw (x : LayoutError) (d : Draft) :
    exec (throw x : Edit α) d = (.error x, d) := rfl

@[simp] theorem exec_bind (e : Edit α) (f : α → Edit β) (d : Draft) :
    exec (e >>= f) d = match exec e d with
      | (.ok a, d') => exec (f a) d'
      | (.error x, d') => (.error x, d') := by
  simp only [exec, ExceptT.run_bind, StateT.run_bind]
  rcases StateT.run (ExceptT.run e) d with ⟨r, d'⟩
  cases r <;> rfl

@[simp] theorem exec_map (f : α → β) (e : Edit α) (d : Draft) :
    exec (f <$> e) d = match exec e d with
      | (.ok a, d') => (.ok (f a), d')
      | (.error x, d') => (.error x, d') := by
  rw [map_eq_pure_bind, exec_bind]
  rfl

@[simp] theorem exec_ite (p : Prop) [Decidable p] (e₁ e₂ : Edit α) (d : Draft) :
    exec (if p then e₁ else e₂) d = if p then exec e₁ d else exec e₂ d := by
  split <;> rfl

@[simp] theorem exec_layout (d : Draft) : exec layout d = (.ok d.layout, d) := rfl

@[simp] theorem exec_update (f : Layout → Layout) (d : Draft) :
    exec (update f) d = (.ok (), { d with layout := f d.layout }) := rfl

@[simp] theorem exec_send (n : Notice) (d : Draft) :
    exec (send n) d = (.ok (), { d with outbox := d.outbox ++ [n] }) := rfl

@[simp] theorem exec_newId (d : Draft) :
    exec newId d =
      (.ok ⟨d.layout.nextId⟩,
        { d with layout := { d.layout with nextId := d.layout.nextId + 1 } }) := rfl

end Edit

namespace Layout

open Edit

/-- An edit is run on a draft without notices. -/
theorem run_eq {α : Type} (e : Edit α) (s : Layout) :
    s.run e = ((exec e { layout := s }).1, (exec e { layout := s }).2.layout,
      (exec e { layout := s }).2.outbox) := rfl

theorem run_map {α β : Type} (f : α → β) (e : Edit α) (s : Layout) :
    s.run (f <$> e) = ((s.run e).1.map f, (s.run e).2) := by
  rw [run_eq, run_eq, exec_map]
  rcases exec e ⟨s, []⟩ with ⟨_ | a, d⟩ <;> rfl

theorem exec_requireLeaf (id : PaneId) (d : Draft) :
    exec (requireLeaf id) d = match d.layout.pane? id with
      | some (.leaf l) => (.ok l, d)
      | some (.container _) => (.error (.notALeaf id), d)
      | none => (.error (.paneNotFound id), d) := by
  simp only [requireLeaf, exec_bind, exec_layout]
  split <;> simp_all

@[simp] theorem exec_finish (id : PaneId) (d : Draft) :
    exec (finish id) d =
      (.ok id, ⟨d.layout.refocus (some id), d.outbox ++ [.changed, .focus (some id)]⟩) := by
  simp [finish]

@[simp] theorem exec_settle (target : Option PaneId) (d : Draft) :
    exec (settle target) d =
      (.ok (), ⟨d.layout.refocus target, d.outbox ++
        if d.layout.focused = target then [.changed] else [.changed, .focus target]⟩) := by
  by_cases h : d.layout.focused = target <;> simp [settle, h]

end Layout

end Multiplexer
