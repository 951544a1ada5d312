import Multiplexer.Prompt.Question

/-!
# The prompt broker

A connection that needs a decision puts its question into a channel of limited
room and waits; whoever owns the user takes the questions out in order and
replies. A question that finds no room waits for it first. Its time starts once
it is in the channel: a question that is not answered by then counts as
declined, and so does one whose reply will never come.

An asker whose time is over no longer waits, but its question stays where it is.
-/

namespace Multiplexer

inductive Question where
  | hostKey (q : KeyQuestion)
  | prompts (p : PromptSet)
  deriving DecidableEq, Repr

inductive Answer where
  | verdict (accept : Bool)
  /-- Answers in order; `none` stands for a cancelled dialog. -/
  | answers (texts : Option (List String))
  deriving DecidableEq, Repr

/-- What counts as the answer if there is none. -/
def Question.declined : Question → Answer
  | .hostKey _ => .verdict false
  | .prompts _ => .answers none

structure Asked where
  number : Nat
  question : Question
  deriving DecidableEq, Repr

/-- An asker that waits for its reply. -/
structure Pending where
  asked : Asked
  deadline : Nat
  deriving DecidableEq, Repr

structure PromptBroker where
  capacity : Nat
  timeoutMs : Nat
  now : Nat := 0
  nextNumber : Nat := 0
  /-- Questions that wait for room, oldest first. -/
  waiting : List Asked := []
  /-- Questions in the channel, oldest first. -/
  queue : List Asked := []
  /-- Askers whose question is in the channel or has been taken out. -/
  pending : List Pending := []
  /-- Whether someone still takes questions out. -/
  received : Bool := true
  /-- What the askers were told, in order. -/
  told : List (Nat × Answer) := []
  deriving Repr

namespace PromptBroker

/-- A broker has room for one question at least. -/
def ofCapacity (capacity timeoutMs : Nat) : PromptBroker :=
  { capacity := max capacity 1, timeoutMs }

def tell (b : PromptBroker) (number : Nat) (a : Answer) : PromptBroker :=
  { b with told := b.told ++ [(number, a)] }

def decline (b : PromptBroker) (a : Asked) : PromptBroker := b.tell a.number a.question.declined

/-- Whether an asker waits for the reply to a question. -/
def awaits (b : PromptBroker) (number : Nat) : Bool :=
  b.pending.any fun p => p.asked.number == number

/-- Let go of an asker. -/
def release (b : PromptBroker) (number : Nat) : PromptBroker :=
  { b with pending := b.pending.filter fun p => p.asked.number ≠ number }

/-- Decline whatever is overdue. -/
def expire (b : PromptBroker) : PromptBroker :=
  let (overdue, pending) := b.pending.partition fun p => p.deadline ≤ b.now
  overdue.foldl (fun b p => b.decline p.asked) { b with pending }

/-- Put a question into the channel. -/
def enter (b : PromptBroker) (a : Asked) : PromptBroker :=
  { b with
    queue := b.queue ++ [a]
    pending := b.pending ++ [⟨a, b.now + b.timeoutMs⟩] }

/-- Let the first question in that waits for room, if there is room. -/
def letIn (b : PromptBroker) : PromptBroker :=
  match b.waiting with
  | a :: rest =>
    if b.queue.length < b.capacity then ({ b with waiting := rest }.enter a).expire else b
  | [] => b

/-- Ask a question; gives its number. -/
def ask (b : PromptBroker) (question : Question) : Nat × PromptBroker :=
  let a : Asked := ⟨b.nextNumber, question⟩
  let b := { b with nextNumber := b.nextNumber + 1 }
  (a.number, if b.received then { b with waiting := b.waiting ++ [a] }.letIn else b.decline a)

/-- Take the oldest question out. -/
def receive (b : PromptBroker) : Option Asked × PromptBroker :=
  match b.queue with
  | a :: rest => (some a, { b with queue := rest }.letIn)
  | [] => (none, b)

/-- Reply to a question that was taken out. Gives whether its asker still waited. -/
def reply (b : PromptBroker) (number : Nat) (a : Answer) : Bool × PromptBroker :=
  if b.awaits number then (true, (b.release number).tell number a) else (false, b)

/-- Drop a question without a reply. -/
def dropReply (b : PromptBroker) (a : Asked) : PromptBroker :=
  if b.awaits a.number then (b.release a.number).decline a else b

/-- Take no more questions out. Those that wait for room and those in the channel are dropped. -/
def close (b : PromptBroker) : PromptBroker :=
  let waiting := b.waiting
  let queue := b.queue
  let b := { b with received := false, waiting := [], queue := [] }
  queue.foldl dropReply (waiting.foldl decline b)

/-- Let time pass. -/
def advance (b : PromptBroker) (ms : Nat) : PromptBroker := { b with now := b.now + ms }.expire

end PromptBroker

end Multiplexer
