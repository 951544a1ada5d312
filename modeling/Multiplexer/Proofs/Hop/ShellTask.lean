import Mathlib.Data.List.Infix
import Multiplexer.Hop.Shell

/-!
# The task of a shell

One task serves a shell. It waits for two things at once, the commands that the
handles have queued and the messages of the channel, and takes either when both
are there; what it sends on may be refused. However the two come in between each
other, each of them is taken in its own order. The first turn that ends the shell
is the last one, and it is reported unless the user asked for it.
-/

namespace Multiplexer

inductive ShellCommand where
  | data (bytes : List UInt8)
  | resize (size : TerminalSize)
  | close
  deriving DecidableEq, Repr

inductive ShellEnding where
  /-- A handle closed it, or no handle is left. -/
  | asked
  /-- The channel did not take these bytes. -/
  | refused (bytes : List UInt8) (reason : String)
  | eof
  | closed
  | sessionEnded
  deriving DecidableEq, Repr

/-- What the reader of the far side is to get of a command. -/
def ShellCommand.bytes? : ShellCommand → Option (List UInt8)
  | .data bytes => some bytes
  | .resize _ | .close => none

def ShellRequest.bytes? : ShellRequest → Option (List UInt8)
  | .data bytes => some bytes
  | .window _ | .eof => none

/-- What becomes of a command that the channel takes or refuses. Whether it takes the end of the
input makes no difference. -/
def ShellCommand.event (refused : Option String) : ShellCommand → ShellEvent
  | .data bytes => .write bytes refused
  | .resize size => .resize size refused
  | .close => .close

/-- What the reader is to see of a message. -/
def ChannelMessage.payload? : ChannelMessage → Option (List UInt8)
  | .data bytes => some bytes
  | .extended stream bytes => if stream = 1 then some bytes else none
  | .eof | .closed | .exitStatus _ | .other | .sessionEnded => none

namespace ShellEnding

def reports : ShellEnding → List Drop
  | .asked => []
  | .refused _ reason => [⟨.transport, reason⟩]
  | .eof => [⟨.connection, "channel EOF"⟩]
  | .closed => [⟨.connection, "channel closed"⟩]
  | .sessionEnded => [⟨.transport, "SSH session ended"⟩]

def undelivered : ShellEnding → List (List UInt8)
  | .refused bytes _ => [bytes]
  | .asked | .eof | .closed | .sessionEnded => []

end ShellEnding

namespace ShellEvent

def command? : ShellEvent → Option ShellCommand
  | .write bytes _ => some (.data bytes)
  | .resize size _ => some (.resize size)
  | .close => some .close
  | .abandoned | .received _ => none

def message? : ShellEvent → Option ChannelMessage
  | .received m => some m
  | .write _ _ | .resize _ _ | .close | .abandoned => none

def ending? : ShellEvent → Option ShellEnding
  | .write bytes (some reason) => some (.refused bytes reason)
  | .close | .abandoned => some .asked
  | .received .eof => some .eof
  | .received .closed => some .closed
  | .received .sessionEnded => some .sessionEnded
  | .write _ none | .resize _ _ => none
  | .received (.data _) | .received (.extended _ _) => none
  | .received (.exitStatus _) | .received .other => none

@[simp] theorem command?_event (refused : Option String) (c : ShellCommand) :
    (c.event refused).command? = some c := by
  cases c <;> rfl

@[simp] theorem message?_event (refused : Option String) (c : ShellCommand) :
    (c.event refused).message? = none := by
  cases c <;> rfl

/-- Events of which none but the last ends a shell. -/
inductive Course : List ShellEvent → Prop
  | nil : Course []
  | last (e : ShellEvent) : Course [e]
  | cons {e : ShellEvent} {es : List ShellEvent} (he : e.ending? = none) (hes : Course es) :
      Course (e :: es)

end ShellEvent

namespace Shell

def delivered (s : Shell) : List (List UInt8) := s.sent.filterMap ShellRequest.bytes?

def run (s : Shell) (es : List ShellEvent) : Shell := es.foldl step s

variable {s : Shell}

end Shell

/-- A shell, the handles on it and what waits for its task. -/
structure ShellTask where
  shell : Shell := {}
  handles : Nat := 1
  /-- Commands that were given and not taken yet, oldest first. -/
  pending : List ShellCommand := []
  /-- Messages that have come and were not taken yet, oldest first. -/
  arrived : List ChannelMessage := []
  deriving DecidableEq, Repr

/-- What can happen next. The task takes a turn only while the shell lives. -/
inductive ShellMove where
  /-- A command gets into the queue. -/
  | give (c : ShellCommand)
  | share
  | drop
  | bring (m : ChannelMessage)
  /-- The task takes what the handles bring. -/
  | obey (refused : Option String)
  /-- The task takes what the channel brings. -/
  | hear
  deriving DecidableEq, Repr

namespace ShellMove

def isObey : ShellMove → Bool
  | .obey _ => true
  | .give _ | .share | .drop | .bring _ | .hear => false

def isHear : ShellMove → Bool
  | .hear => true
  | .give _ | .share | .drop | .bring _ | .obey _ => false

def brought (moves : List ShellMove) : List ChannelMessage :=
  moves.filterMap fun
    | .bring m => some m
    | .give _ | .share | .drop | .obey _ | .hear => none

end ShellMove

namespace ShellTask

/-- Whether a command can be given. -/
def takesCommands (t : ShellTask) : Bool := t.shell.alive && t.handles != 0

/-- The event that the task takes in a move. -/
def turn? (t : ShellTask) : ShellMove → Option ShellEvent
  | .obey refused =>
    if t.shell.alive then
      match t.pending with
      | c :: _ => some (c.event refused)
      | [] => if t.handles = 0 then some .abandoned else none
    else none
  | .hear => if t.shell.alive then t.arrived.head?.map .received else none
  | .give _ | .share | .drop | .bring _ => none

def move (t : ShellTask) (m : ShellMove) : ShellTask :=
  match m with
  | .give c => if t.takesCommands then { t with pending := t.pending ++ [c] } else t
  | .share => if t.handles = 0 then t else { t with handles := t.handles + 1 }
  | .drop => { t with handles := t.handles - 1 }
  | .bring m => { t with arrived := t.arrived ++ [m] }
  | .obey refused => match t.turn? (.obey refused) with
    | some e => { t with shell := t.shell.step e, pending := t.pending.tail }
    | none => t
  | .hear => match t.turn? .hear with
    | some e => { t with shell := t.shell.step e, arrived := t.arrived.tail }
    | none => t

def run (t : ShellTask) (moves : List ShellMove) : ShellTask := moves.foldl move t

def turns (t : ShellTask) : List ShellMove → List ShellEvent
  | [] => []
  | m :: moves => (t.turn? m).toList ++ (t.move m).turns moves

def admitted (t : ShellTask) : ShellMove → List ShellCommand
  | .give c => if t.takesCommands then [c] else []
  | .share | .drop | .bring _ | .obey _ | .hear => []

def given (t : ShellTask) : List ShellMove → List ShellCommand
  | [] => []
  | m :: moves => t.admitted m ++ (t.move m).given moves

variable (t : ShellTask) (m : ShellMove)

/-- A move does to the shell what the event does that the task takes in it. -/
theorem shell_move : (t.move m).shell = t.shell.run (t.turn? m).toList := by
  cases m with
  | give c =>
    simp only [move]
    split <;> rfl
  | share =>
    simp only [move]
    split <;> rfl
  | drop | bring => rfl
  | obey refused =>
    simp only [move]
    cases t.turn? (.obey refused) <;> rfl
  | hear =>
    simp only [move]
    cases t.turn? .hear <;> rfl

/-- The task takes nothing any more when the shell has ended. -/
theorem turn?_of_ended {t : ShellTask} (h : t.shell.alive = false) : t.turn? m = none := by
  cases m <;> simp [turn?, h]

/-- While the shell lives, the task takes the oldest command, whether or not the channel does. -/
theorem obey_of_pending {t : ShellTask} {c : ShellCommand} {rest : List ShellCommand}
    (halive : t.shell.alive = true) (hpending : t.pending = c :: rest) (refused : Option String) :
    t.turn? (.obey refused) = some (c.event refused) ∧
      t.move (.obey refused) =
        { t with shell := t.shell.step (c.event refused), pending := rest } := by
  have hturn : t.turn? (.obey refused) = some (c.event refused) := by
    simp only [turn?, halive, hpending, if_true]
  exact ⟨hturn, by simp only [move, hturn, hpending, List.tail_cons]⟩

/-- Once the last handle is gone and all commands are taken, the task ends the shell. -/
theorem obey_of_abandoned {t : ShellTask} (halive : t.shell.alive = true)
    (hpending : t.pending = []) (hhandles : t.handles = 0) (refused : Option String) :
    t.turn? (.obey refused) = some .abandoned ∧
      t.move (.obey refused) = { t with shell := t.shell.leave } := by
  have hturn : t.turn? (.obey refused) = some .abandoned := by
    simp only [turn?, halive, hpending, hhandles, if_true]
  refine ⟨hturn, ?_⟩
  simp only [move, hturn, hpending, List.tail_nil, Shell.step, halive, if_true]

/-- While the shell lives, the task takes the message that came first. -/
theorem hear_of_arrived {t : ShellTask} {m : ChannelMessage} {rest : List ChannelMessage}
    (halive : t.shell.alive = true) (harrived : t.arrived = m :: rest) :
    t.turn? .hear = some (.received m) ∧
      t.move .hear = { t with shell := t.shell.step (.received m), arrived := rest } := by
  have hturn : t.turn? .hear = some (.received m) := by
    simp only [turn?, halive, harrived, if_true, List.head?_cons, Option.map_some]
  exact ⟨hturn, by simp only [move, hturn, harrived, List.tail_cons]⟩

/-- The task obeys the oldest command, or it finds out that no handle is left, or it waits. -/
theorem turn?_obey (refused : Option String) :
    t.turn? (.obey refused) = none ∨
    (∃ c rest, t.pending = c :: rest ∧ t.turn? (.obey refused) = some (c.event refused)) ∨
    (t.pending = [] ∧ t.turn? (.obey refused) = some .abandoned) := by
  cases halive : t.shell.alive with
  | false => exact .inl (turn?_of_ended _ halive)
  | true =>
    cases hpending : t.pending with
    | cons c rest => exact .inr (.inl ⟨c, rest, rfl, (obey_of_pending halive hpending refused).1⟩)
    | nil =>
      by_cases hhandles : t.handles = 0
      · exact .inr (.inr ⟨rfl, (obey_of_abandoned halive hpending hhandles refused).1⟩)
      · exact .inl (by simp [turn?, halive, hpending, hhandles])

theorem turn?_hear :
    t.turn? .hear = none ∨
    ∃ m rest, t.arrived = m :: rest ∧ t.turn? .hear = some (.received m) := by
  cases halive : t.shell.alive with
  | false => exact .inl (turn?_of_ended _ halive)
  | true =>
    cases harrived : t.arrived with
    | nil => exact .inl (by simp [turn?, harrived])
    | cons m rest => exact .inr ⟨m, rest, rfl, (hear_of_arrived halive harrived).1⟩

/-- A command that is given waits until it is taken. -/
theorem pending_move : t.pending ++ t.admitted m =
    (t.turn? m).toList.filterMap ShellEvent.command? ++ (t.move m).pending := by
  cases m with
  | give c => cases hopen : t.takesCommands <;> simp [admitted, turn?, move, hopen]
  | share => simp only [admitted, turn?, move]; split <;> simp
  | drop | bring => simp [admitted, turn?, move]
  | obey refused =>
    obtain hturn | ⟨c, rest, hpending, hturn⟩ | ⟨hpending, hturn⟩ := t.turn?_obey refused
    · simp [admitted, move, hturn]
    · simp [admitted, move, hturn, hpending]
    · simp [admitted, move, hturn, hpending, ShellEvent.command?]
  | hear =>
    obtain hturn | ⟨m, rest, harrived, hturn⟩ := t.turn?_hear
    · simp [admitted, move, hturn]
    · simp [admitted, move, hturn, ShellEvent.command?]

/-- A message that is brought waits until it is taken. -/
theorem arrived_move : t.arrived ++ ShellMove.brought [m] =
    (t.turn? m).toList.filterMap ShellEvent.message? ++ (t.move m).arrived := by
  cases m with
  | give | share => simp only [ShellMove.brought, turn?, move]; split <;> simp
  | drop | bring => simp [ShellMove.brought, turn?, move]
  | obey refused =>
    obtain hturn | ⟨c, rest, hpending, hturn⟩ | ⟨hpending, hturn⟩ := t.turn?_obey refused
    · simp [ShellMove.brought, move, hturn]
    · simp [ShellMove.brought, move, hturn]
    · simp [ShellMove.brought, move, hturn, ShellEvent.message?]
  | hear =>
    obtain hturn | ⟨m, rest, harrived, hturn⟩ := t.turn?_hear
    · simp [ShellMove.brought, move, hturn]
    · simp [ShellMove.brought, move, hturn, harrived, ShellEvent.message?]

variable (moves : List ShellMove)

theorem shell_run : (t.run moves).shell = t.shell.run (t.turns moves) := by
  induction moves generalizing t with
  | nil => rfl
  | cons m moves ih =>
    show ((t.move m).run moves).shell = _
    rw [ih, shell_move, turns, Shell.run, Shell.run, Shell.run, List.foldl_append]

/-- A shell that has ended takes no turn in any later move. -/
theorem turns_of_ended {t : ShellTask} (h : t.shell.alive = false) : t.turns moves = [] := by
  induction moves generalizing t with
  | nil => rfl
  | cons m moves ih =>
    have hturn := turn?_of_ended m h
    have hnext : (t.move m).shell.alive = false := by simpa [shell_move, hturn, Shell.run] using h
    rw [turns, hturn, ih hnext]
    rfl

theorem alive_of_run {t : ShellTask} (h : (t.run moves).shell.alive = true) :
    t.shell.alive = true := by
  cases hended : t.shell.alive with
  | true => rfl
  | false =>
    rw [shell_run, turns_of_ended moves hended] at h
    exact hended.symm.trans h

/-- What has waited and what is taken of it in a turn, with the turns that come after. -/
theorem take_of_turn {α : Type} {queue queue' new taken later : List α} {k n : Nat}
    (htaken : taken = queue.take k) (hqueue : queue ++ new = taken ++ queue')
    (hlater : queue'.take n <+: later) : queue.take (n + k) <+: taken ++ later := by
  have hrest : queue.drop k ++ new = queue' := by
    have hsame : taken ++ (queue.drop k ++ new) = taken ++ queue' := by
      rw [← List.append_assoc, htaken, List.take_append_drop, hqueue, htaken]
    exact List.append_cancel_left hsame
  rw [Nat.add_comm, List.take_add, htaken, List.prefix_append_right_inj]
  refine List.IsPrefix.trans ?_ hlater
  rw [← hrest]
  exact List.IsPrefix.take (List.prefix_append ..) n

/-- A turn for the handles takes the oldest command, if one waits. -/
theorem command_of_alive {t : ShellTask} (halive : t.shell.alive = true) :
    (t.turn? m).toList.filterMap ShellEvent.command? =
      t.pending.take (if m.isObey then 1 else 0) := by
  cases m with
  | give | share | drop | bring => rfl
  | hear =>
    obtain hturn | ⟨m, rest, -, hturn⟩ := t.turn?_hear <;> rw [hturn] <;> rfl
  | obey refused =>
    cases hpending : t.pending with
    | nil =>
      obtain hturn | ⟨c, rest, hsome, -⟩ | ⟨-, hturn⟩ := t.turn?_obey refused
      · simp [hturn]
      · simp [hpending] at hsome
      · simp [hturn, ShellEvent.command?]
    | cons c rest => simp [(obey_of_pending halive hpending refused).1, ShellMove.isObey]

/-- A turn for the channel takes the first message, if one waits. -/
theorem message_of_alive {t : ShellTask} (halive : t.shell.alive = true) :
    (t.turn? m).toList.filterMap ShellEvent.message? =
      t.arrived.take (if m.isHear then 1 else 0) := by
  cases m with
  | give | share | drop | bring => rfl
  | obey refused =>
    obtain hturn | ⟨c, rest, -, hturn⟩ | ⟨-, hturn⟩ := t.turn?_obey refused
    · simp [hturn, ShellMove.isHear]
    · simp [hturn, ShellMove.isHear]
    · simp [hturn, ShellMove.isHear, ShellEvent.message?]
  | hear =>
    cases harrived : t.arrived with
    | nil => simp [turn?, harrived]
    | cons m rest =>
      simp [(hear_of_arrived halive harrived).1, ShellMove.isHear, ShellEvent.message?]

/-- As long as the shell lives, each turn takes one of the commands or messages that wait. -/
theorem taken_of_alive {t : ShellTask} (h : (t.run moves).shell.alive = true) :
    t.pending.take (moves.countP ShellMove.isObey) <+:
        (t.turns moves).filterMap ShellEvent.command? ∧
      t.arrived.take (moves.countP ShellMove.isHear) <+:
        (t.turns moves).filterMap ShellEvent.message? := by
  induction moves generalizing t with
  | nil => exact ⟨List.nil_prefix, List.nil_prefix⟩
  | cons m moves ih =>
    have halive := alive_of_run (m :: moves) h
    obtain ⟨hcommands, hmessages⟩ := ih (t := t.move m) h
    rw [turns, List.filterMap_append, List.filterMap_append, List.countP_cons, List.countP_cons]
    exact ⟨take_of_turn (command_of_alive m halive) (t.pending_move m) hcommands,
      take_of_turn (message_of_alive m halive) (t.arrived_move m) hmessages⟩

structure Account (moves : List ShellMove) (turns : List ShellEvent) (t : ShellTask) : Prop where
  /-- Commands are taken in the order in which they were given. -/
  commands : turns.filterMap ShellEvent.command? ++ t.pending = given {} moves
  /-- Messages are taken in the order in which they came. -/
  messages : turns.filterMap ShellEvent.message? ++ t.arrived = ShellMove.brought moves
  sent : t.shell.delivered ++ (turns.findSome? ShellEvent.ending?).elim [] ShellEnding.undelivered =
    (turns.filterMap ShellEvent.command?).filterMap ShellCommand.bytes?
  shown : t.shell.output =
    (turns.filterMap ShellEvent.message?).filterMap ChannelMessage.payload?
  alive : t.shell.alive = (turns.findSome? ShellEvent.ending?).isNone
  reports : t.shell.reports = (turns.findSome? ShellEvent.ending?).elim [] ShellEnding.reports
  /-- The turn that ends the shell is the last. -/
  last : ∀ e ∈ turns.dropLast, e.ending? = none

/-- A shell that ends reports it once, and what waits for it then is not delivered. -/
example :
    let t := run {} [.give (.data [1]), .bring (.data [2]), .bring .eof, .bring .closed, .hear,
      .hear, .obey none, .hear]
    t.shell.output = [[2]] ∧ t.shell.delivered = [] ∧
      t.shell.reports = [⟨.connection, "channel EOF"⟩] := by
  decide

end ShellTask

end Multiplexer
