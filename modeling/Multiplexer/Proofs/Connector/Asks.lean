import Multiplexer.Proofs.Connector.Recovery

/-!
# Asks, notes and announcements

A connector that is asked to connect sessions over SSH or as serial lines, whether
they are of that kind or not, with all else that acts on it. What goes into the
history and what is announced is put down to the task that had the turn. A relation
of a task to what it noted and announced is kept by a run if it is kept by each move.
-/

namespace Multiplexer

open TurnM

inductive SessionKind where
  | ssh
  | serial
  deriving DecidableEq

def SessionKind.text : SessionKind → String
  | .ssh => "ssh"
  | .serial => "serial"

def SessionTarget.sessionKind : SessionTarget → SessionKind
  | .ssh _ => .ssh
  | .serial _ => .serial

namespace Connector

def connectAs : SessionKind → Session → Token → TurnM Task
  | .ssh => connectSsh
  | .serial => connectSerial

variable {kind : SessionKind} {session : Session}

/-- An ask of the right kind is a request to connect. -/
theorem connectAs_eq_connect (h : session.target.sessionKind = kind) (token : Token) :
    connectAs kind session token = connect session token := by
  subst h
  cases htarget : session.target <;> simp [SessionTarget.sessionKind, connectAs, connectSsh,
    connectSerial, htarget]

/-- An ask of the other kind is refused, and nothing happens. -/
theorem connectAs_other_kind (h : session.target.sessionKind ≠ kind) (token : Token) :
    connectAs kind session token =
      pure (.over (.error (.wrongSessionKind session.id kind.text))) := by
  cases kind <;> cases htarget : session.target <;>
    simp_all [SessionTarget.sessionKind, connectAs, connectSsh, connectSerial, SessionKind.text]

end Connector

structure Note where
  hostId : String
  error : Option String
  deriving DecidableEq

def Note.entry (time : Instant) (x : Note) : HistoryEntry :=
  match x.error with
  | none => .succeeded x.hostId time
  | some e => .failed x.hostId e time

def Call.note? : Call → Option Note
  | .note hostId error => some ⟨hostId, error⟩
  | _ => none

def Wait.note? : Wait → Option Note
  | .call c _ => c.note?
  | _ => none

theorem ChainRun.note?_call {run : ChainRun} {size : TerminalSize} {channel : ChannelId}
    {call : Call} (h : run.call size channel = some call) : call.note? = none := by
  cases run with
  | closing links e =>
    cases links with
    | nil => cases h
    | cons link rest => cases h; rfl
  | failed | connected => cases h
  | tunnelling | connecting | opening => cases h; rfl

theorem Connection.note?_closing (connection : Connection) :
    ∀ call ∈ connection.closing, call.note? = none := by
  simp [Connection.closing, Call.note?]

namespace Task

/-- The calls that a task has yet to make before it gives something up. -/
def todo : Task → List Call
  | .attempt _ (.releasing todo) | .watch _ (.closing _ todo) | .closing todo
  | .disconnecting _ todo | .destroying _ todo => todo
  | _ => []

def Plain (t : Task) : Prop := ∀ call ∈ t.todo, call.note? = none

theorem plain_of_todo {t : Task} (h : t.todo = []) : t.Plain := by simp [Plain, h]

def due : Task → Option Note
  | .attempt a (.notingSuccess _) => some ⟨a.session.target.hostId, none⟩
  | .attempt a (.notingFailure e) =>
    some ⟨a.session.target.hostId, some (truncate e.message errorLimit)⟩
  | .watch session (.notingReopening _ _) => some ⟨session.target.hostId, none⟩
  | _ => none

/-- What is noted when a signal comes for a task. -/
def files (t : Task) : Signal → List Note
  | .reply _ => t.due.toList
  | _ => []

/-- Whether a task may note or announce something. -/
def speaks : Task → Bool
  | .attempt _ (.notingSuccess _) | .attempt _ (.startingForwards _)
  | .attempt _ (.notingFailure _) | .watch .. => true
  | _ => false

/-- A task that does not speak has nothing to be noted. -/
theorem due_of_not_speaks {t : Task} (h : t.speaks = false) : t.due = none := by
  cases t with
  | attempt a stage => cases stage <;> first | rfl | cases h
  | watch => cases h
  | _ => rfl

theorem Plain.note?_wait {t : Task} (h : t.Plain) (size : TerminalSize) :
    (t.wait size).note? = t.due := by
  have hhead : ∀ call rest, t.todo = call :: rest → call.note? = none :=
    fun call rest htodo => h call (by simp [htodo])
  cases t with
  | attempt a stage =>
    cases stage with
    | releasing todo =>
      cases todo with
      | nil => rfl
      | cons call rest => exact hhead call rest rfl
    | chaining run =>
      simp only [wait]
      split
      · next call hcall => exact ChainRun.note?_call hcall
      · rfl
    | _ => rfl
  | watch session stage =>
    cases stage with
    | closing d todo =>
      cases todo with
      | nil => rfl
      | cons call rest => exact hhead call rest rfl
    | _ => rfl
  | closing todo | disconnecting _ todo | destroying _ todo =>
    cases todo with
    | nil => rfl
    | cons call rest => exact hhead call rest rfl
  | «over» r => rfl

/-- A task that waits to have something noted goes on with any answer. -/
theorem files_of_not_awaits {t : Task} {s : Signal} (h : t.awaits s = false) : t.files s = [] := by
  cases s with
  | reply r =>
    cases t with
    | attempt a stage => cases stage <;> first | rfl | simp [awaits] at h
    | watch session stage => cases stage <;> first | rfl | simp [awaits] at h
    | _ => rfl
  | _ => rfl

end Task

namespace Connector

theorem plain_burden (c : Connector) (id : SessionId) :
    ∀ call ∈ c.burden id, call.note? = none := by
  unfold burden
  split
  · next connection _ =>
    intro call hcall
    obtain hcall | hcall := List.mem_append.1 hcall
    · exact connection.note?_closing call hcall
    · rw [List.mem_singleton.1 hcall]
      rfl
  · simp

theorem plain_starting (c : Connector) (session : Session) (channel : ChannelId) :
    ∀ t ∈ c.starting session channel, t.Plain := by
  intro t ht
  unfold starting superseded at ht
  split at ht
  · next stale _ =>
    obtain rfl | rfl : t = .closing stale.closing ∨
        t = .watch session (.watching c.nextGeneration channel) := by simpa using ht
    · exact stale.note?_closing
    · exact Task.plain_of_todo rfl
  · obtain rfl : t = .watch session (.watching c.nextGeneration channel) := by simpa using ht
    exact Task.plain_of_todo rfl

@[simp] theorem events_stopWatcher (c : Connector) (id : SessionId) :
    (c.stopWatcher id).events = c.events := by
  unfold stopWatcher; split <;> rfl

@[simp] theorem events_released (c : Connector) (id : SessionId) :
    (c.released id).events = c.events := by
  unfold released; split <;> exact c.events_stopWatcher id

theorem events_begun (c : Connector) (id : SessionId) : (c.begun id).events = c.events :=
  events_released (c.setState id .connecting) id

@[simp] theorem events_taking (c : Connector) (t : Task) (s : Signal) :
    (c.taking t s).events = c.events := by
  unfold taking; split <;> rfl

end Connector

namespace Move

variable {c c' : Connector} {t t' : Task} {s : Signal} {new : List Task}

/-- Every move keeps its task plain and starts plain tasks only. -/
theorem plain (h : Move c t s t' c' new) (ht : t.Plain) : t'.Plain ∧ ∀ u ∈ new, u.Plain := by
  have htail : ∀ call ∈ t.todo.tail, call.note? = none :=
    fun call hcall => ht call (List.mem_of_mem_tail hcall)
  cases h with
  | stay => exact ⟨ht, by simp⟩
  | release | close | disconnecting | destroying => exact ⟨htail, by simp⟩
  | discard todo r t' ht' =>
    obtain rfl | rfl := ht'
    · exact ⟨htail, by simp⟩
    · exact ⟨Task.plain_of_todo rfl, by simp⟩
  | goOn a stage stage' s _ _ hrouted =>
    refine ⟨Task.plain_of_todo ?_, by simp⟩
    cases stage' <;> first | rfl | cases hrouted
  | drop session channel d w =>
    refine ⟨fun call hcall => ?_, by simp⟩
    obtain hcall | hcall := List.mem_append.1 hcall
    · cases hconnection : (c.status session.id).connection with
      | none => simp [hconnection] at hcall
      | some connection =>
        exact connection.note?_closing call (by simpa [hconnection] using hcall)
    · rw [List.mem_singleton.1 hcall]
      rfl
  | pause session stage s d c₁ step =>
    refine ⟨Task.plain_of_todo ?_, by simp⟩
    cases step.2.2 <;> rfl
  | connect | «open» | reopen => exact ⟨Task.plain_of_todo rfl, c.plain_starting _ _⟩
  | _ => exact ⟨Task.plain_of_todo rfl, by simp⟩

/-- A task that does not speak announces nothing. -/
theorem events_of_not_speaks (h : Move c t s t' c' new) (ht : t.speaks = false) :
    c'.events = c.events := by
  cases h with
  | connect | «open» | reopen => exact Connector.events_joined _ _ _ _
  | complete | giveUp | report | pause | lose | claim => cases ht
  | _ => rfl

end Move

/-- A relation of a task to what it has noted and announced that each of its turns keeps. -/
def Lasting (R : Task → List Note → List ConnectionEvent → Prop) : Prop :=
  ∀ ⦃c c' t t' signal new notes events⦄, Move c t signal t' c' new → R t notes events →
    ∃ told, c'.events = c.events ++ told ∧ R t' (notes ++ t.files signal) (events ++ told)

section Lasting

variable {R : Task → List Note → List ConnectionEvent → Prop} {c c' : Connector} {t t' : Task}
  {signal : Signal} {notes : List Note} {events : List ConnectionEvent}

/-- A turn in which nothing is noted or announced. -/
theorem lasting_mute (hfiles : t.files signal = []) (hevents : c'.events = c.events)
    (h : R t' notes events) : ∃ told, c'.events = c.events ++ told ∧
      R t' (notes ++ t.files signal) (events ++ told) :=
  ⟨[], by rw [hevents, List.append_nil], by rwa [hfiles, List.append_nil, List.append_nil]⟩

/-- A signal that a task does not wait for keeps what lasts. -/
theorem lasting_stay (hawaits : t.awaits signal = false) (h : R t notes events) :
    ∃ told, c.events = c.events ++ told ∧ R t (notes ++ t.files signal) (events ++ told) :=
  lasting_mute (Task.files_of_not_awaits hawaits) rfl h

end Lasting

namespace Exchange

/-- What can be asked of a connector, and all else that happens to it. -/
inductive Ask where
  | connect (kind : SessionKind) (session : Session) (token : Token)
  | event (e : Event)

def ask (s : Exchange) : Ask → Exchange
  | .connect kind session token => s.engage (Connector.connectAs kind session token)
  | .event e => s.step e

def asked (s : Exchange) (as : List Ask) : Exchange := as.foldl ask s

/-- The number of the task that has a turn; a request makes a new task. -/
def turn? (s : Exchange) : Ask → Option Nat
  | .event (.resume n _) => some n
  | .connect .. | .event (.connect ..) | .event (.disconnect _) | .event (.destroy _) =>
    some s.tasks.length
  | .event _ => none

/-- What is noted: the call that a task waits for is answered. -/
def notes (s : Exchange) : Ask → List Note
  | .event (.resume n (.reply _)) =>
    match s.tasks[n]? with
    | some t => (t.wait s.connector.size).note?.toList
    | none => []
  | _ => []

def announces (s : Exchange) (a : Ask) : List ConnectionEvent :=
  (s.ask a).connector.events.drop s.connector.events.length

def noted (s : Exchange) (n : Nat) : List Ask → List Note
  | [] => []
  | a :: as => (if s.turn? a = some n then s.notes a else []) ++ (s.ask a).noted n as

def announced (s : Exchange) (n : Nat) : List Ask → List ConnectionEvent
  | [] => []
  | a :: as => (if s.turn? a = some n then s.announces a else []) ++ (s.ask a).announced n as

variable {s : Exchange} {n : Nat} {t : Task} {a : Ask}

theorem asked_cons (s : Exchange) (a : Ask) (as : List Ask) :
    s.asked (a :: as) = (s.ask a).asked as := rfl

theorem announces_of_events {told : List ConnectionEvent}
    (h : (s.ask a).connector.events = s.connector.events ++ told) : s.announces a = told := by
  rw [announces, h, List.drop_left]

/-- A task that is there has its turn with a signal for it. -/
theorem eq_resume_of_turn? (ht : s.tasks[n]? = some t) (h : s.turn? a = some n) :
    ∃ signal, a = .event (.resume n signal) := by
  obtain ⟨hn, -⟩ := List.getElem?_eq_some_iff.1 ht
  have hnew : some s.tasks.length ≠ some n := fun h => Nat.ne_of_gt hn (Option.some.inj h)
  cases a with
  | connect => exact absurd h hnew
  | event e =>
    cases e with
    | resume m signal => exact ⟨signal, by rw [Option.some.inj h]⟩
    | connect | disconnect | destroy => exact absurd h hnew
    | _ => cases h

/-- A task stays as it is while another one has the turn. -/
theorem task_ask (h : s.turn? a ≠ some n) (ht : s.tasks[n]? = some t) :
    (s.ask a).tasks[n]? = some t := by
  cases a with
  | connect kind session token => exact task_engage _ ht
  | event e =>
    refine task_step ?_ ht
    cases e with
    | resume m signal => simpa [Event.isTurnOf, turn?] using h
    | _ => rfl

/-- What a signal for a task has noted. -/
theorem notes_resume (ht : s.tasks[n]? = some t) (hplain : t.Plain) (signal : Signal) :
    s.notes (.event (.resume n signal)) = t.files signal := by
  cases signal with
  | reply r => simp only [notes, ht, hplain.note?_wait, Task.files]
  | _ => rfl

theorem files_unheard {signal : Signal} (hplain : t.Plain)
    (hears : s.connector.hears t signal = false) : t.files signal = [] := by
  cases signal with
  | reply r =>
    have hnote := hplain.note?_wait s.connector.size
    unfold Connector.hears at hears
    unfold Task.files
    rw [← hnote]
    cases hwait : t.wait s.connector.size with
    | call => simp [hwait] at hears
    | _ => rfl
  | _ => rfl

/-- What each turn keeps is kept by a run. -/
theorem lasting_asked {R : Task → List Note → List ConnectionEvent → Prop} (hR : Lasting R)
    {notes : List Note} {events : List ConnectionEvent} (as : List Ask)
    (ht : s.tasks[n]? = some t) (hplain : t.Plain) (h : R t notes events) :
    ∃ t', (s.asked as).tasks[n]? = some t' ∧
      R t' (notes ++ s.noted n as) (events ++ s.announced n as) := by
  induction as generalizing s t notes events with
  | nil => exact ⟨t, ht, by simpa [noted, announced] using h⟩
  | cons a as ih =>
    rw [asked_cons, noted, announced]
    by_cases hturn : s.turn? a = some n
    · obtain ⟨signal, rfl⟩ := eq_resume_of_turn? ht hturn
      rw [if_pos hturn, if_pos hturn, notes_resume ht hplain]
      cases hears : s.connector.hears t signal with
      | false =>
        have hask : s.ask (.event (.resume n signal)) = s := step_resume_unheard ht hears
        rw [files_unheard hplain hears, announces, hask, List.drop_length]
        exact ih ht hplain h
      | true =>
        obtain ⟨t', c', new, hmove, hstep⟩ := step_moves ht hears
        obtain ⟨told, htold, hR'⟩ := hR hmove h
        have hask : s.ask (.event (.resume n signal)) = _ := hstep
        have hannounces : s.announces (.event (.resume n signal)) = told := by
          refine announces_of_events ?_
          rw [hask, htold, Connector.events_taking]
        rw [hannounces, ← List.append_assoc, ← List.append_assoc]
        refine ih ?_ (hmove.plain hplain).1 hR'
        rw [hask]
        exact task_set ht t' new
    · rw [if_neg hturn, if_neg hturn, List.nil_append, List.nil_append]
      exact ih (task_ask hturn ht) hplain h

/-- A request adds tasks that have nothing to note yet, and announces nothing. -/
structure Modest (s s' : Exchange) : Prop where
  events : s'.connector.events = s.connector.events
  plain : (∀ t ∈ s.tasks, t.Plain) → ∀ t ∈ s'.tasks, t.Plain

namespace Modest

/-- A request that is over at once is modest. -/
theorem refused {m : TurnM Task} {r : Except ConnectError Unit}
    (hexec : exec m ⟨s.connector, []⟩ = (.over r, ⟨s.connector, []⟩)) : Modest s (s.engage m) := by
  rw [engage_eq hexec]
  refine ⟨rfl, fun hs t ht => ?_⟩
  obtain ht | ht := List.mem_append.1 ht
  · exact hs t ht
  · rw [List.mem_singleton.1 ht]
    exact Task.plain_of_todo rfl

/-- A request that begins with the turn of a silent task is modest. -/
theorem begins {m : TurnM Task} {c : Connector} {signal : Signal}
    (hmoves : Moves t signal ⟨c, []⟩ (exec m ⟨s.connector, []⟩)) (hspeaks : t.speaks = false)
    (hplain : t.Plain) (hevents : c.events = s.connector.events) : Modest s (s.engage m) := by
  obtain ⟨t', c', new, hexec, hmove⟩ := hmoves
  rw [engage_eq hexec]
  refine ⟨(hmove.events_of_not_speaks hspeaks).trans hevents, fun hs u hu => ?_⟩
  obtain ⟨ht', hnew⟩ := hmove.plain hplain
  obtain hu | hu := List.mem_append.1 hu
  · exact hs u hu
  · obtain rfl | hu := List.mem_cons.1 hu
    · exact ht'
    · exact hnew u hu

end Modest

/-- The calls that a request makes first: the forwards are stopped and what is held is closed. -/
theorem plain_stopping (c : Connector) (id : SessionId) :
    ∀ call ∈ Call.stopForwards id :: c.burden id, call.note? = none := by
  intro call hcall
  obtain rfl | hcall := List.mem_cons.1 hcall
  · rfl
  · exact c.plain_burden id call hcall

theorem modest_connect (s : Exchange) (session : Session) (token : Token) :
    Modest s (s.engage (Connector.connect session token)) := by
  by_cases hstate : (s.connector.slot session.id).state = .connecting
  · exact .refused (Connector.exec_connect_overlapping session token ⟨s.connector, []⟩ hstate)
  · exact .begins (Connector.moves_connect session token ⟨s.connector, []⟩ hstate) rfl
      (plain_stopping _ _) (Connector.events_begun _ _)

/-- Whatever is asked, but for a turn of a task, is modest. -/
theorem modest_ask (h : ∀ m signal, a ≠ .event (.resume m signal)) : Modest s (s.ask a) := by
  have hsame : Modest s s := ⟨rfl, id⟩
  cases a with
  | connect kind session token =>
    by_cases hkind : session.target.sessionKind = kind
    · rw [ask, Connector.connectAs_eq_connect hkind]
      exact modest_connect s session token
    · rw [ask, Connector.connectAs_other_kind hkind]
      exact .refused rfl
  | event e =>
    cases e with
    | resume m signal => exact absurd rfl (h m signal)
    | connect session token =>
      simp only [ask, step]
      split
      · exact modest_connect s session token
      · exact hsame
    | disconnect id =>
      cases hregistered : s.connector.registry.contains id with
      | false =>
        exact .refused (Connector.exec_disconnect_unknown id ⟨s.connector, []⟩ hregistered)
      | true =>
        exact .begins (Connector.moves_disconnect id ⟨s.connector, []⟩ hregistered) rfl
          (plain_stopping _ _) (Connector.events_released _ _)
    | destroy id =>
      cases hregistered : s.connector.registry.contains id with
      | false =>
        exact .refused (Connector.exec_destroy_unknown id ⟨s.connector, []⟩ hregistered)
      | true =>
        exact .begins (Connector.moves_destroy id ⟨s.connector, []⟩ hregistered) rfl
          (plain_stopping _ _) (Connector.events_released _ _)
    | create target =>
      simp only [ask, step]
      split
      · exact ⟨rfl, id⟩
      · exact hsame
    | publish channel d =>
      simp only [ask, step]
      split
      · exact ⟨rfl, id⟩
      · exact hsame
    | cancel token =>
      refine ⟨?_, id⟩
      simp only [ask, step, Connector.cancel]
      split <;> rfl
    | forget | limit | order | policy => exact ⟨rfl, id⟩

/-- All tasks stay plain, whatever is asked. -/
theorem plain_ask (a : Ask) (hs : ∀ t ∈ s.tasks, t.Plain) : ∀ t ∈ (s.ask a).tasks, t.Plain := by
  by_cases hresume : ∃ m signal, a = .event (.resume m signal)
  · obtain ⟨m, signal, rfl⟩ := hresume
    cases ht : s.tasks[m]? with
    | none =>
      have hask : s.ask (.event (.resume m signal)) = s := by simp [ask, step, ht]
      rwa [hask]
    | some t =>
      cases hears : s.connector.hears t signal with
      | false =>
        have hask : s.ask (.event (.resume m signal)) = s := step_resume_unheard ht hears
        rwa [hask]
      | true =>
        obtain ⟨t', c', new, hmove, hstep⟩ := step_moves ht hears
        have hask : s.ask (.event (.resume m signal)) = _ := hstep
        obtain ⟨ht', hnew⟩ := hmove.plain (hs t (List.mem_of_getElem? ht))
        rw [hask]
        intro u hu
        obtain hu | hu := List.mem_append.1 hu
        · obtain hu | rfl := List.mem_or_eq_of_mem_set hu
          · exact hs u hu
          · exact ht'
        · exact hnew u hu
  · exact (modest_ask fun m signal h => hresume ⟨m, signal, h⟩).plain hs

/-- All tasks are plain in every run. -/
theorem plain_asked (as : List Ask) : ∀ t ∈ (asked {} as).tasks, t.Plain := by
  have hrun : ∀ (s : Exchange), (∀ t ∈ s.tasks, t.Plain) → ∀ t ∈ (s.asked as).tasks, t.Plain := by
    induction as with
    | nil => exact fun s hs => hs
    | cons a as ih => exact fun s hs => ih (s.ask a) (plain_ask a hs)
  exact hrun {} (by simp)

end Exchange

end Multiplexer
