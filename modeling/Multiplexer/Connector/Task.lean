import Multiplexer.Chain.Resolver
import Multiplexer.Connector.Basic
import Multiplexer.Session.History

/-!
# Tasks of the connector

A task runs until it has to wait, and is data while it waits. What it waits for
is a call that some collaborator answers, the end of a delay, or a report from
the channel of a connection; most waits end early when a token is cancelled. A
signal ends a wait, and `resume` says what the task does then, until it waits
again or is over. Between two waits nothing else happens.

There are five kinds: an attempt to connect, the watch over one connection with
all that follows a drop, the closing of a connection that was superseded, and
the two ways to give a session up.
-/

namespace Multiplexer

/-- One attempt, asked for from outside. -/
structure Attempt where
  session : Session
  token : Token
  /-- Channel of the connection that is being made. -/
  channel : ChannelId
  deriving DecidableEq, Repr

inductive AttemptStage where
  /-- Closing what the session still held. -/
  | releasing (todo : List Call)
  | resolving (target : SshTarget)
  | chaining (run : ChainRun)
  | opening (params : SerialParams)
  | notingSuccess (connection : Connection)
  | startingForwards (connection : Connection)
  | notingFailure (error : ConnectError)
  deriving DecidableEq, Repr

inductive WatchStage where
  | watching (generation : Nat) (channel : ChannelId)
  /-- Closing the dropped connection. -/
  | closing (drop : Drop) (todo : List Call)
  | delayed (drop : Drop) (loop : ReopenLoop)
  | reopening (drop : Drop) (loop : ReopenLoop) (params : SerialParams) (channel : ChannelId)
  | notingReopening (drop : Drop) (loop : ReopenLoop)
  deriving DecidableEq, Repr

inductive Task where
  | attempt (a : Attempt) (stage : AttemptStage)
  | watch (session : Session) (stage : WatchStage)
  | closing (todo : List Call)
  | disconnecting (session : SessionId) (todo : List Call)
  | destroying (session : SessionId) (todo : List Call)
  | over (result : Except ConnectError Unit)
  deriving Repr

/-- What a task waits for. -/
inductive Wait where
  /-- An answer, unless the token is cancelled first. -/
  | call (c : Call) (token : Option Token)
  | delay (ms : Nat) (loop : ReopenLoop)
  | report (channel : ChannelId) (generation : Nat)
  | nothing

/-- What ends a wait. -/
inductive Signal where
  | reply (r : Reply)
  | cancelled
  | elapsed
  | reported (d : Drop)
  | stopped
  deriving Repr

/-- A connector in the course of a turn, with the tasks that the turn starts. -/
structure Turn where
  connector : Connector
  started : List Task := []

abbrev TurnM := StateM Turn

namespace TurnM

def connector : TurnM Connector := do return (← get).connector

def update (f : Connector → Connector) : TurnM Unit :=
  modify fun t => { t with connector := f t.connector }

def start (task : Task) : TurnM Unit := modify fun t => { t with started := t.started ++ [task] }

def newChannel : TurnM ChannelId := do
  let (id, c) := (← connector).newChannel
  update fun _ => c
  return id

/-- Stop watching a session and take its connection; the calls that close it. -/
def release (id : SessionId) : TurnM (List Call) := do
  update (·.stopWatcher id)
  match ((← connector).status id).connection with
  | some connection =>
    update (·.setConnection id none)
    return connection.closing ++ [.stopForwards id]
  | none => return []

/-- Give a session its connection and watch it. A connection that it still had is closed. -/
def attach (session : Session) (connection : Connection) (channel : ChannelId) : TurnM Unit := do
  let c ← connector
  match (c.status session.id).connection with
  | some stale => start (.closing stale.closing)
  | none => pure ()
  let generation := c.nextGeneration
  update fun c =>
    let c := c.setStatus session.id { state := .connected, connection := some connection }
    { c.putWatcher session.id { generation, channel } with nextGeneration := generation + 1 }
  start (.watch session (.watching generation channel))

end TurnM

open TurnM

namespace Attempt

def fail (a : Attempt) (e : ConnectError) : TurnM Task := do
  update (·.setState a.session.id (.failed e.message))
  return .attempt a (.notingFailure e)

def succeed (a : Attempt) (connection : Connection) : TurnM Task := do
  attach a.session connection a.channel
  return .attempt a (.notingSuccess connection)

/-- Go on with a chain, or leave it if it has ended. -/
def chain (a : Attempt) (run : ChainRun) : TurnM Task := do
  match run with
  | .failed e => a.fail e
  | .connected connection => a.succeed connection
  | run => return .attempt a (.chaining run)

def route (a : Attempt) (target : SshTarget) (found : Except ConnectError (List Hop)) :
    TurnM Task := do
  match routeOf target found with
  | .ok hops => a.chain (ChainRun.start hops)
  | .error e => a.fail e

/-- Make the connection, once the session holds none. -/
def establish (a : Attempt) : TurnM Task := do
  match a.session.target with
  | .ssh target =>
    if (← connector).isCancelled a.token then a.fail .cancelled
    else if target.proxyJump.isSome then return .attempt a (.resolving target)
    else a.chain (ChainRun.start [target.host])
  | .serial params =>
    update fun c => { c with reopener := c.reopener.cancel a.session.id }
    return .attempt a (.opening params)

/-- A serial line is open: its entry is armed again, or made anew if the parameters differ. -/
def opened (a : Attempt) (params : SerialParams) (terminal : Terminal) : TurnM Task := do
  let id := a.session.id
  update fun c =>
    let r := c.reopener
    { c with reopener := if r.params? id = some params then r.reset id else r.register id params }
  a.succeed (.bare terminal)

def release (a : Attempt) : List Call → TurnM Task
  | [] => a.establish
  | todo => return .attempt a (.releasing todo)

def resume (a : Attempt) : AttemptStage → Signal → TurnM Task
  | .releasing todo, .reply _ => a.release todo.tail
  | .resolving target, .reply (.hops hops) => a.route target (.ok hops)
  | .resolving target, .reply (.failed e) => a.route target (.error e)
  | .chaining run, .reply r => a.chain (run.answer r)
  | .chaining run, .cancelled => a.chain run.cancel
  | .opening params, .reply (.terminal t) => a.opened params t
  | .opening _, .reply (.failed e) => a.fail e
  | .opening _, .cancelled => a.fail .cancelled
  | .notingSuccess connection, .reply _ => return .attempt a (.startingForwards connection)
  | .startingForwards _, .reply _ => do
    update (·.emit (.completed a.session.id none))
    return .over (.ok ())
  | .notingFailure e, .reply _ => do
    update (·.emit (.completed a.session.id (some e.message)))
    return .over (.error e)
  | stage, _ => return .attempt a stage

end Attempt

namespace Watch

/-- A loop has paused: wait again, or report the drop if nobody else will. -/
def pause (session : Session) (drop : Drop) (step : Reopener.Step) : TurnM Task := do
  let (r, events, pause) := step
  update fun c => { c with reopener := r }.emitAll events
  match pause with
  | .delayed l => return .watch session (.delayed drop l)
  | .ended (.gaveUp true) | .ended .notRegistered =>
    update (·.emit (.disconnected session.id drop.reason))
    return .over (.ok ())
  | .ended _ => return .over (.ok ())

/-- The dropped connection is closed: report the drop, or try to open the line again. -/
def closed (session : Session) (drop : Drop) : TurnM Task := do
  update (·.setState session.id .disconnected)
  match session.target with
  | .ssh _ =>
    update (·.emit (.disconnected session.id drop.reason))
    return .over (.ok ())
  | .serial _ => pause session drop ((← connector).reopener.drop session.id)

def closeAll (session : Session) (drop : Drop) : List Call → TurnM Task
  | [] => closed session drop
  | todo => return .watch session (.closing drop todo)

/-- A report has come. It counts only if no newer connection is in use. -/
def dropped (session : Session) (generation : Nat) (drop : Drop) : TurnM Task := do
  let c ← connector
  if (c.watcher? session.id).any fun w => w.generation == generation then
    update (·.dropWatcher session.id)
    let taken := (c.status session.id).connection
    update (·.setConnection session.id none)
    let todo := (taken.map Connection.closing).getD []
    closeAll session drop (todo ++ [.stopForwards session.id])
  else return .over (.ok ())

/-- The delay is over: claim the session and open its line. -/
def reopen (session : Session) (drop : Drop) (l : ReopenLoop) : TurnM Task := do
  let (r, events, params?) := (← connector).reopener.attempt l
  update fun c => { c with reopener := r }.emitAll events
  let c ← connector
  if !c.registry.contains session.id then
    pause session drop (c.reopener.refused l (.sessionNotFound session.id))
  else if (c.status session.id).state ≠ .disconnected then
    pause session drop (c.reopener.refused l .cancelled)
  else
    match params? with
    | none => return .over (.ok ())
    | some params =>
      update (·.setState session.id .connecting)
      return .watch session (.reopening drop l params (← newChannel))

def resume (session : Session) : WatchStage → Signal → TurnM Task
  | .watching _ _, .stopped => return .over (.ok ())
  | .watching generation channel, .reported drop => do
    update fun c => c.setChannel channel (c.channel channel).dropReader
    dropped session generation drop
  | .closing drop todo, .reply _ => closeAll session drop todo.tail
  | .delayed drop l, .elapsed => reopen session drop l
  | .delayed drop l, .cancelled => do
    pause session drop ((← connector).reopener.calledOff l)
  | .reopening drop l _ channel, .reply (.terminal t) => do
    attach session (.bare t) channel
    return .watch session (.notingReopening drop l)
  | .reopening drop l _ _, .reply (.failed e) => do
    update (·.setState session.id .disconnected)
    pause session drop ((← connector).reopener.refused l e)
  | .notingReopening drop l, .reply _ => do
    pause session drop ((← connector).reopener.succeeded l)
  | stage, _ => return .watch session stage

end Watch

namespace Task

def wait (size : TerminalSize) : Task → Wait
  | .attempt a stage =>
    match stage with
    | .releasing (call :: _) => .call call none
    | .releasing [] => .nothing
    | .resolving target => .call (.resolve target a.token) none
    | .chaining run =>
      match run.call size a.channel with
      | some call => .call call (if run.cancellable then some a.token else none)
      | none => .nothing
    | .opening params => .call (.serial params a.channel) (some a.token)
    | .notingSuccess _ => .call (.note a.session.target.hostId none) none
    | .startingForwards connection =>
      .call (.startForwards a.session.id a.session.target.hostId connection a.token) none
    | .notingFailure e =>
      .call (.note a.session.target.hostId (some (truncate e.message errorLimit))) none
  | .watch session stage =>
    match stage with
    | .watching generation channel => .report channel generation
    | .closing _ (call :: _) => .call call none
    | .closing _ [] => .nothing
    | .delayed _ l => .delay l.policy.delayMs l
    | .reopening _ _ params channel => .call (.serial params channel) none
    | .notingReopening _ _ => .call (.note session.target.hostId none) none
  | .closing (call :: _) => .call call none
  | .disconnecting _ (call :: _) => .call call none
  | .destroying _ (call :: _) => .call call none
  | _ => .nothing

def closeAll : List Call → TurnM Task
  | [] => return .over (.ok ())
  | todo => return .closing todo

def disconnectAll (id : SessionId) : List Call → TurnM Task
  | [] => do
    update (·.setState id .disconnected)
    return .over (.ok ())
  | todo => return .disconnecting id todo

def destroyAll (id : SessionId) : List Call → TurnM Task
  | [] => do
    update fun c => { c with registry := (c.registry.remove id).2 }
    return .over (.ok ())
  | todo => return .destroying id todo

def resume : Task → Signal → TurnM Task
  | .attempt a stage, s => a.resume stage s
  | .watch session stage, s => Watch.resume session stage s
  | .closing todo, .reply _ => closeAll todo.tail
  | .disconnecting id todo, .reply _ => disconnectAll id todo.tail
  | .destroying id todo, .reply _ => destroyAll id todo.tail
  | t, _ => return t

end Task

namespace Connector

/-- Start an attempt. One that overlaps another is refused and changes nothing. -/
def connect (session : Session) (token : Token) : TurnM Task := do
  if ((← connector).status session.id).state = .connecting then
    return .over (.error (.alreadyConnecting session.id))
  update (·.setState session.id .connecting)
  let todo ← release session.id
  let channel ← TurnM.newChannel
  Attempt.release { session, token, channel } todo

def connectSsh (session : Session) (token : Token) : TurnM Task := do
  match session.target with
  | .ssh _ => connect session token
  | .serial _ => return .over (.error (.wrongSessionKind session.id "ssh"))

def connectSerial (session : Session) (token : Token) : TurnM Task := do
  match session.target with
  | .serial _ => connect session token
  | .ssh _ => return .over (.error (.wrongSessionKind session.id "serial"))

/-- Close the connection of a session on request; this is no drop. -/
def disconnect (id : SessionId) : TurnM Task := do
  if (← connector).registry.contains id then
    update fun c => { c with reopener := c.reopener.cancel id }
    Task.disconnectAll id (← release id)
  else return .over (.error (.sessionNotFound id))

/-- Close the connection of a session and forget the session. -/
def destroy (id : SessionId) : TurnM Task := do
  if (← connector).registry.contains id then
    update fun c => { c with reopener := c.reopener.unregister id }
    Task.destroyAll id (← release id)
  else return .over (.ok ())

end Connector

end Multiplexer
