import AppGateway.Refinement.Simulation
import Mathlib.Data.List.Basic

namespace GatewayModel

inductive Signal where
  | SIGTERM | SIGINT
deriving DecidableEq, Repr

inductive Connection where
  | busy | idle | ended
deriving DecidableEq, Repr

/-- The `await` a call of `shutdown` is at. `settled`: the promise around `server.close` has been resolved, or rejected
    with an error, and the rest of the function is in the microtask queue. -/
inductive ShutdownStage where
  | waiting
  | settled (rejected : Bool)
  | endingPool
  | quittingRedis
  | complete
deriving DecidableEq, Repr

/-- A call of `shutdown`. `notRunning`: `server.close` found the server closed, so its callback gets an error. -/
structure ShutdownCall where
  signal : Signal
  startedAt : Nat
  notRunning : Bool
  stage : ShutdownStage
deriving DecidableEq, Repr

inductive ShutdownLog where
  | receivedSignal (signal : Signal)
  | timedOut
  | poolClosed
  | poolError
  | redisClosed
  | redisError
  | shutdownComplete
  | unhandledError
deriving DecidableEq, Repr

structure ServerProcess where
  clock : Nat
  listening : Bool
  connections : List Connection
  calls : List ShutdownCall
  log : List (Nat × ShutdownLog)
  exitCode : Option Nat
deriving DecidableEq, Repr

/-- The events of the event loop. `resume` is a microtask; `closed` is the server's `close` event; `poolEnded` and
    `redisQuit` settle the promises of `end()` and `quit()`, or of the import before them. -/
inductive ProcessEvent where
  | connect
  | request (connection : Nat)
  | respond (connection : Nat)
  | disconnect (connection : Nat)
  | elapse (ms : Nat)
  | signal (signal : Signal)
  | closed
  | timeout (call : Nat)
  | resume (call : Nat)
  | poolEnded (call : Nat) (ok : Bool)
  | redisQuit (call : Nat) (ok : Bool)
  | serverError
  | unhandledRejection
deriving DecidableEq, Repr

def shutdownTimeoutMs : Nat := 10000

def ShutdownStage.isSettled : ShutdownStage → Bool
  | .settled _ => true
  | _ => false

def ShutdownCall.onClosed (call : ShutdownCall) : ShutdownCall :=
  if call.stage = .waiting then { call with stage := .settled call.notRunning } else call

namespace ServerProcess

def microtasks (process : ServerProcess) : Bool := process.calls.any (·.stage.isSettled)

def drained (process : ServerProcess) : Bool := process.connections.all (· = .ended)

def say (process : ServerProcess) (call : Nat) (line : ShutdownLog) : ServerProcess :=
  { process with log := process.log ++ [(call, line)] }

def setStage (process : ServerProcess) (index : Nat) (call : ShutdownCall) (stage : ShutdownStage) : ServerProcess :=
  { process with calls := process.calls.set index { call with stage } }

def exit (process : ServerProcess) (code : Nat) : ServerProcess := { process with exitCode := some code }

/-- `handleSignal`: `shutdown` up to its first `await`. `server.close` also closes the connections without a request. -/
def handleSignal (process : ServerProcess) (signal : Signal) : ServerProcess :=
  { process with
    listening := false
    connections := process.connections.map fun connection => if connection = .idle then .ended else connection
    calls := process.calls ++
      [{ signal, startedAt := process.clock, notRunning := !process.listening, stage := .waiting }]
    log := process.log ++ [(process.calls.length, .receivedSignal signal)] }

def setConnection (process : ServerProcess) (index : Nat) (before after : Connection) :
    Option ServerProcess :=
  if process.connections[index]? = some before then
    some { process with connections := process.connections.set index after }
  else none

/-- The timer of a call. It is not cleared when the server closes first. -/
def timeout (process : ServerProcess) (index : Nat) : Option ServerProcess :=
  match process.calls[index]? with
  | some call =>
    if call.startedAt + shutdownTimeoutMs ≤ process.clock then
      let process := process.say index .timedOut
      if call.stage = .waiting then some (process.setStage index call (.settled false)) else some process
    else none
  | none => none

def resume (process : ServerProcess) (index : Nat) : Option ServerProcess :=
  match process.calls[index]? with
  | some call =>
    match call.stage with
    | .settled true => some ((process.say index .unhandledError).exit 1)
    | .settled false => some (process.setStage index call .endingPool)
    | _ => none
  | none => none

def poolEnded (process : ServerProcess) (index : Nat) (ok : Bool) : Option ServerProcess :=
  match process.calls[index]? with
  | some call =>
    if call.stage = .endingPool then
      some ((process.say index (if ok then .poolClosed else .poolError)).setStage index call .quittingRedis)
    else none
  | none => none

def redisQuit (process : ServerProcess) (index : Nat) (ok : Bool) : Option ServerProcess :=
  match process.calls[index]? with
  | some call =>
    if call.stage = .quittingRedis then
      let process := process.say index (if ok then .redisClosed else .redisError)
      some (((process.say index .shutdownComplete).setStage index call .complete).exit 0)
    else none
  | none => none

def macrotask (process : ServerProcess) : ProcessEvent → Option ServerProcess
  | .connect => if process.listening then some { process with connections := process.connections ++ [.busy] } else none
  | .request connection => process.setConnection connection .idle .busy
  | .respond connection => process.setConnection connection .busy .idle
  | .disconnect connection =>
    if connection < process.connections.length then
      some { process with connections := process.connections.set connection .ended }
    else none
  | .elapse ms => some { process with clock := process.clock + ms }
  | .signal signal => some (process.handleSignal signal)
  | .closed =>
    if process.listening = false ∧ process.drained then
      some { process with calls := process.calls.map ShutdownCall.onClosed }
    else none
  | .timeout call => process.timeout call
  | .resume _ => none
  | .poolEnded call ok => process.poolEnded call ok
  | .redisQuit call ok => process.redisQuit call ok
  | .serverError => some (process.exit 1)
  | .unhandledRejection => some (process.exit 1)

/-- What happens next. Nothing happens after `process.exit`, and nothing but microtasks while there are any. -/
def next (process : ServerProcess) (event : ProcessEvent) : Option ServerProcess :=
  if process.exitCode.isSome then none
  else
    match event with
    | .resume call => process.resume call
    | event => if process.microtasks then none else process.macrotask event

def fresh (clock : Nat) : ServerProcess :=
  { clock, listening := true, connections := [], calls := [], log := [], exitCode := none }

end ServerProcess

def serverMachine : Refinement.Machine ServerProcess ProcessEvent where
  start process := ∃ clock, process = .fresh clock
  step before event after := before.next event = some after

end GatewayModel
