import StickyRouting.Scenario.Report

/-!
# Scenarios with a pool

A pool is driven by its owner. What pickers and settled picks send waits in a queue until the
owner has the pool apply it. A pool that has been closed is gone, but the board stays, and the
pickers that were put aside still work on it.
-/

namespace StickyRouting.Scenario

structure PoolRun where
  pool : Option Pool
  board : Board := {}
  channel : Channel
  holdings : Holdings := {}
  queue : List Event := []
  /-- Whether the queue still takes events. Those sent after that are lost. -/
  accepting : Bool := true

inductive PoolCommand where
  | caller (command : CallerCommand)
  | refuseConnections (count : Nat)
  | operate (operation : Pool.Operation)
  | pump (count : Option Nat)
  | close
  | stopQueue
  deriving DecidableEq

structure PoolRunStep where
  run : PoolRun
  result : Result
  actions : List Action := []
  queued : List Event := []

namespace PoolRun

def start (config : Config) (plan : List ConnectionId) : PoolRun :=
  { pool := some { config }, channel := { plan } }

def perform (run : PoolRun) (actions : List Action) : PoolRun :=
  { run with board := run.board.applyAll actions, channel := run.channel.observeAll actions }

/-- What an operation of the pool yields: a new connection's identifier where one was asked
for, and nothing otherwise. -/
def operationResult (operation : Pool.Operation) (answer : Answer) : Result :=
  match operation with
  | .create => .created (answer.handle?.map Handle.id)
  | .event _ | .publish => .nothing

def operate (run : PoolRun) (pool : Pool) (operation : Pool.Operation) : PoolRunStep :=
  let answer := run.channel.answer
  let step := pool.operate operation answer
  { run := { run.perform step.actions with pool := some step.pool }
    result := operationResult operation answer
    actions := step.actions }

/-- Applies events to the pool, one after the other. -/
def applyEvents (run : PoolRun) (pool : Pool) : List Event → PoolRun × List Action
  | [] => ({ run with pool := some pool }, [])
  | event :: events =>
      let step := pool.handle event run.channel.answer
      let (final, actions) := (run.perform step.actions).applyEvents step.pool events
      (final, step.actions ++ actions)

/-- Applies the oldest `count` events of the queue, or all of them. -/
def pump (run : PoolRun) (pool : Pool) (count : Option Nat) : PoolRunStep :=
  let events := run.queue.take (count.getD run.queue.length)
  let rest := run.queue.drop events.length
  let (final, actions) := { run with queue := rest }.applyEvents pool events
  { run := final, result := .applied events.length, actions }

def close (run : PoolRun) (pool : Pool) : PoolRunStep :=
  { run := { run.perform pool.close with pool := none }
    result := .nothing
    actions := pool.close }

/-- Puts events into the queue if it takes them, and returns those that it took. -/
def enqueue (run : PoolRun) (events : List Event) : PoolRun × List Event :=
  if run.accepting then ({ run with queue := run.queue ++ events }, events) else (run, [])

def caller (run : PoolRun) (command : CallerCommand) : PoolRunStep :=
  let step := run.holdings.carryOut run.board (some run.board.snapshot.picker) command
  let (final, queued) :=
    { run with holdings := step.holdings, board := step.board }.enqueue step.events
  { run := final, result := step.result, actions := step.notices.map .note, queued }

def withPool (run : PoolRun) (step : Pool → PoolRunStep) : PoolRunStep :=
  match run.pool with
  | some pool => step pool
  | none => { run, result := .missing .pool }

def carryOut (run : PoolRun) : PoolCommand → PoolRunStep
  | .caller command => run.caller command
  | .refuseConnections count =>
      { run := { run with channel.refusals := count }, result := .nothing }
  | .operate operation => run.withPool fun pool => run.operate pool operation
  | .pump count => run.withPool fun pool => run.pump pool count
  | .close => run.withPool run.close
  | .stopQueue =>
      run.withPool fun _ => { run := { run with accepting := false }, result := .nothing }

def report (step : PoolRunStep) : Report :=
  { result := step.result
    actions := step.actions
    granted := step.run.channel.granted
    snapshot := some step.run.board.snapshot
    queued := step.queued
    pool := step.run.pool.map fun pool => .of pool step.run.board }

/-- Carries out commands and reports on each. -/
def reports (run : PoolRun) : List PoolCommand → List Report
  | [] => []
  | command :: commands =>
      let step := run.carryOut command
      report step :: step.run.reports commands

end PoolRun

end StickyRouting.Scenario
