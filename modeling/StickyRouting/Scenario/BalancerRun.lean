import StickyRouting.Config.Reader
import StickyRouting.Balancer
import StickyRouting.Scenario.Report

/-!
# Scenarios with a balancer

A balancer is driven through its only handle. The loop runs when a command waits for something:
for counters, for the end of the loop, or for a reply behind another message. It then runs until
nothing is left to do. Everything that is sent in between waits in the queue.
-/

namespace StickyRouting.Scenario

structure BalancerRun where
  balancer : Balancer
  channel : Channel
  holdings : Holdings := {}

inductive BalancerCommand where
  | caller (command : CallerCommand)
  | refuseConnections (count : Nat)
  | crashNext
  | send (event : Event)
  | stats
  | close
  | closeThenStats
  | statsThenClose
  | dropHandles
  deriving DecidableEq

structure BalancerRunStep where
  run : BalancerRun
  result : Result
  actions : List Action := []

/-- What the loop did until nothing was left to do. -/
structure LoopRun where
  run : BalancerRun
  actions : List Action := []
  replies : List (Nat × Stats) := []

namespace BalancerRun

def start (balancer : Balancer) (plan : List ConnectionId) : BalancerRun :=
  { balancer, channel := { plan } }

def hasHandle (run : BalancerRun) : Bool :=
  0 < run.balancer.handles

/-- One turn of the loop against the scripted channel. A crash uses up the order to crash. -/
def turn (run : BalancerRun) : LoopRun :=
  let step := run.balancer.turn { answer := run.channel.answer, crashes := run.channel.crashes }
  let crashed := run.balancer.isOpen && step.balancer.loop.isCrashed
  let channel := run.channel.observeAll step.actions
  { run :=
      { run with
        balancer := step.balancer
        channel := { channel with crashes := channel.crashes && !crashed } }
    actions := step.actions
    replies := step.reply.toList }

def runLoop : Nat → BalancerRun → LoopRun
  | 0, run => { run }
  | turns + 1, run =>
      let first := run.turn
      let later := runLoop turns first.run
      { run := later.run
        actions := first.actions ++ later.actions
        replies := first.replies ++ later.replies }

/-- Runs the loop until nothing is left to do. Every turn takes one message, and one more turn
notices that no handle is left. -/
def settle (run : BalancerRun) : LoopRun :=
  runLoop (run.balancer.queue.length + 1) run

/-- The counters that were replied under a ticket. Without a reply the balancer has closed. -/
def statsResult (ticket : Except Error Nat) (replies : List (Nat × Stats)) : Result :=
  match ticket with
  | .error error => .failed error
  | .ok ticket =>
      match replies.lookup ticket with
      | some stats => .counted stats
      | none => .failed .balancerClosed

/-- Sends a request for the counters, and returns its ticket if the queue took it. -/
def sendStats (run : BalancerRun) : Except Error Nat × BalancerRun :=
  match run.balancer.sendStats with
  | .ok (ticket, sent) => (.ok ticket, { run with balancer := sent })
  | .error error => (.error error, run)

def sendClose (run : BalancerRun) : BalancerRun :=
  { run with balancer := run.balancer.sendClose }

/-- Runs the loop and then waits for its end. -/
def settleAndAwait (run : BalancerRun) : LoopRun :=
  let settled := run.settle
  let (balancer, actions) := settled.run.balancer.awaitLoop
  { settled with
    run := { settled.run with balancer }
    actions := settled.actions ++ actions }

def send (run : BalancerRun) (event : Event) : BalancerRunStep :=
  match run.balancer.send (.event event) with
  | .ok sent => { run := { run with balancer := sent }, result := .nothing }
  | .error error => { run, result := .failed error }

def stats (run : BalancerRun) : BalancerRunStep :=
  let (ticket, sent) := run.sendStats
  let settled := sent.settle
  { run := settled.run
    result := statsResult ticket settled.replies
    actions := settled.actions }

def close (run : BalancerRun) : BalancerRunStep :=
  let settled := run.sendClose.settleAndAwait
  { run := settled.run, result := .nothing, actions := settled.actions }

def closeThenStats (run : BalancerRun) : BalancerRunStep :=
  let (ticket, sent) := run.sendClose.sendStats
  let settled := sent.settleAndAwait
  { run := settled.run
    result := statsResult ticket settled.replies
    actions := settled.actions }

def statsThenClose (run : BalancerRun) : BalancerRunStep :=
  let (ticket, sent) := run.sendStats
  let settled := sent.sendClose.settleAndAwait
  { run := settled.run
    result := statsResult ticket settled.replies
    actions := settled.actions }

def dropHandles (run : BalancerRun) : BalancerRunStep :=
  let settled := { run with balancer := run.balancer.dropHandle }.settle
  { run := settled.run
    result := .released (!settled.run.balancer.isOpen)
    actions := settled.actions }

def picker? (run : BalancerRun) : Option Picker :=
  if run.hasHandle then some run.balancer.picker else none

def caller (run : BalancerRun) (command : CallerCommand) : BalancerRunStep :=
  let step := run.holdings.carryOut run.balancer.board run.picker? command
  let balancer := { run.balancer with board := step.board }.deliver step.events
  { run := { run with balancer, holdings := step.holdings }
    result := step.result
    actions := step.notices.map .note }

def withHandle (run : BalancerRun) (step : BalancerRunStep) : BalancerRunStep :=
  if run.hasHandle then step else { run, result := .missing .balancer }

def carryOut (run : BalancerRun) : BalancerCommand → BalancerRunStep
  | .caller command => run.caller command
  | .refuseConnections count =>
      { run := { run with channel.refusals := count }, result := .nothing }
  | .crashNext =>
      run.withHandle { run := { run with channel.crashes := true }, result := .nothing }
  | .send event => run.withHandle (run.send event)
  | .stats => run.withHandle run.stats
  | .close => run.withHandle run.close
  | .closeThenStats => run.withHandle run.closeThenStats
  | .statsThenClose => run.withHandle run.statsThenClose
  | .dropHandles => run.withHandle run.dropHandles

def report (step : BalancerRunStep) : Report :=
  let visible := step.run.hasHandle
  { result := step.result
    actions := step.actions
    granted := step.run.channel.granted
    snapshot := if visible then some step.run.balancer.board.snapshot else none
    balancer := if visible then some step.run.balancer.describe else none }

/-- Carries out commands and reports on each. The first report also tells of the actions that
happened before. -/
def reports (run : BalancerRun) (before : List Action) : List BalancerCommand → List Report
  | [] => []
  | command :: commands =>
      let step := run.carryOut command
      let first := { step with actions := before ++ step.actions }
      report first :: step.run.reports [] commands

/-- Drafts a configuration, builds a balancer from it and carries out commands. -/
def reportsOf (draft : List Config.DraftStep) (hasExecutor : Bool) (plan : List ConnectionId)
    (commands : List BalancerCommand) : Except Error (List Report) :=
  match Config.draft draft with
  | .error error => .error error
  | .ok config =>
      (Balancer.build config hasExecutor).map fun balancer =>
        (start balancer plan).reports [.note .balancerStarted] commands

end BalancerRun

end StickyRouting.Scenario
