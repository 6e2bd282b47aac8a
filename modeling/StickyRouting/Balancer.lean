import StickyRouting.Pool
import StickyRouting.Picker.Pick

/-!
# The balancer and its event loop

A balancer owns a pool and a queue of messages. Handles and settled picks put messages into the
queue; a single loop takes them out in order and applies them to the pool, so that the pool
never changes in any other way. Picks read the board and do not wait for the loop.

The loop ends in one of three ways: a message to close the pool comes up, the last handle is
dropped and the queue is empty, or a call into the channel fails. From then on the queue takes
no messages, and those still in it are lost.
-/

namespace StickyRouting

/-- An entry of the queue. A request for the counters carries the ticket under which the reply
is awaited. -/
inductive Message where
  | event (event : Event)
  | stats (ticket : Nat)
  | close
  deriving DecidableEq

inductive Loop where
  | running (pool : Pool)
  | closed
  | crashed

def Loop.isRunning : Loop → Bool
  | running _ => true
  | closed | crashed => false

def Loop.isCrashed : Loop → Bool
  | crashed => true
  | running _ | closed => false

structure Balancer where
  board : Board := {}
  loop : Loop
  queue : List Message := []
  handles : Nat := 1
  started : Bool := false
  /-- Whether a call to close has waited for the end of the loop. -/
  awaited : Bool := false
  nextTicket : Nat := 0

/-- What the channel does during one turn of the loop: how it answers when asked for a
connection, and whether the first call into it fails. -/
structure Turn where
  answer : Answer
  crashes : Bool := false

structure LoopStep where
  balancer : Balancer
  actions : List Action := []
  reply : Option (Nat × Stats) := none

namespace Balancer

/-- Validates the configuration and starts a balancer with one handle. Its loop needs an executor
to run on. -/
def build (config : Config) (hasExecutor : Bool) : Except Error Balancer :=
  match config.validate with
  | .error error => .error error
  | .ok () =>
      if hasExecutor then .ok { loop := .running { config } }
      else .error (.config "Balancer must be built from within a tokio runtime")

def picker (balancer : Balancer) : Picker :=
  balancer.board.snapshot.picker

def state (balancer : Balancer) : ConnectivityState :=
  balancer.board.snapshot.state

def isOpen (balancer : Balancer) : Bool :=
  balancer.loop.isRunning

def describe (balancer : Balancer) : String :=
  "Balancer \x7b state: " ++ balancer.state.label ++ ", closed: " ++
    (if balancer.isOpen then "false" else "true") ++ ", .. \x7d"

def send (balancer : Balancer) (message : Message) : Except Error Balancer :=
  if balancer.isOpen then .ok { balancer with queue := balancer.queue ++ [message] }
  else .error .balancerClosed

/-- Puts events of pickers and settled picks into the queue. They are lost without notice when
the queue is closed or no handle is left. -/
def deliver (balancer : Balancer) (events : List Event) : Balancer :=
  if balancer.isOpen && 0 < balancer.handles then
    { balancer with queue := balancer.queue ++ events.map .event }
  else balancer

/-- Puts a request for the counters into the queue and returns its ticket. -/
def sendStats (balancer : Balancer) : Except Error (Nat × Balancer) :=
  let ticket := balancer.nextTicket
  ({ balancer with nextTicket := ticket + 1 }.send (.stats ticket)).map fun sent => (ticket, sent)

/-- Puts a request to close into the queue. A closed balancer is left as it is. -/
def sendClose (balancer : Balancer) : Balancer :=
  match balancer.send .close with
  | .ok sent => sent
  | .error _ => balancer

def addHandle (balancer : Balancer) : Balancer :=
  { balancer with handles := balancer.handles + 1 }

def dropHandle (balancer : Balancer) : Balancer :=
  { balancer with handles := balancer.handles - 1 }

/-! ## The loop -/

def stop (balancer : Balancer) (loop : Loop) (actions : List Action) : Balancer :=
  { balancer with loop, queue := [], board := balancer.board.applyAll actions }

/-- Applies an event to the pool, or as much of it as takes effect before a call into the
channel fails. -/
def applyEvent (balancer : Balancer) (pool : Pool) (rest : List Message) (event : Event)
    (turn : Turn) : LoopStep :=
  let step := pool.handle event turn.answer
  if turn.crashes && step.actions.any Action.isCallback then
    let actions := Action.beforeCallback step.actions
    { balancer := balancer.stop .crashed actions, actions }
  else
    { balancer :=
        { balancer with
          loop := .running step.pool
          queue := rest
          board := balancer.board.applyAll step.actions }
      actions := step.actions }

def takeMessage (balancer : Balancer) (pool : Pool) (turn : Turn) : LoopStep :=
  match balancer.queue with
  | .event event :: rest => balancer.applyEvent pool rest event turn
  | .stats ticket :: rest =>
      { balancer := { balancer with queue := rest }, reply := some (ticket, pool.stats) }
  | .close :: _ =>
      { balancer := balancer.stop .closed pool.close
        actions := pool.close ++ [.note .balancerClosed] }
  | [] =>
      if balancer.handles = 0 then
        { balancer := balancer.stop .closed pool.close
          actions := pool.close ++ [.note .loopAbandoned] }
      else { balancer }

def turn (balancer : Balancer) (turn : Turn) : LoopStep :=
  match balancer.loop with
  | .closed | .crashed => { balancer }
  | .running pool =>
      let step := { balancer with started := true }.takeMessage pool turn
      let opening : List Action := if balancer.started then [] else [.note .loopStarted]
      { step with actions := opening ++ step.actions }

/-- Waits for the end of the loop, which the first call to close does. It is the one that
learns of a crash. -/
def awaitLoop (balancer : Balancer) : Balancer × List Action :=
  ({ balancer with awaited := true },
    if !balancer.awaited && balancer.loop.isCrashed then [.note .loopCrashed] else [])

end Balancer

end StickyRouting
