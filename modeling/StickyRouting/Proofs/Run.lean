import StickyRouting.Pool
import StickyRouting.Picker.Pick

/-!
# Runs of a pool

A service is a pool together with all that works on its board: the queue of events, the
picks that callers hold, and a record of what the pool has done to the outside.  A move is
one thing that can happen to it.  Owners operate the pool, callers pick with any picker that
was ever published and settle their picks, and the channel answers each request for a
connection as it likes.  Every list of moves is a run, so that a statement about all runs
covers every interleaving.
-/

namespace StickyRouting

structure Service where
  /-- The pool, until it is closed. -/
  pool : Option Pool
  board : Board := {}
  /-- The events that wait for the pool, oldest first. -/
  queue : List Event := []
  /-- Whether the queue takes events.  Those sent after that are lost. -/
  accepting : Bool := true
  held : List Pick := []
  actions : List Action := []

inductive Move where
  /-- The owner has the pool carry out an operation. -/
  | operate (operation : Pool.Operation) (answer : Answer)
  /-- An event is put into the queue by a handle of the owner. -/
  | send (event : Event)
  /-- The pool handles the oldest event of the queue. -/
  | pump (answer : Answer)
  /-- A caller picks with one of the published pickers, which are counted from the oldest. -/
  | pick (picker choice : Nat) (request : PickRequest)
  | settle (pick : Nat) (completion : Completion)
  | stopQueue
  | close

namespace Move

/-- The owner has the pool create a connection, and the channel grants a handle. -/
def grant (serial : Nat) (id : ConnectionId) : Move :=
  .operate .create (.granted ⟨serial, id⟩)

/-- The owner has the pool handle an event.  The channel refuses connections. -/
def handle (event : Event) : Move :=
  .operate (.event event) (.refused (.connectionCreation "refused"))

/-- The pool handles the oldest event of the queue.  The channel refuses connections. -/
def drain : Move :=
  .pump (.refused (.connectionCreation "refused"))

end Move

namespace Action

def granted? : Action → Option Handle
  | requestConnection _ _ answer => answer.handle?
  | connect _ | updateAddresses _ _ | publishBindings _ | storeSnapshot _ | reportState _
  | note _ => none

def bindingsPublished? : Action → Option AffinityTable
  | publishBindings bindings => some bindings
  | requestConnection _ _ _ | connect _ | updateAddresses _ _ | storeSnapshot _
  | reportState _ | note _ => none

def snapshotStored? : Action → Option Snapshot
  | storeSnapshot snapshot => some snapshot
  | requestConnection _ _ _ | connect _ | updateAddresses _ _ | publishBindings _
  | reportState _ | note _ => none

/-- The pickers that actions publish, behind the one that stands before any publication. -/
def published (actions : List Action) : List Picker :=
  Snapshot.initial.picker :: (actions.filterMap snapshotStored?).map Snapshot.picker

end Action

namespace PoolStep

/-- The handles that the channel granted during a step. -/
def granted (step : PoolStep) : List Handle :=
  step.actions.filterMap Action.granted?

/-- The snapshots that the channel was told of during a step. -/
def reported (step : PoolStep) : List Snapshot :=
  step.actions.filterMap Action.snapshotReported?

end PoolStep

/-- How the choice of a caller decides among equally busy connections. -/
def tieBreak (choice : Nat) (ties : List ReadyConnection) : Option ReadyConnection :=
  ties[choice % ties.length]?

/-- The board and the held picks once a caller has done something, and the events that it sent. -/
structure CallerEffect where
  board : Board
  held : List Pick
  events : List Event := []

namespace CallerEffect

/-- Picks with the picker at a position of the published ones. -/
def pick (published : List Picker) (picker choice : Nat) (request : PickRequest) (board : Board)
    (held : List Pick) : CallerEffect :=
  match published[picker]? with
  | none => { board, held }
  | some picker =>
      let outcome := picker.pickBy (tieBreak choice) board request
      { board := outcome.board
        held := held ++ outcome.result.toOption.toList
        events := outcome.events }

/-- Settles the pick at a position of the held ones, which are held no longer then. -/
def settle (index : Nat) (completion : Completion) (board : Board) (held : List Pick) :
    CallerEffect :=
  match held[index]? with
  | none => { board, held }
  | some pick =>
      { board := pick.release board
        held := held.eraseIdx index
        events := pick.events completion }

end CallerEffect

/-- An operation at the moment at which a pool carries it out. -/
structure Job where
  pool : Pool
  operation : Pool.Operation
  answer : Answer

def Job.outcome (job : Job) : PoolStep :=
  job.pool.operate job.operation job.answer

namespace Service

def start (config : Config) : Service :=
  { pool := some { config } }

def published (service : Service) : List Picker :=
  Action.published service.actions

/-- Every snapshot that the channel was told of, oldest first. -/
def reported (service : Service) : List Snapshot :=
  service.actions.filterMap Action.snapshotReported?

/-- The connection that a key is bound to. -/
def holder? (service : Service) (key : String) : Option ConnectionId :=
  service.pool.bind fun pool => pool.affinity[key]?

/-- What a move has the pool do, if the pool is open. -/
def operation? (service : Service) : Move → Option (Pool.Operation × Answer)
  | .operate operation answer => some (operation, answer)
  | .pump answer => service.queue.head?.map fun event => (.event event, answer)
  | .send _ | .pick _ _ _ | .settle _ _ | .stopQueue | .close => none

def job? (service : Service) (move : Move) : Option Job :=
  match service.pool, service.operation? move with
  | some pool, some (operation, answer) => some ⟨pool, operation, answer⟩
  | _, _ => none

def carryOut (service : Service) (job : Job) : Service :=
  { service with
    pool := some job.outcome.pool
    board := service.board.applyAll job.outcome.actions
    actions := service.actions ++ job.outcome.actions }

def enqueue (service : Service) (events : List Event) : Service :=
  if service.accepting then { service with queue := service.queue ++ events } else service

/-- Takes over what a caller has done. -/
def follow (service : Service) (caller : CallerEffect) : Service :=
  { service with board := caller.board, held := caller.held }.enqueue caller.events

def pick (service : Service) (picker choice : Nat) (request : PickRequest) : Service :=
  service.follow (.pick service.published picker choice request service.board service.held)

def settle (service : Service) (index : Nat) (completion : Completion) : Service :=
  service.follow (.settle index completion service.board service.held)

/-- Closes the pool.  The board stays, and with it the pickers and picks of callers. -/
def close (service : Service) : Service :=
  match service.pool with
  | none => service
  | some pool =>
      { service with
        pool := none
        board := service.board.applyAll pool.close
        actions := service.actions ++ pool.close }

/-- The service after a move.  A move that refers to something that is not there changes
nothing. -/
def step (service : Service) (move : Move) : Service :=
  match move with
  | .operate _ _ => (service.job? move).elim service service.carryOut
  | .send event => service.enqueue [event]
  | .pump _ =>
      (service.job? move).elim service { service with queue := service.queue.tail }.carryOut
  | .pick picker choice request => service.pick picker choice request
  | .settle index completion => service.settle index completion
  | .stopQueue => { service with accepting := false }
  | .close => service.close

end Service

/-- The moves made since a pool was made, the latest outermost. -/
inductive Run where
  | start (config : Config)
  | next (run : Run) (move : Move)

namespace Run

def service : Run → Service
  | start config => .start config
  | next run move => run.service.step move

def ofMoves (config : Config) (moves : List Move) : Run :=
  moves.foldl next (start config)

/-- Whether a rule allowed every job of a run when it was given to the pool. -/
def Follows (rule : Job → Prop) : Run → Prop
  | start _ => True
  | next run move => run.Follows rule ∧ ∀ job ∈ run.service.job? move, rule job

end Run

/-- Whether a move leaves it to the queue to change the pool, and leaves the queue open. -/
def Move.IsQueued : Move → Prop
  | send _ | pump _ | pick _ _ _ | settle _ _ | close => True
  | operate _ _ | stopQueue => False

instance : DecidablePred Move.IsQueued
  | .send _ | .pump _ | .pick _ _ _ | .settle _ _ | .close => .isTrue True.intro
  | .operate _ _ | .stopQueue => .isFalse id

/-- Whether a run is driven by an event loop: the pool does nothing but handle the events of the
queue, oldest first, and the queue takes every event. -/
def Run.Driven : Run → Prop
  | start _ => True
  | next run move => run.Driven ∧ move.IsQueued

/-- Whether the handles that are granted in a job carry identifiers that are not in use. -/
def Job.Fresh (job : Job) : Prop :=
  ∀ handle ∈ job.outcome.granted, handle.id ∉ job.pool.connections

instance : DecidablePred Job.Fresh := fun job =>
  inferInstanceAs (Decidable (∀ handle ∈ job.outcome.granted, handle.id ∉ job.pool.connections))

instance Run.decidableFollows (rule : Job → Prop) [DecidablePred rule] :
    (run : Run) → Decidable (run.Follows rule)
  | .start _ => .isTrue True.intro
  | .next run move =>
      have := decidableFollows rule run
      inferInstanceAs (Decidable (run.Follows rule ∧ ∀ job ∈ run.service.job? move, rule job))

instance Run.decidableDriven : (run : Run) → Decidable run.Driven
  | .start _ => .isTrue True.intro
  | .next run move =>
      have := decidableDriven run
      inferInstanceAs (Decidable (run.Driven ∧ move.IsQueued))

end StickyRouting
