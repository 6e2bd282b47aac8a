import StickyRouting.Scenario.Holdings
import StickyRouting.Scenario.Channel

/-!
# Reports on the steps of a scenario

After each step of a scenario a report says what the step yielded, what it did to the outside,
and what can be seen afterwards of the channel, of the board and of the pool or balancer.
-/

namespace StickyRouting.Scenario

structure PoolView where
  stats : Stats
  connections : List (Connection × UInt32)
  bindings : List (String × ConnectionId × Bool)
  addresses : List Address

/-- The state of a pool, with the open streams of each connection, and with each binding a flag
that says whether looking up its key gives the same connection. -/
def PoolView.of (pool : Pool) (board : Board) : PoolView :=
  { stats := pool.stats
    connections := (WorkingSet.list pool.connections).map fun connection =>
      (connection, board.streamCount connection.meter)
    bindings := pool.affinity.toList.map fun (key, id) => (key, id, pool.affinity[key]? = some id)
    addresses := pool.addresses }

structure Report where
  result : Result
  actions : List Action
  /-- Handles granted so far, in the order in which they were granted. -/
  granted : List HandleRecord
  snapshot : Option Snapshot
  /-- Events that entered the queue. -/
  queued : List Event := []
  pool : Option PoolView := none
  /-- The balancer described, while it has a handle. -/
  balancer : Option String := none

/-- A request for a connection: the addresses, whether it is to be health checked, and the
identifier of the connection unless the request was refused. -/
structure Asked where
  addresses : List Address
  healthCheck : Bool
  id : Option ConnectionId
  deriving DecidableEq

namespace Report

def asked (report : Report) : List Asked :=
  report.actions.filterMap fun
    | .requestConnection addresses healthCheck answer =>
        some ⟨addresses, healthCheck, answer.handle?.map Handle.id⟩
    | _ => none

def published (report : Report) : List Snapshot :=
  report.actions.filterMap Action.snapshotReported?

def notices (report : Report) : List Notice :=
  report.actions.filterMap Action.notice?

end Report

end StickyRouting.Scenario
