import StickyRouting.Connection
import StickyRouting.Error

/-!
# Pickers

A picker is what the pool publishes for routing requests. It either fails every request for a
stated reason, or it is a router over the connections that were ready when it was built. A
picker never changes after that; the pool replaces it by a new one.
-/

namespace StickyRouting

inductive PickFailure where
  | noSubchannelAvailable
  | transientFailure
  | closed
  deriving DecidableEq, Repr

namespace PickFailure

def error : PickFailure → Error
  | noSubchannelAvailable => .noSubchannelAvailable
  | transientFailure => .transientFailure
  | closed => .balancerClosed

def name : PickFailure → String
  | noSubchannelAvailable => "NoSubchannelAvailable"
  | transientFailure => "TransientFailure"
  | closed => "Closed"

end PickFailure

/-- A ready connection as a router remembers it. -/
structure ReadyConnection where
  handle : Handle
  meter : Nat
  deriving DecidableEq

namespace ReadyConnection

def id (connection : ReadyConnection) : ConnectionId :=
  connection.handle.id

def ofConnection (connection : Connection) : ReadyConnection :=
  ⟨connection.handle, connection.meter⟩

end ReadyConnection

/-- A router over a fixed list of ready connections, in ascending order of their identifiers.
The serial tells routers apart that are otherwise alike. -/
structure Router where
  serial : Nat
  ready : List ReadyConnection
  maxStreams : UInt32
  canGrow : Bool
  deriving DecidableEq

inductive Picker where
  | failing (failure : PickFailure)
  | routing (router : Router)
  deriving DecidableEq

namespace Picker

def kindName : Picker → String
  | failing failure => failure.name
  | routing _ => "Affinity"

def readyIds : Picker → List ConnectionId
  | failing _ => []
  | routing router => router.ready.map ReadyConnection.id

def describe : Picker → String
  | failing failure => "Failing(" ++ failure.name ++ ")"
  | routing router =>
      "Affinity(AffinityPicker \x7b ready: [" ++
        ", ".intercalate (router.ready.map fun connection => connection.id.describe) ++
        "], max_streams: " ++ toString router.maxStreams.toNat ++
        ", can_grow: " ++ (if router.canGrow then "true" else "false") ++ ", .. \x7d)"

end Picker

/-- The state of the channel and the picker published with it, which are replaced together. -/
structure Snapshot where
  state : ConnectivityState
  picker : Picker
  deriving DecidableEq

namespace Snapshot

/-- What is published before the pool has published anything. -/
def initial : Snapshot := ⟨.idle, .failing .noSubchannelAvailable⟩

/-- What is published by a pool that has been closed. -/
def closed : Snapshot := ⟨.shutdown, .failing .closed⟩

end Snapshot

end StickyRouting
