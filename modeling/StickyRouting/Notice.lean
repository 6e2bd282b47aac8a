import StickyRouting.Picker

/-!
# Notices

What the balancer reports about its own work. A notice has a level, a fixed message and a few
named fields, whose values are shown as text.
-/

namespace StickyRouting

inductive NoticeLevel where
  | trace
  | debug
  | info
  | warn
  | error
  deriving DecidableEq, Repr

def NoticeLevel.name : NoticeLevel → String
  | trace => "TRACE"
  | debug => "DEBUG"
  | info => "INFO"
  | warn => "WARN"
  | error => "ERROR"

inductive Notice where
  | resolverFailed (error : Error)
  | addressesResolved (count : Nat)
  | creationFailed (error : Error)
  | connectionCreated (id : ConnectionId) (poolSize : Nat)
  | growthAtCapacity (poolSize : Nat)
  | growthFailed (poolSize : Nat)
  | keyAlreadyBound (key : String) (bound requested : ConnectionId)
  | staleBindingDropped (key : String) (bound : ConnectionId)
  | keyBound (key : String) (id : ConnectionId)
  | keyRebound (key : String) (id : ConnectionId)
  | bindRefused (key : String) (error : Error)
  | keyNotBound (key : String)
  | keysReleased (id : ConnectionId)
  | keyUnbound (key : String)
  | unknownConnectionChanged (id : ConnectionId) (state : ConnectivityState)
  | connectionChanged (id : ConnectionId) (before after : ConnectivityState)
  | keysDropped (id : ConnectionId)
  | connectionRemoved (id : ConnectionId) (poolSize : Nat)
  | publishing (state : ConnectivityState) (kind : String)
  | closing (connections keys : Nat)
  | picked (id : ConnectionId)
  | boundConnectionNotReady (key : String) (id : ConnectionId)
  | saturated (maxStreams : UInt32)
  | pickDropped (id : ConnectionId)
  | balancerStarted
  | loopStarted
  | balancerClosed
  | loopAbandoned
  | loopCrashed
  deriving DecidableEq

namespace Notice

def level : Notice → NoticeLevel
  | creationFailed _ => .error
  | resolverFailed _ | growthFailed _ | staleBindingDropped _ _ | bindRefused _ _
  | keysDropped _ | loopCrashed => .warn
  | addressesResolved _ | unknownConnectionChanged _ _ | closing _ _ | balancerStarted
  | balancerClosed => .info
  | connectionCreated _ _ | keyAlreadyBound _ _ _ | keyBound _ _ | keyNotBound _
  | keysReleased _ | keyUnbound _ | connectionChanged _ _ _ | connectionRemoved _ _
  | publishing _ _ | boundConnectionNotReady _ _ | saturated _ | loopStarted
  | loopAbandoned => .debug
  | growthAtCapacity _ | keyRebound _ _ | picked _ | pickDropped _ => .trace

def message : Notice → String
  | resolverFailed _ => "Resolver reported an error, keeping current addresses"
  | addressesResolved _ => "Got new resolved addresses"
  | creationFailed _ => "Failed to create connection"
  | connectionCreated _ _ => "Connection created"
  | growthAtCapacity _ => "Scale-up ignored, pool at capacity"
  | growthFailed _ => "Scale-up failed, routing over existing connections"
  | keyAlreadyBound _ _ _ => "Key already bound, keeping existing connection"
  | staleBindingDropped _ _ => "Dropping binding to untracked connection"
  | keyBound _ _ => "Affinity key bound"
  | keyRebound _ _ => "Affinity key rebound"
  | bindRefused _ _ => "Cannot bind affinity key"
  | keyNotBound _ => "Unbind for unbound key"
  | keysReleased _ => "Affinity count reached zero, released all keys"
  | keyUnbound _ => "Affinity key unbound"
  | unknownConnectionChanged _ _ => "State change for unknown connection"
  | connectionChanged _ _ _ => "Connection state changed"
  | keysDropped _ => "Dropped affinity keys of shut down connection"
  | connectionRemoved _ _ => "Connection removed from pool"
  | publishing _ _ => "Publishing picker"
  | closing _ _ => "ConnectionPool closing"
  | picked _ => "Picked connection"
  | boundConnectionNotReady _ _ => "Bound connection not ready"
  | saturated _ => "All ready connections saturated, requesting another"
  | pickDropped _ => "Pick dropped without completion"
  | balancerStarted => "Balancer started"
  | loopStarted => "Event loop started"
  | balancerClosed => "Balancer closed"
  | loopAbandoned => "All balancer handles dropped, event loop terminated"
  | loopCrashed => "Balancer event loop panicked"

def fields : Notice → List (String × String)
  | resolverFailed error | creationFailed error => [("error", error.message)]
  | addressesResolved count => [("count", toString count)]
  | connectionCreated id poolSize | connectionRemoved id poolSize =>
      [("connection_id", id.display), ("pool_size", toString poolSize)]
  | growthAtCapacity poolSize | growthFailed poolSize => [("pool_size", toString poolSize)]
  | keyAlreadyBound key bound requested =>
      [("key", key), ("bound", bound.display), ("requested", requested.display)]
  | staleBindingDropped key bound => [("key", key), ("bound", bound.display)]
  | keyBound key id | keyRebound key id | boundConnectionNotReady key id =>
      [("key", key), ("connection_id", id.display)]
  | bindRefused key error => [("key", key), ("error", error.message)]
  | keyNotBound key | keyUnbound key => [("key", key)]
  | keysReleased id | keysDropped id | picked id | pickDropped id =>
      [("connection_id", id.display)]
  | unknownConnectionChanged id state =>
      [("connection_id", id.display), ("state", state.name)]
  | connectionChanged id before after =>
      [("connection_id", id.display), ("from", before.name), ("to", after.name)]
  | publishing state kind => [("state", state.name), ("picker", kind)]
  | closing connections keys =>
      [("connections", toString connections), ("affinity_keys", toString keys)]
  | saturated maxStreams => [("max_streams", toString maxStreams.toNat)]
  | balancerStarted | loopStarted | balancerClosed | loopAbandoned | loopCrashed => []

end Notice

end StickyRouting
