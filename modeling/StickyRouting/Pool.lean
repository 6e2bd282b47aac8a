import StickyRouting.Connectivity.Tally
import StickyRouting.Config
import StickyRouting.Pool.Action

/-!
# The connection pool

A pool keeps a working set of connections, the affinity of keys to them, and a tally of their
states. Every operation is a function from the pool, and what the channel would answer to a
request for a connection, to the pool after it and the actions that it causes.

Resolver news reach every tracked connection and make the first one; a pool grows further only
when a picker asks for it. A connection that shuts down leaves the working set together with its
keys. A new picker is published when the ready connections changed or the channel entered or
left failure, and always after a request for growth, which the picker that made it waits for.
-/

namespace StickyRouting

structure Pool where
  config : Config
  addresses : List Address := []
  connections : WorkingSet := ∅
  affinity : AffinityTable := ∅
  tally : Tally := {}
  /-- The state of the channel, idle until the first change of a tracked connection. -/
  state : ConnectivityState := .idle
  /-- Set when growth failed, until the resolver has news. -/
  growthBlocked : Bool := false
  nextMeter : Nat := 0
  nextRouter : Nat := 0

structure Stats where
  connections : Nat
  readyConnections : Nat
  affinityKeys : Nat
  state : ConnectivityState
  deriving DecidableEq, Repr

/-- A pool after an operation and what the operation did to the outside. -/
structure PoolStep where
  pool : Pool
  actions : List Action

namespace PoolStep

def quiet (pool : Pool) : PoolStep := ⟨pool, []⟩

def after (actions : List Action) (step : PoolStep) : PoolStep :=
  ⟨step.pool, actions ++ step.actions⟩

def andThen (first : PoolStep) (next : Pool → PoolStep) : PoolStep :=
  (next first.pool).after first.actions

end PoolStep

namespace Pool

def stats (pool : Pool) : Stats :=
  { connections := pool.connections.size
    readyConnections := pool.tally.ready
    affinityKeys := pool.affinity.size
    state := pool.state }

def ready (pool : Pool) : List Connection :=
  (WorkingSet.list pool.connections).filter fun connection => connection.state.isReady

/-- Whether a picker that is built now may ask for another connection. -/
def canGrow (pool : Pool) : Bool :=
  !pool.growthBlocked && pool.config.allowsMore pool.connections.size

def picker (pool : Pool) : Picker :=
  if pool.state.isTransientFailure then .failing .transientFailure
  else
    .routing
      { serial := pool.nextRouter
        ready := pool.ready.map ReadyConnection.ofConnection
        maxStreams := pool.config.maxStreams
        canGrow := pool.canGrow }

/-- Publishes a picker for the pool as it is now, together with the state of the channel. -/
def publish (pool : Pool) : PoolStep :=
  let snapshot : Snapshot := ⟨pool.state, pool.picker⟩
  ⟨{ pool with nextRouter := pool.nextRouter + 1 },
    [.note (.publishing pool.state pool.picker.kindName), .storeSnapshot snapshot,
      .reportState snapshot]⟩

def publishBindings (pool : Pool) : Action :=
  .publishBindings pool.affinity

/-! ## Connections -/

/-- Tracks a newly granted connection. One with the same identifier is replaced. -/
def track (pool : Pool) (handle : Handle) : Pool :=
  { pool with
    connections := pool.connections.insert handle.id { handle, meter := pool.nextMeter }
    nextMeter := pool.nextMeter + 1 }

/-- Asks the channel for one more connection and starts connecting it. -/
def create (pool : Pool) (answer : Answer) : PoolStep :=
  let request := Action.requestConnection pool.addresses pool.config.healthCheck answer
  match answer with
  | .refused error => ⟨pool, [request, .note (.creationFailed error)]⟩
  | .granted handle =>
      let grown := pool.track handle
      ⟨grown, [request, .connect handle,
        .note (.connectionCreated handle.id grown.connections.size)]⟩

def refresh (pool : Pool) : List Action :=
  (WorkingSet.list pool.connections).flatMap fun connection =>
    [.updateAddresses connection.handle pool.addresses, .connect connection.handle]

/-- Takes over news from the resolver. A failure leaves everything as it was. -/
def resolve (pool : Pool) (resolution : Resolution) (answer : Answer) : PoolStep :=
  match resolution with
  | .failed error => ⟨pool, [.note (.resolverFailed error)]⟩
  | .addresses addresses =>
      let updated := { pool with addresses := addresses, growthBlocked := false }
      let step :=
        if updated.connections.isEmpty then updated.create answer
        else ⟨updated, updated.refresh⟩
      step.after [.note (.addressesResolved addresses.length)]

/-- Adds a connection if the limit allows it. When that fails, pickers no longer ask for growth
and overload the connections that there are. -/
def grow (pool : Pool) (answer : Answer) : PoolStep :=
  if pool.config.allowsMore pool.connections.size then
    match answer with
    | .granted _ => pool.create answer
    | .refused _ =>
        let step := pool.create answer
        ⟨{ step.pool with growthBlocked := true },
          step.actions ++ [.note (.growthFailed step.pool.connections.size)]⟩
  else ⟨pool, [.note (.growthAtCapacity pool.connections.size)]⟩

/-- Answers a picker's request for growth. It always publishes, because the picker that asked
refuses requests until it is replaced. -/
def scaleUp (pool : Pool) (answer : Answer) : PoolStep :=
  (pool.grow answer).andThen publish

def bind (pool : Pool) (key : String) (id : ConnectionId) : PoolStep :=
  let binding := pool.affinity.bind pool.connections key id
  let bound := { pool with affinity := binding.table, connections := binding.connections }
  let outcome : List Action :=
    match binding.outcome with
    | .ok .inserted => [.note (.keyBound key id), bound.publishBindings]
    | .ok (.incremented holder) => [.note (.keyRebound key holder)]
    | .error error => [.note (.bindRefused key error)]
  ⟨bound, binding.notices.map .note ++ outcome⟩

def unbind (pool : Pool) (key : String) : PoolStep :=
  let unbinding := pool.affinity.unbind pool.connections key
  let unbound := { pool with affinity := unbinding.table, connections := unbinding.connections }
  let outcome : List Action :=
    if unbinding.released then [.note (.keyUnbound key), unbound.publishBindings] else []
  ⟨unbound, unbinding.notices.map .note ++ outcome⟩

/-! ## Changes of state -/

def evict (pool : Pool) (id : ConnectionId) : PoolStep :=
  let evicted :=
    { pool with connections := pool.connections.erase id, affinity := pool.affinity.purge id }
  let dropped : List Action :=
    if (pool.affinity.keysOf id).isEmpty then []
    else [.note (.keysDropped id), evicted.publishBindings]
  ⟨evicted, dropped ++ [.note (.connectionRemoved id evicted.connections.size)]⟩

/-- What entering a state entails for a connection that is already recorded in it. -/
def enter (pool : Pool) (id : ConnectionId) (handle : Handle) (state : ConnectivityState) :
    PoolStep :=
  match state.entryEffect with
  | .none => .quiet pool
  | .reconnect => ⟨pool, [.connect handle]⟩
  | .evict => pool.evict id

def recordTransition (pool : Pool) (before after : ConnectivityState) : Pool :=
  let tally := pool.tally.record before after
  { pool with tally := tally, state := tally.aggregate }

/-- Publishes a picker if a transition calls for one. `aggregateBefore` is the state that the
channel had before the transition. -/
def publishIfChanged (pool : Pool) (before after aggregateBefore : ConnectivityState) :
    PoolStep :=
  if shouldRepublish before after aggregateBefore pool.state then pool.publish
  else .quiet pool

/-- Applies a reported change of a connection's state. Reports about connections that are not
tracked change nothing. -/
def changeState (pool : Pool) (id : ConnectionId) (state : ConnectivityState) : PoolStep :=
  match pool.connections[id]? with
  | none => ⟨pool, [.note (.unknownConnectionChanged id state)]⟩
  | some connection =>
      let before := connection.state
      let changed :=
        { pool with connections := pool.connections.insert id { connection with state } }
      let step := (changed.enter id connection.handle state).andThen fun entered =>
        (entered.recordTransition before state).publishIfChanged before state pool.state
      step.after [.note (.connectionChanged id before state)]

def handle (pool : Pool) (event : Event) (answer : Answer) : PoolStep :=
  match event with
  | .resolved resolution => pool.resolve resolution answer
  | .stateChanged id state => pool.changeState id state
  | .bind key id => pool.bind key id
  | .unbind key => pool.unbind key
  | .scaleUp => pool.scaleUp answer

/-- What the owner of a pool can have it do: handle an event, create a connection or publish a
picker. -/
inductive Operation where
  | event (event : Event)
  | create
  | publish
  deriving DecidableEq

def operate (pool : Pool) (operation : Operation) (answer : Answer) : PoolStep :=
  match operation with
  | .event event => pool.handle event answer
  | .create => pool.create answer
  | .publish => pool.publish

/-- What closing a pool does to the outside. The handles are left to the channel, which is told
nothing. -/
def close (pool : Pool) : List Action :=
  [.note (.closing pool.connections.size pool.affinity.size), .publishBindings ∅,
    .storeSnapshot .closed]

end Pool

end StickyRouting
