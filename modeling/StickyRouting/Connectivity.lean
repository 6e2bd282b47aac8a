/-!
# Connectivity states

Each backend connection, and the channel as a whole, is in one of five states. A connection
starts `idle`; entering `idle` again asks for a reconnect, and entering `shutdown` ends the
connection for good. The last definition is the rule by which a change of one connection makes
a new picker necessary: its readiness flipped, or the channel entered or left
`transientFailure`.
-/

namespace StickyRouting

/-- The name under which the channel knows this way of balancing. -/
def policyName : String := "affinity_pool"

inductive ConnectivityState where
  | idle
  | connecting
  | ready
  | transientFailure
  | shutdown
  deriving DecidableEq, Repr, Inhabited

inductive EntryEffect where
  | none
  | reconnect
  | evict
  deriving DecidableEq, Repr

namespace ConnectivityState

/-- The upper-case name under which a state is reported. -/
def name : ConnectivityState → String
  | idle => "IDLE"
  | connecting => "CONNECTING"
  | ready => "READY"
  | transientFailure => "TRANSIENT_FAILURE"
  | shutdown => "SHUTDOWN"

/-- The mixed-case name used in descriptions of a whole balancer. -/
def label : ConnectivityState → String
  | idle => "Idle"
  | connecting => "Connecting"
  | ready => "Ready"
  | transientFailure => "TransientFailure"
  | shutdown => "Shutdown"

def isReady (state : ConnectivityState) : Bool :=
  state = ready

def isTransientFailure (state : ConnectivityState) : Bool :=
  state = transientFailure

def entryEffect : ConnectivityState → EntryEffect
  | idle => .reconnect
  | shutdown => .evict
  | connecting | ready | transientFailure => .none

end ConnectivityState

/-- Whether a change of one connection from `before` to `after`, which moved the channel from
`aggregateBefore` to `aggregateAfter`, calls for a new picker. -/
def shouldRepublish (before after aggregateBefore aggregateAfter : ConnectivityState) : Bool :=
  before.isReady != after.isReady ||
    aggregateBefore.isTransientFailure != aggregateAfter.isTransientFailure

end StickyRouting
