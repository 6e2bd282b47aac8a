import StickyRouting.Connectivity
import StickyRouting.ConnectionId

/-!
# Tracked connections

The channel grants connections as handles. Every granted handle is a handle of its own, even
when the channel gives two of them the same identifier. What the pool keeps about a handle is
its state, the number of bindings that rest on it, and the number of its meter: the counter of
open streams, which pickers share with the pool and which therefore lives outside of it.
-/

namespace StickyRouting

structure Handle where
  /-- Tells handles apart that carry the same identifier. -/
  serial : Nat
  id : ConnectionId
  deriving DecidableEq

structure Connection where
  handle : Handle
  meter : Nat
  state : ConnectivityState := .idle
  affinityCount : UInt32 := 0
  deriving DecidableEq

namespace Connection

def gainBinding (connection : Connection) : Connection :=
  { connection with affinityCount := connection.affinityCount + 1 }

/-- The connection with one binding less, if it has one. -/
def loseBinding (connection : Connection) : Connection :=
  if connection.affinityCount = 0 then connection
  else { connection with affinityCount := connection.affinityCount - 1 }

end Connection

/-- The connections of a pool by identifier. -/
abbrev WorkingSet := Std.ExtTreeMap ConnectionId Connection

namespace WorkingSet

def list (connections : WorkingSet) : List Connection :=
  connections.toList.map fun entry => entry.2

end WorkingSet

end StickyRouting
