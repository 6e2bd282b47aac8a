import StickyRouting.Address
import StickyRouting.Error
import StickyRouting.Connectivity

/-!
# Events

What a pool can be told: news from the resolver, a change of a connection's state, a key to
bind or to release, and the wish of a picker for one more connection.
-/

namespace StickyRouting

/-- What the resolver has found out. -/
inductive Resolution where
  | addresses (addresses : List Address)
  | failed (error : Error)
  deriving DecidableEq

inductive Event where
  | resolved (resolution : Resolution)
  | stateChanged (id : ConnectionId) (state : ConnectivityState)
  | bind (key : String) (id : ConnectionId)
  | unbind (key : String)
  | scaleUp
  deriving DecidableEq

end StickyRouting
