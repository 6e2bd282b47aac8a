import StickyRouting.ConnectionId
import StickyRouting.Json.Fault

/-!
# Failures

The causes for which an operation of the balancer fails, and the text that reports each. A pick
can fail for three of them; a caller may hope that four of them pass.
-/

namespace StickyRouting

inductive Error where
  | config (message : String)
  | resolution (message : String)
  | connectionCreation (message : String)
  | unknownConnection (id : ConnectionId)
  | noSubchannelAvailable
  | transientFailure
  | balancerClosed
  | json (fault : Json.Fault)
  deriving DecidableEq

namespace Error

/-- What is said of a JSON text that cannot be read. The wording for a text that is no JSON is
the same for all such texts. -/
def faultMessage : Json.Fault → String
  | .malformed => "malformed text"
  | .truncated => "unexpected end of text"
  | .mismatch cause => cause.message

def message : Error → String
  | config text => "Configuration error: " ++ text
  | resolution text => "Resolution failed: " ++ text
  | connectionCreation text => "Connection creation failed: " ++ text
  | unknownConnection id => "Unknown connection: " ++ id.display
  | noSubchannelAvailable => "No subchannel available"
  | transientFailure => "Transient failure: no backend available"
  | balancerClosed => "Balancer closed"
  | json fault => "JSON error: " ++ faultMessage fault

def isPickError : Error → Bool
  | noSubchannelAvailable | transientFailure | balancerClosed => true
  | config _ | resolution _ | connectionCreation _ | unknownConnection _ | json _ => false

/-- Whether the cause may pass without the caller changing anything. -/
def isRecoverable : Error → Bool
  | noSubchannelAvailable | transientFailure | resolution _ | connectionCreation _ => true
  | config _ | unknownConnection _ | balancerClosed | json _ => false

end Error

end StickyRouting
