import StickyRouting.Board
import StickyRouting.Event

/-!
# What a pool does to the outside

A pool answers an event with a list of actions, in the order in which they take effect: calls
into the channel and on connection handles, writes to the board, and notices. Two kinds of
action call back into the channel, which may fail in the middle of such a call; what stands
before the call has then taken effect and nothing else has.
-/

namespace StickyRouting

/-- How the channel answers when it is asked for a connection. -/
inductive Answer where
  | granted (handle : Handle)
  | refused (error : Error)
  deriving DecidableEq

def Answer.handle? : Answer → Option Handle
  | granted handle => some handle
  | refused _ => none

inductive Action where
  | requestConnection (addresses : List Address) (healthCheck : Bool) (answer : Answer)
  | connect (handle : Handle)
  | updateAddresses (handle : Handle) (addresses : List Address)
  | publishBindings (bindings : AffinityTable)
  | storeSnapshot (snapshot : Snapshot)
  | reportState (snapshot : Snapshot)
  | note (notice : Notice)

namespace Action

def isCallback : Action → Bool
  | requestConnection _ _ _ | reportState _ => true
  | connect _ | updateAddresses _ _ | publishBindings _ | storeSnapshot _ | note _ => false

/-- The actions that take effect when the first call into the channel fails. -/
def beforeCallback (actions : List Action) : List Action :=
  actions.takeWhile fun action => !action.isCallback

def snapshotReported? : Action → Option Snapshot
  | reportState snapshot => some snapshot
  | _ => none

def notice? : Action → Option Notice
  | note notice => some notice
  | _ => none

end Action

namespace Board

/-- The board after one action. Only two kinds of action write to it. -/
def apply (board : Board) : Action → Board
  | .publishBindings bindings => { board with bindings := bindings }
  | .storeSnapshot snapshot => { board with snapshot := snapshot }
  | .requestConnection _ _ _ | .connect _ | .updateAddresses _ _ | .reportState _
  | .note _ => board

def applyAll (board : Board) (actions : List Action) : Board :=
  actions.foldl apply board

end Board

end StickyRouting
