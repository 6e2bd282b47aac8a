import StickyRouting.Connectivity

/-!
# Counting connections by state

A tally counts how many connections are ready, connecting and failing, and evaluates the state
of the whole channel from these numbers: ready as soon as one connection is ready, otherwise
connecting as soon as one is connecting, otherwise failing. It is updated from reported
transitions alone. A report that leaves a state nobody is counted in changes nothing, so the
numbers never go below zero.
-/

namespace StickyRouting

structure Tally where
  ready : Nat := 0
  connecting : Nat := 0
  transientFailure : Nat := 0
  deriving DecidableEq, Repr

namespace Tally

/-- How many connections are counted in a state. Idle and shut down ones are not counted. -/
def count (tally : Tally) : ConnectivityState → Nat
  | .ready => tally.ready
  | .connecting => tally.connecting
  | .transientFailure => tally.transientFailure
  | .idle | .shutdown => 0

def leave (tally : Tally) : ConnectivityState → Tally
  | .ready => { tally with ready := tally.ready - 1 }
  | .connecting => { tally with connecting := tally.connecting - 1 }
  | .transientFailure => { tally with transientFailure := tally.transientFailure - 1 }
  | .idle | .shutdown => tally

def enter (tally : Tally) : ConnectivityState → Tally
  | .ready => { tally with ready := tally.ready + 1 }
  | .connecting => { tally with connecting := tally.connecting + 1 }
  | .transientFailure => { tally with transientFailure := tally.transientFailure + 1 }
  | .idle | .shutdown => tally

def record (tally : Tally) (before after : ConnectivityState) : Tally :=
  (tally.leave before).enter after

def aggregate (tally : Tally) : ConnectivityState :=
  if 0 < tally.ready then .ready
  else if 0 < tally.connecting then .connecting
  else .transientFailure

/-- The tallies after each of a list of transitions. -/
def recordAll (tally : Tally) : List (ConnectivityState × ConnectivityState) → List Tally
  | [] => []
  | (before, after) :: transitions =>
      tally.record before after :: (tally.record before after).recordAll transitions

end Tally

end StickyRouting
