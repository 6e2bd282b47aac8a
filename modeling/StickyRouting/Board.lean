import StickyRouting.Affinity

/-!
# The board between the pool and its pickers

The pool and the threads that pick share a few cells. The pool writes the snapshot and the
bindings as a whole; picks count streams on the meters of connections, and mark a router that
has asked for growth. A picker built long ago still reads the bindings of the present.
-/

namespace StickyRouting

structure Board where
  snapshot : Snapshot := .initial
  bindings : AffinityTable := ∅
  streams : Std.ExtTreeMap Nat UInt32 := ∅
  /-- The serials of the routers that have asked for growth. -/
  growthAsked : List Nat := []

namespace Board

/-- The open streams on a meter. A meter that nobody used stands at zero. -/
def streamCount (board : Board) (meter : Nat) : UInt32 :=
  (board.streams[meter]?).getD 0

def openStream (board : Board) (meter : Nat) : Board :=
  { board with streams := board.streams.insert meter (board.streamCount meter + 1) }

/-- Takes one stream off a meter, unless it stands at zero. -/
def closeStream (board : Board) (meter : Nat) : Board :=
  if board.streamCount meter = 0 then board
  else { board with streams := board.streams.insert meter (board.streamCount meter - 1) }

def askGrowth (board : Board) (serial : Nat) : Board :=
  { board with growthAsked := serial :: board.growthAsked }

end Board

end StickyRouting
