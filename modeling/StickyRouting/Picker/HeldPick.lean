import StickyRouting.Notice
import StickyRouting.Picker.Pick

/-!
# Picks in the hands of callers

A caller holds a pick together with a callback that settles it. The callback leaves the held
pick when the caller reports how the request ended, or when the caller takes the pick apart to
report later. Whatever is left of a held pick goes out of scope in the end: with its callback
still in place it counts as a failed request, and without it nothing happens any more. So the
three ways out of a held pick settle it once.
-/

namespace StickyRouting

/-- What has changed for the pool and its pickers after a caller was done with something. -/
structure Settlement where
  board : Board
  events : List Event := []
  notices : List Notice := []

def Settlement.andThen (first : Settlement) (next : Board → Settlement) : Settlement :=
  let second := next first.board
  ⟨second.board, first.events ++ second.events, first.notices ++ second.notices⟩

/-- A call of the callback that was made for a pick. One that is missing does nothing. -/
def callBack (callback : Option Pick) (completion : Completion) (board : Board) : Settlement :=
  match callback with
  | some pick => { board := pick.release board, events := pick.events completion }
  | none => { board }

structure HeldPick where
  connection : ReadyConnection
  /-- The callback, until it is taken out. -/
  callback : Option Pick
  deriving DecidableEq

namespace HeldPick

def ofPick (pick : Pick) : HeldPick :=
  ⟨pick.connection, some pick⟩

def id (held : HeldPick) : ConnectionId :=
  held.connection.id

def emptied (held : HeldPick) : HeldPick :=
  { held with callback := none }

/-- Goes out of scope. A callback that is still there is called with a failure. -/
def drop (held : HeldPick) (board : Board) : Settlement :=
  let notices := if held.callback.isSome then [.pickDropped held.id] else []
  { callBack held.callback .abandoned board with notices }

def complete (held : HeldPick) (completion : Completion) (board : Board) : Settlement :=
  (callBack held.callback completion board).andThen held.emptied.drop

/-- Takes the held pick apart. The caller gets its connection and its callback. -/
def takeApart (held : HeldPick) (board : Board) :
    ReadyConnection × Option Pick × Settlement :=
  (held.connection, held.callback, held.emptied.drop board)

end HeldPick

end StickyRouting
