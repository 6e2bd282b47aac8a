import StickyRouting.Picker.HeldPick
import StickyRouting.Pool

/-!
# Named picks and pickers

The caller's side of a scenario: picks that it holds under names until it settles them, and
pickers that it has put aside to use them later. Settling a pick takes it out of the holdings,
so that no pick is settled twice.
-/

namespace StickyRouting.Scenario

/-- What a command refers to and does not find. -/
inductive Missing where
  | pick
  | picker
  | pool
  | balancer
  deriving DecidableEq, Repr

inductive Result where
  | nothing
  | failed (error : Error)
  | missing (missing : Missing)
  | picked (pick : Pick)
  | connection (id : ConnectionId)
  | created (id : Option ConnectionId)
  | applied (count : Nat)
  | described (text : String)
  | counted (stats : Stats)
  | released (released : Bool)
  deriving DecidableEq

/-- The commands that a pool and a balancer have in common. -/
inductive CallerCommand where
  | pick (name : String) (request : PickRequest) (picker : Option String)
  | complete (name : String) (completion : Completion) (inParts : Bool)
  | drop (name : String)
  | savePicker (name : String)
  | describePicker
  deriving DecidableEq

structure Holdings where
  picks : Std.ExtTreeMap String HeldPick := ∅
  pickers : Std.ExtTreeMap String Picker := ∅

structure CallerStep where
  holdings : Holdings
  board : Board
  result : Result
  events : List Event := []
  notices : List Notice := []

namespace Holdings

def settled (holdings : Holdings) (settlement : Settlement) (result : Result) : CallerStep :=
  { holdings
    board := settlement.board
    result
    events := settlement.events
    notices := settlement.notices }

/-- Holds a new pick. One that was held under the name is given up afterwards. -/
def hold (holdings : Holdings) (board : Board) (name : String) (pick : Pick) : CallerStep :=
  let held := { holdings with picks := holdings.picks.insert name (.ofPick pick) }
  match holdings.picks[name]? with
  | none => { holdings := held, board, result := .picked pick }
  | some replaced => held.settled (replaced.drop board) (.picked pick)

def pick (holdings : Holdings) (board : Board) (name : String) (request : PickRequest)
    (picker : Option Picker) : CallerStep :=
  match picker with
  | none => { holdings, board, result := .missing .picker }
  | some picker =>
      let outcome := picker.pick board request
      match outcome.result with
      | .error error =>
          { holdings, board := outcome.board, result := .failed error
            events := outcome.events, notices := outcome.notices }
      | .ok pick =>
          let step := holdings.hold outcome.board name pick
          { step with
            events := outcome.events ++ step.events
            notices := outcome.notices ++ step.notices }

/-- Completes a held pick. Taken in parts it yields its connection as well. -/
def complete (holdings : Holdings) (board : Board) (name : String) (completion : Completion)
    (inParts : Bool) : CallerStep :=
  match holdings.picks[name]? with
  | none => { holdings, board, result := .missing .pick }
  | some held =>
      let rest := { holdings with picks := holdings.picks.erase name }
      if inParts then
        let (connection, callback, settlement) := held.takeApart board
        rest.settled (settlement.andThen (callBack callback completion))
          (.connection connection.id)
      else rest.settled (held.complete completion board) .nothing

def drop (holdings : Holdings) (board : Board) (name : String) : CallerStep :=
  match holdings.picks[name]? with
  | none => { holdings, board, result := .missing .pick }
  | some held =>
      { holdings with picks := holdings.picks.erase name }.settled (held.drop board) .nothing

/-- Puts the current picker aside. -/
def savePicker (holdings : Holdings) (board : Board) (name : String) (current : Option Picker) :
    CallerStep :=
  match current with
  | none => { holdings, board, result := .missing .picker }
  | some picker =>
      { holdings := { holdings with pickers := holdings.pickers.insert name picker }
        board, result := .nothing }

def describePicker (holdings : Holdings) (board : Board) (current : Option Picker) :
    CallerStep :=
  match current with
  | none => { holdings, board, result := .missing .picker }
  | some picker => { holdings, board, result := .described picker.describe }

def carryOut (holdings : Holdings) (board : Board) (current : Option Picker) :
    CallerCommand → CallerStep
  | .pick name request none => holdings.pick board name request current
  | .pick name request (some saved) =>
      holdings.pick board name request holdings.pickers[saved]?
  | .complete name completion inParts => holdings.complete board name completion inParts
  | .drop name => holdings.drop board name
  | .savePicker name => holdings.savePicker board name current
  | .describePicker => holdings.describePicker board current

end Holdings

end StickyRouting.Scenario
