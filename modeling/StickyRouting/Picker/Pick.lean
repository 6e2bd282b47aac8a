import StickyRouting.Picker.Request
import StickyRouting.Board
import StickyRouting.Event

/-!
# Picking a connection

A router follows the key of a request if the key is bound at present: to its connection, or to a
failure while that connection is not among the router's ready ones. Every other request goes to
a ready connection with the fewest open streams. If even that one carries as many streams as
configured and the pool may grow, the request fails and the pool is asked for another
connection, once per router.

A pick holds one stream open until it is settled, by a completion or by being given up. Settling
a successful pick may tell the pool to bind or to release a key.
-/

namespace StickyRouting

/-- A connection chosen for a request, with what is needed to settle it. -/
structure Pick where
  connection : ReadyConnection
  command : AffinityCommand
  key : Option String
  deriving DecidableEq

structure PickOutcome where
  result : Except Error Pick
  board : Board
  events : List Event
  notices : List Notice

namespace PickOutcome

def refused (board : Board) (error : Error) (notices : List Notice) : PickOutcome :=
  ⟨.error error, board, [], notices⟩

def accepted (board : Board) (request : PickRequest) (connection : ReadyConnection) :
    PickOutcome :=
  { result := .ok ⟨connection, request.command, request.key⟩
    board := board.openStream connection.meter
    events := []
    notices := [.picked connection.id] }

end PickOutcome

namespace Router

def load (board : Board) (connection : ReadyConnection) : UInt32 :=
  board.streamCount connection.meter

/-- The ready connections that no other one undercuts, in the order of the router. -/
def leastBusy (router : Router) (board : Board) : List ReadyConnection :=
  router.ready.filter fun connection =>
    router.ready.all fun other => load board connection ≤ load board other

/-- The key of a request and the connection that it is bound to at present. -/
def boundKey? (board : Board) (request : PickRequest) : Option (String × ConnectionId) :=
  request.routingKey?.bind fun key => (board.bindings[key]?).map fun id => (key, id)

def pickBound (router : Router) (board : Board) (request : PickRequest) (key : String)
    (id : ConnectionId) : PickOutcome :=
  match router.ready.find? fun connection => connection.id = id with
  | some connection => .accepted board request connection
  | none => .refused board .noSubchannelAvailable [.boundConnectionNotReady key id]

/-- Refuses a request because every connection is busy, and asks for another connection if this
router has not asked before. -/
def pickSaturated (router : Router) (board : Board) : PickOutcome :=
  if router.serial ∈ board.growthAsked then .refused board .noSubchannelAvailable []
  else
    { result := .error .noSubchannelAvailable
      board := board.askGrowth router.serial
      events := [.scaleUp]
      notices := [.saturated router.maxStreams] }

/-- Picks without a key. `choose` decides among equally busy connections. -/
def pickLeastBusy (choose : List ReadyConnection → Option ReadyConnection) (router : Router)
    (board : Board) (request : PickRequest) : PickOutcome :=
  match choose (router.leastBusy board) with
  | none => .refused board .noSubchannelAvailable []
  | some connection =>
      if load board connection < router.maxStreams || !router.canGrow then
        .accepted board request connection
      else router.pickSaturated board

def pickBy (choose : List ReadyConnection → Option ReadyConnection) (router : Router)
    (board : Board) (request : PickRequest) : PickOutcome :=
  if router.ready.isEmpty then .refused board .noSubchannelAvailable []
  else
    match boundKey? board request with
    | some (key, id) => router.pickBound board request key id
    | none => router.pickLeastBusy choose board request

end Router

namespace Picker

def pickBy (choose : List ReadyConnection → Option ReadyConnection) (picker : Picker)
    (board : Board) (request : PickRequest) : PickOutcome :=
  match picker with
  | .failing failure => .refused board failure.error []
  | .routing router => router.pickBy choose board request

/-- Picks a connection; of equally busy ones, the one with the lowest identifier. -/
def pick (picker : Picker) (board : Board) (request : PickRequest) : PickOutcome :=
  picker.pickBy List.head? board request

end Picker

namespace Pick

def id (pick : Pick) : ConnectionId :=
  pick.connection.id

def describe (pick : Pick) : String :=
  "PickResult \x7b connection_id: " ++ pick.id.describe ++ ", .. \x7d"

/-- What a settled pick tells the pool. A request that binds prefers the key that its response
made known; a request that releases goes by its own key. -/
def events (pick : Pick) (completion : Completion) : List Event :=
  if completion.isFailure then []
  else
    match pick.command with
    | .bind => ((completion.key <|> pick.key).map fun key => .bind key pick.id).toList
    | .unbind => (pick.key.map .unbind).toList
    | .none | .bound => []

def release (pick : Pick) (board : Board) : Board :=
  board.closeStream pick.connection.meter

end Pick

end StickyRouting
