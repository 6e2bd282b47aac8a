import StickyRouting.Notice

/-!
# Affinity of keys to connections

A table sends each bound key to the identifier of its connection. A key stays where it was
bound first: binding it again, to whichever connection, adds one binding to the connection that
holds it. The number of bindings belongs to the connection and not to the key, so one key's
bindings can keep another key bound, and when the number reaches zero every key of the
connection is released at once.
-/

namespace StickyRouting

/-- Bound keys and the identifiers of their connections, in ascending order of the keys. -/
abbrev AffinityTable := Std.ExtTreeMap String ConnectionId

inductive BindOutcome where
  | inserted
  | incremented (bound : ConnectionId)
  deriving DecidableEq

structure Binding where
  table : AffinityTable
  connections : WorkingSet
  outcome : Except Error BindOutcome
  notices : List Notice

/-- What unbinding a key leaves behind, and whether it released keys. -/
structure Unbinding where
  table : AffinityTable
  connections : WorkingSet
  released : Bool
  notices : List Notice

namespace AffinityTable

def keysOf (table : AffinityTable) (id : ConnectionId) : List String :=
  (table.toList.filter fun entry => entry.2 = id).map fun entry => entry.1

def purge (table : AffinityTable) (id : ConnectionId) : AffinityTable :=
  table.filter fun _ bound => bound ≠ id

/-- Binds a key that is not bound. It fails if the connection is not tracked. -/
def bindNew (table : AffinityTable) (connections : WorkingSet) (key : String)
    (requested : ConnectionId) : Binding :=
  match connections[requested]? with
  | none => ⟨table, connections, .error (.unknownConnection requested), []⟩
  | some connection =>
      { table := table.insert key requested
        connections := connections.insert requested connection.gainBinding
        outcome := .ok .inserted
        notices := [] }

/-- Binds a key. A key bound to a connection that is no longer tracked counts as unbound. -/
def bind (table : AffinityTable) (connections : WorkingSet) (key : String)
    (requested : ConnectionId) : Binding :=
  match table[key]? with
  | none => table.bindNew connections key requested
  | some bound =>
      match connections[bound]? with
      | some connection =>
          { table
            connections := connections.insert bound connection.gainBinding
            outcome := .ok (.incremented bound)
            notices := if bound = requested then [] else [.keyAlreadyBound key bound requested] }
      | none =>
          let rest := bindNew (table.erase key) connections key requested
          { rest with notices := .staleBindingDropped key bound :: rest.notices }

/-- Gives up one binding of a key's connection, and with the last one all keys of that
connection. -/
def unbind (table : AffinityTable) (connections : WorkingSet) (key : String) : Unbinding :=
  match table[key]? with
  | none => ⟨table, connections, false, [.keyNotBound key]⟩
  | some bound =>
      let remaining := connections.modify bound Connection.loseBinding
      let count := (remaining[bound]?).elim 0 Connection.affinityCount
      if 0 < count then ⟨table, remaining, false, []⟩
      else
        { table := table.purge bound
          connections := remaining
          released := true
          notices := if 1 < (table.keysOf bound).length then [.keysReleased bound] else [] }

end AffinityTable

end StickyRouting
