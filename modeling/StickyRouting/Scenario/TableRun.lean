import StickyRouting.Affinity

/-!
# Scenarios with a table alone

An affinity table next to a working set that stays empty, so that no key can be bound.
-/

namespace StickyRouting.Scenario

inductive TableCommand where
  | bind (key : String) (id : ConnectionId)
  | unbind (key : String)
  | get (key : String)
  | purge (id : ConnectionId)
  | clear
  deriving DecidableEq

inductive TableResult where
  | bound
  | refused (error : Error)
  | released (released : Bool)
  | holder (id : Option ConnectionId)
  | purged (keys : List String)
  | cleared
  deriving DecidableEq

namespace TableCommand

/-- Carries out a command on a table next to an empty working set. -/
def carryOut (command : TableCommand) (table : AffinityTable) : AffinityTable × TableResult :=
  match command with
  | .bind key id =>
      let binding := table.bind ∅ key id
      match binding.outcome with
      | .ok _ => (binding.table, .bound)
      | .error error => (binding.table, .refused error)
  | .unbind key =>
      let unbinding := table.unbind ∅ key
      (unbinding.table, .released unbinding.released)
  | .get key => (table, .holder table[key]?)
  | .purge id => (table.purge id, .purged (table.keysOf id))
  | .clear => (∅, .cleared)

/-- Carries out commands, and gives each result with the size of the table after it. -/
def results (table : AffinityTable) : List TableCommand → List (TableResult × Nat)
  | [] => []
  | command :: commands =>
      let (next, result) := command.carryOut table
      (result, next.size) :: results next commands

end TableCommand

end StickyRouting.Scenario
