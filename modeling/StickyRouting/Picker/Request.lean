import StickyRouting.Picker

/-!
# Requests and how they end

A request may carry a key and says what it does with it: nothing, bind it to the connection
that is chosen, follow it, or follow it and release it. Only the last two are routed by the key.
A request that has ended reports whether it failed, and may name the key that its response made
known.
-/

namespace StickyRouting

inductive AffinityCommand where
  | none
  | bind
  | bound
  | unbind
  deriving DecidableEq, Repr, Inhabited

structure PickRequest where
  key : Option String := none
  command : AffinityCommand := .none
  deriving DecidableEq

/-- The key by which a request is routed, if it is routed by one. -/
def PickRequest.routingKey? (request : PickRequest) : Option String :=
  match request.command with
  | .bound | .unbind => request.key
  | .none | .bind => none

structure Completion where
  error : Option String := none
  key : Option String := none
  deriving DecidableEq

namespace Completion

def isFailure (completion : Completion) : Bool :=
  completion.error.isSome

/-- How a request counts that was given up without a report. -/
def abandoned : Completion := { error := some "dropped without completion" }

end Completion

end StickyRouting
