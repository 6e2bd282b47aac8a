import StickyRouting.Pool.Action

/-!
# A scripted channel

A channel whose behaviour is laid down beforehand: which identifiers the connections get that
it grants, how many requests it refuses, and whether its next call fails. It keeps a record of
everything that is asked of a handle.
-/

namespace StickyRouting.Scenario

/-- A granted handle and the calls on it. -/
structure HandleRecord where
  handle : Handle
  connects : Nat := 0
  updates : Nat := 0
  lastUpdate : Option (List Address) := none
  deriving DecidableEq

structure Channel where
  /-- The identifiers of the first connections. Those behind them are numbered. -/
  plan : List ConnectionId := []
  /-- How many of the next requests are refused. -/
  refusals : Nat := 0
  crashes : Bool := false
  granted : List HandleRecord := []

namespace Channel

def nextHandle (channel : Channel) : Handle :=
  let serial := channel.granted.length
  let numbered := (ConnectionId.ofValue? (serial + 1).toUInt64).getD .first
  ⟨serial, (channel.plan[serial]?).getD numbered⟩

def answer (channel : Channel) : Answer :=
  if 0 < channel.refusals then .refused (.connectionCreation "injected failure")
  else .granted channel.nextHandle

def updateRecord (channel : Channel) (handle : Handle) (update : HandleRecord → HandleRecord) :
    Channel :=
  { channel with
    granted := channel.granted.map fun record =>
      if record.handle = handle then update record else record }

def observe (channel : Channel) : Action → Channel
  | .requestConnection _ _ (.granted handle) =>
      { channel with granted := channel.granted ++ [{ handle }] }
  | .requestConnection _ _ (.refused _) => { channel with refusals := channel.refusals - 1 }
  | .connect handle =>
      channel.updateRecord handle fun record => { record with connects := record.connects + 1 }
  | .updateAddresses handle addresses =>
      channel.updateRecord handle fun record =>
        { record with updates := record.updates + 1, lastUpdate := some addresses }
  | .publishBindings _ | .storeSnapshot _ | .reportState _ | .note _ => channel

def observeAll (channel : Channel) (actions : List Action) : Channel :=
  actions.foldl observe channel

end Channel

end StickyRouting.Scenario
