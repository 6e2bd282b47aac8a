/-!
# Backend addresses

An address names a backend and may carry a server name of its own. Two addresses are equal when
both parts are, so that an address without a server name differs from one with an empty name,
and two addresses that are shown alike may still differ.
-/

namespace StickyRouting

structure Address where
  host : String
  serverName : Option String := none
  deriving DecidableEq, Repr

def Address.display (address : Address) : String :=
  match address.serverName with
  | none => address.host
  | some name => address.host ++ " (" ++ name ++ ")"

end StickyRouting
