import StickyRouting.Error

/-!
# Configuration

Three settings govern a pool: whether new connections are health checked, how many connections
there may be (zero for no limit), and how many streams a connection carries before the pool is
asked for another one. Only the last has an invalid value, zero.
-/

namespace StickyRouting

structure Config where
  healthCheck : Bool := true
  maxConnections : UInt64 := 10
  maxStreams : UInt32 := 100
  deriving DecidableEq, Repr

namespace Config

/-- Whether a pool of the given size may take one more connection. -/
def allowsMore (config : Config) (size : Nat) : Bool :=
  config.maxConnections = 0 || size < config.maxConnections.toNat

def validate (config : Config) : Except Error Unit :=
  if config.maxStreams = 0 then .error (.config "maxStreams must be greater than 0") else .ok ()

/-- A change of one setting. -/
inductive Setting where
  | healthCheck (enabled : Bool)
  | maxConnections (limit : UInt64)
  | maxStreams (limit : UInt32)
  deriving DecidableEq, Repr

def set (config : Config) : Setting → Config
  | .healthCheck enabled => { config with healthCheck := enabled }
  | .maxConnections limit => { config with maxConnections := limit }
  | .maxStreams limit => { config with maxStreams := limit }

def setAll (config : Config) (settings : List Setting) : Config :=
  settings.foldl set config

end Config

end StickyRouting
