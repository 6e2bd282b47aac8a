import StickyRouting.Proofs.VisibleActions

/-!
# The settings of a pool

Besides its connections, their keys and their states, a pool keeps what it goes by when it makes
connections and pickers: the configuration, the addresses, the block on growth and the serial of
the next router.  What an operation makes of these four is said here at once.
-/

namespace StickyRouting

namespace Pool

structure Settings where
  config : Config
  addresses : List Address
  growthBlocked : Bool
  nextRouter : Nat

/-- The addresses that an operation brings from the resolver, if it brings any. -/
def Operation.resolved? : Operation → Option (List Address)
  | .event (.resolved (.addresses addresses)) => some addresses
  | .create | .publish | .event (.resolved (.failed _)) | .event (.stateChanged _ _)
  | .event (.bind _ _) | .event (.unbind _) | .event .scaleUp => none

variable (pool : Pool)

def settings : Settings :=
  { config := pool.config
    addresses := pool.addresses
    growthBlocked := pool.growthBlocked
    nextRouter := pool.nextRouter }

def republishes : Operation → Bool
  | .publish | .event .scaleUp => true
  | .event (.stateChanged id state) =>
      (pool.connections[id]?).any fun connection =>
        shouldRepublish connection.state state pool.state
          (pool.tally.record connection.state state).aggregate
  | .create | .event (.resolved _) | .event (.bind _ _) | .event (.unbind _) => false

/-- Whether the limit allows a pool to grow and the channel refuses. -/
def failsToGrow (answer : Answer) : Bool :=
  pool.config.allowsMore pool.connections.size && answer.handle?.isNone

theorem settings_create (answer : Answer) :
    (pool.create answer).pool.settings = pool.settings := by
  cases answer <;> rfl

theorem settings_resolve (resolution : Resolution) (answer : Answer) :
    (pool.resolve resolution answer).pool.settings =
      match resolution with
      | .failed _ => pool.settings
      | .addresses addresses => { pool.settings with addresses, growthBlocked := false } := by
  cases resolution with
  | failed error => rfl
  | addresses addresses =>
      simp only [resolve, PoolStep.after_pool]
      split
      · exact settings_create _ answer
      · rfl

theorem settings_grow (answer : Answer) :
    (pool.grow answer).pool.settings =
      { pool.settings with
        growthBlocked := pool.failsToGrow answer || pool.growthBlocked } := by
  rw [failsToGrow]
  unfold grow
  split
  · next hallowed =>
      rw [hallowed]
      cases answer <;> rfl
  · next hfull =>
      rw [Bool.not_eq_true] at hfull
      rw [hfull]
      rfl

theorem settings_publish :
    pool.publish.pool.settings =
      { pool.settings with nextRouter := pool.settings.nextRouter + 1 } := rfl

theorem settings_scaleUp (answer : Answer) :
    (pool.scaleUp answer).pool.settings =
      { pool.settings with
        growthBlocked := pool.failsToGrow answer || pool.growthBlocked
        nextRouter := pool.nextRouter + 1 } := by
  rw [scaleUp, PoolStep.andThen_pool, settings_publish, settings_grow]
  rfl

theorem settings_enter (id : ConnectionId) (handle : Handle) (state : ConnectivityState) :
    (pool.enter id handle state).pool.settings = pool.settings := by
  cases state <;> rfl

theorem settings_changeState (id : ConnectionId) (state : ConnectivityState) :
    (pool.changeState id state).pool.settings =
      { pool.settings with
        nextRouter :=
          if pool.republishes (.event (.stateChanged id state)) then pool.nextRouter + 1
          else pool.nextRouter } := by
  cases hid : pool.connections[id]? with
  | none =>
      simp only [changeState, republishes, hid]
      rfl
  | some connection =>
      let entered := ({ pool with
        connections := pool.connections.insert id { connection with state } }.enter id
          connection.handle state).pool
      let recorded := entered.recordTransition connection.state state
      have hrecorded : recorded.settings = pool.settings := settings_enter _ id _ state
      have hstate : recorded.state = (pool.tally.record connection.state state).aggregate := by
        cases state <;> rfl
      simp only [changeState, republishes, hid, PoolStep.after_pool, PoolStep.andThen_pool,
        publishIfChanged, Option.any_some]
      rw [hstate]
      split
      · rw [settings_publish, hrecorded]
        rfl
      · exact hrecorded

/-- The configuration stays, addresses come from the resolver, growth is blocked by an attempt that
fails until the resolver has news, and each publication takes a serial. -/
theorem settings_operate (operation : Operation) (answer : Answer) :
    (pool.operate operation answer).pool.settings =
      { config := pool.config
        addresses := operation.resolved?.getD pool.addresses
        growthBlocked :=
          operation = .event .scaleUp && pool.failsToGrow answer ||
            pool.growthBlocked && operation.resolved?.isNone
        nextRouter :=
          if pool.republishes operation then pool.nextRouter + 1 else pool.nextRouter } := by
  cases operation with
  | create =>
      rw [operate, settings_create]
      simp [settings, Operation.resolved?, republishes]
  | publish => simp [operate, publish, settings, Operation.resolved?, republishes]
  | event event =>
      cases event with
      | resolved resolution =>
          rw [operate, handle, settings_resolve]
          cases resolution <;> simp [settings, Operation.resolved?, republishes]
      | stateChanged id state =>
          rw [operate, handle, settings_changeState]
          simp [settings, Operation.resolved?]
      | bind key id => simp [operate, handle, bind, settings, Operation.resolved?, republishes]
      | unbind key => simp [operate, handle, unbind, settings, Operation.resolved?, republishes]
      | scaleUp =>
          rw [operate, handle, settings_scaleUp]
          simp [settings, Operation.resolved?, republishes]

theorem config_operate (operation : Operation) (answer : Answer) :
    (pool.operate operation answer).pool.config = pool.config :=
  congrArg Settings.config (pool.settings_operate operation answer)

theorem addresses_operate (operation : Operation) (answer : Answer) :
    (pool.operate operation answer).pool.addresses = operation.resolved?.getD pool.addresses :=
  congrArg Settings.addresses (pool.settings_operate operation answer)

theorem growthBlocked_operate (operation : Operation) (answer : Answer) :
    (pool.operate operation answer).pool.growthBlocked =
      (operation = .event .scaleUp && pool.failsToGrow answer ||
        pool.growthBlocked && operation.resolved?.isNone) :=
  congrArg Settings.growthBlocked (pool.settings_operate operation answer)

theorem nextRouter_operate (operation : Operation) (answer : Answer) :
    (pool.operate operation answer).pool.nextRouter =
      if pool.republishes operation then pool.nextRouter + 1 else pool.nextRouter :=
  congrArg Settings.nextRouter (pool.settings_operate operation answer)

end Pool

end StickyRouting
