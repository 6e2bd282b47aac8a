import StickyRouting.Proofs.Snapshots
import StickyRouting.Proofs.Table

/-!
# What an operation can do to the books of a pool

The books are the part of a pool that records its connections, their states and the keys
bound to them.  Eight things can happen to the books in one operation, and `Effect` lists
them with the conditions under which each happens.  All that holds throughout a run follows
from this list, case by case, and from nothing else that the operations do.
-/

namespace StickyRouting

structure Books where
  connections : WorkingSet
  affinity : AffinityTable
  tally : Tally
  state : ConnectivityState
  nextMeter : Nat

def Pool.books (pool : Pool) : Books :=
  ⟨pool.connections, pool.affinity, pool.tally, pool.state, pool.nextMeter⟩

/-- Whether an operation may ask the channel for a connection. -/
def Pool.Operation.Creates : Pool.Operation → Prop
  | .create | .event (.resolved _) | .event .scaleUp => True
  | .publish | .event (.stateChanged _ _) | .event (.bind _ _) | .event (.unbind _) => False

namespace Books

/-- Whether every bound key is bound to a tracked connection. -/
def Anchored (books : Books) : Prop :=
  ∀ (key : String) (id : ConnectionId), books.affinity[key]? = some id → id ∈ books.connections

/-- Whether nothing of what an operation names is known, so that it finds nothing to do. -/
def Quiet (books : Books) : Pool.Operation → Prop
  | .event (.bind key id) => books.affinity[key]? = none ∧ id ∉ books.connections
  | .event (.unbind key) => books.affinity[key]? = none
  | .event (.stateChanged id _) => id ∉ books.connections
  | .create | .publish | .event (.resolved _) | .event .scaleUp => True

/-- The books with a new idle connection. -/
def track (books : Books) (handle : Handle) : Books :=
  { books with
    connections := books.connections.insert handle.id { handle, meter := books.nextMeter }
    nextMeter := books.nextMeter + 1 }

/-- The books with a transition recorded in the tally. -/
def record (books : Books) (before after : ConnectivityState) : Books :=
  { books with
    tally := books.tally.record before after
    state := (books.tally.record before after).aggregate }

end Books

/-- What an operation that is granted some handles can make of the books. -/
inductive Effect (books : Books) : Pool.Operation → List Handle → Books → Prop
  | quiet {operation : Pool.Operation} (hquiet : books.Quiet operation) :
      Effect books operation [] books
  | tracked {operation : Pool.Operation} (hcreates : operation.Creates) (handle : Handle) :
      Effect books operation [handle] (books.track handle)
  | inserted {key : String} {id : ConnectionId} {connection : Connection}
      (hkey : books.affinity[key]? = none) (hid : books.connections[id]? = some connection) :
      Effect books (.event (.bind key id)) []
        { books with
          connections := books.connections.insert id connection.gainBinding
          affinity := books.affinity.insert key id }
  | incremented {key : String} {id : ConnectionId} {connection : Connection}
      (requested : ConnectionId) (hkey : books.affinity[key]? = some id)
      (hid : books.connections[id]? = some connection) :
      Effect books (.event (.bind key requested)) []
        { books with connections := books.connections.insert id connection.gainBinding }
  | decremented {key : String} {id : ConnectionId} {connection : Connection}
      (hkey : books.affinity[key]? = some id) (hid : books.connections[id]? = some connection)
      (hcount : connection.loseBinding.affinityCount ≠ 0) :
      Effect books (.event (.unbind key)) []
        { books with connections := books.connections.insert id connection.loseBinding }
  | released {key : String} {id : ConnectionId} {connection : Connection}
      (hkey : books.affinity[key]? = some id) (hid : books.connections[id]? = some connection)
      (hcount : connection.loseBinding.affinityCount = 0) :
      Effect books (.event (.unbind key)) []
        { books with
          connections := books.connections.insert id connection.loseBinding
          affinity := books.affinity.purge id }
  | moved {id : ConnectionId} {connection : Connection} {state : ConnectivityState}
      (hid : books.connections[id]? = some connection) (hstate : state ≠ .shutdown) :
      Effect books (.event (.stateChanged id state)) []
        ({ books with
          connections := books.connections.insert id { connection with state } }.record
            connection.state state)
  | evicted {id : ConnectionId} {connection : Connection}
      (hid : books.connections[id]? = some connection) :
      Effect books (.event (.stateChanged id .shutdown)) []
        ({ books with
          connections := books.connections.erase id
          affinity := books.affinity.purge id }.record connection.state .shutdown)

namespace Pool

variable (pool : Pool)

theorem create_effect (operation : Operation) (hcreates : operation.Creates)
    (hquiet : pool.books.Quiet operation) (answer : Answer) :
    Effect pool.books operation (pool.create answer).granted (pool.create answer).pool.books := by
  cases answer with
  | granted handle => exact .tracked hcreates handle
  | refused error => exact .quiet hquiet

theorem resolve_effect (resolution : Resolution) (answer : Answer) :
    Effect pool.books (.event (.resolved resolution)) (pool.resolve resolution answer).granted
      (pool.resolve resolution answer).pool.books := by
  cases resolution with
  | failed error => exact .quiet True.intro
  | addresses addresses =>
      have hcreate := create_effect { pool with addresses, growthBlocked := false }
        (.event (.resolved (.addresses addresses))) True.intro True.intro answer
      rw [PoolStep.granted_eq, visible_create] at hcreate
      rw [PoolStep.granted_eq, visible_resolve_addresses]
      simp only [resolve, PoolStep.after_pool]
      split
      · exact hcreate
      · exact .quiet True.intro

theorem scaleUp_effect (answer : Answer) :
    Effect pool.books (.event .scaleUp) (pool.scaleUp answer).granted
      (pool.scaleUp answer).pool.books := by
  have hgranted : (pool.scaleUp answer).granted = (pool.grow answer).granted := by
    rw [PoolStep.granted_eq, PoolStep.granted_eq, visible_scaleUp, List.filterMap_append]
    exact List.append_nil _
  have hbooks : (pool.scaleUp answer).pool.books = (pool.grow answer).pool.books := rfl
  rw [hgranted, hbooks]
  unfold grow
  split
  · cases answer with
    | granted handle => exact create_effect pool (.event .scaleUp) True.intro True.intro _
    | refused error => exact .quiet True.intro
  · exact .quiet True.intro

theorem granted_bind (key : String) (id : ConnectionId) : (pool.bind key id).granted = [] := by
  rw [PoolStep.granted_eq, visible_bind]
  split <;> rfl

theorem granted_unbind (key : String) : (pool.unbind key).granted = [] := by
  rw [PoolStep.granted_eq, visible_unbind]
  split <;> rfl

theorem bind_effect (hanchored : pool.books.Anchored) (key : String) (id : ConnectionId) :
    Effect pool.books (.event (.bind key id)) (pool.bind key id).granted
      (pool.bind key id).pool.books := by
  rw [granted_bind, bind, books]
  rcases AffinityTable.bind_cases pool.affinity pool.connections hanchored key id with
    ⟨hkey, hid, hbind⟩ | ⟨connection, hkey, hid, hbind⟩ | ⟨bound, connection, _, hkey, hid, hbind⟩
  · rw [hbind]
    exact .quiet ⟨hkey, hid⟩
  · rw [hbind]
    exact .inserted hkey hid
  · rw [hbind]
    exact .incremented id hkey hid

theorem unbind_effect (hanchored : pool.books.Anchored) (key : String) :
    Effect pool.books (.event (.unbind key)) (pool.unbind key).granted
      (pool.unbind key).pool.books := by
  rw [granted_unbind, unbind, books]
  rcases AffinityTable.unbind_cases pool.affinity pool.connections hanchored key with
    ⟨hkey, hunbind⟩ | ⟨id, connection, hkey, hid, ⟨hcount, hunbind⟩ | ⟨_, hcount, hunbind⟩⟩
  · rw [hunbind]
    exact .quiet hkey
  · rw [hunbind]
    exact .decremented hkey hid hcount
  · rw [hunbind]
    exact .released hkey hid hcount

theorem granted_enter (id : ConnectionId) (handle : Handle) (state : ConnectivityState) :
    (pool.enter id handle state).visible.filterMap Action.granted? = [] := by
  by_cases hstate : state = .shutdown
  · subst state
    have hvisible := visible_evict pool id
    rw [enter, ConnectivityState.entryEffect, hvisible]
    split <;> rfl
  · rw [(enter_of_ne pool id handle hstate).2, List.filterMap_nil]

theorem granted_changeState (id : ConnectionId) (state : ConnectivityState) :
    (pool.changeState id state).granted = [] := by
  rw [PoolStep.granted_eq]
  cases hid : pool.connections[id]? with
  | none => rw [visible_changeState_unknown pool hid, List.filterMap_nil]
  | some connection =>
      simp only [visible_changeState pool hid, List.filterMap_append, granted_enter,
        visible_publishIfChanged]
      split <;> rfl

theorem books_changeState {id : ConnectionId} {connection : Connection}
    (hid : pool.connections[id]? = some connection) (state : ConnectivityState) :
    (pool.changeState id state).pool.books =
      ({ pool with
        connections := pool.connections.insert id { connection with state } }.enter id
          connection.handle state).pool.books.record connection.state state := by
  simp only [changeState, hid, PoolStep.after_pool, PoolStep.andThen_pool, publishIfChanged]
  split <;> rfl

theorem changeState_effect (id : ConnectionId) (state : ConnectivityState) :
    Effect pool.books (.event (.stateChanged id state)) (pool.changeState id state).granted
      (pool.changeState id state).pool.books := by
  rw [granted_changeState]
  cases hid : pool.connections[id]? with
  | none =>
      have hpool : (pool.changeState id state).pool = pool := by
        simp only [changeState, hid]
      rw [hpool]
      exact .quiet (WorkingSet.not_mem_iff.mpr hid)
  | some connection =>
      rw [books_changeState pool hid]
      by_cases hstate : state = .shutdown
      · subst state
        have herase : (pool.connections.insert id { connection with state := .shutdown }).erase id =
            pool.connections.erase id := by
          apply Std.ExtTreeMap.ext_getElem?
          grind
        simp only [enter, ConnectivityState.entryEffect, evict, herase]
        exact .evicted hid
      · rw [(enter_of_ne _ _ _ hstate).1]
        exact .moved hid hstate

/-- Every operation has one of the listed effects on the books. -/
theorem operate_effect (hanchored : pool.books.Anchored) (operation : Operation)
    (answer : Answer) :
    Effect pool.books operation (pool.operate operation answer).granted
      (pool.operate operation answer).pool.books := by
  cases operation with
  | create => exact create_effect pool .create True.intro True.intro answer
  | publish => exact .quiet True.intro
  | event event =>
      cases event with
      | resolved resolution => exact resolve_effect pool resolution answer
      | stateChanged id state => exact changeState_effect pool id state
      | bind key id => exact bind_effect pool hanchored key id
      | unbind key => exact unbind_effect pool hanchored key
      | scaleUp => exact scaleUp_effect pool answer

end Pool

/-! ## Runs -/

theorem Effect.anchored {books next : Books} {operation : Pool.Operation}
    {granted : List Handle} (heffect : Effect books operation granted next)
    (hanchored : books.Anchored) : next.Anchored := by
  intro key id hkey
  cases heffect with
  | quiet _ => exact hanchored key id hkey
  | tracked _ handle =>
      rw [Books.track, Std.ExtTreeMap.mem_insert]
      exact .inr (hanchored key id hkey)
  | @inserted bound target connection _ hid =>
      have htarget : target ∈ books.connections := WorkingSet.mem_iff.mpr ⟨connection, hid⟩
      grind [Books.Anchored]
  | incremented _ _ _ => grind [Books.Anchored]
  | decremented _ _ _ => grind [Books.Anchored]
  | released _ _ _ => grind [Books.Anchored, AffinityTable.getElem?_purge]
  | moved _ _ => grind [Books.Anchored, Books.record]
  | evicted _ => grind [Books.Anchored, Books.record, AffinityTable.getElem?_purge]

namespace Run

theorem anchored (run : Run) {pool : Pool} (hopen : run.service.pool = some pool) :
    pool.books.Anchored := by
  induction run generalizing pool with
  | start config =>
      cases hopen
      intro key id hkey
      simp [Pool.books] at hkey
  | next run move ih =>
      rcases Service.step_cases hopen with ⟨job, hjob, rfl⟩ | ⟨_, hpool, _⟩
      · have hanchored := ih (Service.pool_of_job hjob)
        exact (job.pool.operate_effect hanchored job.operation job.answer).anchored hanchored
      · exact ih hpool

theorem effect (run : Run) {move : Move} {job : Job}
    (hjob : run.service.job? move = some job) :
    Effect job.pool.books job.operation job.outcome.granted job.outcome.pool.books :=
  job.pool.operate_effect (run.anchored (Service.pool_of_job hjob)) job.operation job.answer

/-- What holds of a new pool, is kept by every job with its effect, and by every move without
a job, holds of the pool throughout every run. -/
theorem pool_induction
    {motive : (run : Run) → (pool : Pool) → run.service.pool = some pool → Prop}
    (start : ∀ config : Config, motive (.start config) { config } rfl)
    (job : ∀ (run : Run) (move : Move) (job : Job) (hjob : run.service.job? move = some job),
      Effect job.pool.books job.operation job.outcome.granted job.outcome.pool.books →
      motive run job.pool (Service.pool_of_job hjob) →
      motive (.next run move) job.outcome.pool (Service.step_of_job hjob).1)
    (idle : ∀ (run : Run) (move : Move) (pool : Pool) (hopen : run.service.pool = some pool),
      run.service.job? move = none →
      (hfront : Service.SameFront (run.service.step move) run.service) →
      motive run pool hopen → motive (.next run move) pool (hfront.pool.trans hopen))
    {run : Run} {pool : Pool} (hopen : run.service.pool = some pool) : motive run pool hopen := by
  induction run generalizing pool with
  | start config =>
      cases hopen
      exact start config
  | next run move ih =>
      rcases Service.step_cases hopen with ⟨given, hjob, rfl⟩ | ⟨hjob, hpool, hfront⟩
      · exact job run move given hjob (run.effect hjob) (ih (Service.pool_of_job hjob))
      · exact idle run move pool hpool hjob hfront (ih hpool)

end Run

end StickyRouting
