import StickyRouting.Proofs.Bindings

/-!
# Bound keys lead to tracked connections

The table and the working set change in different operations: a connection that shuts down takes
its keys along, while one that is replaced by another with the same identifier leaves them to its
successor.  Either way no key is ever bound to a connection that is not tracked.  So a bind never
meets a stale binding, one that fails changes nothing, an unbind always finds a connection to
count on, and the board shows the bindings of the table after every operation.
-/

namespace StickyRouting

namespace AffinityTable

variable {table : AffinityTable} {connections : WorkingSet}

/-- Where every key leads to a tracked connection, a bind drops no stale binding, and changes
nothing if it fails. -/
theorem bind_of_anchored
    (hanchored : ∀ (key : String) (id : ConnectionId), table[key]? = some id → id ∈ connections)
    (key : String) (requested : ConnectionId) :
    let binding := table.bind connections key requested
    (∀ stale bound, .staleBindingDropped stale bound ∉ binding.notices) ∧
      ∀ error, binding.outcome = .error error →
        binding.table = table ∧ binding.connections = connections := by
  intro binding
  cases hkey : table[key]? with
  | none =>
      cases hid : connections[requested]? with
      | none =>
          have hbinding := bind_unknown hkey hid
          exact ⟨by simp [binding, hbinding], by simp [binding, hbinding]⟩
      | some connection =>
          have hbinding := bind_inserted hkey hid
          exact ⟨by simp [binding, hbinding], by simp [binding, hbinding]⟩
  | some bound =>
      obtain ⟨connection, hid⟩ := WorkingSet.mem_iff.mp (hanchored key bound hkey)
      have hbinding := bind_incremented hkey hid requested
      refine ⟨fun stale other => ?_, by simp [binding, hbinding]⟩
      simp only [binding, hbinding]
      split <;> simp

/-- Where every key leads to a tracked connection, an unbind of a bound key takes the binding
off that connection. -/
theorem unbind_of_anchored
    (hanchored : ∀ (key : String) (id : ConnectionId), table[key]? = some id → id ∈ connections)
    {key : String} {id : ConnectionId} (hkey : table[key]? = some id) :
    ∃ connection, connections[id]? = some connection ∧
      (table.unbind connections key).connections[id]? = some connection.loseBinding := by
  rcases unbind_cases table connections hanchored key with
    ⟨hnone, _⟩ | ⟨bound, connection, hbound, hid, ⟨_, hunbind⟩ | ⟨_, _, hunbind⟩⟩
  · rw [hkey] at hnone
    cases hnone
  all_goals
    cases hkey.symm.trans hbound
    refine ⟨connection, hid, ?_⟩
    rw [hunbind]
    exact Std.ExtTreeMap.getElem?_insert_self

theorem unbind_notices (table : AffinityTable) (connections : WorkingSet)
    (key stale : String) (bound : ConnectionId) :
    .staleBindingDropped stale bound ∉ (table.unbind connections key).notices := by
  rw [unbind]
  split
  · simp
  · dsimp only
    split
    · exact List.not_mem_nil
    · dsimp only
      split <;> simp

end AffinityTable

namespace Pool

variable (pool : Pool) (key : String) (bound : ConnectionId)

theorem no_stale_create (answer : Answer) :
    .note (.staleBindingDropped key bound) ∉ (pool.create answer).actions := by
  cases answer <;> simp [create]

theorem no_stale_resolve (resolution : Resolution) (answer : Answer) :
    .note (.staleBindingDropped key bound) ∉ (pool.resolve resolution answer).actions := by
  cases resolution with
  | failed error => simp [resolve]
  | addresses addresses =>
      simp only [resolve, PoolStep.after]
      split
      · simp [no_stale_create]
      · simp [refresh]

theorem no_stale_scaleUp (answer : Answer) :
    .note (.staleBindingDropped key bound) ∉ (pool.scaleUp answer).actions := by
  simp only [scaleUp, grow, PoolStep.andThen, PoolStep.after, publish]
  split
  · cases answer <;> simp [no_stale_create]
  · simp

theorem no_stale_bind (hanchored : pool.books.Anchored) (requested : String)
    (id : ConnectionId) :
    .note (.staleBindingDropped key bound) ∉ (pool.bind requested id).actions := by
  have hnotices := (AffinityTable.bind_of_anchored hanchored requested id).1 key bound
  simp only [books] at hnotices
  simp only [bind, List.mem_append, List.mem_map, Action.note.injEq, exists_eq_right, hnotices,
    false_or]
  split <;> simp [publishBindings]

theorem no_stale_unbind (released : String) :
    .note (.staleBindingDropped key bound) ∉ (pool.unbind released).actions := by
  have hnotices := AffinityTable.unbind_notices pool.affinity pool.connections released key bound
  simp only [unbind, List.mem_append, List.mem_map, Action.note.injEq, exists_eq_right, hnotices,
    false_or]
  split <;> simp [publishBindings]

theorem no_stale_changeState (id : ConnectionId) (state : ConnectivityState) :
    .note (.staleBindingDropped key bound) ∉ (pool.changeState id state).actions := by
  simp only [changeState]
  split
  · simp
  · simp only [PoolStep.after, PoolStep.andThen, publishIfChanged]
    split <;> cases state <;>
      simp [enter, ConnectivityState.entryEffect, evict, publish, publishBindings, PoolStep.quiet]

/-- No operation meets a stale binding. -/
theorem no_stale_operate (hanchored : pool.books.Anchored) (operation : Operation)
    (answer : Answer) :
    .note (.staleBindingDropped key bound) ∉ (pool.operate operation answer).actions := by
  cases operation with
  | create => exact no_stale_create pool key bound answer
  | publish => simp [operate, publish]
  | event event =>
      cases event with
      | resolved resolution => exact no_stale_resolve pool key bound resolution answer
      | stateChanged id state => exact no_stale_changeState pool key bound id state
      | bind requested id => exact no_stale_bind pool key bound hanchored requested id
      | unbind released => exact no_stale_unbind pool key bound released
      | scaleUp => exact no_stale_scaleUp pool key bound answer

end Pool

namespace Run

/-- A closed pool has left no bindings on the board. -/
theorem bindings_closed (run : Run) (hclosed : run.service.pool = none) :
    run.service.board.bindings = ∅ := by
  induction run with
  | start config => cases hclosed
  | next run move ih =>
      rcases run.service.step_kinds move with ⟨job, hjob⟩ | ⟨pool, rfl, hopen⟩ | ⟨_, hfront⟩
      · rw [service, (Service.step_of_job hjob).1] at hclosed
        cases hclosed
      · rw [service, Service.step_close hopen]
        rfl
      · rw [service, hfront.pool] at hclosed
        rw [service, hfront.bindings]
        exact ih hclosed

/-- No bind of a run ever met a key whose connection was not tracked. -/
theorem no_stale (run : Run) (key : String) (bound : ConnectionId) :
    .note (.staleBindingDropped key bound) ∉ run.service.actions := by
  induction run with
  | start config => exact List.not_mem_nil
  | next run move ih =>
      rcases run.service.step_kinds move with ⟨job, hjob⟩ | ⟨pool, rfl, hopen⟩ | ⟨_, hfront⟩
      · have hanchored := run.anchored (Service.pool_of_job hjob)
        rw [service, (Service.step_of_job hjob).2.2, List.mem_append]
        exact not_or.mpr
          ⟨ih, job.pool.no_stale_operate key bound hanchored job.operation job.answer⟩
      · rw [service, Service.step_close hopen, List.mem_append]
        exact not_or.mpr ⟨ih, by simp [Pool.close]⟩
      · rw [service, hfront.actions]
        exact ih

/-- Whatever identifiers the channel reuses, every bound key leads to a tracked connection, and
the board shows the table of the pool, or no bindings once the pool is closed.  So no bind ever
met a stale binding, a bind that fails leaves the table alone, and an unbind of a bound key
takes the binding off a tracked connection. -/
theorem bindings_tracked (run : Run) :
    (run.service.pool = none → run.service.board.bindings = ∅) ∧
      (∀ key bound, .note (.staleBindingDropped key bound) ∉ run.service.actions) ∧
      ∀ pool, run.service.pool = some pool →
        run.service.board.bindings = pool.affinity ∧
          (∀ (key : String) (id : ConnectionId),
            pool.affinity[key]? = some id → id ∈ pool.connections) ∧
          (∀ (key : String) (requested : ConnectionId) (error : Error),
            (pool.affinity.bind pool.connections key requested).outcome = .error error →
              (pool.affinity.bind pool.connections key requested).table = pool.affinity) ∧
          ∀ (key : String) (id : ConnectionId), pool.affinity[key]? = some id →
            ∃ connection, pool.connections[id]? = some connection ∧
              (pool.affinity.unbind pool.connections key).connections[id]? =
                some connection.loseBinding := by
  refine ⟨run.bindings_closed, run.no_stale, fun pool hopen => ?_⟩
  have hanchored := run.anchored hopen
  refine ⟨run.bindings_eq hopen, hanchored, fun key requested error hfailed => ?_,
    fun key id => AffinityTable.unbind_of_anchored hanchored⟩
  exact ((AffinityTable.bind_of_anchored hanchored key requested).2 error hfailed).1

/-- A key stays bound when its connection is replaced by another one with the same identifier.
The new connection counts nothing, and the next unbind of the key releases it.  A bind to a
connection that is not tracked fails and leaves the table alone. -/
theorem bindings_tracked_replaced :
    let second : ConnectionId := ⟨2, by decide⟩
    let run := ofMoves {} [.grant 0 .first, .handle (.bind "key" .first), .grant 1 .first]
    ∃ pool, run.service.pool = some pool ∧ pool.affinity["key"]? = some .first ∧
      run.service.board.bindings["key"]? = some .first ∧ .first ∈ pool.connections ∧
        (∃ connection, pool.connections[ConnectionId.first]? = some connection ∧
          connection.affinityCount = 0 ∧
            (pool.affinity.unbind pool.connections "key").connections[ConnectionId.first]? =
              some connection.loseBinding) ∧
          ((pool.affinity.bind pool.connections "other" second).outcome =
              .error (.unknownConnection second) ∧
            (pool.affinity.bind pool.connections "other" second).table = pool.affinity) ∧
          (run.next .close).service.pool = none ∧
            (run.next .close).service.board.bindings = ∅ := by
  intro second run
  obtain ⟨pool, hopen⟩ : ∃ pool, run.service.pool = some pool := ⟨_, rfl⟩
  have hkey : pool.affinity["key"]? = some .first := by
    cases hopen
    decide
  have hunknown : (pool.affinity.bind pool.connections "other" second).outcome =
      .error (.unknownConnection second) := by
    cases hopen
    rfl
  obtain ⟨_, _, hpool⟩ := run.bindings_tracked
  obtain ⟨hboard, htracked, hbind, hunbind⟩ := hpool pool hopen
  obtain ⟨connection, hid, hlost⟩ := hunbind "key" .first hkey
  have hcount : connection.affinityCount = 0 := by
    cases hopen
    cases hid
    rfl
  have hclosed : (run.next .close).service.pool = none := rfl
  refine ⟨pool, hopen, hkey, ?_, htracked "key" .first hkey, ⟨connection, hid, hcount, hlost⟩,
    ⟨hunknown, hbind "other" second _ hunknown⟩, hclosed,
    (run.next .close).bindings_tracked.1 hclosed⟩
  rw [hboard, hkey]

end Run

end StickyRouting
