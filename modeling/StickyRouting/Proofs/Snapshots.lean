import StickyRouting.Proofs.Settings

/-!
# The snapshots that a pool publishes

An operation writes a snapshot to the board and reports it to the channel, both once, or it does
neither.  The pickers that a service has published are those of the snapshots written so far.
-/

namespace StickyRouting

namespace Pool

variable (pool : Pool)

/-- What an operation publishes if it publishes: the picker for the pool that it leaves, with
the serial that was next when it began. -/
def publication (step : PoolStep) : Snapshot :=
  { step.pool with nextRouter := pool.nextRouter }.snapshot

theorem publications_enter (id : ConnectionId) (handle : Handle) (state : ConnectivityState) :
    (pool.enter id handle state).publications = [] := by
  by_cases hstate : state = .shutdown
  · subst state
    rw [PoolStep.publications, enter, ConnectivityState.entryEffect, visible_evict]
    split <;> rfl
  · rw [PoolStep.publications, (enter_of_ne pool id handle hstate).2, List.filter_nil]

theorem publications_resolve (resolution : Resolution) (answer : Answer) :
    (pool.resolve resolution answer).publications = [] := by
  rw [PoolStep.publications]
  cases resolution with
  | failed error => rfl
  | addresses addresses =>
      rw [visible_resolve_addresses]
      split <;> rfl

theorem publications_scaleUp (answer : Answer) :
    (pool.scaleUp answer).publications =
      [.storeSnapshot (pool.publication (pool.scaleUp answer)),
        .reportState (pool.publication (pool.scaleUp answer))] := by
  have hrouter : (pool.grow answer).pool.nextRouter = pool.nextRouter :=
    congrArg Settings.nextRouter (pool.settings_grow answer)
  have hpublication : pool.publication (pool.scaleUp answer) =
      (pool.grow answer).pool.snapshot := by
    rw [publication, ← hrouter]
    rfl
  rw [hpublication, PoolStep.publications, visible_scaleUp, List.filter_append, visible_grow]
  split <;> rfl

theorem publications_changeState (id : ConnectionId) (state : ConnectivityState) :
    (pool.changeState id state).publications =
      if pool.republishes (.event (.stateChanged id state)) then
        [.storeSnapshot (pool.publication (pool.changeState id state)),
          .reportState (pool.publication (pool.changeState id state))]
      else [] := by
  cases hid : pool.connections[id]? with
  | none =>
      rw [PoolStep.publications, visible_changeState_unknown pool hid, republishes, hid]
      rfl
  | some connection =>
      let changed := { pool with
        connections := pool.connections.insert id { connection with state } }
      let recorded := (changed.enter id connection.handle state).pool.recordTransition
        connection.state state
      have hstate : recorded.state = (pool.tally.record connection.state state).aggregate := by
        cases state <;> rfl
      have hpool : (pool.changeState id state).pool =
          (recorded.publishIfChanged connection.state state pool.state).pool := by
        simp only [changeState, hid]
        rfl
      have hrouter : recorded.nextRouter = pool.nextRouter :=
        congrArg Settings.nextRouter (settings_enter changed id connection.handle state)
      have hquiet := publications_enter changed id connection.handle state
      rw [PoolStep.publications] at hquiet
      rw [PoolStep.publications, visible_changeState pool hid, List.filter_append, hquiet,
        List.nil_append, visible_publishIfChanged, hstate, republishes, hid, Option.any_some]
      split
      · next hpublish =>
          have hpublication : pool.publication (pool.changeState id state) =
              recorded.snapshot := by
            rw [publication, hpool, publishIfChanged, hstate, if_pos hpublish, ← hrouter]
            rfl
          rw [hpublication]
          rfl
      · rfl

/-- An operation that publishes a picker writes it and reports it once, and the others do
neither. -/
theorem publications_operate (operation : Operation) (answer : Answer) :
    (pool.operate operation answer).publications =
      if pool.republishes operation then
        [.storeSnapshot (pool.publication (pool.operate operation answer)),
          .reportState (pool.publication (pool.operate operation answer))]
      else [] := by
  cases operation with
  | create =>
      rw [operate, PoolStep.publications, visible_create]
      rfl
  | publish => rfl
  | event event =>
      cases event with
      | resolved resolution => exact publications_resolve pool resolution answer
      | stateChanged id state => exact publications_changeState pool id state
      | bind key id =>
          rw [operate, handle, PoolStep.publications, visible_bind]
          split <;> rfl
      | unbind key =>
          rw [operate, handle, PoolStep.publications, visible_unbind]
          split <;> rfl
      | scaleUp => exact publications_scaleUp pool answer

theorem stored_operate (operation : Operation) (answer : Answer) :
    (pool.operate operation answer).stored =
      if pool.republishes operation then
        [pool.publication (pool.operate operation answer)]
      else [] := by
  rw [PoolStep.stored_eq, publications_operate]
  split <;> rfl

theorem reported_operate (operation : Operation) (answer : Answer) :
    (pool.operate operation answer).reported = (pool.operate operation answer).stored := by
  rw [PoolStep.reported_eq, PoolStep.stored_eq, publications_operate]
  split <;> rfl

end Pool

namespace Service

variable {service : Service} {move : Move} {job : Job}

theorem published_of_job (hjob : service.job? move = some job) :
    (service.step move).published =
      service.published ++ job.outcome.stored.map Snapshot.picker := by
  rw [published, (step_of_job hjob).2.2, Action.published_append, published, PoolStep.stored]

theorem reported_of_job (hjob : service.job? move = some job) :
    (service.step move).reported = service.reported ++ job.outcome.reported :=
  observe_of_job Action.snapshotReported? hjob

theorem published_of_close {pool : Pool} (hopen : service.pool = some pool) :
    (service.step .close).published = service.published ++ [Snapshot.closed.picker] := by
  rw [step_close hopen, published, Action.published_append]
  rfl

/-- A move publishes nothing, or the picker for the pool that a job leaves, or the picker of closed
pools. -/
theorem published_step (service : Service) (move : Move) :
    ∃ new, (service.step move).published = service.published ++ new ∧
      ∀ picker ∈ new, picker = Snapshot.closed.picker ∨
        ∃ job, service.job? move = some job ∧
          picker = (job.pool.publication job.outcome).picker := by
  rcases service.step_kinds move with ⟨job, hjob⟩ | ⟨pool, rfl, hopen⟩ | ⟨_, hfront⟩
  · refine ⟨_, published_of_job hjob, fun picker hpicker => .inr ⟨job, hjob, ?_⟩⟩
    have hstored : job.outcome.stored =
        if job.pool.republishes job.operation then [job.pool.publication job.outcome] else [] :=
      job.pool.stored_operate job.operation job.answer
    rw [hstored] at hpicker
    split at hpicker
    · exact List.mem_singleton.mp hpicker
    · cases hpicker
  · exact ⟨_, published_of_close hopen, fun picker hpicker => .inl (List.mem_singleton.mp hpicker)⟩
  · refine ⟨[], ?_, fun _ hpicker => absurd hpicker List.not_mem_nil⟩
    rw [published, hfront.actions, List.append_nil]
    rfl

end Service

end StickyRouting
