import StickyRouting.Proofs.Publication

/-!
# Room for growth

A pool can grow while it is below its limit and no attempt to grow has failed since the resolver
had news.  A router does not watch the pool: whether it may ask for another connection is fixed
when it is published.  Here the pool's block on growth is traced to the history of the run, and
the room that a router was published with is shown to last as long as the router is current and
has a connection to route to.
-/

namespace StickyRouting

/-- Whether the limit leaves room for one more connection. -/
def Pool.BelowLimit (pool : Pool) : Prop :=
  pool.config.maxConnections = 0 ∨ pool.connections.size < pool.config.maxConnections.toNat

instance (pool : Pool) : Decidable pool.BelowLimit :=
  inferInstanceAs (Decidable (_ ∨ _))

/-- Whether a job is a request for growth that the limit allows and the channel refuses. -/
def Job.FailsToGrow (job : Job) : Prop :=
  job.operation = .event .scaleUp ∧ job.pool.BelowLimit ∧ job.answer.handle? = none

def Job.Resolves (job : Job) : Prop :=
  ∃ addresses, job.operation = .event (.resolved (.addresses addresses))

namespace Pool

variable (pool : Pool)

theorem allowsMore_iff :
    pool.config.allowsMore pool.connections.size = true ↔ pool.BelowLimit := by
  simp [Config.allowsMore, BelowLimit]

theorem canGrow_iff : pool.canGrow = true ↔ pool.growthBlocked = false ∧ pool.BelowLimit := by
  rw [canGrow, Bool.and_eq_true, Bool.not_eq_true', allowsMore_iff]

theorem failsToGrow_iff (answer : Answer) :
    pool.failsToGrow answer = true ↔ pool.BelowLimit ∧ answer.handle? = none := by
  rw [failsToGrow, Bool.and_eq_true, allowsMore_iff, Option.isNone_iff_eq_none]

theorem Operation.isNone_resolved?_iff (operation : Operation) (answer : Answer) :
    operation.resolved?.isNone = true ↔ ¬ Job.Resolves ⟨pool, operation, answer⟩ := by
  rw [Option.isNone_iff_eq_none, Job.Resolves, not_exists]
  constructor
  · rintro hnone addresses rfl
    cases hnone
  · intro hother
    rw [Option.eq_none_iff_forall_ne_some]
    intro addresses hresolved
    unfold resolved? at hresolved
    split at hresolved
    · exact hother _ rfl
    all_goals cases hresolved

/-- Growth is blocked by an attempt that failed, until the resolver has news. -/
theorem growthBlocked_operate_iff (operation : Operation) (answer : Answer) :
    (pool.operate operation answer).pool.growthBlocked = true ↔
      Job.FailsToGrow ⟨pool, operation, answer⟩ ∨
        pool.growthBlocked = true ∧ ¬ Job.Resolves ⟨pool, operation, answer⟩ := by
  rw [growthBlocked_operate, Bool.or_eq_true, Bool.and_eq_true, Bool.and_eq_true,
    decide_eq_true_eq, failsToGrow_iff, operation.isNone_resolved?_iff pool answer]
  rfl

variable {pool}

theorem size_insert_of_mem {connections : WorkingSet} {id : ConnectionId}
    {connection : Connection} (hid : connections[id]? = some connection) (changed : Connection) :
    (connections.insert id changed).size = connections.size := by
  have hmem := Std.ExtTreeMap.mem_iff_contains.mp (WorkingSet.mem_iff.mpr ⟨connection, hid⟩)
  rw [Std.ExtTreeMap.size_insert, if_pos hmem]

end Pool

/-- An operation makes the working set larger by the handles that it is granted at most. -/
theorem Effect.size_le {books next : Books} {operation : Pool.Operation} {granted : List Handle}
    (heffect : Effect books operation granted next) :
    next.connections.size ≤ books.connections.size + granted.length := by
  cases heffect with
  | quiet _ => exact Nat.le_refl _
  | tracked _ _ => exact Std.ExtTreeMap.size_insert_le
  | inserted _ hid | incremented _ _ hid | decremented _ hid _ | released _ hid _ | moved hid _ =>
      exact Nat.le_of_eq (Pool.size_insert_of_mem hid _)
  | evicted _ => exact Std.ExtTreeMap.size_erase_le

theorem Pool.BelowLimit.of_size_le {pool next : Pool} (hbelow : pool.BelowLimit)
    (hconfig : next.config = pool.config)
    (hsize : next.connections.size ≤ pool.connections.size) : next.BelowLimit := by
  rw [BelowLimit, hconfig]
  exact hbelow.imp_right (Nat.lt_of_le_of_lt hsize)

theorem WorkingSet.captured_of_isEmpty {connections : WorkingSet}
    (hempty : connections.isEmpty = true) : connections.captured = [] := by
  have hnone : connections = ∅ := by simpa using hempty
  rw [hnone]
  rfl

/-- Outside of requests for growth, an event is granted a handle only by a pool that has no
connections. -/
theorem Pool.granted_handle (pool : Pool) {event : Event} (hevent : event ≠ .scaleUp)
    (answer : Answer) (hready : pool.connections.captured ≠ []) :
    (pool.operate (.event event) answer).granted = [] := by
  cases event with
  | resolved resolution =>
      cases resolution with
      | failed error => rfl
      | addresses addresses =>
          have hsome : ¬ pool.connections.isEmpty = true :=
            fun hempty => hready (WorkingSet.captured_of_isEmpty hempty)
          rw [operate, handle, PoolStep.granted_eq, visible_resolve_addresses, if_neg hsome]
          rfl
  | stateChanged id state => exact granted_changeState pool id state
  | bind key id => exact granted_bind pool key id
  | unbind key => exact granted_unbind pool key
  | scaleUp => exact absurd rfl hevent

/-! ## The history of the block -/

namespace Run

def config : Run → Config
  | start config => config
  | next run _ => run.config

theorem config_eq (run : Run) {pool : Pool} (hopen : run.service.pool = some pool) :
    pool.config = run.config := by
  induction hopen using pool_induction with
  | start config => rfl
  | job run move job hjob heffect ih => rw [Job.outcome, Pool.config_operate, ih, config]
  | idle run move pool hopen hjob hfront ih => exact ih

/-- Whether growth has failed in a run since the resolver had news. -/
def GrowthFailed : Run → Prop
  | start _ => False
  | next run move =>
      (run.service.job? move).elim run.GrowthFailed fun job =>
        job.FailsToGrow ∨ run.GrowthFailed ∧ ¬ job.Resolves

/-- Whether the pool of a run is open and can grow: it is below its limit, and growth has not
failed since the resolver had news. -/
def CanGrow (run : Run) : Prop :=
  (∃ pool, run.service.pool = some pool ∧ pool.BelowLimit) ∧ ¬ run.GrowthFailed

theorem growthBlocked_iff (run : Run) {pool : Pool} (hopen : run.service.pool = some pool) :
    pool.growthBlocked = true ↔ run.GrowthFailed := by
  induction hopen using pool_induction with
  | start config => exact iff_of_false Bool.false_ne_true id
  | job run move job hjob heffect ih =>
      rw [GrowthFailed, hjob, Option.elim_some, ← ih]
      exact job.pool.growthBlocked_operate_iff job.operation job.answer
  | idle run move pool hopen hjob hfront ih =>
      rw [GrowthFailed, hjob, Option.elim_none]
      exact ih

theorem canGrow_iff (run : Run) {pool : Pool} (hopen : run.service.pool = some pool) :
    run.CanGrow ↔ pool.canGrow = true := by
  rw [pool.canGrow_iff, CanGrow, ← run.growthBlocked_iff hopen, hopen, Bool.not_eq_true]
  simp [and_comm]

/-- The run up to the move that published the picker on the board, if one has been published. -/
def publication? : Run → Option Run
  | start _ => none
  | next run move =>
      (run.service.job? move).elim run.publication? fun job =>
        if job.outcome.stored.isEmpty then run.publication? else some (run.next move)

end Run

/-- What a router that has just been published owes to the pool. -/
theorem Pool.publication_eq_routing {pool : Pool} {step : PoolStep} {router : Router}
    (hrouter : (pool.publication step).picker = .routing router) :
    router.serial = pool.nextRouter ∧ router.maxStreams = step.pool.config.maxStreams ∧
      router.canGrow = step.pool.canGrow := by
  rw [publication, snapshot, picker] at hrouter
  split at hrouter
  · cases hrouter
  · cases hrouter
    exact ⟨rfl, rfl, rfl⟩

namespace Run

variable {run : Run} {move : Move} {job : Job}

/-- A job publishes a snapshot of the pool that it leaves behind, or it leaves the snapshot on the
board alone. -/
theorem snapshot_cases (hjob : run.service.job? move = some job) :
    (job.pool.republishes job.operation = true ∧
        (run.next move).service.board.snapshot = job.pool.publication job.outcome ∧
        (run.next move).publication? = some (run.next move)) ∨
      (job.pool.republishes job.operation = false ∧
        (run.next move).service.board.snapshot = run.service.board.snapshot ∧
        (run.next move).publication? = run.publication?) := by
  rw [snapshot_of_job hjob, publication?, hjob, Option.elim_some, Job.outcome, Pool.stored_operate]
  cases job.pool.republishes job.operation with
  | true => exact .inl ⟨rfl, rfl, rfl⟩
  | false => exact .inr ⟨rfl, rfl, rfl⟩

/-- A router may ask for growth exactly if the pool could grow when the router was published. -/
theorem router_canGrow_iff (run : Run) {pool : Pool} (hopen : run.service.pool = some pool)
    {router : Router} (hrouter : run.service.board.snapshot.picker = .routing router) :
    ∃ past, run.publication? = some past ∧
      past.service.board.snapshot = run.service.board.snapshot ∧
        (router.canGrow = true ↔ past.CanGrow) := by
  induction hopen using pool_induction with
  | start config => cases hrouter
  | job run move job hjob heffect ih =>
      rcases snapshot_cases hjob with ⟨_, hsnapshot, hpast⟩ | ⟨_, hsnapshot, hpast⟩
      · rw [hsnapshot] at hrouter
        refine ⟨run.next move, hpast, rfl, ?_⟩
        rw [(run.next move).canGrow_iff (Service.step_of_job hjob).1,
          (Pool.publication_eq_routing hrouter).2.2]
      · rw [hsnapshot] at hrouter ⊢
        rw [hpast]
        exact ih hrouter
  | idle run move pool hopen hjob hfront ih =>
      rw [service, hfront.snapshot] at hrouter ⊢
      rw [publication?, hjob, Option.elim_none]
      exact ih hrouter

/-- Every router that was ever published goes by the configured bound on streams. -/
theorem maxStreams_of_published (run : Run) {router : Router}
    (hrouter : .routing router ∈ run.service.published) :
    router.maxStreams = run.config.maxStreams := by
  induction run with
  | start config => cases List.mem_singleton.mp hrouter
  | next run move ih =>
      obtain ⟨new, hpublished, hnew⟩ := run.service.published_step move
      rw [service, hpublished, List.mem_append] at hrouter
      rcases hrouter with hold | hmem
      · exact ih hold
      · rcases hnew _ hmem with hclosed | ⟨job, hjob, hpicker⟩
        · cases hclosed
        · rw [(Pool.publication_eq_routing hpicker.symm).2.1,
            (run.next move).config_eq (Service.step_of_job hjob).1]

/-- A job of a driven run that publishes nothing and leaves a connection ready takes no room. -/
theorem canGrow_of_quiet (hqueued : move.IsQueued)
    (hjob : run.service.job? move = some job)
    (hquiet : job.pool.republishes job.operation = false)
    (hready : job.pool.connections.captured ≠ []) (hroom : job.pool.canGrow = true) :
    job.outcome.pool.canGrow = true := by
  obtain ⟨event, answer, _, _, hevent⟩ := Service.job_of_queued hqueued hjob
  have hoperation : job.operation = .event event := congrArg Job.operation hevent
  have hother : event ≠ .scaleUp := by
    rintro rfl
    rw [hoperation] at hquiet
    cases hquiet
  have hgranted : job.outcome.granted = [] := by
    rw [Job.outcome, hoperation]
    exact job.pool.granted_handle hother job.answer hready
  have heffect := run.effect hjob
  rw [hgranted] at heffect
  obtain ⟨hblock, hbelow⟩ := job.pool.canGrow_iff.mp hroom
  refine job.outcome.pool.canGrow_iff.mpr ⟨?_, ?_⟩
  · rw [← Bool.not_eq_true, Job.outcome, Pool.growthBlocked_operate_iff]
    rintro (⟨hscaleUp, _⟩ | ⟨hblocked, _⟩)
    · rw [hoperation] at hscaleUp
      exact hother (Pool.Operation.event.inj hscaleUp)
    · rw [hblock] at hblocked
      cases hblocked
  · exact hbelow.of_size_le (job.pool.config_operate job.operation job.answer) heffect.size_le

/-- As long as a router is current and has a connection to route to, the pool keeps the room that
the router was published with. -/
theorem canGrow_of_router (run : Run) (hdriven : run.Driven) (hfresh : run.Follows Job.Fresh)
    {pool : Pool} (hopen : run.service.pool = some pool) {router : Router}
    (hrouter : run.service.board.snapshot.picker = .routing router)
    (hready : router.ready ≠ []) (hgrow : router.canGrow = true) : pool.canGrow = true := by
  induction hopen using pool_induction with
  | start config => cases hrouter
  | job run move job hjob heffect ih =>
      rcases snapshot_cases hjob with ⟨_, hsnapshot, _⟩ | ⟨hquiet, hsnapshot, _⟩
      · rw [hsnapshot] at hrouter
        rw [← hgrow, (Pool.publication_eq_routing hrouter).2.2]
      · rw [hsnapshot] at hrouter
        have hentries := (run.current hfresh.1 (Service.pool_of_job hjob)).entries
        rw [hrouter] at hentries
        refine canGrow_of_quiet hdriven.2 hjob hquiet ?_ (ih hdriven.1 hfresh.1 hrouter)
        rw [show job.pool.connections.captured = router.ready from hentries.symm]
        exact hready
  | idle run move pool hopen hjob hfront ih =>
      rw [service, hfront.snapshot] at hrouter
      exact ih hdriven.1 hfresh.1 hrouter

end Run

end StickyRouting
