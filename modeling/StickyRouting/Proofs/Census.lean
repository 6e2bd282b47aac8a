import StickyRouting.Proofs.Effect

/-!
# The tally and the working set

The tally is kept up from reported transitions alone, while connections come and go by other
ways: they are granted, they shut down, and a granted one replaces a tracked one with the same
identifier without the tally hearing of it.  Each counter is exactly the number of tracked
connections in its state plus the number of such replacements out of that state, and the state
of the channel is read off the counters as soon as one tracked connection has changed.
-/

namespace StickyRouting

namespace WorkingSet

variable (connections : WorkingSet) (id : ConnectionId) (connection : Connection)
  (state : ConnectivityState)

def countIn : Nat :=
  (connections.filter fun _ tracked => tracked.state = state).size

def stateOf? : Option ConnectivityState :=
  (connections[id]?).map Connection.state

theorem contains_filter :
    (connections.filter fun _ tracked => tracked.state = state).contains id ↔
      connections.stateOf? id = some state := by
  simp [Std.ExtTreeMap.contains_eq_isSome_getElem?, stateOf?, Option.any_eq_true]

theorem countIn_erase :
    countIn (connections.erase id) state +
        (if connections.stateOf? id = some state then 1 else 0) =
      connections.countIn state := by
  have hfilter : (connections.erase id).filter (fun _ tracked => tracked.state = state) =
      (connections.filter fun _ tracked => tracked.state = state).erase id := by
    apply Std.ExtTreeMap.ext_getElem?
    grind
  rw [countIn, countIn, hfilter, Std.ExtTreeMap.size_erase]
  simp only [contains_filter]
  split
  · next hin =>
      have hne : (connections.filter fun _ tracked => tracked.state = state).size ≠ 0 := by
        intro hzero
        have hempty := Std.ExtTreeMap.eq_empty_iff_size_eq_zero.mpr hzero
        have hcontains := (connections.contains_filter id state).mpr hin
        simp [hempty] at hcontains
      omega
  · rfl

theorem countIn_insert :
    countIn (connections.insert id connection) state +
        (if connections.stateOf? id = some state then 1 else 0) =
      connections.countIn state + if connection.state = state then 1 else 0 := by
  by_cases hstate : connection.state = state
  · have hfilter :
        (connections.insert id connection).filter (fun _ tracked => tracked.state = state) =
          (connections.filter fun _ tracked => tracked.state = state).insert id connection := by
      apply Std.ExtTreeMap.ext_getElem?
      grind
    rw [countIn, countIn, hfilter, Std.ExtTreeMap.size_insert]
    simp only [contains_filter, hstate, if_true]
    split <;> rfl
  · have hfilter :
        (connections.insert id connection).filter (fun _ tracked => tracked.state = state) =
          (connections.erase id).filter fun _ tracked => tracked.state = state := by
      apply Std.ExtTreeMap.ext_getElem?
      grind
    have herase := connections.countIn_erase id state
    rw [countIn] at herase
    rw [countIn, hfilter, herase, if_neg hstate, Nat.add_zero]

variable {connections id connection state}

theorem stateOf?_of_getElem? (hid : connections[id]? = some connection) :
    connections.stateOf? id = some connection.state := by
  rw [stateOf?, hid, Option.map_some]

/-- A change of a connection that keeps its state changes no count. -/
theorem countIn_insert_of_state_eq {changed : Connection}
    (hid : connections[id]? = some connection) (hstate : changed.state = connection.state) :
    countIn (connections.insert id changed) state = connections.countIn state := by
  have hinsert := connections.countIn_insert id changed state
  rw [stateOf?_of_getElem? hid, hstate] at hinsert
  simpa using hinsert

theorem countIn_pos (hid : connections[id]? = some connection) :
    0 < connections.countIn connection.state := by
  have herase := connections.countIn_erase id connection.state
  rw [stateOf?_of_getElem? hid, if_pos rfl] at herase
  omega

end WorkingSet

namespace ConnectivityState

/-- Whether the tally has a counter for a state. -/
def IsCounted : ConnectivityState → Prop
  | ready | connecting | transientFailure => True
  | idle | shutdown => False

end ConnectivityState

namespace Tally

variable (tally : Tally) {state : ConnectivityState}

theorem count_leave (left : ConnectivityState) (hstate : state.IsCounted) :
    (tally.leave left).count state = tally.count state - if left = state then 1 else 0 := by
  cases left <;> cases state <;> simp_all [leave, count, ConnectivityState.IsCounted]

theorem count_enter (entered : ConnectivityState) (hstate : state.IsCounted) :
    (tally.enter entered).count state = tally.count state + if entered = state then 1 else 0 := by
  cases entered <;> cases state <;> simp_all [enter, count, ConnectivityState.IsCounted]

theorem count_record (before after : ConnectivityState) (hstate : state.IsCounted)
    (hbefore : before = state → 0 < tally.count state) :
    (tally.record before after).count state + (if before = state then 1 else 0) =
      tally.count state + if after = state then 1 else 0 := by
  rw [record, count_enter _ _ hstate, count_leave _ _ hstate]
  by_cases hleft : before = state
  · have hpos := hbefore hleft
    rw [if_pos hleft]
    omega
  · rw [if_neg hleft]
    omega

end Tally

/-- How many connections in a state were replaced by handles granted in a job. -/
def Job.replaced (job : Job) (state : ConnectivityState) : Nat :=
  job.outcome.granted.countP fun handle =>
    job.pool.connections.stateOf? handle.id = some state

/-- Whether a job is a report on a tracked connection. -/
def Job.IsReport (job : Job) : Prop :=
  ∃ id state, job.operation = .event (.stateChanged id state) ∧ id ∈ job.pool.connections

namespace Run

/-- How many connections in a state have been replaced in a run by granted ones with the same
identifier. -/
def replaced (state : ConnectivityState) : Run → Nat
  | start _ => 0
  | next run move =>
      run.replaced state + (run.service.job? move).elim 0 fun job => job.replaced state

/-- Whether a tracked connection has been reported on in a run. -/
def HasReport : Run → Prop
  | start _ => False
  | next run move => run.HasReport ∨ ∃ job ∈ run.service.job? move, job.IsReport

end Run

/-! ## The invariant -/

/-- Whether the tally agrees with the working set, given how many connections were replaced
without a report. -/
structure Census (books : Books) (replaced : ConnectivityState → Nat) : Prop where
  count : ∀ state : ConnectivityState, state.IsCounted →
    books.tally.count state = books.connections.countIn state + replaced state
  alive : ∀ (id : ConnectionId) (connection : Connection),
    books.connections[id]? = some connection → connection.state ≠ .shutdown

namespace Census

variable {books next : Books} {replaced : ConnectivityState → Nat}

theorem count_pos (hcensus : Census books replaced) {id : ConnectionId}
    {connection : Connection} (hid : books.connections[id]? = some connection)
    (hcounted : connection.state.IsCounted) : 0 < books.tally.count connection.state := by
  have hcount := hcensus.count connection.state hcounted
  have hpos := WorkingSet.countIn_pos hid
  omega

/-- A change of a connection that keeps its state keeps the census. -/
theorem insert (hcensus : Census books replaced) {id : ConnectionId}
    {connection changed : Connection} (hid : books.connections[id]? = some connection)
    (hstate : changed.state = connection.state) :
    Census { books with connections := books.connections.insert id changed } replaced where
  count state hcounted := by
    rw [WorkingSet.countIn_insert_of_state_eq hid hstate]
    exact hcensus.count state hcounted
  alive other tracked hother := by
    rcases WorkingSet.insert_cases hother with ⟨_, rfl⟩ | ⟨_, hold⟩
    · rw [hstate]
      exact hcensus.alive id connection hid
    · exact hcensus.alive other tracked hold

theorem affinity (hcensus : Census books replaced) (table : AffinityTable) :
    Census { books with affinity := table } replaced :=
  ⟨hcensus.count, hcensus.alive⟩

theorem track (hcensus : Census books replaced) (handle : Handle) :
    Census (books.track handle) fun state =>
      replaced state + if books.connections.stateOf? handle.id = some state then 1 else 0 where
  count state hcounted := by
    have hinsert := books.connections.countIn_insert handle.id
      { handle, meter := books.nextMeter } state
    have hidle : ConnectivityState.idle ≠ state := by
      rintro rfl
      exact hcounted
    have hcount := hcensus.count state hcounted
    rw [if_neg hidle] at hinsert
    simp only [Books.track]
    omega
  alive other tracked hother := by
    rcases WorkingSet.insert_cases hother with ⟨_, rfl⟩ | ⟨_, hold⟩
    · intro hshutdown
      cases hshutdown
    · exact hcensus.alive other tracked hold

theorem move (hcensus : Census books replaced) {id : ConnectionId} {connection : Connection}
    {after : ConnectivityState} (hid : books.connections[id]? = some connection)
    (hafter : after ≠ .shutdown) :
    Census ({ books with
      connections := books.connections.insert id { connection with state := after } }.record
        connection.state after) replaced where
  count state hcounted := by
    have hrecord := books.tally.count_record connection.state after hcounted fun hstate =>
      hstate ▸ hcensus.count_pos hid (hstate ▸ hcounted)
    have hinsert := books.connections.countIn_insert id { connection with state := after } state
    rw [WorkingSet.stateOf?_of_getElem? hid] at hinsert
    have hcount := hcensus.count state hcounted
    simp only [Books.record, Option.some.injEq] at hinsert ⊢
    omega
  alive other tracked hother := by
    rcases WorkingSet.insert_cases hother with ⟨_, rfl⟩ | ⟨_, hold⟩
    · exact hafter
    · exact hcensus.alive other tracked hold

theorem evict (hcensus : Census books replaced) {id : ConnectionId} {connection : Connection}
    (hid : books.connections[id]? = some connection) (table : AffinityTable) :
    Census ({ books with
      connections := books.connections.erase id
      affinity := table }.record connection.state .shutdown) replaced where
  count state hcounted := by
    have hrecord := books.tally.count_record connection.state .shutdown hcounted fun hstate =>
      hstate ▸ hcensus.count_pos hid (hstate ▸ hcounted)
    have herase := books.connections.countIn_erase id state
    rw [WorkingSet.stateOf?_of_getElem? hid] at herase
    have hshutdown : ConnectivityState.shutdown ≠ state := by
      rintro rfl
      exact hcounted
    have hcount := hcensus.count state hcounted
    rw [if_neg hshutdown] at hrecord
    simp only [Books.record, Option.some.injEq] at herase ⊢
    omega
  alive other tracked hother :=
    hcensus.alive other tracked (WorkingSet.erase_cases hother).2

end Census

theorem Effect.census {books next : Books} {operation : Pool.Operation} {granted : List Handle}
    {replaced : ConnectivityState → Nat} (heffect : Effect books operation granted next)
    (hcensus : Census books replaced) :
    Census next fun state =>
      replaced state +
        granted.countP fun handle => books.connections.stateOf? handle.id = some state := by
  cases heffect with
  | quiet _ => exact hcensus
  | tracked _ handle => simpa using hcensus.track handle
  | inserted _ hid => exact (hcensus.insert hid (Connection.state_gainBinding _)).affinity _
  | incremented _ _ hid => exact hcensus.insert hid (Connection.state_gainBinding _)
  | decremented _ hid _ => exact hcensus.insert hid (Connection.state_loseBinding _)
  | released _ hid _ => exact (hcensus.insert hid (Connection.state_loseBinding _)).affinity _
  | moved hid hstate => exact hcensus.move hid hstate
  | evicted hid => exact hcensus.evict hid _

/-- The state of the channel is derived anew by reports on tracked connections only. -/
theorem Effect.state {books next : Books} {operation : Pool.Operation} {granted : List Handle}
    (heffect : Effect books operation granted next) :
    (∀ id state, operation = .event (.stateChanged id state) → id ∈ books.connections →
        next.state = next.tally.aggregate) ∧
      ((¬ ∃ id state, operation = .event (.stateChanged id state) ∧ id ∈ books.connections) →
        next.state = books.state ∧ next.tally = books.tally) := by
  cases heffect with
  | quiet hquiet =>
      refine ⟨?_, fun _ => ⟨rfl, rfl⟩⟩
      rintro id state rfl hid
      exact absurd hid hquiet
  | tracked hcreates _ =>
      refine ⟨?_, fun _ => ⟨rfl, rfl⟩⟩
      rintro id state rfl _
      exact hcreates.elim
  | inserted _ _ | incremented _ _ _ | decremented _ _ _ | released _ _ _ =>
      exact ⟨nofun, fun _ => ⟨rfl, rfl⟩⟩
  | moved hid _ | evicted hid =>
      exact ⟨fun _ _ _ _ => rfl, fun hnone =>
        absurd ⟨_, _, rfl, WorkingSet.mem_iff.mpr ⟨_, hid⟩⟩ hnone⟩

namespace Run

theorem replaced_of_job {run : Run} {move : Move} {job : Job}
    (hjob : run.service.job? move = some job) (state : ConnectivityState) :
    (run.next move).replaced state = run.replaced state + job.replaced state := by
  rw [replaced, hjob, Option.elim_some]

theorem replaced_idle {run : Run} {move : Move} (hjob : run.service.job? move = none)
    (state : ConnectivityState) : (run.next move).replaced state = run.replaced state := by
  rw [replaced, hjob, Option.elim_none, Nat.add_zero]

/-- Nothing is replaced as long as the channel grants no identifier that is in use. -/
theorem replaced_of_fresh (run : Run) (hfresh : run.Follows Job.Fresh)
    (state : ConnectivityState) : run.replaced state = 0 := by
  induction run with
  | start config => rfl
  | next run move ih =>
      obtain ⟨hbefore, hjob⟩ := hfresh
      cases hgiven : run.service.job? move with
      | none => rw [replaced_idle hgiven, ih hbefore]
      | some job =>
          rw [replaced_of_job hgiven, ih hbefore, Nat.zero_add, Job.replaced,
            List.countP_eq_zero]
          intro handle hhandle
          have hunused := WorkingSet.not_mem_iff.mp (hjob job hgiven handle hhandle)
          simp [WorkingSet.stateOf?, hunused]

theorem hasReport_of_job {run : Run} {move : Move} {job : Job}
    (hjob : run.service.job? move = some job) :
    (run.next move).HasReport ↔ run.HasReport ∨ job.IsReport := by
  simp [HasReport, hjob]

theorem hasReport_idle {run : Run} {move : Move} (hjob : run.service.job? move = none) :
    (run.next move).HasReport ↔ run.HasReport := by
  simp [HasReport, hjob]

theorem census (run : Run) {pool : Pool} (hopen : run.service.pool = some pool) :
    Census pool.books fun state => run.replaced state := by
  induction hopen using pool_induction with
  | start config =>
      constructor
      · intro state _
        cases state <;> rfl
      · intro id connection hid
        simp [Pool.books] at hid
  | job run move job hjob heffect ih =>
      simp only [replaced_of_job hjob]
      exact heffect.census ih
  | idle run move pool hopen hjob hfront ih =>
      simpa only [replaced_idle hjob] using ih

/-- The channel is idle, with nothing counted, until the first report on a tracked connection,
and from then on its state is derived from the tally. -/
theorem state_law (run : Run) {pool : Pool} (hopen : run.service.pool = some pool) :
    (¬ run.HasReport → pool.state = .idle ∧ pool.tally = {}) ∧
      (run.HasReport → pool.state = pool.tally.aggregate) := by
  induction hopen using pool_induction with
  | start config => exact ⟨fun _ => ⟨rfl, rfl⟩, False.elim⟩
  | job run move job hjob heffect ih =>
      rw [hasReport_of_job hjob]
      obtain ⟨hreported, hsilent⟩ := heffect.state
      by_cases hreport : job.IsReport
      · refine ⟨fun hnone => absurd (.inr hreport) hnone, fun _ => ?_⟩
        obtain ⟨id, state, hoperation, hid⟩ := hreport
        exact hreported id state hoperation hid
      · obtain ⟨hstate, htally⟩ := hsilent hreport
        have hkept : job.outcome.pool.state = job.pool.state ∧
            job.outcome.pool.tally = job.pool.tally := ⟨hstate, htally⟩
        simpa only [hkept.1, hkept.2, hreport, or_false] using ih
  | idle run move pool hopen hjob hfront ih =>
      rwa [hasReport_idle hjob]

/-- Whatever identifiers the channel reuses, each counter is the number of tracked connections
in its state plus the number of those replaced in it.  No tracked connection is shut down, and
the counter that a report makes it leave stands above zero. -/
theorem tally_exact (run : Run) {pool : Pool} (hopen : run.service.pool = some pool) :
    (∀ state : ConnectivityState, state.IsCounted →
        pool.tally.count state = pool.connections.countIn state + run.replaced state) ∧
      (∀ (id : ConnectionId) (connection : Connection),
        pool.connections[id]? = some connection →
          connection.state ≠ .shutdown ∧
            (connection.state.IsCounted → 0 < pool.tally.count connection.state)) ∧
      (run.replaced .ready = 0 →
        pool.stats.readyConnections = pool.connections.countIn .ready) ∧
      (¬ run.HasReport → pool.state = .idle) ∧
      (run.HasReport →
        pool.state =
          if 0 < pool.tally.count .ready then .ready
          else if 0 < pool.tally.count .connecting then .connecting
          else .transientFailure) := by
  have hcensus := run.census hopen
  obtain ⟨hsilent, hreported⟩ := run.state_law hopen
  refine ⟨hcensus.count, ?_, ?_, fun hnone => (hsilent hnone).1, hreported⟩
  · intro id connection hid
    exact ⟨hcensus.alive id connection hid, hcensus.count_pos hid⟩
  · intro hreplaced
    have hready := hcensus.count .ready True.intro
    rw [hreplaced, Nat.add_zero] at hready
    exact hready

/-- A ready connection that is replaced stays counted, and keeps the channel ready. -/
theorem tally_exact_replaced :
    ∃ pool,
      (ofMoves {} [.grant 0 .first, .handle (.stateChanged .first .ready),
        .grant 1 .first]).service.pool = some pool ∧
        pool.tally.count .ready = 1 ∧ pool.connections.countIn .ready = 0 ∧
          pool.state = .ready := by
  let run := ofMoves {} [.grant 0 .first, .handle (.stateChanged .first .ready), .grant 1 .first]
  obtain ⟨pool, hopen⟩ : ∃ pool, run.service.pool = some pool := ⟨_, rfl⟩
  obtain ⟨hcount, _, _, _, hstate⟩ := run.tally_exact hopen
  have hready : pool.tally.count .ready = 1 := by
    cases hopen
    rfl
  have hreplaced : run.replaced .ready = 1 := by decide
  have hreport : run.HasReport := .inl (.inr ⟨_, rfl, .first, .ready, rfl, by decide⟩)
  refine ⟨pool, hopen, hready, ?_, ?_⟩
  · have hexact := hcount .ready True.intro
    omega
  · rw [hstate hreport, hready]
    rfl

end Run

end StickyRouting
