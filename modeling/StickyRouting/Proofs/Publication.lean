import StickyRouting.Proofs.Census

/-!
# The published snapshot is current

A picker is built anew only when the ready connections changed or the channel entered or left
failure.  That is often enough: as long as the channel grants no identifier that is in use,
the snapshot on the board routes over the connections that are ready at present and fails
exactly when the channel does.  Its state lags behind only where the channel went from idle to
connecting.
-/

namespace StickyRouting

theorem ConnectionId.compare_eq_lt {left right : ConnectionId} :
    compare left right = .lt ↔ left.value < right.value := by
  rw [compare_eq]
  exact Std.compare_eq_lt

theorem Picker.readyIds_eq (picker : Picker) :
    picker.readyIds = picker.entries.map ReadyConnection.id := by
  cases picker <;> rfl

/-- What a picker that is built now captures of a connection, if anything. -/
def Connection.captured? (connection : Connection) : Option ReadyConnection :=
  if connection.state.isReady then some (.ofConnection connection) else none

namespace WorkingSet

variable {connections : WorkingSet} {id : ConnectionId} {connection changed : Connection}

/-- What a picker that is built now routes over. -/
def captured (connections : WorkingSet) : List ReadyConnection :=
  (connections.list.filter fun connection => connection.state.isReady).map
    ReadyConnection.ofConnection

theorem captured_eq (connections : WorkingSet) :
    connections.captured =
      (connections.filterMap fun _ connection => connection.captured?).toList.map Prod.snd := by
  rw [Std.ExtTreeMap.toList_filterMap, captured, list, List.filter_map, List.map_map,
    List.map_filterMap, ← List.filterMap_eq_map, List.filterMap_filter]
  congr 1
  funext entry
  by_cases hready : entry.2.state.isReady <;> simp [Connection.captured?, hready]

/-- The captured connections depend on nothing but what is captured of each. -/
theorem captured_congr {left right : WorkingSet}
    (hagree : ∀ id : ConnectionId,
      (left[id]?).bind Connection.captured? = (right[id]?).bind Connection.captured?) :
    left.captured = right.captured := by
  have hmaps : left.filterMap (fun _ connection => connection.captured?) =
      right.filterMap fun _ connection => connection.captured? := by
    apply Std.ExtTreeMap.ext_getElem?
    intro id
    simpa using hagree id
  rw [captured_eq, captured_eq, hmaps]

theorem captured_insert (hid : (connections[id]?).bind Connection.captured? = changed.captured?) :
    captured (connections.insert id changed) = connections.captured := by
  apply captured_congr
  intro other
  rw [Std.ExtTreeMap.getElem?_insert]
  split
  · next heq =>
      rw [Option.bind_some, ← hid, Std.LawfulEqCmp.eq_of_compare heq]
  · rfl

theorem captured_erase (hid : (connections[id]?).bind Connection.captured? = none) :
    captured (connections.erase id) = connections.captured := by
  apply captured_congr
  intro other
  rw [Std.ExtTreeMap.getElem?_erase]
  split
  · next heq =>
      rw [Option.bind_none, ← hid, Std.LawfulEqCmp.eq_of_compare heq]
  · rfl

theorem length_captured (connections : WorkingSet) :
    connections.captured.length = connections.countIn .ready := by
  rw [captured, list, countIn, ← Std.ExtTreeMap.length_toList, Std.ExtTreeMap.toList_filter,
    List.length_map, List.filter_map, List.length_map]
  rfl

/-- Whether every connection is kept under its own identifier. -/
def Keyed (connections : WorkingSet) : Prop :=
  ∀ (id : ConnectionId) (connection : Connection),
    connections[id]? = some connection → connection.handle.id = id

theorem Keyed.insert (hkeyed : connections.Keyed) (hid : connection.handle.id = id) :
    Keyed (connections.insert id connection) := by
  intro other tracked hother
  rcases insert_cases hother with ⟨rfl, rfl⟩ | ⟨_, hold⟩
  · exact hid
  · exact hkeyed other tracked hold

theorem Keyed.change (hkeyed : connections.Keyed) (hid : connections[id]? = some connection)
    (hhandle : changed.handle = connection.handle) : Keyed (connections.insert id changed) :=
  hkeyed.insert (by rw [hhandle, hkeyed id connection hid])

theorem Keyed.erase (hkeyed : connections.Keyed) (id : ConnectionId) :
    Keyed (connections.erase id) := by
  intro other tracked hother
  exact hkeyed other tracked (erase_cases hother).2

theorem mem_captured {entry : ReadyConnection} :
    entry ∈ connections.captured ↔
      ∃ (id : ConnectionId) (connection : Connection),
        connections[id]? = some connection ∧ connection.state = .ready ∧
          ReadyConnection.ofConnection connection = entry := by
  simp only [captured, list, List.mem_map, List.mem_filter, ConnectivityState.isReady,
    decide_eq_true_eq]
  constructor
  · rintro ⟨connection, ⟨⟨⟨id, _⟩, hmem, rfl⟩, hready⟩, rfl⟩
    exact ⟨id, _, Std.ExtTreeMap.mem_toList_iff_getElem?_eq_some.mp hmem, hready, rfl⟩
  · rintro ⟨id, connection, hid, hready, rfl⟩
    have hmem := Std.ExtTreeMap.mem_toList_iff_getElem?_eq_some.mpr hid
    exact ⟨connection, ⟨⟨(id, connection), hmem, rfl⟩, hready⟩, rfl⟩

theorem Keyed.mem_captured_ids (hkeyed : connections.Keyed) :
    id ∈ connections.captured.map ReadyConnection.id ↔
      connections.stateOf? id = some .ready := by
  rw [List.mem_map, stateOf?, Option.map_eq_some_iff]
  constructor
  · rintro ⟨_, hentry, rfl⟩
    obtain ⟨id, connection, hid, hready, rfl⟩ := mem_captured.mp hentry
    have hown : (ReadyConnection.ofConnection connection).id = id := hkeyed id connection hid
    exact ⟨connection, by rw [hown, hid], hready⟩
  · rintro ⟨connection, hid, hready⟩
    exact ⟨_, mem_captured.mpr ⟨id, connection, hid, hready, rfl⟩, hkeyed id connection hid⟩

/-- The captured connections stand in the order of their identifiers. -/
theorem Keyed.captured_ascending (hkeyed : connections.Keyed) :
    connections.captured.Pairwise fun left right => compare left.id right.id = .lt := by
  have hordered : connections.toList.Pairwise fun left right =>
      compare left.2.handle.id right.2.handle.id = .lt := by
    refine connections.ordered_keys_toList.imp_of_mem ?_
    intro left right hleft hright hless
    rw [hkeyed left.1 left.2 (Std.ExtTreeMap.mem_toList_iff_getElem?_eq_some.mp hleft),
      hkeyed right.1 right.2 (Std.ExtTreeMap.mem_toList_iff_getElem?_eq_some.mp hright)]
    exact hless
  rw [captured, List.pairwise_map]
  refine List.Pairwise.filter _ ?_
  rw [list, List.pairwise_map]
  exact hordered

end WorkingSet

theorem Effect.keyed {books next : Books} {operation : Pool.Operation} {granted : List Handle}
    (heffect : Effect books operation granted next) (hkeyed : books.connections.Keyed) :
    next.connections.Keyed := by
  cases heffect with
  | quiet _ => exact hkeyed
  | tracked _ handle => exact hkeyed.insert rfl
  | inserted _ hid => exact hkeyed.change hid (Connection.handle_gainBinding _)
  | incremented _ _ hid => exact hkeyed.change hid (Connection.handle_gainBinding _)
  | decremented _ hid _ => exact hkeyed.change hid (Connection.handle_loseBinding _)
  | released _ hid _ => exact hkeyed.change hid (Connection.handle_loseBinding _)
  | moved hid _ => exact hkeyed.change hid rfl
  | evicted _ => exact hkeyed.erase _

theorem Run.keyed (run : Run) {pool : Pool} (hopen : run.service.pool = some pool) :
    pool.connections.Keyed := by
  induction hopen using pool_induction with
  | start config =>
      intro id connection hid
      simp at hid
  | job run move job hjob heffect ih => exact heffect.keyed ih
  | idle run move pool hopen hjob hfront ih => exact ih

theorem shouldRepublish_eq_false {before after aggregateBefore aggregateAfter : ConnectivityState}
    (hquiet : shouldRepublish before after aggregateBefore aggregateAfter = false) :
    before.isReady = after.isReady ∧
      (aggregateAfter = .transientFailure ↔ aggregateBefore = .transientFailure) := by
  obtain ⟨hready, hfailing⟩ := Bool.or_eq_false_iff.mp hquiet
  refine ⟨bne_eq_false_iff_eq.mp hready, ?_⟩
  have hsame := bne_eq_false_iff_eq.mp hfailing
  rw [ConnectivityState.isTransientFailure, ConnectivityState.isTransientFailure,
    decide_eq_decide] at hsame
  exact hsame.symm

theorem Pool.republishes_eq_false (pool : Pool) {id : ConnectionId} {connection : Connection}
    {state : ConnectivityState} (hid : pool.connections[id]? = some connection)
    (hquiet : pool.republishes (.event (.stateChanged id state)) = false) :
    connection.state.isReady = state.isReady ∧
      ((pool.tally.record connection.state state).aggregate = .transientFailure ↔
        pool.state = .transientFailure) := by
  rw [republishes, hid, Option.any_some] at hquiet
  exact shouldRepublish_eq_false hquiet

/-- A change that is invisible to a picker keeps what is captured. -/
theorem WorkingSet.captured_change {connections : WorkingSet} {id : ConnectionId}
    {connection changed : Connection} (hid : connections[id]? = some connection)
    (hhandle : changed.handle = connection.handle) (hmeter : changed.meter = connection.meter)
    (hready : changed.state.isReady = connection.state.isReady) :
    captured (connections.insert id changed) = connections.captured := by
  apply captured_insert
  rw [hid, Option.bind_some, Connection.captured?, Connection.captured?, hready,
    ReadyConnection.ofConnection, ReadyConnection.ofConnection, hhandle, hmeter]

/-- An operation that publishes nothing leaves the ready connections as they were, and leaves
the channel on its side of failure. -/
theorem Effect.unpublished {pool : Pool} {operation : Pool.Operation} {granted : List Handle}
    {next : Books} (heffect : Effect pool.books operation granted next)
    (hquiet : pool.republishes operation = false)
    (hfresh : ∀ handle ∈ granted, handle.id ∉ pool.connections) :
    next.connections.captured = pool.connections.captured ∧
      (next.state = .transientFailure ↔ pool.state = .transientFailure) := by
  cases heffect with
  | quiet _ => exact ⟨rfl, Iff.rfl⟩
  | tracked _ handle =>
      have hunused := WorkingSet.not_mem_iff.mp (hfresh handle List.mem_cons_self)
      refine ⟨WorkingSet.captured_insert ?_, Iff.rfl⟩
      rw [Pool.books, hunused]
      rfl
  | inserted _ hid | incremented _ _ hid =>
      refine ⟨WorkingSet.captured_change hid ?_ ?_ ?_, Iff.rfl⟩
      · exact Connection.handle_gainBinding _
      · exact Connection.meter_gainBinding _
      · rw [Connection.state_gainBinding]
  | decremented _ hid _ | released _ hid _ =>
      refine ⟨WorkingSet.captured_change hid ?_ ?_ ?_, Iff.rfl⟩
      · exact Connection.handle_loseBinding _
      · exact Connection.meter_loseBinding _
      · rw [Connection.state_loseBinding]
  | moved hid _ =>
      obtain ⟨hready, hfailing⟩ := pool.republishes_eq_false hid hquiet
      exact ⟨WorkingSet.captured_change hid rfl rfl hready.symm, hfailing⟩
  | @evicted _ connection hid =>
      obtain ⟨hready, hfailing⟩ := pool.republishes_eq_false hid hquiet
      refine ⟨WorkingSet.captured_erase ?_, hfailing⟩
      have hnone : connection.captured? = none := by
        rw [Connection.captured?, hready]
        rfl
      rw [hid, Option.bind_some, hnone]

theorem Effect.state_cases {books next : Books} {operation : Pool.Operation}
    {granted : List Handle} (heffect : Effect books operation granted next) :
    next.state = books.state ∨ next.state = next.tally.aggregate := by
  cases heffect with
  | quiet _ | tracked _ _ | inserted _ _ | incremented _ _ _ | decremented _ _ _
  | released _ _ _ => exact .inl rfl
  | moved _ _ | evicted _ => exact .inr rfl

/-! ## The invariant -/

/-- Whether a snapshot is what a pool with given books would have its pickers be. -/
structure Current (snapshot : Snapshot) (books : Books) : Prop where
  failing : snapshot.picker = .failing .transientFailure ↔ books.state = .transientFailure
  entries : snapshot.picker.entries = books.connections.captured
  state : snapshot.state = books.state ∨ snapshot.state = .idle ∧ books.state = .connecting

theorem Tally.aggregate_cases (tally : Tally) :
    tally.aggregate = .ready ∨ tally.aggregate = .connecting ∨
      tally.aggregate = .transientFailure := by
  rw [aggregate]
  split
  · exact .inl rfl
  · split
    · exact .inr (.inl rfl)
    · exact .inr (.inr rfl)

theorem Tally.aggregate_eq_ready {tally : Tally} :
    tally.aggregate = .ready ↔ 0 < tally.ready := by
  rw [aggregate]
  split
  · next hready => exact iff_of_true rfl hready
  · next hready =>
      refine iff_of_false ?_ hready
      split <;> exact nofun

theorem Current.keep {snapshot : Snapshot} {books next : Books}
    (hcurrent : Current snapshot books)
    (hcaptured : next.connections.captured = books.connections.captured)
    (hfailing : next.state = .transientFailure ↔ books.state = .transientFailure)
    (hstate : next.state = books.state ∨ books.state = .idle ∧ next.state = .connecting) :
    Current snapshot next where
  failing := hcurrent.failing.trans hfailing.symm
  entries := hcurrent.entries.trans hcaptured.symm
  state := by
    rcases hstate with hsame | ⟨hidle, hconnecting⟩
    · rw [hsame]
      exact hcurrent.state
    · rcases hcurrent.state with hequal | ⟨_, hwas⟩
      · exact .inr ⟨hequal.trans hidle, hconnecting⟩
      · rw [hidle] at hwas
        cases hwas

/-- A pool whose ready connections keep it from failing publishes what is current. -/
theorem Pool.snapshot_current (pool : Pool)
    (hready : pool.state = .transientFailure → pool.connections.captured = []) :
    Current pool.snapshot pool.books where
  failing := by
    by_cases hstate : pool.state = .transientFailure
    · simp [snapshot, picker, ConnectivityState.isTransientFailure, books, hstate]
    · simp [snapshot, picker, ConnectivityState.isTransientFailure, books, hstate]
  entries := by
    by_cases hstate : pool.state = .transientFailure
    · simp [snapshot, picker, ConnectivityState.isTransientFailure, books, hstate,
        Picker.entries, hready hstate]
    · simp [snapshot, picker, ConnectivityState.isTransientFailure, books, hstate,
        Picker.entries]
      rfl
  state := .inl rfl

namespace Run

theorem state_cases (run : Run) {pool : Pool} (hopen : run.service.pool = some pool) :
    pool.state = .idle ∨ pool.state = pool.tally.aggregate := by
  obtain ⟨hsilent, hreported⟩ := run.state_law hopen
  by_cases hreport : run.HasReport
  · exact .inr (hreported hreport)
  · exact .inl (hsilent hreport).1

theorem ready_iff (run : Run) (hfresh : run.Follows Job.Fresh) {pool : Pool}
    (hopen : run.service.pool = some pool) :
    pool.state = .ready ↔ pool.connections.captured ≠ [] := by
  have hcount : pool.tally.ready = pool.connections.captured.length := by
    calc
      pool.tally.ready = pool.connections.countIn .ready + run.replaced .ready :=
        (run.census hopen).count .ready True.intro
      _ = pool.connections.countIn .ready := by
        rw [run.replaced_of_fresh hfresh, Nat.add_zero]
      _ = pool.connections.captured.length := by rw [WorkingSet.length_captured]
  rw [← List.length_pos_iff, ← hcount]
  obtain ⟨hsilent, hreported⟩ := run.state_law hopen
  by_cases hreport : run.HasReport
  · rw [hreported hreport]
    exact Tally.aggregate_eq_ready
  · rw [(hsilent hreport).1, (hsilent hreport).2]
    exact iff_of_false nofun (Nat.lt_irrefl 0)

/-- A job that publishes nothing takes the channel from idle to connecting at most. -/
theorem state_unpublished (run : Run) {move : Move} {job : Job}
    (hjob : run.service.job? move = some job) (hfresh : (run.next move).Follows Job.Fresh)
    (hcaptured : job.outcome.pool.connections.captured = job.pool.connections.captured)
    (hfailing : job.outcome.pool.state = .transientFailure ↔
      job.pool.state = .transientFailure) :
    job.outcome.pool.state = job.pool.state ∨
      job.pool.state = .idle ∧ job.outcome.pool.state = .connecting := by
  have hbefore := Service.pool_of_job hjob
  have hready : job.outcome.pool.state = .ready ↔ job.pool.state = .ready := by
    rw [(run.next move).ready_iff hfresh (Service.step_of_job hjob).1,
      run.ready_iff hfresh.1 hbefore, hcaptured]
  rcases (run.effect hjob).state_cases with hsame | haggregate
  · exact .inl hsame
  · change job.outcome.pool.state = job.outcome.pool.tally.aggregate at haggregate
    rcases Tally.aggregate_cases job.outcome.pool.tally with hcase | hcase | hcase
    · rw [hcase] at haggregate
      exact .inl (haggregate.trans (hready.mp haggregate).symm)
    · rw [hcase] at haggregate
      rcases run.state_cases hbefore with hidle | hwas
      · exact .inr ⟨hidle, haggregate⟩
      · rcases Tally.aggregate_cases job.pool.tally with hold | hold | hold
        · rw [hready.mpr (hwas.trans hold)] at haggregate
          cases haggregate
        · exact .inl (haggregate.trans (hwas.trans hold).symm)
        · rw [hfailing.mpr (hwas.trans hold)] at haggregate
          cases haggregate
    · rw [hcase] at haggregate
      exact .inl (haggregate.trans (hfailing.mp haggregate).symm)

theorem snapshot_of_job {run : Run} {move : Move} {job : Job}
    (hjob : run.service.job? move = some job) :
    (run.next move).service.board.snapshot =
      job.outcome.stored.getLastD run.service.board.snapshot := by
  rw [service, (Service.step_of_job hjob).2.1, Board.snapshot_applyAll]
  rfl

/-- The snapshot on the board of an open pool is current, as long as the channel grants no
identifier that is in use. -/
theorem current (run : Run) (hfresh : run.Follows Job.Fresh) {pool : Pool}
    (hopen : run.service.pool = some pool) :
    Current run.service.board.snapshot pool.books := by
  induction hopen using pool_induction with
  | start config => exact ⟨iff_of_false nofun nofun, rfl, .inl rfl⟩
  | job run move job hjob heffect ih =>
      rw [snapshot_of_job hjob, Job.outcome, Pool.stored_operate]
      split
      · have hready := (run.next move).ready_iff hfresh (Service.step_of_job hjob).1
        refine Pool.snapshot_current
          { job.outcome.pool with nextRouter := job.pool.nextRouter } fun hfailing => ?_
        change job.outcome.pool.state = .transientFailure at hfailing
        rw [hfailing] at hready
        by_cases hnone : job.outcome.pool.connections.captured = []
        · exact hnone
        · exact absurd (hready.mpr hnone) nofun
      · next hquiet =>
          obtain ⟨hcaptured, hfailing⟩ := heffect.unpublished (Bool.eq_false_iff.mpr hquiet)
            (hfresh.2 job hjob)
          exact (ih hfresh.1).keep hcaptured hfailing
            (run.state_unpublished hjob hfresh hcaptured hfailing)
  | idle run move pool hopen hjob hfront ih =>
      rw [service, hfront.snapshot]
      exact ih hfresh.1

/-- The board of an open pool shows what the channel was told last. -/
theorem snapshot_reported (run : Run) {pool : Pool} (hopen : run.service.pool = some pool) :
    run.service.board.snapshot = run.service.reported.getLastD .initial := by
  induction hopen using pool_induction with
  | start config => rfl
  | job run move job hjob heffect ih =>
      rw [snapshot_of_job hjob, service, Service.reported_of_job hjob, Job.outcome,
        Pool.reported_operate, Pool.stored_operate]
      split
      · rw [List.getLastD_concat]
        rfl
      · rw [List.append_nil]
        exact ih
  | idle run move pool hopen hjob hfront ih =>
      rw [service, hfront.snapshot, Service.reported, hfront.actions]
      exact ih

/-- As long as the channel grants no identifier that is in use, the snapshot on the board is
current after every move.  It fails exactly when the channel does, routes over exactly the ready
connections with their present handles and meters, and is what the channel was told last.  Its
state is that of the channel, or idle where the channel has gone on to connecting. -/
theorem published_current (run : Run) (hfresh : run.Follows Job.Fresh) {pool : Pool}
    (hopen : run.service.pool = some pool) :
    let snapshot := run.service.board.snapshot
    (snapshot.picker = .failing .transientFailure ↔ pool.state = .transientFailure) ∧
      snapshot.picker.readyIds.Pairwise (fun left right => left.value < right.value) ∧
      (∀ id : ConnectionId,
        id ∈ snapshot.picker.readyIds ↔ pool.connections.stateOf? id = some .ready) ∧
      (∀ entry ∈ snapshot.picker.entries, ∃ connection,
        pool.connections[entry.id]? = some connection ∧
          entry.handle = connection.handle ∧ entry.meter = connection.meter) ∧
      (snapshot.state = pool.state ∨ snapshot.state = .idle ∧ pool.state = .connecting) ∧
      snapshot = run.service.reported.getLastD .initial := by
  have hcurrent := run.current hfresh hopen
  have hkeyed := run.keyed hopen
  refine ⟨hcurrent.failing, ?_, ?_, ?_, hcurrent.state, run.snapshot_reported hopen⟩
  · rw [Picker.readyIds_eq, hcurrent.entries, List.pairwise_map]
    exact hkeyed.captured_ascending.imp ConnectionId.compare_eq_lt.mp
  · intro id
    rw [Picker.readyIds_eq, hcurrent.entries]
    exact hkeyed.mem_captured_ids
  · intro entry hentry
    rw [hcurrent.entries] at hentry
    obtain ⟨id, connection, hid, _, rfl⟩ := WorkingSet.mem_captured.mp hentry
    have hown : (ReadyConnection.ofConnection connection).id = id := hkeyed id connection hid
    rw [hown]
    exact ⟨connection, hid, rfl, rfl⟩

/-- An identifier is granted again after its connection has shut down.  The picker routes over
the new connection, and the idle one that was granted after it was built is not ready. -/
theorem published_current_regranted :
    let second : ConnectionId := ⟨2, by decide⟩
    let run := ofMoves {} [.grant 0 .first, .handle (.stateChanged .first .ready),
      .handle (.stateChanged .first .shutdown), .grant 1 .first,
      .handle (.stateChanged .first .connecting), .handle (.stateChanged .first .ready),
      .grant 2 second]
    ∃ pool, run.service.pool = some pool ∧ run.Follows Job.Fresh ∧
      run.service.board.snapshot.picker.entries = [⟨⟨1, .first⟩, 1⟩] ∧
        pool.connections.stateOf? .first = some .ready ∧
          pool.connections.stateOf? second ≠ some .ready ∧ pool.state ≠ .transientFailure := by
  intro second run
  obtain ⟨pool, hopen⟩ : ∃ pool, run.service.pool = some pool := ⟨_, rfl⟩
  have hfresh : run.Follows Job.Fresh := by decide
  have hentries : run.service.board.snapshot.picker.entries = [⟨⟨1, .first⟩, 1⟩] := by decide
  obtain ⟨hfailing, _, hready, _⟩ := run.published_current hfresh hopen
  have hids : run.service.board.snapshot.picker.readyIds = [.first] := by
    rw [Picker.readyIds_eq, hentries]
    rfl
  simp only [hids, List.mem_singleton] at hready
  refine ⟨pool, hopen, hfresh, hentries, (hready .first).mp rfl, ?_, ?_⟩
  · intro hsecond
    exact absurd ((hready second).mpr hsecond) (by decide)
  · rw [ne_eq, ← hfailing]
    decide

end Run

end StickyRouting
