import StickyRouting.Proofs.Calls
import StickyRouting.Proofs.Streams
import StickyRouting.Proofs.Tracking

/-!
# A shutdown is final

A connection that shuts down leaves the working set together with its keys, and what is not in the
working set comes back in one way only: the channel grants a handle with its identifier.  Until
then reports, binds, picks on old pickers and whatever else still names the connection find nothing
to work on.  No picker that is built captures it, no key is bound to it and nobody calls its handle.
-/

namespace StickyRouting

/-- What is not tracked stays so unless the channel grants its identifier. -/
theorem Effect.untracked {books next : Books} {operation : Pool.Operation} {granted : List Handle}
    (heffect : Effect books operation granted next) {id : ConnectionId}
    (hid : id ∉ books.connections) (hgranted : ∀ handle ∈ granted, handle.id ≠ id) :
    id ∉ next.connections := by
  cases heffect with
  | quiet _ => exact hid
  | tracked _ handle =>
      have hne := hgranted handle List.mem_cons_self
      simpa [Books.track, hne] using hid
  | inserted _ hother | incremented _ _ hother | decremented _ hother _ | released _ hother _ =>
      have htracked := WorkingSet.mem_iff.mpr ⟨_, hother⟩
      have hne : _ ≠ id := fun hsame => hid (hsame ▸ htracked)
      simpa [hne] using hid
  | moved hother _ =>
      have htracked := WorkingSet.mem_iff.mpr ⟨_, hother⟩
      have hne : _ ≠ id := fun hsame => hid (hsame ▸ htracked)
      simpa [Books.record, hne] using hid
  | evicted _ => exact fun hnext => hid (Std.ExtTreeMap.mem_of_mem_erase hnext)

/-- A shutdown takes the connection and its keys away, and nothing else. -/
theorem Effect.shut {books next : Books} {granted : List Handle} {id : ConnectionId}
    (heffect : Effect books (.event (.stateChanged id .shutdown)) granted next)
    (hid : id ∈ books.connections) :
    next.connections = books.connections.erase id ∧ next.affinity = books.affinity.purge id ∧
      granted = [] := by
  cases heffect with
  | quiet hquiet => exact absurd hid hquiet
  | tracked hcreates _ => exact hcreates.elim
  | moved _ hstate => exact absurd rfl hstate
  | evicted _ => exact ⟨rfl, rfl, rfl⟩

namespace Pool

/-- Whether an event is about a given connection and nothing else: a report of its state, or a bind
to it of a key that is not bound. -/
def NamesOnly (pool : Pool) (id : ConnectionId) : Event → Prop
  | .stateChanged changed _ => changed = id
  | .bind key requested => requested = id ∧ pool.affinity[key]? = none
  | .resolved _ | .unbind _ | .scaleUp => False

/-- An event about a connection that is not tracked is noted and does nothing. -/
theorem handle_untracked (pool : Pool) {id : ConnectionId} (hid : id ∉ pool.connections)
    {event : Event} (hnames : pool.NamesOnly id event) (answer : Answer) :
    ∃ notice, pool.handle event answer = ⟨pool, [.note notice]⟩ := by
  have hnone := WorkingSet.not_mem_iff.mp hid
  cases event with
  | stateChanged changed state =>
      subst hnames
      refine ⟨.unknownConnectionChanged changed state, ?_⟩
      simp only [handle, changeState, hnone]
  | bind key requested =>
      obtain ⟨rfl, hkey⟩ := hnames
      refine ⟨.bindRefused key (.unknownConnection requested), ?_⟩
      simp only [handle, bind, AffinityTable.bind_unknown hkey hnone]
      rfl
  | resolved _ | unbind _ | scaleUp => exact hnames.elim

/-- A picker that an operation publishes for a pool does not route over what the pool leaves
untracked. -/
theorem not_mem_publication (pool : Pool) {step : PoolStep} (hkeyed : step.pool.connections.Keyed)
    {id : ConnectionId} (hid : id ∉ step.pool.connections) :
    id ∉ (pool.publication step).picker.readyIds := by
  rw [Picker.readyIds_eq]
  intro hready
  obtain ⟨entry, hentry, hown⟩ := List.mem_map.mp hready
  have hcaptured : id ∈ step.pool.connections.captured.map ReadyConnection.id :=
    List.mem_map.mpr ⟨entry, pool.entries_publication step hentry, hown⟩
  obtain ⟨connection, htracked, _⟩ :=
    Option.map_eq_some_iff.mp (hkeyed.mem_captured_ids.mp hcaptured)
  exact hid (WorkingSet.mem_iff.mpr ⟨connection, htracked⟩)

end Pool

/-- The handles that a job calls carry other identifiers than one that is neither tracked nor
granted. -/
theorem Job.called_ne {job : Job} (hkeyed : job.pool.connections.Keyed) {id : ConnectionId}
    (hid : id ∉ job.pool.connections) (hgranted : ∀ handle ∈ job.outcome.granted, handle.id ≠ id)
    {handle : Handle} (hcalled : handle ∈ job.outcome.called) : handle.id ≠ id := by
  rcases job.pool.called_operate hcalled with ⟨other, connection, hother, rfl⟩ | hnew
  · rw [hkeyed other connection hother]
    rintro rfl
    exact hid (WorkingSet.mem_iff.mpr ⟨connection, hother⟩)
  · exact hgranted handle hnew

/-- Whether a service has gone on from another one without a connection: it does not track the
connection, has published no picker that routes over it, and has not called it. -/
structure Service.WentOn (earlier later : Service) (id : ConnectionId) : Prop where
  untracked : ∀ pool, later.pool = some pool → id ∉ pool.connections
  published : ∃ new, later.published = earlier.published ++ new ∧
    ∀ picker ∈ new, id ∉ picker.readyIds
  called : ∃ new, later.called = earlier.called ++ new ∧ ∀ handle ∈ new, handle.id ≠ id

namespace Run

/-- The runs that go on from a run without the channel granting a handle with a given
identifier. -/
inductive Without (run : Run) (id : ConnectionId) : Run → Prop
  | refl : run.Without id run
  | next {later : Run} {move : Move} (hlater : run.Without id later)
      (hgranted : ∀ job ∈ later.service.job? move, ∀ handle ∈ job.outcome.granted,
        handle.id ≠ id) : run.Without id (later.next move)

/-- The move that reports the shutdown of a connection, and each move after it that grants no
handle with its identifier, goes on without it. -/
theorem wentOn_next {earlier : Service} (run : Run) {move : Move} {id : ConnectionId}
    (hpublished : ∃ new, run.service.published = earlier.published ++ new ∧
      ∀ picker ∈ new, id ∉ picker.readyIds)
    (hcalled : ∃ new, run.service.called = earlier.called ++ new ∧
      ∀ handle ∈ new, handle.id ≠ id)
    (huntracked : ∀ pool, (run.next move).service.pool = some pool → id ∉ pool.connections)
    (hcalls : ∀ job ∈ run.service.job? move, ∀ handle ∈ job.outcome.called, handle.id ≠ id) :
    earlier.WentOn (run.next move).service id := by
  obtain ⟨pickers, hpickers, hpicker⟩ := hpublished
  obtain ⟨handles, hhandles, hhandle⟩ := hcalled
  obtain ⟨newPickers, hnewPickers, hnewPicker⟩ := run.service.published_step move
  obtain ⟨newHandles, hnewHandles, hnewHandle⟩ := run.service.called_step move
  refine ⟨huntracked, ⟨pickers ++ newPickers, ?_, ?_⟩, ⟨handles ++ newHandles, ?_, ?_⟩⟩
  · rw [service, hnewPickers, hpickers, List.append_assoc]
  · intro picker hmem
    rcases List.mem_append.mp hmem with hold | hnew
    · exact hpicker picker hold
    · rcases hnewPicker picker hnew with rfl | ⟨job, hjob, rfl⟩
      · exact List.not_mem_nil
      · have hopen := (Service.step_of_job hjob).1
        exact job.pool.not_mem_publication ((run.next move).keyed hopen) (huntracked _ hopen)
  · rw [service, hnewHandles, hhandles, List.append_assoc]
  · intro handle hmem
    rcases List.mem_append.mp hmem with hold | hnew
    · exact hhandle handle hold
    · obtain ⟨job, hjob, hcalled⟩ := hnewHandle handle hnew
      exact hcalls job hjob handle hcalled

theorem wentOn_of_without {run : Run} {move : Move} {job : Job} {id : ConnectionId}
    (hjob : run.service.job? move = some job) (hdown : job.ShutsDown id)
    (hid : id ∈ job.pool.connections) {later : Run} (hlater : (run.next move).Without id later) :
    run.service.WentOn later.service id := by
  induction hlater with
  | refl =>
      refine run.wentOn_next ⟨[], (List.append_nil _).symm, nofun⟩
        ⟨[], (List.append_nil _).symm, nofun⟩ ?_ ?_
      · intro pool hopen
        rw [service, (Service.step_of_job hjob).1] at hopen
        have heffect := run.effect hjob
        rw [hdown] at heffect
        rw [← Option.some.inj hopen]
        intro htracked
        have herase : job.outcome.pool.connections = job.pool.connections.erase id :=
          (heffect.shut hid).1
        rw [herase] at htracked
        simp at htracked
      · intro given hgiven handle hcalled
        rw [hjob] at hgiven
        cases hgiven
        rw [Job.outcome, hdown, Pool.operate, Pool.handle, Pool.called_changeState] at hcalled
        cases hcalled
  | @next later following _ hgranted ih =>
      refine later.wentOn_next ih.published ih.called ?_ ?_
      · intro pool hopen
        rcases Service.step_cases hopen with ⟨given, hgiven, rfl⟩ | ⟨_, hpool, _⟩
        · exact (later.effect hgiven).untracked
            (ih.untracked _ (Service.pool_of_job hgiven)) (hgranted given hgiven)
        · exact ih.untracked pool hpool
      · intro given hgiven handle hcalled
        have hopen := Service.pool_of_job hgiven
        exact Job.called_ne (later.keyed hopen) (ih.untracked _ hopen) (hgranted given hgiven)
          hcalled

/-- The report that a ready connection has shut down publishes a picker without it. -/
theorem not_mem_snapshot_of_shutdown {run : Run} {move : Move} {job : Job} {id : ConnectionId}
    {connection : Connection} (hjob : run.service.job? move = some job) (hdown : job.ShutsDown id)
    (hid : job.pool.connections[id]? = some connection) (hready : connection.state = .ready)
    (huntracked : id ∉ job.outcome.pool.connections) :
    id ∉ (run.next move).service.board.snapshot.picker.readyIds := by
  have hpublish : job.pool.republishes job.operation = true := by
    rw [hdown, Pool.republishes, hid, Option.any_some, hready]
    rfl
  rw [snapshot_of_job hjob, Job.outcome, Pool.stored_operate, if_pos hpublish]
  exact job.pool.not_mem_publication ((run.next move).keyed (Service.step_of_job hjob).1) huntracked

/-- The report that a tracked connection has shut down takes it and its keys away, on the board too,
and a picker without it is published if it was ready.  From then on, until the channel grants its
identifier again, the connection is not tracked, no key is bound to it, no picker that is published
routes over it, and no handle with its identifier is called.  An event about this connection alone
leaves everything as it is, but for a notice. -/
theorem shutdown_final (run : Run) {move : Move} {job : Job} {id : ConnectionId}
    {connection : Connection} (hjob : run.service.job? move = some job) (hdown : job.ShutsDown id)
    (hid : job.pool.connections[id]? = some connection) :
    (job.outcome.pool.connections = job.pool.connections.erase id ∧
        job.outcome.pool.affinity = job.pool.affinity.purge id ∧
        (run.next move).service.board.bindings = job.pool.affinity.purge id) ∧
      (connection.state = .ready →
        id ∉ (run.next move).service.board.snapshot.picker.readyIds) ∧
      connection.handle.id = id ∧
      ∀ later, (run.next move).Without id later →
        (∀ pool, later.service.pool = some pool →
          id ∉ pool.connections ∧ (∀ key : String, pool.affinity[key]? ≠ some id) ∧
            ∀ event, pool.NamesOnly id event → ∀ answer, ∃ notice,
              later.service.carryOut ⟨pool, .event event, answer⟩ =
                { later.service with actions := later.service.actions ++ [.note notice] }) ∧
          (∀ key : String, later.service.board.bindings[key]? ≠ some id) ∧
          (∀ picker ∈ later.service.published.drop run.service.published.length,
            id ∉ picker.readyIds) ∧
          ∀ handle ∈ later.service.called.drop run.service.called.length, handle.id ≠ id := by
  have htracked : id ∈ job.pool.connections := WorkingSet.mem_iff.mpr ⟨connection, hid⟩
  have hnext := (Service.step_of_job hjob).1
  have heffect := run.effect hjob
  rw [hdown] at heffect
  obtain ⟨hconnections, haffinity, _⟩ := heffect.shut htracked
  have hpurged : job.outcome.pool.affinity = job.pool.affinity.purge id := haffinity
  have hgone := wentOn_of_without hjob hdown htracked .refl
  refine ⟨⟨hconnections, hpurged, ?_⟩, fun hready => ?_, ?_, fun later hlater => ?_⟩
  · rw [(run.next move).bindings_eq hnext, hpurged]
  · exact not_mem_snapshot_of_shutdown hjob hdown hid hready (hgone.untracked _ hnext)
  · exact run.keyed (Service.pool_of_job hjob) id connection hid
  · have hwent := wentOn_of_without hjob hdown htracked hlater
    -- Bound keys lead to tracked connections, and this one is not tracked any more.
    have hunbound (pool : Pool) (hopen : later.service.pool = some pool) (key : String) :
        pool.affinity[key]? ≠ some id := fun hkey =>
      hwent.untracked pool hopen (later.anchored hopen key id hkey)
    refine ⟨fun pool hopen => ⟨hwent.untracked pool hopen, hunbound pool hopen, ?_⟩, ?_, ?_, ?_⟩
    · intro event hnames answer
      obtain ⟨notice, hhandle⟩ :=
        pool.handle_untracked (hwent.untracked pool hopen) hnames answer
      refine ⟨notice, ?_⟩
      rw [Service.carryOut, Job.outcome, Pool.operate, hhandle, ← hopen]
      rfl
    · intro key hkey
      cases hopen : later.service.pool with
      | none =>
          rw [later.bindings_closed hopen] at hkey
          simp at hkey
      | some pool =>
          rw [later.bindings_eq hopen] at hkey
          exact hunbound pool hopen key hkey
    · obtain ⟨new, hpublished, hnew⟩ := hwent.published
      rw [hpublished, List.drop_left]
      exact hnew
    · obtain ⟨new, hcalled, hnew⟩ := hwent.called
      rw [hcalled, List.drop_left]
      exact hnew

/-- A pick that is held on a connection while it shuts down binds a key afterwards.  The bind finds
nothing, a late report is noted, and the picker for a connection that is granted later does not
route over the old one. -/
theorem shutdown_final_held :
    let second : ConnectionId := ⟨2, by decide⟩
    let run := ofMoves {} [.grant 0 .first, .handle (.stateChanged .first .ready),
      .handle (.bind "key" .first), .pick 1 0 { key := some "late", command := .bind }]
    let down := run.next (.handle (.stateChanged .first .shutdown))
    let late := ((down.next (.settle 0 {})).next .drain).next
      (.handle (.stateChanged .first .ready))
    let later := (late.next (.grant 1 second)).next (.handle (.stateChanged second .ready))
    ∃ job pool, run.service.job? (.handle (.stateChanged .first .shutdown)) = some job ∧
      job.ShutsDown .first ∧ .first ∈ job.pool.connections ∧ down.Without .first later ∧
        later.service.pool = some pool ∧ .first ∉ pool.connections ∧
          run.service.board.bindings["key"]? = some .first ∧
            down.service.board.bindings["key"]? ≠ some .first ∧
              later.service.board.bindings["late"]? ≠ some .first ∧
                .first ∉ down.service.board.snapshot.picker.readyIds ∧
                  (∃ picker ∈ later.service.published.drop run.service.published.length,
                    picker.readyIds = [second] ∧ .first ∉ picker.readyIds) ∧
                    ∀ handle ∈ later.service.called.drop run.service.called.length,
                      handle.id ≠ .first := by
  intro second run down late later
  let move : Move := .handle (.stateChanged .first .shutdown)
  obtain ⟨job, hjob⟩ : ∃ job, run.service.job? move = some job := ⟨_, rfl⟩
  obtain ⟨pool, hopen⟩ : ∃ pool, later.service.pool = some pool := ⟨_, rfl⟩
  have hdown : job.ShutsDown .first := by
    cases hjob
    rfl
  obtain ⟨connection, hid, hready⟩ : ∃ connection,
      job.pool.connections[ConnectionId.first]? = some connection ∧ connection.state = .ready := by
    cases hjob
    exact ⟨_, rfl, rfl⟩
  have hlater : down.Without .first later := by
    have hlate : down.Without .first late :=
      .next (.next (.next .refl (by decide)) (by decide +kernel)) (by decide +kernel)
    exact .next (.next hlate (by decide)) (by decide +kernel)
  obtain ⟨_, hsnapshot, _, hfinal⟩ := run.shutdown_final hjob hdown hid
  obtain ⟨hpool, hbindings, hpickers, hcalls⟩ := hfinal later hlater
  refine ⟨job, pool, hjob, hdown, WorkingSet.mem_iff.mpr ⟨connection, hid⟩, hlater, hopen,
    (hpool pool hopen).1, by decide, (hfinal down .refl).2.1 "key", hbindings "late",
    hsnapshot hready, ?_, hcalls⟩
  obtain ⟨picker, hpicker, hids⟩ : ∃ picker ∈
      later.service.published.drop run.service.published.length, picker.readyIds = [second] := by
    decide +kernel
  exact ⟨picker, hpicker, hids, hpickers picker hpicker⟩

end Run

end StickyRouting
