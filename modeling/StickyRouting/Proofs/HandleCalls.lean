import StickyRouting.Proofs.ConnectCounts

/-!
# The calls on handles

A handle is told of addresses and asked to connect for as long as it is in the working set, and both
end when it leaves, even where its identifier is in use again.
-/

namespace StickyRouting.Run

/-- A handle that has left the working set neither comes back nor is called, as long as the channel
does not grant it again. -/
theorem left_next (run : Run) {move : Move} {handle : Handle}
    (hgranted : handle ∈ run.service.granted) (hnew : (run.next move).service.granted.Nodup)
    (hleft : ∀ pool, run.service.pool = some pool → ¬ pool.Tracks handle) :
    (∀ pool, (run.next move).service.pool = some pool → ¬ pool.Tracks handle) ∧
      ∀ job, run.service.job? move = some job → handle ∉ job.outcome.called := by
  have hother {job : Job} (hjob : run.service.job? move = some job) :
      handle ∉ job.outcome.granted := by
    rw [service, Service.granted_of_job hjob] at hnew
    exact List.disjoint_of_nodup_append hnew hgranted
  constructor
  · intro pool hopen htracked
    rcases Service.step_cases hopen with ⟨job, hjob, rfl⟩ | ⟨_, hpool, _⟩
    · rcases ((run.effect hjob).handleOf?_iff handle.id handle).mp htracked with
        ⟨hagain, _⟩ | ⟨hbefore, _⟩
      · exact hother hjob hagain
      · exact hleft job.pool (Service.pool_of_job hjob) hbefore
    · exact hleft pool hpool htracked
  · intro job hjob hcalled
    rcases job.pool.called_operate hcalled with ⟨id, connection, hid, rfl⟩ | hagain
    · have hown := run.keyed (Service.pool_of_job hjob) id connection hid
      apply hleft job.pool (Service.pool_of_job hjob)
      rw [Pool.Tracks, WorkingSet.handleOf?, hown, hid, Option.map_some]
    · exact hother hjob hagain

theorem granted_next (run : Run) (move : Move) :
    ∃ new, (run.next move).service.granted = run.service.granted ++ new := by
  cases hjob : run.service.job? move with
  | none => exact ⟨[], by rw [service, Service.granted_idle hjob, List.append_nil]⟩
  | some job => exact ⟨job.outcome.granted, Service.granted_of_job hjob⟩

/-- Whatever happens to a pool, a handle that has left the working set is not called again. -/
theorem left_moves (run : Run) {handle : Handle} (hgranted : handle ∈ run.service.granted)
    (hleft : ∀ pool, run.service.pool = some pool → ¬ pool.Tracks handle) (moves : List Move)
    (hnew : (moves.foldl next run).service.granted.Nodup) :
    (∀ pool, (moves.foldl next run).service.pool = some pool → ¬ pool.Tracks handle) ∧
      handle ∈ (moves.foldl next run).service.granted ∧
      ∃ new, (moves.foldl next run).service.called = run.service.called ++ new ∧
        handle ∉ new := by
  induction moves using List.reverseRecOn with
  | nil => exact ⟨hleft, hgranted, [], (List.append_nil _).symm, List.not_mem_nil⟩
  | append_singleton moves move ih =>
      rw [List.foldl_concat] at hnew ⊢
      obtain ⟨more, hmore⟩ := granted_next (moves.foldl next run) move
      obtain ⟨hbefore, hstill, calls, hcalls, hnone⟩ := ih (hmore ▸ hnew).of_append_left
      obtain ⟨hafter, hcalled⟩ := left_next _ hstill hnew hbefore
      obtain ⟨new, hstep, hjobs⟩ := (moves.foldl next run).service.called_step move
      refine ⟨hafter, ?_, calls ++ new, ?_, ?_⟩
      · rw [hmore]
        exact List.mem_append_left _ hstill
      · rw [service, hstep, hcalls, List.append_assoc]
      · rw [List.mem_append]
        rintro (hold | hagain)
        · exact hnone hold
        · obtain ⟨job, hjob, hmem⟩ := hjobs handle hagain
          exact hcalled job hjob hmem

theorem mem_granted_of_tracked (run : Run) {pool : Pool} (hopen : run.service.pool = some pool)
    {handle : Handle} (htracked : pool.Tracks handle) : handle ∈ run.service.granted := by
  obtain ⟨connection, hid, rfl⟩ := Option.map_eq_some_iff.mp htracked
  exact List.mem_of_getElem? ((run.created_of_tracked hopen).2 _ connection hid)

/-- Every tracked connection was given the current addresses last, which are those that the
resolver brought last.  It was asked to connect once when it was created, once with all news from
the resolver since, and once for each report that it is idle.  A failure of the resolver changes
nothing.  A handle that has left the working set, by a shutdown or because another one took its
identifier, neither comes back nor is ever called again, as long as the channel grants no handle
twice. -/
theorem upkeep_exact (run : Run) (hnew : run.service.granted.Nodup) :
    (∀ pool, run.service.pool = some pool →
        pool.addresses = run.resolved.getLastD [] ∧
        ∀ (id : ConnectionId) (handle : Handle), pool.connections.handleOf? id = some handle →
          (run.service.givenTo handle).getLast? = some pool.addresses ∧
          run.service.connected.count handle =
            1 + run.countJobs (Job.Refreshes handle) +
              run.countJobs (Job.ReportsIdle handle)) ∧
      (∀ (move : Move) (job : Job) (error : Error), run.service.job? move = some job →
        job.operation = .event (.resolved (.failed error)) →
          (run.next move).service.pool = run.service.pool ∧
            (run.next move).service.called = run.service.called) ∧
      ∀ handle ∈ run.service.granted,
        (∀ pool, run.service.pool = some pool →
          ∀ id, pool.connections.handleOf? id ≠ some handle) →
        ∀ moves : List Move, (moves.foldl next run).service.granted.Nodup →
          (∀ pool, (moves.foldl next run).service.pool = some pool →
            ∀ id, pool.connections.handleOf? id ≠ some handle) ∧
          ∃ new, (moves.foldl next run).service.called = run.service.called ++ new ∧
            handle ∉ new := by
  refine ⟨fun pool hopen => ⟨run.addresses_eq hopen, fun id handle hid => ?_⟩, ?_, ?_⟩
  · obtain rfl := (run.keyed hopen).eq_of_handleOf? hid
    have hone := List.count_eq_one_of_mem hnew (run.mem_granted_of_tracked hopen hid)
    exact ⟨run.getLast?_givenTo hopen hid, by rw [run.count_connected, hone]⟩
  · intro move job error hjob hfailed
    have houtcome : job.outcome = ⟨job.pool, [.note (.resolverFailed error)]⟩ := by
      rw [Job.outcome, hfailed]
      rfl
    constructor
    · rw [service, (Service.step_of_job hjob).1, houtcome, Service.pool_of_job hjob]
    · rw [service, Service.called, Service.observe_of_job Action.called? hjob, houtcome]
      exact List.append_nil _
  · intro handle hgranted hleft moves hlater
    obtain ⟨hafter, _, hcalled⟩ := run.left_moves hgranted
      (fun pool hopen => hleft pool hopen handle.id) moves hlater
    refine ⟨fun pool hopen id hid => ?_, hcalled⟩
    obtain rfl := (keyed _ hopen).eq_of_handleOf? hid
    exact hafter pool hopen hid

/-- The first connection is replaced by one with its identifier, between a failed creation and a
report that is about the successor.  The second one is shut down, so that the successor alone
hears of the last addresses. -/
theorem upkeep_exact_replaced :
    let second : ConnectionId := ⟨2, by decide⟩
    let old : List Address := [{ host := "old" }]
    let new : List Address := [{ host := "new" }]
    let replaced := ofMoves {}
      [.grant 0 .first, .handle (.resolved (.addresses old)), .handle (.stateChanged .first .idle),
        .grant 1 second, .handle .scaleUp, .grant 2 .first]
    let moves : List Move :=
      [.handle (.stateChanged .first .idle), .handle (.resolved (.failed .transientFailure)),
        .handle (.stateChanged second .shutdown), .handle (.resolved (.addresses new))]
    let renewed := moves.foldl next replaced
    (∃ pool, renewed.service.pool = some pool ∧ renewed.service.granted.Nodup ∧
        pool.connections.handleOf? .first = some ⟨2, .first⟩ ∧ pool.addresses = new ∧
        renewed.service.givenTo ⟨2, .first⟩ = [old, new] ∧
        (renewed.service.givenTo ⟨2, .first⟩).getLast? = some pool.addresses ∧
        renewed.service.connected.count ⟨2, .first⟩ = 3) ∧
      replaced.service.granted.Nodup ∧ ⟨0, .first⟩ ∈ replaced.service.granted ∧
        replaced.service.called.count ⟨0, .first⟩ = 4 ∧
        ∃ calls, renewed.service.called = replaced.service.called ++ calls ∧
          ⟨0, .first⟩ ∉ calls := by
  intro second old new replaced moves renewed
  obtain ⟨pool, hopen, hfirst⟩ : ∃ pool, renewed.service.pool = some pool ∧
      pool.connections.handleOf? .first = some ⟨2, .first⟩ :=
    ⟨_, rfl, by decide +kernel⟩
  obtain ⟨last, hlast, hreplaced⟩ : ∃ pool, replaced.service.pool = some pool ∧
      ¬ pool.Tracks ⟨0, .first⟩ :=
    ⟨_, rfl, by decide +kernel⟩
  have hnodup : renewed.service.granted.Nodup := by decide +kernel
  have hbefore : replaced.service.granted.Nodup := by decide +kernel
  have hgranted : ⟨0, .first⟩ ∈ replaced.service.granted := by decide +kernel
  have hnews : renewed.resolved.getLastD [] = new := by decide +kernel
  have hcounts : renewed.countJobs (Job.Refreshes ⟨2, .first⟩) = 1 ∧
      renewed.countJobs (Job.ReportsIdle ⟨2, .first⟩) = 1 := by
    decide +kernel
  have hleft : ∀ other, replaced.service.pool = some other →
      ∀ id, other.connections.handleOf? id ≠ some ⟨0, .first⟩ := by
    intro other hother id hid
    obtain rfl := (replaced.keyed hother).eq_of_handleOf? hid
    obtain rfl := Option.some.inj (hlast.symm.trans hother)
    exact hreplaced hid
  obtain ⟨htracked, _, _⟩ := renewed.upkeep_exact hnodup
  obtain ⟨haddresses, hhandles⟩ := htracked pool hopen
  obtain ⟨hgiven, hconnected⟩ := hhandles .first ⟨2, .first⟩ hfirst
  obtain ⟨_, _, hgone⟩ := replaced.upkeep_exact hbefore
  obtain ⟨_, hcalls⟩ := hgone ⟨0, .first⟩ hgranted hleft moves hnodup
  rw [hcounts.1, hcounts.2] at hconnected
  exact ⟨⟨pool, hopen, hnodup, hfirst, haddresses.trans hnews, by decide +kernel, hgiven,
    hconnected⟩, hbefore, hgranted, by decide +kernel, hcalls⟩

end StickyRouting.Run
