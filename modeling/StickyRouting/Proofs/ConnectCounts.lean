import StickyRouting.Proofs.CurrentAddresses

/-!
# Requests to connect

A connection is asked to connect when it is created, with all news from the resolver while it is
tracked, and whenever it is reported idle.  So the number of times is known from the history.
-/

namespace StickyRouting

/-- Whether a job brings addresses from the resolver to a pool that tracks a handle. -/
def Job.Refreshes (handle : Handle) (job : Job) : Prop :=
  job.operation.resolved?.isSome ∧ job.pool.Tracks handle

/-- Whether a job reports a handle idle to a pool that tracks it. -/
def Job.ReportsIdle (handle : Handle) (job : Job) : Prop :=
  job.operation = .event (.stateChanged handle.id .idle) ∧ job.pool.Tracks handle

instance (handle : Handle) : DecidablePred (Job.Refreshes handle) := fun job =>
  inferInstanceAs (Decidable (job.operation.resolved?.isSome ∧ job.pool.Tracks handle))

instance (handle : Handle) : DecidablePred (Job.ReportsIdle handle) := fun job =>
  inferInstanceAs (Decidable (_ = _ ∧ job.pool.Tracks handle))

namespace Pool

variable (pool : Pool)

theorem count_connected_changeState (hkeyed : pool.connections.Keyed) (id : ConnectionId)
    (state : ConnectivityState) (handle : Handle) :
    (pool.changeState id state).connected.count handle =
      if id = handle.id ∧ state = .idle ∧ pool.Tracks handle then 1 else 0 := by
  rw [connected_changeState]
  by_cases hidle : state = .idle
  · rw [if_pos hidle]
    cases hid : pool.connections[id]? with
    | none =>
        have hnone : ¬ (id = handle.id ∧ state = .idle ∧ pool.Tracks handle) := by
          rintro ⟨rfl, _, htracked⟩
          rw [Tracks, WorkingSet.handleOf?, hid] at htracked
          cases htracked
        rw [if_neg hnone]
        rfl
    | some connection =>
        have hown : connection.handle = handle ↔
            id = handle.id ∧ state = .idle ∧ pool.Tracks handle := by
          rw [Tracks, WorkingSet.handleOf?]
          constructor
          · rintro rfl
            have hsame := hkeyed id connection hid
            exact ⟨hsame.symm, hidle, by rw [hsame, hid, Option.map_some]⟩
          · rintro ⟨rfl, _, htracked⟩
            rw [hid] at htracked
            exact Option.some.inj htracked
        rw [Option.toList_some, List.map_singleton, List.count_singleton]
        simp only [beq_iff_eq, hown]
  · rw [if_neg hidle, if_neg (fun hall => hidle hall.2.1), List.count_nil]

theorem count_connected_resolve_addresses (hkeyed : pool.connections.Keyed)
    (addresses : List Address) (answer : Answer) (handle : Handle) :
    (pool.resolve (.addresses addresses) answer).connected.count handle =
      (pool.resolve (.addresses addresses) answer).granted.count handle +
        if pool.Tracks handle then 1 else 0 := by
  rw [connected_resolve_addresses]
  by_cases hempty : pool.connections.isEmpty = true
  · rw [if_pos hempty, if_neg (not_tracks_of_isEmpty hempty handle), Nat.add_zero]
  · rw [if_neg hempty, granted_resolve_addresses, if_neg hempty, List.count_nil, Nat.zero_add,
      hkeyed.count_handles]
    rfl

end Pool

/-- A job asks a handle to connect when the handle is granted, refreshed or reported idle, and
otherwise not. -/
theorem Job.count_connected (job : Job) (hkeyed : job.pool.connections.Keyed) (handle : Handle) :
    job.outcome.connected.count handle =
      job.outcome.granted.count handle + (if job.Refreshes handle then 1 else 0) +
        if job.ReportsIdle handle then 1 else 0 := by
  obtain ⟨pool, operation, answer⟩ := job
  change pool.connections.Keyed at hkeyed
  -- Without news and without a report, only what is granted may be asked.
  have hplain (hresolved : operation.resolved? = none)
      (hreport : ∀ id, operation ≠ .event (.stateChanged id .idle))
      (hgranted : (pool.operate operation answer).connected =
        (pool.operate operation answer).granted) :
      (pool.operate operation answer).connected.count handle =
        (pool.operate operation answer).granted.count handle +
          (if Refreshes handle ⟨pool, operation, answer⟩ then 1 else 0) +
          if ReportsIdle handle ⟨pool, operation, answer⟩ then 1 else 0 := by
    rw [hgranted, if_neg (by simp [Refreshes, hresolved]),
      if_neg (by simp [ReportsIdle, hreport]), Nat.add_zero]
  change (pool.operate operation answer).connected.count handle = _
  cases operation with
  | create => exact hplain rfl (by simp) (pool.connected_create answer)
  | publish => exact hplain rfl (by simp) rfl
  | event event =>
      cases event with
      | resolved resolution =>
          cases resolution with
          | failed error => exact hplain rfl (by simp) rfl
          | addresses addresses =>
              have hreport : ¬ ReportsIdle handle
                  ⟨pool, .event (.resolved (.addresses addresses)), answer⟩ := by
                simp [ReportsIdle]
              have hrefresh : Refreshes handle
                  ⟨pool, .event (.resolved (.addresses addresses)), answer⟩ ↔
                    pool.Tracks handle := by
                simp [Refreshes, Pool.Operation.resolved?]
              rw [outcome, Pool.operate, Pool.handle, if_neg hreport, Nat.add_zero,
                pool.count_connected_resolve_addresses hkeyed]
              simp only [hrefresh]
      | stateChanged id state =>
          have hrefresh : ¬ Refreshes handle ⟨pool, .event (.stateChanged id state), answer⟩ := by
            simp [Refreshes, Pool.Operation.resolved?]
          have hreport : ReportsIdle handle ⟨pool, .event (.stateChanged id state), answer⟩ ↔
              id = handle.id ∧ state = .idle ∧ pool.Tracks handle := by
            simp [ReportsIdle, and_assoc]
          rw [outcome, Pool.operate, Pool.handle, Pool.granted_changeState, List.count_nil,
            if_neg hrefresh, Nat.zero_add,
            pool.count_connected_changeState hkeyed]
          simp only [hreport]
      | bind key id =>
          refine hplain rfl (by simp) ?_
          rw [Pool.operate, Pool.handle, Pool.granted_bind, PoolStep.connected_eq,
            Pool.calls_bind, List.filterMap_nil]
      | unbind key =>
          refine hplain rfl (by simp) ?_
          rw [Pool.operate, Pool.handle, Pool.granted_unbind, PoolStep.connected_eq,
            Pool.calls_unbind, List.filterMap_nil]
      | scaleUp => exact hplain rfl (by simp) (pool.connected_scaleUp answer)

namespace Run

def countJobs (kind : Job → Prop) [DecidablePred kind] : Run → Nat
  | start _ => 0
  | next run move =>
      run.countJobs kind +
        (run.service.job? move).elim 0 fun job => if kind job then 1 else 0

/-- A handle has been asked to connect as often as it was granted, refreshed and reported idle. -/
theorem count_connected (run : Run) (handle : Handle) :
    run.service.connected.count handle =
      run.service.granted.count handle + run.countJobs (Job.Refreshes handle) +
        run.countJobs (Job.ReportsIdle handle) := by
  induction run with
  | start config => rfl
  | next run move ih =>
      rw [service, countJobs, countJobs]
      cases hjob : run.service.job? move with
      | none =>
          rw [Service.connected_idle hjob, Service.granted_idle hjob, ih]
          rfl
      | some job =>
          have hjobs := job.count_connected (run.keyed (Service.pool_of_job hjob)) handle
          rw [Service.connected_of_job hjob, Service.granted_of_job hjob, List.count_append,
            List.count_append, ih, hjobs, Option.elim_some, Option.elim_some]
          omega

end Run

end StickyRouting
