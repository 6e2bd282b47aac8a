import StickyRouting.Proofs.DeskRuns

/-!
# Open streams and outstanding picks

Every connection that was ever created has as many open streams as there are picks on it that have
not been settled, whether it is still tracked or not, whether its identifier is in use again or not,
and whichever way callers take with their picks.
-/

namespace StickyRouting.Usage

theorem streamCount_eq (usage : Usage) (hfit : usage.CountersFit)
    {connection : ReadyConnection} (hcreated : usage.desk.service.Created connection) :
    (usage.desk.service.board.streamCount connection.meter).toNat =
      Pick.countOn usage.desk.outstanding connection := by
  obtain ⟨run, hshows, hrun⟩ := usage.exists_run
  rw [hshows.service] at hcreated ⊢
  calc
    (run.service.board.streamCount connection.meter).toNat =
        Pick.countOnMeter run.service.held connection.meter :=
      run.streamCount_eq (hrun hfit) connection.meter
    _ = Pick.countOn run.service.held connection := run.countOnMeter_held hcreated
    _ = Pick.countOn usage.desk.outstanding connection := hshows.held.countP_eq _

theorem created_step (usage : Usage) (use : Use) {connection : ReadyConnection}
    (hcreated : usage.desk.service.Created connection) :
    (usage.next use).desk.service.Created connection := by
  obtain ⟨run, hshows, _⟩ := usage.exists_run
  obtain ⟨later, hlater, hnext⟩ := hshows.step use
  rw [hshows.service] at hcreated
  rw [desk, hnext.service]
  rcases hlater with rfl | ⟨move, rfl⟩
  · exact hcreated
  · exact Service.Created.step hcreated

/-- As long as the counters of streams are large enough, every connection that was ever created has
as many open streams as there are picks on it that have not been settled.  The pool, every picker
that was ever published and every outstanding pick mean connections that were created.  An
outstanding pick finds its stream to close, and each use changes the streams of a connection by
the picks on it that it makes and those that it settles. -/
theorem streams_exact (usage : Usage) (hfit : usage.CountersFit) :
    let service := usage.desk.service
    (∀ connection, service.Created connection →
        (service.board.streamCount connection.meter).toNat =
          Pick.countOn usage.desk.outstanding connection) ∧
      (∀ pool, service.pool = some pool →
        ∀ (id : ConnectionId) (connection : Connection),
          pool.connections[id]? = some connection →
            service.Created (.ofConnection connection)) ∧
      (∀ picker ∈ service.published, ∀ entry ∈ picker.entries, service.Created entry) ∧
      (∀ pick ∈ usage.desk.outstanding, service.Created pick.connection ∧
        service.board.streamCount pick.connection.meter ≠ 0) ∧
      ∀ use, (usage.next use).CountersFit →
        ∀ connection, service.Created connection →
          ((usage.next use).desk.service.board.streamCount connection.meter).toNat +
              Pick.countOn (usage.desk.settled use) connection =
            (service.board.streamCount connection.meter).toNat +
              Pick.countOn (usage.desk.opened use) connection := by
  intro service
  obtain ⟨run, hshows, _⟩ := usage.exists_run
  have hservice : service = { run.service with held := [] } := hshows.service
  have hexact (connection : ReadyConnection) (hcreated : service.Created connection) :=
    usage.streamCount_eq hfit hcreated
  refine ⟨hexact, ?_, ?_, fun pick hpick => ?_, fun use hnext connection hcreated => ?_⟩
  · rw [hservice]
    exact fun pool hopen => (run.created_of_tracked hopen).2
  · rw [hservice]
    exact run.created_of_published
  · have hcreated : service.Created pick.connection := by
      rw [hservice]
      exact run.created_of_held pick (hshows.held.mem_iff.mpr hpick)
    refine ⟨hcreated, fun hzero => ?_⟩
    have hcount := hexact pick.connection hcreated
    rw [hzero] at hcount
    have hnone := List.countP_eq_zero.mp hcount.symm pick hpick
    simp at hnone
  · have hperm := usage.desk.outstanding_step use
    have hbefore := hexact connection hcreated
    have hafter := (usage.next use).streamCount_eq hnext (usage.created_step use hcreated)
    have hcount := hperm.countP_eq fun pick => pick.connection = connection
    rw [List.countP_append, List.countP_append] at hcount
    rw [hafter, hbefore]
    exact hcount

/-- A handle with the identifier of a connection that has an open stream replaces it.  The pick on
the old connection is taken apart, and so is what is left of it dropped, before its callback is
called.  That closes the old stream and leaves the one on the new connection open. -/
theorem streams_exact_replaced :
    let usage := ofUses {} [.serve (.grant 0 .first),
      .serve (.handle (.stateChanged .first .ready)), .serve (.pick 1 0 {}),
      .serve (.grant 1 .first), .serve (.handle (.stateChanged .first .ready)),
      .serve (.pick 2 0 {}), .takeApart 0]
    let called := usage.next (.call 0 {})
    let old : ReadyConnection := ⟨⟨0, .first⟩, 0⟩
    let new : ReadyConnection := ⟨⟨1, .first⟩, 1⟩
    usage.CountersFit ∧ called.CountersFit ∧ usage.desk.service.Created old ∧
      usage.desk.service.Created new ∧
      (usage.desk.service.board.streamCount 0).toNat = 1 ∧
        (usage.desk.service.board.streamCount 1).toNat = 1 ∧
          (called.desk.service.board.streamCount 0).toNat = 0 ∧
            (called.desk.service.board.streamCount 1).toNat = 1 := by
  intro usage called old new
  have hfit : called.CountersFit := by decide
  have hold : usage.desk.service.Created old := by rfl
  have hnew : usage.desk.service.Created new := by rfl
  obtain ⟨hcount, _, _, _, hstep⟩ := usage.streams_exact hfit.1
  have hopenOld : (usage.desk.service.board.streamCount 0).toNat = 1 := hcount old hold
  have hopenNew : (usage.desk.service.board.streamCount 1).toNat = 1 := hcount new hnew
  refine ⟨hfit.1, hfit, hold, hnew, hopenOld, hopenNew, ?_, ?_⟩
  · have hclosed := hstep (.call 0 {}) hfit old hold
    rw [hopenOld] at hclosed
    exact Nat.add_right_cancel hclosed
  · have hkept := hstep (.call 0 {}) hfit new hnew
    rw [hopenNew] at hkept
    exact hkept

end StickyRouting.Usage
