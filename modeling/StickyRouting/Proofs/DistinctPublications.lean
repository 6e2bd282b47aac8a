import StickyRouting.Proofs.Reordering

/-!
# No picker without news

The rule by which a pool decides whether to publish looks at one connection and at two states of the
channel.  It never fires in vain: as long as the channel grants no identifier that is in use, a
picker that is published for a report fails with the channel where the last one did not, or the
other way round, or routes over other connections.  The one report that publishes although it
repeats the state of its connection is the first of all, because a channel that was idle turns out
to have no connection on its way.
-/

namespace StickyRouting

/-- Whether two pickers are told apart by requests: one of them fails with the channel and the other
does not, or they route over different connections. -/
def Picker.Differs (left right : Picker) : Prop :=
  ¬ (left = .failing .transientFailure ↔ right = .failing .transientFailure) ∨
    ∃ id, ¬ (id ∈ left.readyIds ↔ id ∈ right.readyIds)

theorem Tally.record_self {tally : Tally} {state : ConnectivityState}
    (hcount : state.IsCounted → 0 < tally.count state) : tally.record state state = tally := by
  cases state with
  | idle | shutdown => rfl
  | ready | connecting | transientFailure =>
      have hpositive := hcount True.intro
      simp only [Tally.count] at hpositive
      simp only [record, leave, enter, Nat.sub_add_cancel hpositive]

namespace Effect

variable {books next : Books} {granted : List Handle} {id : ConnectionId}
  {connection : Connection} {state : ConnectivityState}

theorem state_report (heffect : Effect books (.event (.stateChanged id state)) granted next)
    (hid : books.connections[id]? = some connection) :
    next.state = (books.tally.record connection.state state).aggregate := by
  cases heffect with
  | quiet hquiet => exact absurd (WorkingSet.mem_iff.mpr ⟨connection, hid⟩) hquiet
  | tracked hcreates _ => exact hcreates.elim
  | moved hmoved _ =>
      cases hid.symm.trans hmoved
      rfl
  | evicted hevicted =>
      cases hid.symm.trans hevicted
      rfl

/-- A tracked connection is ready after a report exactly if that is what was reported. -/
theorem ready_report (heffect : Effect books (.event (.stateChanged id state)) granted next)
    (hid : books.connections[id]? = some connection) :
    next.connections.stateOf? id = some .ready ↔ state = .ready := by
  rw [WorkingSet.stateOf?, heffect.getElem?_report id, if_pos rfl, hid, Option.bind_some,
    Connection.reported]
  split
  · next hshutdown =>
      rw [hshutdown]
      exact iff_of_false (by simp) (by simp)
  · simp

end Effect

namespace Pool

/-- A report that calls for a picker makes its connection ready or takes its readiness away, or has
the channel enter or leave failure. -/
theorem changes_of_republishes {pool : Pool} {id : ConnectionId} {state : ConnectivityState}
    (hpublish : pool.republishes (.event (.stateChanged id state)) = true) :
    ∃ connection, pool.connections[id]? = some connection ∧
      (¬ (connection.state = .ready ↔ state = .ready) ∨
        ¬ (pool.state = .transientFailure ↔
          (pool.tally.record connection.state state).aggregate = .transientFailure)) := by
  cases hid : pool.connections[id]? with
  | none =>
      rw [republishes, hid] at hpublish
      cases hpublish
  | some connection =>
      rw [republishes, hid, Option.any_some, shouldRepublish, Bool.or_eq_true, bne_iff_ne,
        bne_iff_ne] at hpublish
      simp only [ConnectivityState.isReady, ConnectivityState.isTransientFailure, ne_eq,
        decide_eq_decide] at hpublish
      exact ⟨connection, rfl, hpublish⟩

end Pool

namespace Run

variable {run : Run} {move : Move} {job : Job} {id : ConnectionId} {state : ConnectivityState}

theorem fresh_next_report (hfresh : run.Follows Job.Fresh)
    (hjob : run.service.job? move = some job)
    (hoperation : job.operation = .event (.stateChanged id state)) :
    (run.next move).Follows Job.Fresh := by
  refine ⟨hfresh, fun given hgiven handle hgranted => ?_⟩
  cases hjob.symm.trans hgiven
  have hnone : job.outcome.granted = [] := by
    rw [Job.outcome, hoperation]
    exact job.pool.granted_changeState id state
  rw [hnone] at hgranted
  cases hgranted

/-- The picker that is published for a report differs from the one before. -/
theorem differs_of_republishes (hfresh : run.Follows Job.Fresh)
    (hjob : run.service.job? move = some job)
    (hoperation : job.operation = .event (.stateChanged id state))
    (hpublish : job.pool.republishes (.event (.stateChanged id state)) = true) :
    (run.next move).service.board.snapshot.picker.Differs run.service.board.snapshot.picker := by
  have hopen := Service.pool_of_job hjob
  have hnext := (Service.step_of_job hjob).1
  have hbefore := run.current hfresh hopen
  have hafter := (run.next move).current (fresh_next_report hfresh hjob hoperation) hnext
  have heffect := run.effect hjob
  rw [hoperation] at heffect
  obtain ⟨connection, hid, hreadiness | hfailure⟩ := Pool.changes_of_republishes hpublish
  · refine .inr ⟨id, fun hsame => hreadiness ?_⟩
    rw [Picker.readyIds_eq, hafter.entries, Picker.readyIds_eq, hbefore.entries] at hsame
    have hold : job.pool.connections.stateOf? id = some .ready ↔ connection.state = .ready := by
      rw [WorkingSet.stateOf?_of_getElem? hid, Option.some.injEq]
    calc
      connection.state = .ready ↔ id ∈ job.pool.books.connections.captured.map ReadyConnection.id :=
        hold.symm.trans (run.keyed hopen).mem_captured_ids.symm
      _ ↔ id ∈ job.outcome.pool.books.connections.captured.map ReadyConnection.id := hsame.symm
      _ ↔ state = .ready :=
        ((run.next move).keyed hnext).mem_captured_ids.trans (heffect.ready_report hid)
  · refine .inl fun hsame => hfailure ?_
    rw [hafter.failing, hbefore.failing, heffect.state_report hid] at hsame
    exact hsame.symm

/-- A report that repeats the state of its connection calls for a picker only if it is the first
report on a tracked connection, which finds that an idle channel fails. -/
theorem republishes_repeated {pool : Pool} (hopen : run.service.pool = some pool)
    (hstate : pool.connections.stateOf? id = some state) :
    (pool.republishes (.event (.stateChanged id state)) = true ↔ ¬ run.HasReport) ∧
      (¬ run.HasReport →
        pool.state = .idle ∧ (pool.tally.record state state).aggregate = .transientFailure) := by
  obtain ⟨connection, hid, rfl⟩ := Option.map_eq_some_iff.mp hstate
  have hsame : pool.tally.record connection.state connection.state = pool.tally :=
    Tally.record_self ((run.census hopen).count_pos hid)
  obtain ⟨hsilent, hreported⟩ := run.state_law hopen
  rw [Pool.republishes, hid, Option.any_some, shouldRepublish, hsame, bne_self_eq_false,
    Bool.false_or]
  by_cases hreport : run.HasReport
  · rw [hreported hreport, bne_self_eq_false]
    exact ⟨iff_of_false (by simp) (not_not_intro hreport), fun hnone => absurd hreport hnone⟩
  · obtain ⟨hidle, hempty⟩ := hsilent hreport
    rw [hidle, hempty]
    exact ⟨iff_of_true rfl hreport, fun _ => ⟨rfl, rfl⟩⟩

/-- As long as the channel grants no identifier that is in use, a report publishes one picker at
most, and one that differs from the picker that was published last.  A report that repeats the
state of its connection publishes nothing, unless it is the first report on a tracked connection,
when an idle channel comes to fail.  Reports on connections that are not tracked, news from the
resolver, binds and unbinds publish nothing. -/
theorem publishes_news (run : Run) (hfresh : run.Follows Job.Fresh) {move : Move} {job : Job}
    (hjob : run.service.job? move = some job) :
    let published := (run.service.reported.getLastD .initial).picker
    (∀ id state, job.operation = .event (.stateChanged id state) →
        job.outcome.reported.length ≤ 1 ∧
        (∀ snapshot ∈ job.outcome.reported, snapshot.picker.Differs published) ∧
        (job.pool.connections.stateOf? id = some state →
          (job.outcome.reported ≠ [] ↔ ¬ run.HasReport) ∧
          (¬ run.HasReport →
            job.pool.state = .idle ∧ job.outcome.pool.state = .transientFailure)) ∧
        (id ∉ job.pool.connections → job.outcome.reported = [])) ∧
      (∀ resolution, job.operation = .event (.resolved resolution) → job.outcome.reported = []) ∧
      (∀ key id, job.operation = .event (.bind key id) → job.outcome.reported = []) ∧
      ∀ key, job.operation = .event (.unbind key) → job.outcome.reported = [] := by
  intro published
  have hopen := Service.pool_of_job hjob
  have hreported : job.outcome.reported =
      if job.pool.republishes job.operation then [job.pool.publication job.outcome] else [] :=
    (job.pool.reported_operate _ _).trans (job.pool.stored_operate _ _)
  refine ⟨fun id state hoperation => ?_, ?_, ?_, ?_⟩
  · rw [hoperation] at hreported
    refine ⟨?_, fun snapshot hsnapshot => ?_, fun hstate => ?_, fun hid => ?_⟩
    · rw [hreported]
      split
      · exact Nat.le_refl 1
      · exact Nat.zero_le 1
    · rw [hreported] at hsnapshot
      split at hsnapshot
      · next hpublish =>
          have hdiffers := differs_of_republishes hfresh hjob hoperation hpublish
          -- The board shows what the channel was told last, before the report and after it.
          have hnext := (run.next move).snapshot_reported (Service.step_of_job hjob).1
          rw [service, Service.reported_of_job hjob, hreported, if_pos hpublish,
            List.getLastD_concat] at hnext
          rw [service, hnext, run.snapshot_reported hopen] at hdiffers
          rw [List.mem_singleton.mp hsnapshot]
          exact hdiffers
      · cases hsnapshot
    · obtain ⟨hpublishes, hfirst⟩ := republishes_repeated hopen hstate
      obtain ⟨connection, hid, rfl⟩ := Option.map_eq_some_iff.mp hstate
      have heffect := run.effect hjob
      rw [hoperation] at heffect
      refine ⟨?_, fun hnone => ⟨(hfirst hnone).1, ?_⟩⟩
      · rw [← hpublishes, hreported]
        split
        · next hpublish => exact iff_of_true (List.cons_ne_nil _ _) hpublish
        · next hquiet => exact iff_of_false (not_not_intro rfl) hquiet
      · exact (heffect.state_report hid).trans (hfirst hnone).2
    · rw [hreported, Pool.republishes, WorkingSet.not_mem_iff.mp hid]
      rfl
  · intro resolution hoperation
    rw [hreported, hoperation]
    rfl
  · intro key id hoperation
    rw [hreported, hoperation]
    rfl
  · intro key hoperation
    rw [hreported, hoperation]
    rfl

/-- The first report says that a new connection is idle, which it was, and publishes a picker that
fails with the channel.  The same report again publishes nothing. -/
theorem publishes_news_idle :
    let run := ofMoves {} [.grant 0 .first]
    let report := Move.handle (.stateChanged .first .idle)
    (run.Follows Job.Fresh ∧ ∃ job, run.service.job? report = some job ∧
        (∃ snapshot, job.outcome.reported = [snapshot] ∧
          snapshot.picker.Differs Snapshot.initial.picker) ∧
        job.pool.state = .idle ∧ job.outcome.pool.state = .transientFailure) ∧
      (run.next report).Follows Job.Fresh ∧
        ∃ job, (run.next report).service.job? report = some job ∧ job.outcome.reported = [] := by
  intro run report
  have hfresh : (run.next report).Follows Job.Fresh := by decide
  have hsilent : ¬ run.HasReport := by
    rintro (hnone | ⟨job, hjob, _, _, hoperation, _⟩)
    · exact hnone
    · cases Option.some.inj hjob
      cases hoperation
  have hspoken : (run.next report).HasReport :=
    .inr ⟨_, rfl, .first, .idle, rfl, by decide⟩
  obtain ⟨first, hfirst, hoperation, hidle⟩ : ∃ job, run.service.job? report = some job ∧
      job.operation = .event (.stateChanged .first .idle) ∧
        job.pool.connections.stateOf? .first = some .idle :=
    ⟨_, rfl, rfl, by decide⟩
  obtain ⟨again, hagain, hrepeated, hstill⟩ : ∃ job,
      (run.next report).service.job? report = some job ∧
        job.operation = .event (.stateChanged .first .idle) ∧
          job.pool.connections.stateOf? .first = some .idle :=
    ⟨_, rfl, rfl, by decide⟩
  obtain ⟨hone, hdiffers, hfirstIdle, _⟩ :=
    (run.publishes_news hfresh.1 hfirst).1 .first .idle hoperation
  obtain ⟨hpublishes, hchannel⟩ := hfirstIdle hidle
  obtain ⟨snapshot, hsnapshot⟩ : ∃ snapshot, first.outcome.reported = [snapshot] :=
    List.length_eq_one_iff.mp
      (Nat.le_antisymm hone (List.length_pos_iff.mpr (hpublishes.mpr hsilent)))
  obtain ⟨_, _, hagainIdle, _⟩ :=
    ((run.next report).publishes_news hfresh hagain).1 .first .idle hrepeated
  have hquiet : again.outcome.reported = [] :=
    Classical.byContradiction fun hsome => (hagainIdle hstill).1.mp hsome hspoken
  exact ⟨⟨hfresh.1, first, hfirst, ⟨snapshot, hsnapshot, hdiffers snapshot (by simp [hsnapshot])⟩,
    hchannel hsilent⟩, hfresh, again, hagain, hquiet⟩

end Run

end StickyRouting
