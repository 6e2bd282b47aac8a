import StickyRouting.Proofs.Bindings
import StickyRouting.Proofs.Saturation

/-!
# Who is in the working set

Requests for growth come from many pickers, each of which decides by what it knew when it was
published, so that some of them are stale when the pool handles them.  The pool decides anew for
each event, and asks the channel for a connection in two cases only: it is empty and the resolver
has addresses, or it is below its limit and is requested to grow.  What the channel grants then
stays in the working set until it is reported shut down.
-/

namespace StickyRouting

def Action.answer? : Action → Option Answer
  | requestConnection _ _ answer => some answer
  | connect _ | updateAddresses _ _ | publishBindings _ | storeSnapshot _ | reportState _
  | note _ => none

def PoolStep.answers (step : PoolStep) : List Answer :=
  step.actions.filterMap Action.answer?

/-- What the channel has answered so far, once for each request for a connection. -/
def Service.answers (service : Service) : List Answer :=
  service.actions.filterMap Action.answer?

/-- Whether an event makes a pool ask the channel for a connection: news from the resolver for a
pool without connections, or a request for growth to a pool below its limit. -/
def Job.Asks (job : Job) : Prop :=
  job.Resolves ∧ job.pool.connections = ∅ ∨ job.operation = .event .scaleUp ∧ job.pool.BelowLimit

theorem PoolStep.answers_eq (step : PoolStep) :
    step.answers = step.visible.filterMap Action.answer? :=
  (Action.filterMap_filter (by
    intro action
    cases action <;> simp [Action.isVisible, Action.answer?]) _).symm

/-- The granted handles are those in the answers of the channel. -/
theorem PoolStep.granted_eq_answers (step : PoolStep) :
    step.granted = step.answers.filterMap Answer.handle? := by
  rw [granted, answers, List.filterMap_filterMap]
  congr 1
  funext action
  cases action <;> rfl

namespace Pool

variable (pool : Pool)

theorem answers_changeState (id : ConnectionId) (state : ConnectivityState) :
    (pool.changeState id state).answers = [] := by
  rw [PoolStep.answers_eq]
  cases hid : pool.connections[id]? with
  | none => rw [visible_changeState_unknown pool hid, List.filterMap_nil]
  | some connection =>
      have henter (entered : Pool) :
          (entered.enter id connection.handle state).visible.filterMap Action.answer? = [] := by
        by_cases hstate : state = .shutdown
        · subst state
          rw [enter, ConnectivityState.entryEffect, visible_evict]
          split <;> rfl
        · rw [(enter_of_ne entered id connection.handle hstate).2, List.filterMap_nil]
      simp only [visible_changeState pool hid, List.filterMap_append, henter,
        visible_publishIfChanged]
      split <;> rfl

theorem answers_bind (key : String) (id : ConnectionId) : (pool.bind key id).answers = [] := by
  rw [PoolStep.answers_eq, visible_bind]
  split <;> rfl

theorem answers_unbind (key : String) : (pool.unbind key).answers = [] := by
  rw [PoolStep.answers_eq, visible_unbind]
  split <;> rfl

/-- An event makes a pool ask the channel once or not at all. -/
theorem answers_handle (event : Event) (answer : Answer) :
    (Job.Asks ⟨pool, .event event, answer⟩ ∧ (pool.handle event answer).answers = [answer]) ∨
      (¬ Job.Asks ⟨pool, .event event, answer⟩ ∧ (pool.handle event answer).answers = []) := by
  cases event with
  | resolved resolution =>
      cases resolution with
      | failed error => exact .inr ⟨by simp [Job.Asks, Job.Resolves], rfl⟩
      | addresses addresses =>
          rw [handle, PoolStep.answers_eq, visible_resolve_addresses]
          by_cases hempty : pool.connections = ∅
          · rw [if_pos (Std.ExtTreeMap.isEmpty_iff.mpr hempty)]
            exact .inl ⟨.inl ⟨⟨addresses, rfl⟩, hempty⟩, rfl⟩
          · rw [if_neg (mt Std.ExtTreeMap.isEmpty_iff.mp hempty)]
            exact .inr ⟨by simp [Job.Asks, hempty], rfl⟩
  | stateChanged id state =>
      exact .inr ⟨by simp [Job.Asks, Job.Resolves], pool.answers_changeState id state⟩
  | bind key id => exact .inr ⟨by simp [Job.Asks, Job.Resolves], pool.answers_bind key id⟩
  | unbind key => exact .inr ⟨by simp [Job.Asks, Job.Resolves], pool.answers_unbind key⟩
  | scaleUp =>
      rw [handle, PoolStep.answers_eq, visible_scaleUp, visible_grow]
      by_cases hbelow : pool.BelowLimit
      · rw [if_pos (pool.allowsMore_iff.mpr hbelow)]
        exact .inl ⟨.inr ⟨rfl, hbelow⟩, rfl⟩
      · rw [if_neg (mt pool.allowsMore_iff.mp hbelow)]
        exact .inr ⟨by simp [Job.Asks, Job.Resolves, hbelow], rfl⟩

end Pool

/-- A pool that asks the channel for a connection has room for it. -/
theorem Job.Asks.size_lt {job : Job} (hasks : job.Asks)
    (hlimit : job.pool.config.maxConnections ≠ 0) :
    job.pool.connections.size < job.pool.config.maxConnections.toNat := by
  rcases hasks with ⟨_, hempty⟩ | ⟨_, hunlimited | hbelow⟩
  · have hpositive : job.pool.config.maxConnections.toNat ≠ 0 := by
      simpa [← UInt64.toNat_inj] using hlimit
    rw [hempty, Std.ExtTreeMap.size_empty]
    exact Nat.pos_of_ne_zero hpositive
  · exact absurd hunlimited hlimit
  · exact hbelow

/-- In a driven run, a job has the pool ask the channel once or not at all. -/
theorem Service.answers_of_queued {service : Service} {move : Move} {job : Job}
    (hqueued : move.IsQueued) (hjob : service.job? move = some job) :
    job.Asks ∧ job.outcome.answers = [job.answer] ∨ ¬ job.Asks ∧ job.outcome.answers = [] := by
  obtain ⟨event, answer, _, _, hevent⟩ := Service.job_of_queued hqueued hjob
  have hanswers := job.pool.answers_handle event answer
  rw [hevent]
  exact hanswers

namespace Service

variable {service : Service} {move : Move}

theorem answers_of_job {job : Job} (hjob : service.job? move = some job) :
    (service.step move).answers = service.answers ++ job.outcome.answers :=
  observe_of_job Action.answer? hjob

theorem answers_idle (hjob : service.job? move = none) :
    (service.step move).answers = service.answers :=
  observe_idle (fun _ => rfl) hjob

end Service

namespace WorkingSet

variable {connections : WorkingSet} {id : ConnectionId} {connection : Connection}

def handleOf? (connections : WorkingSet) (id : ConnectionId) : Option Handle :=
  (connections[id]?).map Connection.handle

theorem mem_iff_handleOf? :
    id ∈ connections ↔ ∃ handle, connections.handleOf? id = some handle := by
  rw [Std.ExtTreeMap.mem_iff_isSome_getElem?, ← Option.isSome_iff_exists, handleOf?,
    Option.isSome_map]

theorem handleOf?_insert (connections : WorkingSet) (id other : ConnectionId)
    (connection : Connection) :
    handleOf? (connections.insert id connection) other =
      if id = other then some connection.handle else connections.handleOf? other := by
  rw [handleOf?, Std.ExtTreeMap.getElem?_insert]
  by_cases hsame : id = other
  · rw [if_pos hsame, if_pos (Std.compare_eq_iff_eq.mpr hsame), Option.map_some]
  · rw [if_neg hsame, if_neg (mt Std.compare_eq_iff_eq.mp hsame), handleOf?]

theorem handleOf?_erase (connections : WorkingSet) (id other : ConnectionId) :
    handleOf? (connections.erase id) other =
      if id = other then none else connections.handleOf? other := by
  rw [handleOf?, Std.ExtTreeMap.getElem?_erase]
  by_cases hsame : id = other
  · rw [if_pos hsame, if_pos (Std.compare_eq_iff_eq.mpr hsame), Option.map_none]
  · rw [if_neg hsame, if_neg (mt Std.compare_eq_iff_eq.mp hsame), handleOf?]

/-- A change of a connection that keeps its handle changes no handle. -/
theorem handleOf?_change (hid : connections[id]? = some connection) (changed : Connection)
    (hhandle : changed.handle = connection.handle) (other : ConnectionId) :
    handleOf? (connections.insert id changed) other = connections.handleOf? other := by
  rw [handleOf?_insert]
  split
  · next hsame =>
      rw [← hsame, handleOf?, hid, hhandle, Option.map_some]
  · rfl

end WorkingSet

/-- The handle under an identifier was granted in the operation, or was there before and was
neither replaced nor reported shut down. -/
theorem Effect.handleOf?_iff {books next : Books} {operation : Pool.Operation}
    {granted : List Handle} (heffect : Effect books operation granted next) (id : ConnectionId)
    (handle : Handle) :
    next.connections.handleOf? id = some handle ↔
      handle ∈ granted ∧ handle.id = id ∨
        books.connections.handleOf? id = some handle ∧ (∀ new ∈ granted, new.id ≠ id) ∧
          operation ≠ .event (.stateChanged id .shutdown) := by
  -- The cases in which the operation is granted nothing and the identifier keeps its handle.
  have hkept {after : WorkingSet} (hafter : after.handleOf? id = books.connections.handleOf? id)
      (hup : operation ≠ .event (.stateChanged id .shutdown)) :
      after.handleOf? id = some handle ↔
        handle ∈ ([] : List Handle) ∧ handle.id = id ∨
          books.connections.handleOf? id = some handle ∧ (∀ new ∈ ([] : List Handle), new.id ≠ id) ∧
            operation ≠ .event (.stateChanged id .shutdown) := by
    simp [hafter, hup]
  cases heffect with
  | quiet hquiet =>
      by_cases hdown : operation = .event (.stateChanged id .shutdown)
      · subst hdown
        have hnone : books.connections.handleOf? id = none := by
          rw [WorkingSet.handleOf?, WorkingSet.not_mem_iff.mp hquiet, Option.map_none]
        simp [hnone]
      · exact hkept rfl hdown
  | tracked hcreates new =>
      have hup : operation ≠ .event (.stateChanged id .shutdown) := by
        rintro rfl
        exact hcreates
      rw [Books.track, WorkingSet.handleOf?_insert]
      by_cases hsame : new.id = id
      · rw [if_pos hsame]
        subst hsame
        simp only [Option.some.injEq, List.mem_singleton, forall_eq, ne_eq, not_true_eq_false,
          false_and, and_false, or_false]
        constructor
        · rintro rfl
          exact ⟨rfl, rfl⟩
        · rintro ⟨rfl, _⟩
          rfl
      · have hother : ¬ (handle = new ∧ handle.id = id) := by
          rintro ⟨rfl, hid⟩
          exact hsame hid
        rw [if_neg hsame]
        simp [hother, hsame, hup]
  | inserted _ hid | incremented _ _ hid =>
      exact hkept (WorkingSet.handleOf?_change hid _ (Connection.handle_gainBinding _) id) (by simp)
  | decremented _ hid _ | released _ hid _ =>
      exact hkept (WorkingSet.handleOf?_change hid _ (Connection.handle_loseBinding _) id) (by simp)
  | @moved other connection state hid hstate =>
      have hup : Pool.Operation.event (.stateChanged other state) ≠
          .event (.stateChanged id .shutdown) := by
        intro hdown
        cases hdown
        exact hstate rfl
      exact hkept (WorkingSet.handleOf?_change hid { connection with state } rfl id) hup
  | @evicted other _ hid =>
      rw [Books.record, WorkingSet.handleOf?_erase]
      by_cases hsame : other = id
      · subst hsame
        simp
      · simp [hsame]

/-! ## The history of the working set -/

namespace Run

/-- Whether a handle has been granted in a run, and has not been reported shut down since. -/
def Stands (handle : Handle) : Run → Prop
  | start _ => False
  | next run move =>
      (run.service.job? move).elim (run.Stands handle) fun job =>
        handle ∈ job.outcome.granted ∨ run.Stands handle ∧ ¬ job.ShutsDown handle.id

/-- As long as the channel grants no identifier that is in use, the working set holds the handles
that stand. -/
theorem handleOf?_iff (run : Run) (hfresh : run.Follows Job.Fresh) {pool : Pool}
    (hopen : run.service.pool = some pool) (id : ConnectionId) (handle : Handle) :
    pool.connections.handleOf? id = some handle ↔ run.Stands handle ∧ handle.id = id := by
  induction hopen using pool_induction with
  | start config => simp [Stands, WorkingSet.handleOf?]
  | job run move job hjob heffect ih =>
      have hbefore := ih hfresh.1
      have hunused : job.pool.connections.handleOf? id = some handle →
          ∀ new ∈ job.outcome.granted, new.id ≠ id := by
        rintro htracked new hnew rfl
        exact hfresh.2 job hjob new hnew (WorkingSet.mem_iff_handleOf?.mpr ⟨handle, htracked⟩)
      rw [Stands, hjob, Option.elim_some]
      have hafter := heffect.handleOf?_iff id handle
      change job.outcome.pool.connections.handleOf? id = some handle ↔ _ at hafter
      rw [hafter]
      constructor
      · rintro (⟨hnew, rfl⟩ | ⟨htracked, _, hup⟩)
        · exact ⟨.inl hnew, rfl⟩
        · obtain ⟨hstands, rfl⟩ := hbefore.mp htracked
          exact ⟨.inr ⟨hstands, hup⟩, rfl⟩
      · rintro ⟨hnew | ⟨hstands, hup⟩, rfl⟩
        · exact .inl ⟨hnew, rfl⟩
        · have htracked := hbefore.mpr ⟨hstands, rfl⟩
          exact .inr ⟨htracked, hunused htracked, hup⟩
  | idle run move pool hopen hjob hfront ih =>
      rw [Stands, hjob, Option.elim_none]
      exact ih hfresh.1

/-- A driven run keeps within the limit on connections. -/
theorem size_le_limit (run : Run) (hdriven : run.Driven) {pool : Pool}
    (hopen : run.service.pool = some pool) (hlimit : pool.config.maxConnections ≠ 0) :
    pool.connections.size ≤ pool.config.maxConnections.toNat := by
  induction hopen using pool_induction with
  | start config => exact Nat.zero_le _
  | job run move job hjob heffect ih =>
      have hconfig : job.outcome.pool.config = job.pool.config :=
        job.pool.config_operate job.operation job.answer
      have hgrown : job.outcome.pool.connections.size ≤
          job.pool.connections.size + job.outcome.granted.length := heffect.size_le
      rw [hconfig] at hlimit ⊢
      rcases Service.answers_of_queued hdriven.2 hjob with ⟨hasks, hanswers⟩ | ⟨_, hanswers⟩
      · have hroom := hasks.size_lt hlimit
        have hone : job.outcome.granted.length ≤ 1 := by
          rw [PoolStep.granted_eq_answers, hanswers]
          exact List.length_filterMap_le _ _
        omega
      · have hnone : job.outcome.granted = [] := by
          rw [PoolStep.granted_eq_answers, hanswers, List.filterMap_nil]
        rw [hnone] at hgrown
        exact Nat.le_trans hgrown (ih hdriven.1 hlimit)
  | idle run move pool hopen hjob hfront ih => exact ih hdriven.1 hlimit

/-- What the channel answers in a driven run, move by move. -/
theorem answers_next (run : Run) {move : Move} (hqueued : move.IsQueued) :
    (∀ job, run.service.job? move = some job → job.Asks →
        (run.next move).service.answers = run.service.answers ++ [job.answer]) ∧
      ((∀ job, run.service.job? move = some job → ¬ job.Asks) →
        (run.next move).service.answers = run.service.answers) := by
  constructor
  · intro job hjob hasks
    rcases Service.answers_of_queued hqueued hjob with ⟨_, hanswers⟩ | ⟨hnot, _⟩
    · rw [service, Service.answers_of_job hjob, hanswers]
    · exact absurd hasks hnot
  · intro hnone
    cases hjob : run.service.job? move with
    | none => exact Service.answers_idle hjob
    | some job =>
        rcases Service.answers_of_queued hqueued hjob with ⟨hasks, _⟩ | ⟨_, hanswers⟩
        · exact absurd hasks (hnone job hjob)
        · rw [service, Service.answers_of_job hjob, hanswers, List.append_nil]

/-- However many requests for growth are in the queue of a driven run, and whatever pickers put them
there, the working set holds exactly the handles that were granted and have not been reported shut
down since, and no more of them than the limit allows.  An event has the pool ask the channel once,
if it is addresses for a pool without connections or a request for growth to a pool below its limit,
and otherwise not at all; nothing else has it ask. -/
theorem working_set_exact (run : Run) (hdriven : run.Driven) (hfresh : run.Follows Job.Fresh) :
    (∀ pool, run.service.pool = some pool →
        (∀ (id : ConnectionId) (handle : Handle),
          pool.connections.handleOf? id = some handle ↔ run.Stands handle ∧ handle.id = id) ∧
        (∀ id : ConnectionId,
          id ∈ pool.connections ↔ ∃ handle, run.Stands handle ∧ handle.id = id) ∧
        (run.config.maxConnections ≠ 0 →
          pool.connections.size ≤ run.config.maxConnections.toNat)) ∧
      ∀ move : Move, move.IsQueued →
        (∀ job, run.service.job? move = some job → job.Asks →
          (run.next move).service.answers = run.service.answers ++ [job.answer]) ∧
        ((∀ job, run.service.job? move = some job → ¬ job.Asks) →
          (run.next move).service.answers = run.service.answers) := by
  constructor
  · intro pool hopen
    have hhandles := run.handleOf?_iff hfresh hopen
    refine ⟨hhandles, fun id => ?_, fun hlimit => ?_⟩
    · rw [WorkingSet.mem_iff_handleOf?]
      exact exists_congr (hhandles id)
    · rw [← run.config_eq hopen] at hlimit ⊢
      exact run.size_le_limit hdriven hopen hlimit
  · intro move hqueued
    exact run.answers_next hqueued

/-- Two routers over one busy connection request growth, the older one when it is current no longer.
The pool takes its second connection for the first request, finds itself full at the second one, and
keeps the second connection when the first shuts down. -/
theorem working_set_exact_stale :
    let second : ConnectionId := ⟨2, by decide⟩
    let third : ConnectionId := ⟨3, by decide⟩
    let asked := List.foldl next (firstRequest { maxConnections := 2, maxStreams := 1 })
      [.send (.stateChanged .first .connecting), .drain, .send (.stateChanged .first .ready),
        .drain, .pick 3 0 {}, .pick 1 0 {}]
    let grown := asked.next (.pump (.granted ⟨1, second⟩))
    let full := grown.next (.pump (.granted ⟨2, third⟩))
    let left := List.foldl next full [.send (.stateChanged .first .shutdown), .drain]
    (asked.service.queue = [.scaleUp, .scaleUp] ∧
        grown.service.answers = asked.service.answers ++ [.granted ⟨1, second⟩] ∧
          full.service.answers = grown.service.answers) ∧
      (∃ pool, full.service.pool = some pool ∧ full.Driven ∧ full.Follows Job.Fresh ∧
        full.Stands ⟨0, .first⟩ ∧ pool.connections.handleOf? .first = some ⟨0, .first⟩ ∧
          second ∈ pool.connections ∧ third ∉ pool.connections ∧ pool.connections.size ≤ 2) ∧
      ∃ pool, left.service.pool = some pool ∧ left.Driven ∧ left.Follows Job.Fresh ∧
        ¬ left.Stands ⟨0, .first⟩ ∧ left.Stands ⟨1, second⟩ ∧ .first ∉ pool.connections ∧
          second ∈ pool.connections := by
  intro second third asked grown full left
  obtain ⟨pool, hopen, hfirst, hsecond, hthird⟩ : ∃ pool, full.service.pool = some pool ∧
      pool.connections.handleOf? .first = some ⟨0, .first⟩ ∧ second ∈ pool.connections ∧
        third ∉ pool.connections :=
    ⟨_, rfl, by decide +kernel⟩
  obtain ⟨last, hlast, hgone, hkept⟩ : ∃ pool, left.service.pool = some pool ∧
      pool.connections.handleOf? .first = none ∧
        pool.connections.handleOf? second = some ⟨1, second⟩ :=
    ⟨_, rfl, by decide +kernel⟩
  have hdriven : left.Driven := by decide +kernel
  have hfresh : left.Follows Job.Fresh := by decide +kernel
  have hqueue : asked.service.queue = [.scaleUp, .scaleUp] := by decide +kernel
  have hgranted : grown.service.answers = asked.service.answers ++ [.granted ⟨1, second⟩] := by
    obtain ⟨job, hjob⟩ : ∃ job, asked.service.job? (.pump (.granted ⟨1, second⟩)) = some job :=
      ⟨_, rfl⟩
    have hasks : job.Asks := by
      cases hjob
      exact .inr ⟨rfl, by decide +kernel⟩
    obtain ⟨_, hnext⟩ := asked.working_set_exact hdriven.1.1.1.1 hfresh.1.1.1.1
    have hanswers := (hnext (.pump (.granted ⟨1, second⟩)) True.intro).1 job hjob hasks
    cases hjob
    exact hanswers
  have hstale : full.service.answers = grown.service.answers := by
    obtain ⟨_, hnext⟩ := grown.working_set_exact hdriven.1.1.1 hfresh.1.1.1
    refine (hnext (.pump (.granted ⟨2, third⟩)) True.intro).2 fun job hjob => ?_
    cases hjob
    rintro (⟨⟨_, hnews⟩, _⟩ | ⟨_, hbelow⟩)
    · cases hnews
    · exact absurd hbelow (by decide +kernel)
  obtain ⟨hfull, _⟩ := full.working_set_exact hdriven.1.1 hfresh.1.1
  obtain ⟨hhandles, _, hlimit⟩ := hfull pool hopen
  obtain ⟨hleft, _⟩ := left.working_set_exact hdriven hfresh
  obtain ⟨hlastHandles, hlastIds, _⟩ := hleft last hlast
  refine ⟨⟨hqueue, hgranted, hstale⟩, ⟨pool, hopen, hdriven.1.1, hfresh.1.1,
    ((hhandles .first _).mp hfirst).1, hfirst, hsecond, hthird, hlimit (by decide)⟩,
    last, hlast, hdriven, hfresh, fun hstands => ?_, ((hlastHandles second _).mp hkept).1, ?_, ?_⟩
  · have htracked := (hlastHandles .first ⟨0, .first⟩).mpr ⟨hstands, rfl⟩
    rw [hgone] at htracked
    cases htracked
  · rw [WorkingSet.mem_iff_handleOf?, hgone]
    rintro ⟨_, hnone⟩
    cases hnone
  · exact (hlastIds second).mpr ⟨_, (hlastHandles second _).mp hkept⟩

end Run

end StickyRouting
