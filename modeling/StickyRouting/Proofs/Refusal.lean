import StickyRouting.Proofs.Membership

/-!
# Operations that fail

An operation fails on its own when what it names is not known: a bind to a connection that is not
tracked, an unbind of a key that is not bound, a report on a connection that is not tracked.  News
from the resolver may be of a failure.  And the channel may refuse a connection that it is asked
for.  A bind could drop a binding before it finds out that it fails, but it never does, because
every key leads to a tracked connection.  So what fails on its own leaves no trace but notices, and
a refusal leaves only what the operation had done before it asked, or does because it was refused.
-/

namespace StickyRouting

namespace PoolStep

/-- What a step does to the outside, apart from notices. -/
def effects (step : PoolStep) : List Action :=
  step.actions.filter fun action => action.notice?.isNone

end PoolStep

/-- Notices leave the board as it is. -/
theorem Board.applyAll_effects (board : Board) (step : PoolStep) :
    board.applyAll step.effects = board.applyAll step.actions := by
  rw [PoolStep.effects]
  generalize step.actions = actions
  induction actions generalizing board with
  | nil => rfl
  | cons action actions ih =>
      cases action with
      | note notice => exact ih board
      | requestConnection _ _ _ | connect _ | updateAddresses _ _ | publishBindings _
      | storeSnapshot _ | reportState _ => exact ih _

namespace Pool

/-- Which operations fail on their own. -/
inductive Rejects (pool : Pool) : Operation → Prop
  | bind {key : String} {id : ConnectionId} {error : Error}
      (hfails : (pool.affinity.bind pool.connections key id).outcome = .error error) :
      Rejects pool (.event (.bind key id))
  | unbind {key : String} (hkey : pool.affinity[key]? = none) :
      Rejects pool (.event (.unbind key))
  | report {id : ConnectionId} (hid : id ∉ pool.connections) (state : ConnectivityState) :
      Rejects pool (.event (.stateChanged id state))
  | resolution (error : Error) : Rejects pool (.event (.resolved (.failed error)))

/-- What an operation makes of a pool and its board when it asks the channel for a connection and is
refused one, and the effects that it has: a resolution has taken over the addresses and lifted the
block on growth by then, and a request for growth sets the block and publishes a picker. -/
inductive Refused (pool : Pool) (board : Board) (error : Error) :
    Operation → Pool → Board → List Action → Prop
  | create :
      Refused pool board error .create pool board
        [.requestConnection pool.addresses pool.config.healthCheck (.refused error)]
  | resolve (addresses : List Address) :
      Refused pool board error (.event (.resolved (.addresses addresses)))
        { pool with addresses, growthBlocked := false } board
        [.requestConnection addresses pool.config.healthCheck (.refused error)]
  | scaleUp :
      Refused pool board error (.event .scaleUp)
        { pool with growthBlocked := true, nextRouter := pool.nextRouter + 1 }
        { board with snapshot := { pool with growthBlocked := true }.snapshot }
        [.requestConnection pool.addresses pool.config.healthCheck (.refused error),
          .storeSnapshot { pool with growthBlocked := true }.snapshot,
          .reportState { pool with growthBlocked := true }.snapshot]

variable (pool : Pool)

theorem bind_error_iff (hanchored : pool.books.Anchored) (key : String) (id : ConnectionId)
    (error : Error) :
    (pool.affinity.bind pool.connections key id).outcome = .error error ↔
      pool.affinity[key]? = none ∧ id ∉ pool.connections ∧ error = .unknownConnection id := by
  rcases AffinityTable.bind_cases pool.affinity pool.connections hanchored key id with
    ⟨hkey, hid, hbind⟩ | ⟨connection, hkey, hid, hbind⟩ | ⟨bound, _, _, hkey, _, hbind⟩
  · rw [hbind]
    constructor
    · intro herror
      exact ⟨hkey, hid, (Except.error.inj herror).symm⟩
    · rintro ⟨_, _, rfl⟩
      rfl
  · rw [hbind]
    have htracked : id ∈ pool.connections := WorkingSet.mem_iff.mpr ⟨connection, hid⟩
    exact iff_of_false nofun fun hfails => hfails.2.1 htracked
  · rw [hbind, hkey]
    exact iff_of_false nofun nofun

/-- An operation that fails on its own leaves the pool as it was, and nothing but notices. -/
theorem Rejects.operate_eq {pool : Pool} {operation : Operation} (hrejects : pool.Rejects operation)
    (hanchored : pool.books.Anchored) (answer : Answer) :
    (pool.operate operation answer).pool = pool ∧
      (pool.operate operation answer).effects = [] := by
  cases hrejects with
  | @bind key id error hfails =>
      obtain ⟨hkey, hid, rfl⟩ := (pool.bind_error_iff hanchored key id error).mp hfails
      have hbind := AffinityTable.bind_unknown hkey (WorkingSet.not_mem_iff.mp hid)
      have hstep : pool.bind key id =
          ⟨pool, [.note (.bindRefused key (.unknownConnection id))]⟩ := by
        simp only [Pool.bind, hbind]
        rfl
      rw [operate, handle, hstep]
      exact ⟨rfl, rfl⟩
  | @unbind key hkey =>
      have hstep : pool.unbind key = ⟨pool, [.note (.keyNotBound key)]⟩ := by
        simp only [Pool.unbind, AffinityTable.unbind_unbound hkey]
        rfl
      rw [operate, handle, hstep]
      exact ⟨rfl, rfl⟩
  | @report id hid state =>
      have hstep : pool.changeState id state =
          ⟨pool, [.note (.unknownConnectionChanged id state)]⟩ := by
        simp only [changeState, WorkingSet.not_mem_iff.mp hid]
      rw [operate, handle, hstep]
      exact ⟨rfl, rfl⟩
  | resolution error => exact ⟨rfl, rfl⟩

/-! ## Refused connections -/

theorem answers_create (answer : Answer) : (pool.create answer).answers = [answer] := by
  cases answer <;> rfl

theorem refused_resolve {resolution : Resolution} {answer : Answer} {error : Error}
    (hrefused : .refused error ∈ (pool.resolve resolution answer).answers) (board : Board) :
    pool.Refused board error (.event (.resolved resolution))
      (pool.resolve resolution answer).pool
      (board.applyAll (pool.resolve resolution answer).effects)
      (pool.resolve resolution answer).effects := by
  cases resolution with
  | failed _ => cases hrefused
  | addresses addresses =>
      rw [PoolStep.answers_eq, visible_resolve_addresses] at hrefused
      split at hrefused
      · next hempty =>
          cases List.mem_singleton.mp hrefused
          simp only [resolve, hempty, if_true]
          exact .resolve addresses
      · cases hrefused

theorem refused_scaleUp {answer : Answer} {error : Error}
    (hrefused : .refused error ∈ (pool.scaleUp answer).answers) (board : Board) :
    pool.Refused board error (.event .scaleUp) (pool.scaleUp answer).pool
      (board.applyAll (pool.scaleUp answer).effects) (pool.scaleUp answer).effects := by
  rw [PoolStep.answers_eq, visible_scaleUp, visible_grow] at hrefused
  split at hrefused
  · next hbelow =>
      cases List.mem_singleton.mp hrefused
      simp only [scaleUp, grow, hbelow, if_true]
      exact .scaleUp
  · cases hrefused

/-- An operation that is refused a connection is one of three, and does no more than these do. -/
theorem refused_operate {operation : Operation} {answer : Answer} {error : Error}
    (hrefused : .refused error ∈ (pool.operate operation answer).answers) (board : Board) :
    pool.Refused board error operation (pool.operate operation answer).pool
      (board.applyAll (pool.operate operation answer).effects)
      (pool.operate operation answer).effects := by
  cases operation with
  | create =>
      rw [operate, answers_create] at hrefused
      cases List.mem_singleton.mp hrefused
      exact .create
  | publish => cases hrefused
  | event event =>
      cases event with
      | resolved resolution => exact pool.refused_resolve hrefused board
      | stateChanged id state =>
          rw [operate, handle, answers_changeState] at hrefused
          cases hrefused
      | bind key id =>
          rw [operate, handle, answers_bind] at hrefused
          cases hrefused
      | unbind key =>
          rw [operate, handle, answers_unbind] at hrefused
          cases hrefused
      | scaleUp => exact pool.refused_scaleUp hrefused board

end Pool

namespace Run

/-- In every state of a pool, a bind fails exactly if its key is not bound and its connection is not
tracked, and then for the unknown connection.  An operation that fails on its own leaves pool and
board as they were and calls nothing.  An operation that is refused a connection has asked for it
and changed nothing, unless it is a resolution, which keeps the new addresses and lifts the block on
growth, or a request for growth, which sets the block and publishes a picker. -/
theorem failures_harmless (run : Run) {pool : Pool} (hopen : run.service.pool = some pool) :
    (∀ (key : String) (id : ConnectionId) (error : Error),
      (pool.affinity.bind pool.connections key id).outcome = .error error ↔
        pool.affinity[key]? = none ∧ id ∉ pool.connections ∧ error = .unknownConnection id) ∧
      ∀ (move : Move) (job : Job), run.service.job? move = some job →
        let after := (run.next move).service
        (pool.Rejects job.operation →
          after.pool = some pool ∧ after.board = run.service.board ∧ job.outcome.effects = []) ∧
        ∀ error, .refused error ∈ job.outcome.answers →
          ∃ refused, after.pool = some refused ∧
            pool.Refused run.service.board error job.operation refused after.board
              job.outcome.effects := by
  have hanchored := run.anchored hopen
  refine ⟨pool.bind_error_iff hanchored, fun move job hjob => ?_⟩
  obtain ⟨hnext, hboard, _⟩ := Service.step_of_job hjob
  have hpool : job.pool = pool := Option.some.inj ((Service.pool_of_job hjob).symm.trans hopen)
  rw [← Board.applyAll_effects] at hboard
  subst hpool
  refine ⟨fun hrejects => ?_, fun error hrefused => ⟨_, hnext, ?_⟩⟩
  · obtain ⟨hsame, hnone⟩ := hrejects.operate_eq hanchored job.answer
    change job.outcome.pool = job.pool at hsame
    change job.outcome.effects = [] at hnone
    rw [hsame] at hnext
    rw [hnone] at hboard
    exact ⟨hnext, hboard, hnone⟩
  · rw [service, hboard]
    exact job.pool.refused_operate hrefused run.service.board

/-- A bind to a connection that is not tracked fails and leaves no trace.  A pool that is refused
its first connection keeps the addresses, and one that is refused another connection publishes a
picker for a pool that cannot grow. -/
theorem failures_harmless_refused :
    let second : ConnectionId := ⟨2, by decide⟩
    let bound := ofMoves {} [.grant 0 .first, .handle (.bind "key" .first)]
    let misbound := bound.next (.handle (.bind "other" second))
    let resolved := (start {}).next (.handle (.resolved (.addresses [{ host := "10.0.0.1:80" }])))
    let busy := firstRequest { maxStreams := 1 }
    let blocked := busy.next (.handle .scaleUp)
    (∃ pool, bound.service.pool = some pool ∧
        (pool.affinity.bind pool.connections "other" second).outcome =
          .error (.unknownConnection second) ∧
        misbound.service.pool = some pool ∧ misbound.service.board = bound.service.board) ∧
      (∃ pool, resolved.service.pool = some pool ∧ pool.connections = ∅ ∧
        pool.addresses = [{ host := "10.0.0.1:80" }] ∧
          resolved.service.board = (start {}).service.board) ∧
      ∃ pool, busy.service.pool = some pool ∧ pool.growthBlocked = false ∧
        blocked.service.pool =
          some { pool with growthBlocked := true, nextRouter := pool.nextRouter + 1 } ∧
          blocked.service.board.snapshot = { pool with growthBlocked := true }.snapshot := by
  intro second bound misbound resolved busy blocked
  obtain ⟨pool, hopen⟩ : ∃ pool, bound.service.pool = some pool := ⟨_, rfl⟩
  refine ⟨⟨pool, hopen, ?_⟩, ?_, ?_⟩
  · obtain ⟨hbind, hmoves⟩ := bound.failures_harmless hopen
    have hfails := (hbind "other" second _).mpr
      ⟨by cases hopen; decide, by cases hopen; decide, rfl⟩
    obtain ⟨job, hjob, hoperation⟩ : ∃ job,
        bound.service.job? (.handle (.bind "other" second)) = some job ∧
          job.operation = .event (.bind "other" second) :=
      ⟨_, rfl, rfl⟩
    obtain ⟨hpool, hboard, _⟩ := (hmoves _ job hjob).1 (hoperation ▸ .bind hfails)
    exact ⟨hfails, hpool, hboard⟩
  · obtain ⟨_, hmoves⟩ := (start {}).failures_harmless rfl
    obtain ⟨refused, hpool, hrefused⟩ :=
      (hmoves (.handle (.resolved (.addresses [{ host := "10.0.0.1:80" }]))) _ rfl).2
        (.connectionCreation "refused") List.mem_cons_self
    generalize hafter : resolved.service.board = board at hrefused
    cases hrefused
    exact ⟨_, hpool, rfl, rfl, hafter⟩
  · obtain ⟨pool, hbusy, hunblocked⟩ : ∃ pool, busy.service.pool = some pool ∧
        pool.growthBlocked = false :=
      ⟨_, rfl, by decide +kernel⟩
    obtain ⟨_, hmoves⟩ := busy.failures_harmless hbusy
    obtain ⟨job, hjob, hoperation, hanswers⟩ : ∃ job,
        busy.service.job? (.handle .scaleUp) = some job ∧ job.operation = .event .scaleUp ∧
          .refused (.connectionCreation "refused") ∈ job.outcome.answers :=
      ⟨_, rfl, rfl, List.mem_cons_self⟩
    obtain ⟨refused, hpool, hrefused⟩ := (hmoves _ job hjob).2 _ hanswers
    rw [hoperation] at hrefused
    generalize blocked.service.board = board at hrefused ⊢
    generalize job.outcome.effects = effects at hrefused
    cases hrefused
    exact ⟨pool, hbusy, hunblocked, hpool, rfl⟩

end Run

end StickyRouting
