import StickyRouting.Proofs.Run

/-!
# What a move changes

A move gives the pool a job, closes the pool, or leaves alone all that only a pool writes to.  All
that is proved of runs by induction goes by these three kinds of moves.
-/

namespace StickyRouting

namespace Picker

def entries : Picker → List ReadyConnection
  | failing _ => []
  | routing router => router.ready

def refusal : Picker → Error
  | failing failure => failure.error
  | routing _ => .noSubchannelAvailable

/-- A pick opens a stream on a connection of its picker, is refused, or is refused by a router that
asks for growth. -/
theorem pickBy_outcome (picker : Picker) (choice : Nat) (board : Board) (request : PickRequest) :
    (∃ connection ∈ picker.entries,
        picker.pickBy (tieBreak choice) board request = .accepted board request connection) ∨
      (∃ notices,
        picker.pickBy (tieBreak choice) board request =
          .refused board picker.refusal notices) ∨
      ∃ router, picker = .routing router ∧ router.serial ∉ board.growthAsked ∧
        picker.pickBy (tieBreak choice) board request =
          { result := .error picker.refusal
            board := board.askGrowth router.serial
            events := [.scaleUp]
            notices := [.saturated router.maxStreams] } := by
  cases picker with
  | failing failure => exact .inr (.inl ⟨[], rfl⟩)
  | routing router =>
      simp only [pickBy, Router.pickBy, Router.pickBound, Router.pickLeastBusy,
        Router.pickSaturated]
      split
      · exact .inr (.inl ⟨_, rfl⟩)
      · split
        · split
          · next connection hfound =>
              exact .inl ⟨connection, List.mem_of_find?_eq_some hfound, rfl⟩
          · exact .inr (.inl ⟨_, rfl⟩)
        · split
          · exact .inr (.inl ⟨_, rfl⟩)
          · next connection hchosen =>
              split
              · have hready := (List.mem_filter.mp (List.mem_of_getElem? hchosen)).1
                exact .inl ⟨connection, hready, rfl⟩
              · split
                · exact .inr (.inl ⟨_, rfl⟩)
                · next hnew => exact .inr (.inr ⟨router, rfl, hnew, rfl⟩)

end Picker

theorem Pick.release_front (pick : Pick) (board : Board) :
    (pick.release board).snapshot = board.snapshot ∧
      (pick.release board).bindings = board.bindings := by
  rw [release, Board.closeStream]
  split <;> exact ⟨rfl, rfl⟩

theorem Picker.pickBy_front (picker : Picker) (choice : Nat) (board : Board)
    (request : PickRequest) :
    (picker.pickBy (tieBreak choice) board request).board.snapshot = board.snapshot ∧
      (picker.pickBy (tieBreak choice) board request).board.bindings = board.bindings := by
  rcases picker.pickBy_outcome choice board request with
    ⟨_, _, houtcome⟩ | ⟨_, houtcome⟩ | ⟨_, _, _, houtcome⟩
  all_goals
    rw [houtcome]
    exact ⟨rfl, rfl⟩

namespace CallerEffect

theorem pick_front (published : List Picker) (picker choice : Nat) (request : PickRequest)
    (board : Board) (held : List Pick) :
    (pick published picker choice request board held).board.snapshot = board.snapshot ∧
      (pick published picker choice request board held).board.bindings = board.bindings := by
  rw [pick]
  split
  · exact ⟨rfl, rfl⟩
  · next chosen _ => exact chosen.pickBy_front choice board request

theorem settle_front (index : Nat) (completion : Completion) (board : Board)
    (held : List Pick) :
    (settle index completion board held).board.snapshot = board.snapshot ∧
      (settle index completion board held).board.bindings = board.bindings := by
  rw [settle]
  split
  · exact ⟨rfl, rfl⟩
  · next pick _ => exact pick.release_front board

end CallerEffect

namespace Service

variable {service : Service} {move : Move}

/-- Whether two services agree in all that only a pool writes to. -/
structure SameFront (left right : Service) : Prop where
  pool : left.pool = right.pool
  snapshot : left.board.snapshot = right.board.snapshot
  bindings : left.board.bindings = right.board.bindings
  actions : left.actions = right.actions

theorem SameFront.refl (service : Service) : SameFront service service :=
  ⟨rfl, rfl, rfl, rfl⟩

theorem SameFront.trans {left middle right : Service} (hleft : SameFront left middle)
    (hright : SameFront middle right) : SameFront left right :=
  ⟨hleft.pool.trans hright.pool, hleft.snapshot.trans hright.snapshot,
    hleft.bindings.trans hright.bindings, hleft.actions.trans hright.actions⟩

theorem enqueue_nil (service : Service) : service.enqueue [] = service := by
  rw [enqueue, List.append_nil, ite_self]

theorem enqueue_front (service : Service) (events : List Event) :
    SameFront (service.enqueue events) service := by
  rw [enqueue]
  split <;> exact ⟨rfl, rfl, rfl, rfl⟩

theorem enqueue_board (service : Service) (events : List Event) :
    (service.enqueue events).board = service.board := by
  rw [enqueue]
  split <;> rfl

theorem enqueue_held (service : Service) (events : List Event) :
    (service.enqueue events).held = service.held := by
  rw [enqueue]
  split <;> rfl

theorem enqueue_accepting (service : Service) (events : List Event) :
    (service.enqueue events).accepting = service.accepting := by
  rw [enqueue]
  split <;> rfl

theorem enqueue_queue (service : Service) (events : List Event) :
    (service.enqueue events).queue =
      if service.accepting then service.queue ++ events else service.queue := by
  rw [enqueue]
  split <;> rfl

/-- A caller writes to the meters and to the marks of routers only. -/
theorem follow_front {caller : CallerEffect}
    (hfront : caller.board.snapshot = service.board.snapshot ∧
      caller.board.bindings = service.board.bindings) :
    SameFront (service.follow caller) service :=
  (enqueue_front _ _).trans ⟨rfl, hfront.1, hfront.2, rfl⟩

theorem pick_front (service : Service) (picker choice : Nat) (request : PickRequest) :
    SameFront (service.pick picker choice request) service :=
  follow_front (CallerEffect.pick_front _ _ _ _ _ _)

theorem settle_front (service : Service) (index : Nat) (completion : Completion) :
    SameFront (service.settle index completion) service :=
  follow_front (CallerEffect.settle_front _ _ _ _)

/-- A pick with a published picker, by the choice that the caller makes among ties. -/
theorem pick_of_published {picker : Nat} {published : Picker}
    (hpicker : service.published[picker]? = some published) (choice : Nat)
    (request : PickRequest) :
    service.pick picker choice request =
      { service with
        board := (published.pickBy (tieBreak choice) service.board request).board
        held := service.held ++
          (published.pickBy (tieBreak choice) service.board request).result.toOption.toList
        : Service }.enqueue (published.pickBy (tieBreak choice) service.board request).events := by
  rw [pick, CallerEffect.pick, hpicker]
  rfl

theorem pick_of_unpublished {picker : Nat} (hpicker : service.published[picker]? = none)
    (choice : Nat) (request : PickRequest) : service.pick picker choice request = service := by
  rw [pick, CallerEffect.pick, hpicker]
  exact enqueue_nil service

theorem settle_of_held {index : Nat} {pick : Pick} (hpick : service.held[index]? = some pick)
    (completion : Completion) :
    service.settle index completion =
      { service with
        board := pick.release service.board
        held := service.held.eraseIdx index : Service }.enqueue (pick.events completion) := by
  rw [settle, CallerEffect.settle, hpick]
  rfl

theorem settle_of_not_held {index : Nat} (hpick : service.held[index]? = none)
    (completion : Completion) : service.settle index completion = service := by
  rw [settle, CallerEffect.settle, hpick]
  exact enqueue_nil service

theorem step_front (hjob : service.job? move = none) (hclose : move ≠ .close) :
    SameFront (service.step move) service := by
  cases move with
  | operate operation answer =>
      rw [step, hjob]
      exact .refl service
  | send event => exact enqueue_front service [event]
  | pump answer =>
      rw [step, hjob]
      exact .refl service
  | pick picker choice request => exact pick_front service picker choice request
  | settle index completion => exact settle_front service index completion
  | stopQueue => exact ⟨rfl, rfl, rfl, rfl⟩
  | close => exact absurd rfl hclose

theorem pool_of_job {job : Job} (hjob : service.job? move = some job) :
    service.pool = some job.pool := by
  unfold job? at hjob
  split at hjob
  · next pool _ _ hpool _ =>
      rw [hpool, ← Option.some.inj hjob]
  · cases hjob

theorem step_of_job {job : Job} (hjob : service.job? move = some job) :
    (service.step move).pool = some job.outcome.pool ∧
      (service.step move).board = service.board.applyAll job.outcome.actions ∧
      (service.step move).actions = service.actions ++ job.outcome.actions := by
  cases move with
  | operate operation answer =>
      rw [step, hjob]
      exact ⟨rfl, rfl, rfl⟩
  | pump answer =>
      rw [step, hjob]
      exact ⟨rfl, rfl, rfl⟩
  | send _ | pick _ _ _ | settle _ _ | stopQueue | close =>
      simp [job?, operation?] at hjob

/-- A move gives the pool a job, closes it, or leaves alone what only a pool writes to. -/
theorem step_kinds (service : Service) (move : Move) :
    (∃ job, service.job? move = some job) ∨
      (∃ pool, move = .close ∧ service.pool = some pool) ∨
        (service.job? move = none ∧ SameFront (service.step move) service) := by
  cases hjob : service.job? move with
  | some job => exact .inl ⟨job, rfl⟩
  | none =>
      by_cases hclose : move = .close
      · subst move
        cases hpool : service.pool with
        | some pool => exact .inr (.inl ⟨pool, rfl, rfl⟩)
        | none =>
            refine .inr (.inr ⟨rfl, ?_⟩)
            rw [step, close, hpool]
            exact .refl service
      · exact .inr (.inr ⟨rfl, step_front hjob hclose⟩)

theorem step_close {pool : Pool} (hopen : service.pool = some pool) :
    service.step .close =
      { service with
        pool := none
        board := service.board.applyAll pool.close
        actions := service.actions ++ pool.close } := by
  rw [step, close, hopen]

theorem queue_operate (service : Service) (operation : Pool.Operation) (answer : Answer) :
    (service.step (.operate operation answer)).queue = service.queue := by
  rw [step]
  cases service.job? (.operate operation answer) <;> rfl

theorem queue_pump (service : Service) (answer : Answer) :
    (service.step (.pump answer)).queue =
      if service.pool.isSome then service.queue.tail else service.queue := by
  rw [step, job?, operation?]
  cases hopen : service.pool with
  | none => rfl
  | some pool =>
      cases hqueue : service.queue with
      | nil => exact hqueue
      | cons oldest rest => rfl

theorem queue_close (service : Service) : (service.step .close).queue = service.queue := by
  rw [step, close]
  split <;> rfl

/-- What is observed of a job is added to what has been observed. -/
theorem observe_of_job {α : Type} (observe : Action → Option α) {job : Job}
    (hjob : service.job? move = some job) :
    (service.step move).actions.filterMap observe =
      service.actions.filterMap observe ++ job.outcome.actions.filterMap observe := by
  rw [(step_of_job hjob).2.2, List.filterMap_append]

/-- Nothing new is observed without a job, except of closing. -/
theorem observe_idle {α : Type} {observe : Action → Option α}
    (hclose : ∀ pool : Pool, pool.close.filterMap observe = [])
    (hjob : service.job? move = none) :
    (service.step move).actions.filterMap observe = service.actions.filterMap observe := by
  rcases service.step_kinds move with ⟨job, hgiven⟩ | ⟨pool, rfl, hopen⟩ | ⟨_, hfront⟩
  · rw [hjob] at hgiven
    cases hgiven
  · rw [step_close hopen, List.filterMap_append, hclose, List.append_nil]
  · rw [hfront.actions]

/-- In a driven run, every job is to handle the oldest event of the queue. -/
theorem job_of_queued {job : Job} (hqueued : move.IsQueued)
    (hjob : service.job? move = some job) :
    ∃ event answer, move = .pump answer ∧ service.queue.head? = some event ∧
      job = ⟨job.pool, .event event, answer⟩ := by
  cases move with
  | pump answer =>
      unfold job? at hjob
      split at hjob
      · next pool operation given hpool hoperation =>
          obtain ⟨event, hevent, hpair⟩ := Option.map_eq_some_iff.mp hoperation
          cases hpair
          cases hjob
          exact ⟨event, answer, rfl, hevent, rfl⟩
      · cases hjob
  | operate operation answer => exact hqueued.elim
  | send _ | pick _ _ _ | settle _ _ | stopQueue | close => simp [job?, operation?] at hjob

/-- Nothing but closing takes the pool away. -/
theorem eq_close_of_step {pool : Pool} (hopen : service.pool = some pool)
    (hnext : (service.step move).pool = none) : move = .close := by
  rcases service.step_kinds move with ⟨job, hjob⟩ | ⟨_, hclose, _⟩ | ⟨_, hfront⟩
  · rw [(step_of_job hjob).1] at hnext
    cases hnext
  · exact hclose
  · rw [hfront.pool, hopen] at hnext
    cases hnext

/-- An open pool comes out of a job or is the one that was open before. -/
theorem step_cases {next : Pool} (hopen : (service.step move).pool = some next) :
    (∃ job, service.job? move = some job ∧ next = job.outcome.pool) ∨
      (service.job? move = none ∧ service.pool = some next ∧
        SameFront (service.step move) service) := by
  rcases service.step_kinds move with ⟨job, hjob⟩ | ⟨pool, rfl, hpool⟩ | ⟨hjob, hfront⟩
  · rw [(step_of_job hjob).1] at hopen
    exact .inl ⟨job, hjob, (Option.some.inj hopen).symm⟩
  · rw [step_close hpool] at hopen
    cases hopen
  · exact .inr ⟨hjob, hfront.pool ▸ hopen, hfront⟩

end Service

end StickyRouting
