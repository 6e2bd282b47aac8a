import StickyRouting.Proofs.Growth

/-!
# Requests for growth

A router that cannot serve a request puts one request for growth into the queue, in its whole
life, and is marked for that.  In a run that is driven by an event loop the request stays in the
queue for as long as the router is current, because whatever comes of it, handling it replaces
the router.
-/

namespace StickyRouting

theorem Board.growthAsked_applyAll (board : Board) (actions : List Action) :
    (board.applyAll actions).growthAsked = board.growthAsked := by
  induction actions generalizing board with
  | nil => rfl
  | cons action actions ih =>
      cases action <;> exact ih _

namespace Service

variable {service : Service} {move : Move}

/-- The position of the picker that was published last. -/
def current (service : Service) : Nat :=
  service.published.length - 1

/-- Whether the picker at a position of the published ones is a router that has asked for
growth. -/
def HasAsked (service : Service) (picker : Nat) : Prop :=
  ∃ router, service.published[picker]? = some (.routing router) ∧
    router.serial ∈ service.board.growthAsked

theorem mem_enqueue_queue {event : Event} (hevent : event ∈ service.queue)
    (events : List Event) : event ∈ (service.enqueue events).queue := by
  rw [enqueue_queue]
  split
  · exact List.mem_append_left _ hevent
  · exact hevent

theorem mem_follow_queue {event : Event} (hevent : event ∈ service.queue)
    (caller : CallerEffect) : event ∈ (service.follow caller).queue := by
  rw [follow]
  refine mem_enqueue_queue ?_ caller.events
  exact hevent

/-- A pick asks for growth, marking its router and queueing one request, or leaves marks and
queue alone. -/
theorem pick_cases (service : Service) (picker choice : Nat) (request : PickRequest) :
    (∃ router, service.published[picker]? = some (.routing router) ∧
        router.serial ∉ service.board.growthAsked ∧
        (service.pick picker choice request).board.growthAsked =
          router.serial :: service.board.growthAsked ∧
        (service.pick picker choice request).queue =
          if service.accepting then service.queue ++ [.scaleUp] else service.queue) ∨
      ((service.pick picker choice request).board.growthAsked = service.board.growthAsked ∧
        (service.pick picker choice request).queue = service.queue) := by
  cases hpicker : service.published[picker]? with
  | none =>
      rw [pick_of_unpublished hpicker]
      exact .inr ⟨rfl, rfl⟩
  | some published =>
      rw [pick_of_published hpicker, enqueue_board, enqueue_queue]
      rcases published.pickBy_outcome choice service.board request with
        ⟨_, _, houtcome⟩ | ⟨_, houtcome⟩ | ⟨router, rfl, hnew, houtcome⟩
      · rw [houtcome]
        exact .inr ⟨rfl, by simp [PickOutcome.accepted]⟩
      · rw [houtcome]
        exact .inr ⟨rfl, by simp [PickOutcome.refused]⟩
      · rw [houtcome]
        exact .inl ⟨router, rfl, hnew, rfl, rfl⟩

theorem settle_growthAsked (service : Service) (index : Nat) (completion : Completion) :
    (service.settle index completion).board.growthAsked = service.board.growthAsked := by
  cases hpick : service.held[index]? with
  | none => rw [settle_of_not_held hpick]
  | some pick =>
      rw [settle_of_held hpick, enqueue_board, Pick.release, Board.closeStream]
      split <;> rfl

theorem growthAsked_step (hpick : ∀ picker choice request, move ≠ .pick picker choice request) :
    (service.step move).board.growthAsked = service.board.growthAsked := by
  rcases service.step_kinds move with ⟨job, hjob⟩ | ⟨pool, rfl, hopen⟩ | ⟨hjob, _⟩
  · rw [(step_of_job hjob).2.1, Board.growthAsked_applyAll]
  · rw [step_close hopen, Board.growthAsked_applyAll]
  · cases move with
    | operate operation answer | pump answer => rw [step, hjob, Option.elim_none]
    | send event => rw [step, enqueue_board]
    | pick picker choice request => exact absurd rfl (hpick picker choice request)
    | settle index completion => exact settle_growthAsked service index completion
    | stopQueue => rfl
    | close =>
        cases hpool : service.pool with
        | none => simp only [step, close, hpool]
        | some pool => rw [step_close hpool, Board.growthAsked_applyAll]

/-- Marks are left by picks with the router that is marked, and each goes with a request in the
queue. -/
theorem growthAsked_cases (service : Service) (move : Move) :
    (∃ (picker : Nat) (router : Router), service.published[picker]? = some (.routing router) ∧
        (service.step move).board.growthAsked =
          router.serial :: service.board.growthAsked ∧
        (service.step move).queue =
          if service.accepting then service.queue ++ [.scaleUp] else service.queue) ∨
      (service.step move).board.growthAsked = service.board.growthAsked := by
  by_cases hpick : ∃ picker choice request, move = .pick picker choice request
  · obtain ⟨picker, choice, request, rfl⟩ := hpick
    rcases service.pick_cases picker choice request with
      ⟨router, hrouter, _, hmarked, hqueue⟩ | ⟨hmarked, _⟩
    · exact .inl ⟨picker, router, hrouter, hmarked, hqueue⟩
    · exact .inr hmarked
  · exact .inr (growthAsked_step (by simpa using hpick))

/-- A picker keeps its position among the published ones. -/
theorem getElem?_published_step {index : Nat} {picker : Picker}
    (hpicker : service.published[index]? = some picker) :
    (service.step move).published[index]? = some picker := by
  obtain ⟨new, hpublished, _⟩ := service.published_step move
  rw [hpublished, List.getElem?_append_left (List.getElem?_eq_some_iff.mp hpicker).1, hpicker]

/-- A router that has asked for growth stays marked. -/
theorem HasAsked.step {picker : Nat} (hasked : service.HasAsked picker) :
    (service.step move).HasAsked picker := by
  obtain ⟨router, hrouter, hserial⟩ := hasked
  refine ⟨router, getElem?_published_step hrouter, ?_⟩
  rcases service.growthAsked_cases move with ⟨_, _, _, hmarked, _⟩ | hmarked
  · rw [hmarked]
    exact List.mem_cons_of_mem _ hserial
  · rw [hmarked]
    exact hserial

/-- How many requests for growth a move has the picker at a position put into the queue. -/
def requestsAdded (service : Service) (picker : Nat) : Move → Nat
  | .pick asking choice request =>
      if asking = picker then
        (service.pick asking choice request).queue.count .scaleUp -
          service.queue.count .scaleUp
      else 0
  | .operate _ _ | .send _ | .pump _ | .settle _ _ | .stopQueue | .close => 0

/-- A picker puts a request into the queue only when it is marked, and only one. -/
theorem requestsAdded_cases (service : Service) (picker : Nat) (move : Move) :
    service.requestsAdded picker move = 0 ∨
      (service.requestsAdded picker move ≤ 1 ∧ ¬ service.HasAsked picker ∧
        (service.step move).HasAsked picker) := by
  cases move with
  | operate _ _ | send _ | pump _ | settle _ _ | stopQueue | close => exact .inl rfl
  | pick asking choice request =>
      rw [requestsAdded]
      split
      · next hpicker =>
          subst hpicker
          rcases service.pick_cases asking choice request with
            ⟨router, hrouter, hnew, hmarked, hqueue⟩ | ⟨_, hqueue⟩
          · refine .inr ⟨?_, ?_, router, getElem?_published_step hrouter, ?_⟩
            · rw [hqueue]
              split
              · rw [List.count_append, List.count_singleton_self]
                omega
              · omega
            · rintro ⟨marked, hsame, hserial⟩
              rw [hrouter] at hsame
              cases hsame
              exact hnew hserial
            · rw [step, hmarked]
              exact List.mem_cons_self
          · rw [hqueue, Nat.sub_self]
            exact .inl rfl
      · exact .inl rfl

/-- Nothing leaves the queue but the event that the pool handles. -/
theorem mem_queue_step (move : Move) {event : Event} (hevent : event ∈ service.queue) :
    event ∈ (service.step move).queue ∨
      ∃ job, service.job? move = some job ∧ service.queue.head? = some event := by
  cases move with
  | operate operation answer => exact .inl (queue_operate service operation answer ▸ hevent)
  | send sent => exact .inl (mem_enqueue_queue hevent [sent])
  | pump answer =>
      cases hjob : service.job? (.pump answer) with
      | none =>
          rw [step, hjob]
          exact .inl hevent
      | some job =>
          rw [queue_pump, pool_of_job hjob, Option.isSome_some, if_pos rfl]
          cases hevents : service.queue with
          | nil =>
              rw [hevents] at hevent
              cases hevent
          | cons oldest rest =>
              rw [hevents, List.mem_cons] at hevent
              rcases hevent with rfl | hrest
              · exact .inr ⟨job, rfl, rfl⟩
              · exact .inl hrest
  | pick picker choice request => exact .inl (mem_follow_queue hevent _)
  | settle index completion => exact .inl (mem_follow_queue hevent _)
  | stopQueue => exact .inl hevent
  | close => exact .inl (queue_close service ▸ hevent)

theorem accepting_step (hmove : move ≠ .stopQueue) :
    (service.step move).accepting = service.accepting := by
  cases move with
  | operate operation answer =>
      rw [step]
      cases service.job? (.operate operation answer) <;> rfl
  | send event => exact enqueue_accepting service [event]
  | pump answer =>
      rw [step]
      cases service.job? (.pump answer) <;> rfl
  | pick picker choice request => exact enqueue_accepting _ _
  | settle index completion => exact enqueue_accepting _ _
  | stopQueue => exact absurd rfl hmove
  | close =>
      rw [step, close]
      split <;> rfl

end Service

/-! ## Runs -/

namespace Run

/-- How many requests for growth the picker at a position of the published ones has put into the
queue. -/
def growthRequests (picker : Nat) : Run → Nat
  | start _ => 0
  | next run move => run.growthRequests picker + run.service.requestsAdded picker move

theorem accepting_of_driven (run : Run) (hdriven : run.Driven) :
    run.service.accepting = true := by
  induction run with
  | start config => rfl
  | next run move ih =>
      have hmove : move ≠ .stopQueue := by
        rintro rfl
        exact hdriven.2
      rw [service, Service.accepting_step hmove, ih hdriven.1]

/-- The picker on the board is the one that was published last. -/
theorem getElem?_current (run : Run) :
    run.service.published[run.service.current]? = some run.service.board.snapshot.picker := by
  rw [Service.current, ← List.getLast?_eq_getElem?]
  induction run with
  | start config => rfl
  | next run move ih =>
      rcases run.service.step_kinds move with ⟨job, hjob⟩ | ⟨pool, rfl, hopen⟩ | ⟨_, hfront⟩
      · rw [snapshot_of_job hjob, service, Service.published_of_job hjob, Job.outcome,
          Pool.stored_operate]
        split
        · simp
        · simpa using ih
      · rw [service, Service.published_of_close hopen, Service.step_close hopen,
          List.getLast?_concat]
        rfl
      · rw [service, Service.published, hfront.actions, hfront.snapshot]
        exact ih

/-- The routers that were published carry smaller serials than the next one, and so do those that
have asked for growth. -/
theorem serial_lt (run : Run) {pool : Pool} (hopen : run.service.pool = some pool) :
    (∀ router, .routing router ∈ run.service.published → router.serial < pool.nextRouter) ∧
      ∀ serial ∈ run.service.board.growthAsked, serial < pool.nextRouter := by
  induction hopen using pool_induction with
  | start config =>
      refine ⟨fun router hrouter => ?_, fun serial hserial => ?_⟩
      · cases List.mem_singleton.mp hrouter
      · cases hserial
  | job run move job hjob heffect ih =>
      obtain ⟨hpublished, hasked⟩ := ih
      have hnext : job.pool.nextRouter ≤ job.outcome.pool.nextRouter := by
        rw [Job.outcome, Pool.nextRouter_operate]
        split <;> omega
      have hmarks := (Service.step_of_job hjob).2.1
      refine ⟨fun router hrouter => ?_, fun serial hserial => ?_⟩
      · rw [service, Service.published_of_job hjob, List.mem_append] at hrouter
        rcases hrouter with hold | hstored
        · exact Nat.lt_of_lt_of_le (hpublished router hold) hnext
        · rw [Job.outcome, Pool.stored_operate] at hstored
          rw [Job.outcome, Pool.nextRouter_operate]
          split at hstored
          · next hpublish =>
              rw [List.map_singleton, List.mem_singleton] at hstored
              rw [(Pool.publication_eq_routing hstored.symm).1, if_pos hpublish]
              exact Nat.lt_succ_self _
          · cases hstored
      · rw [service, hmarks, Board.growthAsked_applyAll] at hserial
        exact Nat.lt_of_lt_of_le (hasked serial hserial) hnext
  | idle run move pool hopen hjob hfront ih =>
      obtain ⟨hpublished, hasked⟩ := ih
      have hsame : (run.next move).service.published = run.service.published := by
        rw [service, Service.published, hfront.actions, Service.published]
      rw [hsame]
      refine ⟨hpublished, fun serial hserial => ?_⟩
      rw [service] at hserial
      rcases run.service.growthAsked_cases move with
        ⟨_, router, hrouter, hmarked, _⟩ | hmarked
      · -- A pick marks the router that it picks with, and that one was published.
        rw [hmarked, List.mem_cons] at hserial
        rcases hserial with rfl | hold
        · exact hpublished router (List.mem_of_getElem? hrouter)
        · exact hasked serial hold
      · rw [hmarked] at hserial
        exact hasked serial hserial

/-- In a driven run, the request of the current router stays in the queue. -/
theorem request_pending (run : Run) (hdriven : run.Driven) {pool : Pool}
    (hopen : run.service.pool = some pool) {router : Router}
    (hrouter : run.service.board.snapshot.picker = .routing router)
    (hasked : router.serial ∈ run.service.board.growthAsked) :
    .scaleUp ∈ run.service.queue := by
  induction hopen using pool_induction with
  | start config => cases hrouter
  | job run move job hjob heffect ih =>
      rw [service, (Service.step_of_job hjob).2.1, Board.growthAsked_applyAll] at hasked
      rcases snapshot_cases hjob with ⟨_, hsnapshot, _⟩ | ⟨hquiet, hsnapshot, _⟩
      · -- A router that has just been published is not marked.
        rw [hsnapshot] at hrouter
        have hserial := (Pool.publication_eq_routing hrouter).1
        have hless := (run.serial_lt (Service.pool_of_job hjob)).2 router.serial hasked
        omega
      · rw [hsnapshot] at hrouter
        rcases Service.mem_queue_step move (ih hdriven.1 hrouter hasked) with
          hkept | ⟨_, _, hhead⟩
        · exact hkept
        · -- Handling the request would have published another router.
          obtain ⟨event, _, _, hevent, hhandled⟩ := Service.job_of_queued hdriven.2 hjob
          rw [hhead] at hevent
          cases hevent
          rw [hhandled] at hquiet
          cases hquiet
  | idle run move pool hopen hjob hfront ih =>
      rw [service, hfront.snapshot] at hrouter
      rw [service] at hasked ⊢
      rcases run.service.growthAsked_cases move with
        ⟨_, _, _, _, hqueue⟩ | hmarked
      · rw [hqueue, if_pos (run.accepting_of_driven hdriven.1)]
        exact List.mem_append_right _ List.mem_cons_self
      · rw [hmarked] at hasked
        rcases Service.mem_queue_step move (ih hdriven.1 hrouter hasked) with
          hkept | ⟨_, hgiven, _⟩
        · exact hkept
        · rw [hjob] at hgiven
          cases hgiven

theorem growthRequests_le (run : Run) (picker : Nat) :
    run.growthRequests picker ≤ 1 ∧
      (run.growthRequests picker ≠ 0 → run.service.HasAsked picker) := by
  induction run with
  | start config => exact ⟨Nat.zero_le 1, fun hzero => absurd rfl hzero⟩
  | next run move ih =>
      obtain ⟨hbound, hmarked⟩ := ih
      rw [growthRequests, service]
      rcases run.service.requestsAdded_cases picker move with
        hnothing | ⟨hadded, hunmarked, hmark⟩
      · rw [hnothing, Nat.add_zero]
        exact ⟨hbound, fun hsome => (hmarked hsome).step⟩
      · have hnone : run.growthRequests picker = 0 :=
          Decidable.byContradiction fun hsome => hunmarked (hmarked hsome)
        rw [hnone, Nat.zero_add]
        exact ⟨hadded, fun _ => hmark⟩

end Run

end StickyRouting
