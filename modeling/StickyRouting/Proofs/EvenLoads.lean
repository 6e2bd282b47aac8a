import StickyRouting.Proofs.Filling

/-!
# Even loads

A stretch of moves in which all requests go to one router and no pick is settled fills the
connections of the router.  Between the requests the pool may do what it likes, since it writes to
no meter.
-/

namespace StickyRouting

def Move.isPick : Move → Bool
  | pick _ _ _ => true
  | operate _ _ | send _ | pump _ | settle _ _ | stopQueue | close => false

namespace Service

variable {service : Service} {picker : Nat} {router : Router}

/-- The moves of a stretch, each with the service that it finds. -/
def moments : Service → List Move → List (Service × Move)
  | _, [] => []
  | service, move :: moves => (service, move) :: (service.step move).moments moves

/-- Whether a move sends a request that no bound key routes to the picker at a position, or neither
picks, nor settles a pick, nor closes the queue. -/
def Fills (picker : Nat) (service : Service) : Move → Prop
  | .pick asked _ request => asked = picker ∧ Router.boundKey? service.board request = none
  | .settle _ _ | .stopQueue => False
  | .operate _ _ | .send _ | .pump _ | .close => True

instance decidableFills (picker : Nat) (service : Service) : DecidablePred (Fills picker service)
  | .pick asked _ request =>
      inferInstanceAs
        (Decidable (asked = picker ∧ Router.boundKey? service.board request = none))
  | .settle _ _ | .stopQueue => .isFalse id
  | .operate _ _ | .send _ | .pump _ | .close => .isTrue True.intro

/-- The result of a request, if a move sends one to a published picker. -/
def result? (service : Service) : Move → Option (Except Error Pick)
  | .pick picker choice request =>
      (service.published[picker]?).map fun published =>
        (published.pickBy (tieBreak choice) service.board request).result
  | .operate _ _ | .send _ | .pump _ | .settle _ _ | .stopQueue | .close => none

def queuedByPick (service : Service) : Move → List Event
  | .pick picker choice request =>
      (service.pick picker choice request).queue.drop service.queue.length
  | .operate _ _ | .send _ | .pump _ | .settle _ _ | .stopQueue | .close => []

def results (service : Service) (moves : List Move) : List (Except Error Pick) :=
  (service.moments moves).filterMap fun moment => moment.1.result? moment.2

/-- What the requests of a stretch put into the queue. -/
def queuedByPicks (service : Service) (moves : List Move) : List Event :=
  (service.moments moves).flatMap fun moment => moment.1.queuedByPick moment.2

theorem results_cons (service : Service) (move : Move) (moves : List Move) :
    service.results (move :: moves) =
      (service.result? move).toList ++ (service.step move).results moves := by
  rw [results, moments, List.filterMap_cons]
  cases service.result? move <;> rfl

theorem queuedByPicks_cons (service : Service) (move : Move) (moves : List Move) :
    service.queuedByPicks (move :: moves) =
      service.queuedByPick move ++ (service.step move).queuedByPicks moves := by
  rw [queuedByPicks, moments, List.flatMap_cons, queuedByPicks]

/-- A request to a router is served by a least busy connection, or is refused, for the first time
with a request for growth, when every connection is at the limit. -/
theorem pick_filling (hpicker : service.published[picker]? = some (.routing router))
    (hready : router.ready ≠ []) (haccepting : service.accepting = true)
    {request : PickRequest} (hunbound : Router.boundKey? service.board request = none)
    (choice : Nat) {results : List (Except Error Pick)} {events : List Event} {last : Board}
    (hrest : router.Filling (service.pick picker choice request).board results events last) :
    router.Filling service.board
      ((service.result? (.pick picker choice request)).toList ++ results)
      (service.queuedByPick (.pick picker choice request) ++ events) last := by
  obtain ⟨connection, hleast, houtcome⟩ := Router.pickBy_unbound hready hunbound choice
  have hqueued : service.queuedByPick (.pick picker choice request) =
      (router.pickBy (tieBreak choice) service.board request).events := by
    rw [queuedByPick, pick_of_published hpicker, enqueue_queue, if_pos haccepting]
    exact List.drop_left
  have hboard : (service.pick picker choice request).board =
      (router.pickBy (tieBreak choice) service.board request).board := by
    rw [pick_of_published hpicker, enqueue_board]
    rfl
  have hresult : service.result? (.pick picker choice request) =
      some (router.pickBy (tieBreak choice) service.board request).result := by
    rw [result?, hpicker]
    rfl
  rw [hboard] at hrest
  rw [hqueued, hresult]
  rw [houtcome] at hrest ⊢
  split at hrest
  · next hserves =>
      rw [if_pos hserves]
      rw [Bool.or_eq_true, decide_eq_true_eq, Bool.not_eq_true'] at hserves
      change router.Filling service.board
        (.ok ⟨connection, request.command, request.key⟩ :: results) events last
      exact .served hleast hserves rfl rfl hrest
  · next hserves =>
      rw [if_neg hserves, Router.result_pickSaturated, Router.events_pickSaturated]
      rw [Bool.or_eq_true, decide_eq_true_eq, Bool.not_eq_true', not_or, UInt32.not_lt,
        Bool.not_eq_false] at hserves
      obtain ⟨hfull, hgrow⟩ := hserves
      -- The connection that was chosen is full, and no other one is less busy.
      have hbusy (other : ReadyConnection) (hother : other ∈ router.ready) :
          router.maxStreams ≤ Router.load service.board other :=
        UInt32.le_trans hfull ((Router.mem_leastBusy.mp hleast).2 other hother)
      exact .refused hbusy hgrow (router.streams_pickSaturated _) Router.asked_pickSaturated hrest

/-- The moves of a stretch fill the connections of the router. -/
theorem filling (hpicker : service.published[picker]? = some (.routing router))
    (hready : router.ready ≠ []) (haccepting : service.accepting = true) {moves : List Move}
    (hfills : ∀ moment ∈ service.moments moves, moment.1.Fills picker moment.2) :
    router.Filling service.board (service.results moves) (service.queuedByPicks moves)
      (moves.foldl step service).board := by
  induction moves generalizing service with
  | nil => exact .done _
  | cons move moves ih =>
      have hfirst := hfills (service, move) List.mem_cons_self
      have hmove : move ≠ .stopQueue := by
        rintro rfl
        exact hfirst
      have hrest := ih (getElem?_published_step hpicker)
        ((accepting_step hmove).trans haccepting)
        fun moment hmoment => hfills moment (List.mem_cons_of_mem _ hmoment)
      rw [results_cons, queuedByPicks_cons]
      cases move with
      | pick asked choice request =>
          obtain ⟨rfl, hunbound⟩ := hfirst
          exact pick_filling hpicker hready haccepting hunbound choice hrest
      | operate _ _ | send _ | pump _ | close =>
          exact .idle (service.streams_quiet (by simp) (by simp)).2
            (growthAsked_step (by simp)) hrest
      | settle _ _ | stopQueue => exact hfirst.elim

/-- Every request of a stretch has a result. -/
theorem length_results (hpicker : service.published[picker]? = some (.routing router))
    {moves : List Move}
    (hfills : ∀ moment ∈ service.moments moves, moment.1.Fills picker moment.2) :
    (service.results moves).length = moves.countP Move.isPick := by
  induction moves generalizing service with
  | nil => rfl
  | cons move moves ih =>
      have hfirst := hfills (service, move) List.mem_cons_self
      have hrest := ih (getElem?_published_step hpicker)
        fun moment hmoment => hfills moment (List.mem_cons_of_mem _ hmoment)
      rw [results_cons, List.length_append, hrest, List.countP_cons, Nat.add_comm]
      cases move with
      | pick asked choice request =>
          obtain ⟨rfl, _⟩ := hfirst
          rw [result?, hpicker]
          rfl
      | operate _ _ | send _ | pump _ | settle _ _ | stopQueue | close => rfl

/-- A stretch of requests that no bound key routes, all to one router that has not asked for growth,
without a pick being settled in between, fills the connections of the router evenly: each carries
as many streams more as there were picks on it, and one that was chosen is at most one stream ahead
of the others.  A router that may ask for growth serves exactly the first requests, up to the sum of
what its connections had room for, and with the first of the others it puts its one request for
growth into the queue; one that may not serves all requests and asks for nothing. -/
theorem fills_evenly (service : Service) {picker : Nat} {router : Router}
    (hpicker : service.published[picker]? = some (.routing router)) (hready : router.ready ≠ [])
    (hdistinct : (router.ready.map ReadyConnection.meter).Nodup)
    (hnew : router.serial ∉ service.board.growthAsked) (haccepting : service.accepting = true)
    (moves : List Move)
    (hfills : ∀ moment ∈ service.moments moves, moment.1.Fills picker moment.2) :
    let results := service.results moves
    let after := (moves.foldl step service).board
    results.length = moves.countP Move.isPick ∧
      (router.FitsCounters service.board results →
        (∀ connection ∈ router.ready,
          (Router.load after connection).toNat =
            (Router.load service.board connection).toNat +
              Pick.countOn (Router.picksOf results) connection) ∧
        ∀ pick ∈ Router.picksOf results,
          pick.connection ∈ router.ready ∧ router.IsLevel after pick.connection) ∧
      (router.canGrow = true →
        (∀ (index : Nat) (result : Except Error Pick), results[index]? = some result →
          if index < router.capacity service.board then ∃ pick, result = .ok pick
          else result = .error .noSubchannelAvailable) ∧
        service.queuedByPicks moves =
          if router.capacity service.board < results.length then [.scaleUp] else []) ∧
      (router.canGrow = false →
        (∀ result ∈ results, ∃ pick, result = .ok pick) ∧ service.queuedByPicks moves = []) := by
  intro results after
  have hfilling := service.filling hpicker hready haccepting hfills
  refine ⟨length_results hpicker hfills, fun hfits => ⟨fun connection hconnection => ?_,
    fun pick hpick => ⟨?_, ?_⟩⟩, fun hgrow => ⟨fun index result hresult => ?_, ?_⟩, ?_⟩
  · exact hfilling.load_eq hdistinct hfits hconnection
  · exact hfilling.connection_mem pick hpick
  · exact hfilling.level_of_pick hdistinct hfits pick hpick
  · exact hfilling.result_of_grows hdistinct hgrow hresult
  · have hevents := hfilling.events_of_grows hdistinct hgrow
    simpa only [hnew, not_false_eq_true, true_and] using hevents
  · exact hfilling.served_of_shares

/-- Two connections, the first with one stream open, and a limit of two streams: five requests, with
a key bound in between and a tie that goes to the second connection.  While the pool may have a
third connection, three requests are served and one request for growth is made.  A full pool serves
all five, and each connection carries three streams then. -/
theorem fills_evenly_tied :
    let second : ConnectionId := ⟨2, by decide⟩
    let service (limit : UInt64) := (Run.ofMoves { maxConnections := limit, maxStreams := 2 }
      [.grant 0 .first, .grant 1 second, .handle (.stateChanged .first .ready),
        .handle (.stateChanged second .ready), .pick 1 0 {}]).service
    let moves : List Move := [.pick 2 0 {}, .handle (.bind "key" .first), .pick 2 1 {},
      .pick 2 0 {}, .pick 2 0 {}, .pick 2 0 {}]
    (∃ router, (service 3).published[2]? = some (.routing router) ∧
        router.capacity (service 3).board = 3 ∧ ((service 3).results moves).length = 5 ∧
        (∃ pick, ((service 3).results moves)[2]? = some (.ok pick)) ∧
        ((service 3).results moves)[3]? = some (.error .noSubchannelAvailable) ∧
        (service 3).queuedByPicks moves = [.scaleUp]) ∧
      ∃ router, (service 2).published[2]? = some (.routing router) ∧
        (∀ result ∈ (service 2).results moves, ∃ pick, result = .ok pick) ∧
        (service 2).queuedByPicks moves = [] ∧
        ∀ connection ∈ router.ready,
          (Router.load (moves.foldl step (service 2)).board connection).toNat = 3 := by
  intro second service moves
  constructor
  · obtain ⟨router, hpicker, hready, hdistinct, hnew, hgrow, hcapacity⟩ :
        ∃ router, (service 3).published[2]? = some (.routing router) ∧ router.ready ≠ [] ∧
          (router.ready.map ReadyConnection.meter).Nodup ∧
            router.serial ∉ (service 3).board.growthAsked ∧ router.canGrow = true ∧
              router.capacity (service 3).board = 3 :=
      ⟨_, rfl, by decide +kernel, by decide +kernel, by decide +kernel, by decide +kernel,
        by decide +kernel⟩
    obtain ⟨hlength, _, hgrows, _⟩ := (service 3).fills_evenly hpicker hready hdistinct hnew rfl
      moves (by decide +kernel)
    obtain ⟨hserved, hqueued⟩ := hgrows hgrow
    have hfive : ((service 3).results moves).length = 5 := hlength
    have hthird := hserved 2 _ (List.getElem?_eq_getElem (by omega))
    have hfourth := hserved 3 _ (List.getElem?_eq_getElem (by omega))
    rw [hcapacity, if_pos (by decide)] at hthird
    rw [hcapacity, if_neg (by decide)] at hfourth
    rw [hcapacity, hfive, if_pos (by decide)] at hqueued
    obtain ⟨pick, hpick⟩ := hthird
    refine ⟨router, hpicker, hcapacity, hfive, ⟨pick, ?_⟩, ?_, hqueued⟩
    · rw [← hpick, List.getElem?_eq_getElem]
    · rw [← hfourth, List.getElem?_eq_getElem]
  · obtain ⟨router, hpicker, hready, hdistinct, hnew, hgrow, hfits, hloads⟩ :
        ∃ router, (service 2).published[2]? = some (.routing router) ∧ router.ready ≠ [] ∧
          (router.ready.map ReadyConnection.meter).Nodup ∧
            router.serial ∉ (service 2).board.growthAsked ∧ router.canGrow = false ∧
              router.FitsCounters (service 2).board ((service 2).results moves) ∧
                ∀ connection ∈ router.ready,
                  (Router.load (service 2).board connection).toNat +
                    Pick.countOn (Router.picksOf ((service 2).results moves)) connection = 3 :=
      ⟨_, rfl, by decide +kernel, by decide +kernel, by decide +kernel, by decide +kernel,
        by decide +kernel, by decide +kernel⟩
    obtain ⟨_, hcounts, _, hshares⟩ := (service 2).fills_evenly hpicker hready hdistinct hnew rfl
      moves (by decide +kernel)
    obtain ⟨hserved, hqueued⟩ := hshares hgrow
    exact ⟨router, hpicker, hserved, hqueued, fun connection hconnection =>
      ((hcounts hfits).1 connection hconnection).trans (hloads connection hconnection)⟩

end Service

end StickyRouting
