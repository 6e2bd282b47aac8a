import Mathlib.Data.List.MinMax
import StickyRouting.Proofs.Requests

/-!
# Saturation

A pool is saturated when each of its ready connections carries as many streams as configured.  In
a run that is driven by an event loop, a request that fails for that reason is never lost for
good: the pool has room for another connection, and will be asked for it.  A router knows of the
room that there was when it was published.  It is not replaced when a connection goes that was not
ready, nor when the resolver has news after growth failed, and so a saturated pool that could grow
may go unasked.
-/

namespace StickyRouting

namespace Pool

/-- Whether every ready connection carries as many streams as configured. -/
def Saturated (pool : Pool) (board : Board) : Prop :=
  ∀ connection ∈ pool.ready, pool.config.maxStreams ≤ board.streamCount connection.meter

instance (pool : Pool) (board : Board) : Decidable (pool.Saturated board) :=
  inferInstanceAs (Decidable (∀ connection ∈ pool.ready, _ ≤ _))

/-- Whether a connection is ready, and no other ready one has fewer open streams. -/
structure LeastBusy (pool : Pool) (board : Board) (connection : Connection) : Prop where
  ready : connection ∈ pool.ready
  least : ∀ other ∈ pool.ready,
    board.streamCount connection.meter ≤ board.streamCount other.meter

theorem LeastBusy.saturated_iff {pool : Pool} {board : Board} {connection : Connection}
    (hleast : pool.LeastBusy board connection) :
    pool.Saturated board ↔ pool.config.maxStreams ≤ board.streamCount connection.meter := by
  constructor
  · intro hsaturated
    exact hsaturated connection hleast.ready
  · intro hbusy other hother
    exact UInt32.le_trans hbusy (hleast.least other hother)

/-- A pool does not ask for growth if a least busy connection has room or growth is ruled out. -/
theorem LeastBusy.not_saturated_iff {pool : Pool} {board : Board} {connection : Connection}
    (hleast : pool.LeastBusy board connection) (grows : Bool) :
    ¬ (pool.Saturated board ∧ grows = true) ↔
      board.streamCount connection.meter < pool.config.maxStreams ∨ grows = false := by
  rw [hleast.saturated_iff, not_and_or, UInt32.not_le, Bool.not_eq_true]

end Pool

theorem exists_tieBreak {ties : List ReadyConnection} (hties : ties ≠ []) (choice : Nat) :
    ∃ connection ∈ ties, tieBreak choice ties = some connection := by
  have hbound : choice % ties.length < ties.length :=
    Nat.mod_lt _ (List.length_pos_iff.mpr hties)
  exact ⟨ties[choice % ties.length], List.getElem_mem hbound, List.getElem?_eq_getElem hbound⟩

namespace Router

variable {router : Router} {board : Board} {request : PickRequest}

theorem mem_leastBusy {connection : ReadyConnection} :
    connection ∈ router.leastBusy board ↔
      connection ∈ router.ready ∧
        ∀ other ∈ router.ready, load board connection ≤ load board other := by
  simp [leastBusy]

theorem leastBusy_ne_nil (hready : router.ready ≠ []) : router.leastBusy board ≠ [] := by
  let streams (connection : ReadyConnection) : Nat := (load board connection).toNat
  obtain ⟨least, hleast⟩ : ∃ least, router.ready.argmin streams = some least :=
    Option.ne_none_iff_exists'.mp (mt List.argmin_eq_none.mp hready)
  refine List.ne_nil_of_mem (mem_leastBusy.mpr ⟨List.argmin_mem hleast, fun other hother => ?_⟩)
  have hstreams : streams least ≤ streams other := List.le_of_mem_argmin hother hleast
  exact UInt32.le_iff_toNat_le.mpr hstreams

/-- A request without a bound key goes to a least busy connection, unless that one is busy and
the router may ask for growth. -/
theorem pickBy_unbound (hready : router.ready ≠ []) (hunbound : boundKey? board request = none)
    (choice : Nat) :
    ∃ connection ∈ router.leastBusy board,
      router.pickBy (tieBreak choice) board request =
        if load board connection < router.maxStreams || !router.canGrow then
          .accepted board request connection
        else router.pickSaturated board := by
  obtain ⟨connection, hleast, hchoice⟩ := exists_tieBreak (leastBusy_ne_nil hready) choice
  refine ⟨connection, hleast, ?_⟩
  have hsome : ¬ router.ready.isEmpty = true := by simpa using hready
  rw [pickBy, if_neg hsome, hunbound, pickLeastBusy, hchoice]

theorem result_pickSaturated :
    (router.pickSaturated board).result = .error .noSubchannelAvailable := by
  rw [pickSaturated]
  split <;> rfl

theorem asked_pickSaturated : router.serial ∈ (router.pickSaturated board).board.growthAsked := by
  rw [pickSaturated]
  split
  · next hasked => exact hasked
  · exact List.mem_cons_self

end Router

/-! ## Picks with the current picker -/

/-- What becomes of a pick with the picker on the board, the one that was published last. -/
def Service.attempt (service : Service) (choice : Nat) (request : PickRequest) : PickOutcome :=
  service.board.snapshot.picker.pickBy (tieBreak choice) service.board request

namespace Run

variable {run : Run} {pool : Pool} {router : Router} {request : PickRequest}

theorem growthAsked_pick (run : Run) (choice : Nat) (request : PickRequest) :
    (run.service.pick run.service.current choice request).board.growthAsked =
      (run.service.attempt choice request).board.growthAsked := by
  rw [Service.pick_of_published run.getElem?_current, Service.enqueue_board]
  rfl

/-- A pick that finds every connection busy leaves a request for growth in the queue, which may
be one of an earlier pick. -/
theorem request_of_pickSaturated (hdriven : run.Driven) (hopen : run.service.pool = some pool)
    (hrouter : run.service.board.snapshot.picker = .routing router) {choice : Nat}
    (hattempt : run.service.attempt choice request = router.pickSaturated run.service.board) :
    .scaleUp ∈ (run.next (.pick run.service.current choice request)).service.queue := by
  have hfront := run.service.pick_front run.service.current choice request
  refine request_pending (run.next _) ⟨hdriven, True.intro⟩ (hfront.pool.trans hopen)
    ((congrArg Snapshot.picker hfront.snapshot).trans hrouter) ?_
  rw [service, Service.step, growthAsked_pick, hattempt]
  exact Router.asked_pickSaturated

/-- While a connection is ready, the current picker is a router.  It sends a request without a
bound key to a least busy connection, unless the pool is saturated and it may ask for growth. -/
theorem attempt_cases (hfresh : run.Follows Job.Fresh) (hopen : run.service.pool = some pool)
    (hready : pool.ready ≠ []) (hunbound : Router.boundKey? run.service.board request = none)
    (choice : Nat) :
    ∃ router, run.service.board.snapshot.picker = .routing router ∧ router.ready ≠ [] ∧
      ∃ connection, pool.LeastBusy run.service.board connection ∧
        run.service.attempt choice request =
          if pool.Saturated run.service.board ∧ router.canGrow = true then
            router.pickSaturated run.service.board
          else .accepted run.service.board request (.ofConnection connection) := by
  have hentries : run.service.board.snapshot.picker.entries =
      pool.ready.map ReadyConnection.ofConnection := (run.current hfresh hopen).entries
  cases hpicker : run.service.board.snapshot.picker with
  | failing failure =>
      rw [hpicker] at hentries
      exact absurd (List.map_eq_nil_iff.mp hentries.symm) hready
  | routing router =>
      rw [hpicker] at hentries
      have hcaptured : router.ready = pool.ready.map ReadyConnection.ofConnection := hentries
      have hsome : router.ready ≠ [] := by
        rw [hcaptured]
        exact mt List.map_eq_nil_iff.mp hready
      obtain ⟨entry, hentry, hpick⟩ := Router.pickBy_unbound hsome hunbound choice
      obtain ⟨hmem, hfewest⟩ := Router.mem_leastBusy.mp hentry
      rw [hcaptured] at hmem hfewest
      obtain ⟨connection, hconnection, rfl⟩ := List.mem_map.mp hmem
      have hleast : pool.LeastBusy run.service.board connection :=
        ⟨hconnection, fun other hother =>
          hfewest (.ofConnection other) (List.mem_map_of_mem hother)⟩
      have hserves : (Router.load run.service.board (.ofConnection connection) <
          pool.config.maxStreams || !router.canGrow) = true ↔
            ¬ (pool.Saturated run.service.board ∧ router.canGrow = true) := by
        rw [hleast.not_saturated_iff, Bool.or_eq_true, decide_eq_true_eq, Bool.not_eq_true']
        rfl
      refine ⟨router, rfl, hsome, connection, hleast, ?_⟩
      have hcurrent := List.mem_of_getElem? run.getElem?_current
      rw [hpicker] at hcurrent
      rw [Service.attempt, hpicker, Picker.pickBy, hpick, run.maxStreams_of_published hcurrent,
        ← run.config_eq hopen, if_congr hserves rfl rfl, ite_not]

/-- In a driven run, every router asks for growth at most once, and its request stays in the queue
for as long as the router is current.  A request without a bound key that fails although a
connection is ready has a reason, and a request for growth is in the queue then.  Once growth has
failed, and until the resolver has news, such requests are served by a least busy connection. -/
theorem saturation_answered (run : Run) (hdriven : run.Driven) (hfresh : run.Follows Job.Fresh) :
    (∀ picker, run.growthRequests picker ≤ 1 ∧
        (run.growthRequests picker ≠ 0 → run.service.HasAsked picker)) ∧
      ∀ pool, run.service.pool = some pool →
        (run.service.HasAsked run.service.current → .scaleUp ∈ run.service.queue) ∧
        ∀ (choice : Nat) (request : PickRequest), pool.ready ≠ [] →
          Router.boundKey? run.service.board request = none →
            ((run.service.attempt choice request).result = .error .noSubchannelAvailable →
              pool.Saturated run.service.board ∧ pool.BelowLimit ∧ ¬ run.GrowthFailed ∧
                .scaleUp ∈
                  (run.next (.pick run.service.current choice request)).service.queue) ∧
            (run.GrowthFailed →
              ∃ connection, pool.LeastBusy run.service.board connection ∧
                run.service.attempt choice request =
                  .accepted run.service.board request (.ofConnection connection)) := by
  refine ⟨run.growthRequests_le, fun pool hopen => ⟨?_, fun choice request hready hunbound => ?_⟩⟩
  · rintro ⟨router, hcurrent, hasked⟩
    rw [run.getElem?_current] at hcurrent
    exact run.request_pending hdriven hopen (Option.some.inj hcurrent) hasked
  · obtain ⟨router, hrouter, hsome, connection, hleast, hattempt⟩ :=
      attempt_cases hfresh hopen hready hunbound choice
    have hroom (hgrow : router.canGrow = true) : pool.growthBlocked = false ∧ pool.BelowLimit :=
      pool.canGrow_iff.mp (run.canGrow_of_router hdriven hfresh hopen hrouter hsome hgrow)
    rw [← run.growthBlocked_iff hopen]
    refine ⟨fun hrefused => ?_, fun hblocked => ⟨connection, hleast, ?_⟩⟩
    · by_cases hasks : pool.Saturated run.service.board ∧ router.canGrow = true
      · obtain ⟨hblock, hbelow⟩ := hroom hasks.2
        rw [if_pos hasks] at hattempt
        exact ⟨hasks.1, hbelow, Bool.eq_false_iff.mp hblock,
          request_of_pickSaturated hdriven hopen hrouter hattempt⟩
      · rw [hattempt, if_neg hasks] at hrefused
        cases hrefused
    · rw [hattempt, if_neg]
      rintro ⟨_, hgrow⟩
      rw [(hroom hgrow).1] at hblocked
      cases hblocked

/-- The run in which a pool makes its first connection, which gets ready and takes one request. -/
def firstRequest (config : Config) : Run :=
  ofMoves config
    [.send (.resolved (.addresses [])), .pump (.granted ⟨0, .first⟩),
      .send (.stateChanged .first .ready), .drain, .pick 1 0 {}]

/-- The only connection is busy, and the second request fails.  When the pool is refused another
connection, the next request shares the busy one. -/
theorem saturation_answered_refused :
    let busy := firstRequest { maxStreams := 1 }
    let asked := busy.next (.pick 1 0 {})
    let blocked := asked.next .drain
    (∃ pool, busy.service.pool = some pool ∧ busy.Driven ∧ busy.Follows Job.Fresh ∧
        pool.ready ≠ [] ∧ Router.boundKey? busy.service.board {} = none ∧
          (busy.service.attempt 0 {}).result = .error .noSubchannelAvailable ∧
            pool.Saturated busy.service.board) ∧
      (asked.Driven ∧ asked.Follows Job.Fresh ∧ asked.growthRequests 1 = 1 ∧
        asked.service.HasAsked asked.service.current ∧ .scaleUp ∈ asked.service.queue) ∧
      ∃ pool, blocked.service.pool = some pool ∧ blocked.Driven ∧ blocked.Follows Job.Fresh ∧
        pool.ready ≠ [] ∧ Router.boundKey? blocked.service.board {} = none ∧
          blocked.GrowthFailed ∧ ∃ connection, pool.LeastBusy blocked.service.board connection ∧
            blocked.service.attempt 0 {} =
              .accepted blocked.service.board {} (.ofConnection connection) := by
  intro busy asked blocked
  obtain ⟨pool, hopen⟩ : ∃ pool, busy.service.pool = some pool := ⟨_, rfl⟩
  obtain ⟨middle, hmiddle⟩ : ∃ pool, asked.service.pool = some pool := ⟨_, rfl⟩
  obtain ⟨last, hlast⟩ : ∃ pool, blocked.service.pool = some pool := ⟨_, rfl⟩
  have hdriven : blocked.Driven := by decide
  have hfresh : blocked.Follows Job.Fresh := by decide
  have hready : pool.ready ≠ [] := by
    cases hopen
    decide
  have hlastReady : last.ready ≠ [] := by
    cases hlast
    decide
  have hrefused : (busy.service.attempt 0 {}).result = .error .noSubchannelAvailable := by rfl
  have hasked : asked.service.HasAsked asked.service.current := ⟨_, rfl, by decide⟩
  have hfailed : blocked.GrowthFailed := by
    refine (blocked.growthBlocked_iff hlast).mp ?_
    cases hlast
    rfl
  obtain ⟨_, hbusy⟩ := busy.saturation_answered hdriven.1.1 hfresh.1.1
  obtain ⟨_, hpending⟩ := asked.saturation_answered hdriven.1 hfresh.1
  obtain ⟨_, hblocked⟩ := blocked.saturation_answered hdriven hfresh
  refine ⟨⟨pool, hopen, hdriven.1.1, hfresh.1.1, hready, rfl, hrefused, ?_⟩,
    ⟨hdriven.1, hfresh.1, by decide, hasked, (hpending middle hmiddle).1 hasked⟩,
    last, hlast, hdriven, hfresh, hlastReady, rfl, hfailed, ?_⟩
  · exact (((hbusy pool hopen).2 0 {} hready rfl).1 hrefused).1
  · exact ((hblocked last hlast).2 0 {} hlastReady rfl).2 hfailed

/-! ## Room that a router does not know of -/

/-- Whether a pool that is saturated, and could grow at present, is asked to. -/
def AsksWhenSaturated (run : Run) : Prop :=
  ∀ pool, run.service.pool = some pool → pool.ready ≠ [] →
    pool.Saturated run.service.board → pool.BelowLimit → ¬ run.GrowthFailed →
      ∀ (choice : Nat) (request : PickRequest),
        Router.boundKey? run.service.board request = none →
          (run.service.attempt choice request).result = .error .noSubchannelAvailable ∧
            .scaleUp ∈ (run.next (.pick run.service.current choice request)).service.queue

theorem not_asksWhenSaturated (hopen : run.service.pool = some pool) (hready : pool.ready ≠ [])
    (hsaturated : pool.Saturated run.service.board) (hgrow : pool.canGrow = true) {choice : Nat}
    (hunbound : Router.boundKey? run.service.board request = none) {pick : Pick}
    (hserved : (run.service.attempt choice request).result = .ok pick) :
    ¬ run.AsksWhenSaturated := by
  intro hasks
  obtain ⟨hblock, hbelow⟩ := pool.canGrow_iff.mp hgrow
  have hquiet : ¬ run.GrowthFailed :=
    mt (run.growthBlocked_iff hopen).mpr (Bool.eq_false_iff.mp hblock)
  obtain ⟨hrefused, _⟩ :=
    hasks pool hopen hready hsaturated hbelow hquiet choice request hunbound
  rw [hserved] at hrefused
  cases hrefused

/-- Two pools that are saturated and could grow are not asked to.  The one has lost a connection
that was never ready since its router was published, and to the other the resolver has brought news
after growth failed. -/
theorem late_room_unnoticed :
    let second : ConnectionId := ⟨2, by decide⟩
    let asked := (firstRequest { maxConnections := 2, maxStreams := 1 }).next (.pick 1 0 {})
    let evicted := List.foldl next asked
      [.pump (.granted ⟨1, second⟩), .send (.stateChanged second .shutdown), .drain]
    let renewed := List.foldl next asked
      [.drain, .send (.resolved (.addresses [])), .drain]
    (evicted.Driven ∧ evicted.Follows Job.Fresh ∧ ¬ evicted.AsksWhenSaturated) ∧
      renewed.Driven ∧ renewed.Follows Job.Fresh ∧ ¬ renewed.AsksWhenSaturated := by
  intro second asked evicted renewed
  have hevicted : ¬ evicted.AsksWhenSaturated := by
    obtain ⟨pool, hopen⟩ : ∃ pool, evicted.service.pool = some pool := ⟨_, rfl⟩
    have hserved : (evicted.service.attempt 0 {}).result =
        .ok ⟨⟨⟨0, .first⟩, 0⟩, .none, none⟩ := by rfl
    refine not_asksWhenSaturated hopen ?_ ?_ ?_ rfl hserved
    all_goals
      cases hopen
      decide
  have hrenewed : ¬ renewed.AsksWhenSaturated := by
    obtain ⟨pool, hopen⟩ : ∃ pool, renewed.service.pool = some pool := ⟨_, rfl⟩
    have hserved : (renewed.service.attempt 0 {}).result =
        .ok ⟨⟨⟨0, .first⟩, 0⟩, .none, none⟩ := by rfl
    refine not_asksWhenSaturated hopen ?_ ?_ ?_ rfl hserved
    all_goals
      cases hopen
      decide
  exact ⟨⟨by decide, by decide, hevicted⟩, by decide, by decide, hrenewed⟩

/-- A saturated pool is asked to grow if it could when the router that is current was published.  If
it could not, then it is not asked, whether it could by now or not, and a least busy connection is
given one stream more. -/
theorem growth_follows_publication (run : Run) (hdriven : run.Driven)
    (hfresh : run.Follows Job.Fresh) {pool : Pool} (hopen : run.service.pool = some pool)
    (hready : pool.ready ≠ []) (hsaturated : pool.Saturated run.service.board)
    (choice : Nat) (request : PickRequest)
    (hunbound : Router.boundKey? run.service.board request = none) :
    ∃ past, run.publication? = some past ∧
      past.service.board.snapshot = run.service.board.snapshot ∧
      (past.CanGrow →
        run.CanGrow ∧
          (run.service.attempt choice request).result = .error .noSubchannelAvailable ∧
            .scaleUp ∈ (run.next (.pick run.service.current choice request)).service.queue) ∧
      (¬ past.CanGrow →
        ∃ connection, pool.LeastBusy run.service.board connection ∧
          run.service.attempt choice request =
            .accepted run.service.board request (.ofConnection connection)) := by
  obtain ⟨router, hrouter, hsome, connection, hleast, hattempt⟩ :=
    attempt_cases hfresh hopen hready hunbound choice
  obtain ⟨past, hpast, hsame, hroom⟩ := run.router_canGrow_iff hopen hrouter
  refine ⟨past, hpast, hsame, fun hcould => ?_, fun hcould => ⟨connection, hleast, ?_⟩⟩
  · have hgrow : router.canGrow = true := hroom.mpr hcould
    rw [if_pos ⟨hsaturated, hgrow⟩] at hattempt
    refine ⟨(run.canGrow_iff hopen).mpr
        (run.canGrow_of_router hdriven hfresh hopen hrouter hsome hgrow), ?_,
      request_of_pickSaturated hdriven hopen hrouter hattempt⟩
    rw [hattempt]
    exact Router.result_pickSaturated
  · rw [hattempt, if_neg]
    rintro ⟨_, hgrow⟩
    exact hcould (hroom.mp hgrow)

/-- The pool is asked for its second connection.  The router that is published then finds the pool
full, and still overloads the first connection when the second one is gone and the pool could
grow. -/
theorem growth_follows_publication_evicted :
    let second : ConnectionId := ⟨2, by decide⟩
    let busy := firstRequest { maxConnections := 2, maxStreams := 1 }
    let full := (busy.next (.pick 1 0 {})).next (.pump (.granted ⟨1, second⟩))
    let evicted := (full.next (.send (.stateChanged second .shutdown))).next .drain
    (∃ pool, busy.service.pool = some pool ∧ busy.Driven ∧ busy.Follows Job.Fresh ∧
        pool.ready ≠ [] ∧ pool.Saturated busy.service.board ∧
          Router.boundKey? busy.service.board {} = none ∧
            (busy.service.attempt 0 {}).result = .error .noSubchannelAvailable ∧
              .scaleUp ∈ (busy.next (.pick 1 0 {})).service.queue) ∧
      ∃ pool, evicted.service.pool = some pool ∧ evicted.Driven ∧ evicted.Follows Job.Fresh ∧
        pool.ready ≠ [] ∧ pool.Saturated evicted.service.board ∧
          Router.boundKey? evicted.service.board {} = none ∧
            evicted.publication? = some full ∧ ¬ full.CanGrow ∧ evicted.CanGrow ∧
              ∃ connection, pool.LeastBusy evicted.service.board connection ∧
                evicted.service.attempt 0 {} =
                  .accepted evicted.service.board {} (.ofConnection connection) := by
  intro second busy full evicted
  obtain ⟨pool, hopen⟩ : ∃ pool, busy.service.pool = some pool := ⟨_, rfl⟩
  obtain ⟨middle, hmiddle⟩ : ∃ pool, full.service.pool = some pool := ⟨_, rfl⟩
  obtain ⟨last, hlast⟩ : ∃ pool, evicted.service.pool = some pool := ⟨_, rfl⟩
  have hdriven : evicted.Driven := by decide
  have hfresh : evicted.Follows Job.Fresh := by decide
  have hready : pool.ready ≠ [] ∧ pool.Saturated busy.service.board := by
    cases hopen
    decide
  have hlastReady : last.ready ≠ [] ∧ last.Saturated evicted.service.board := by
    cases hlast
    decide
  have hfull : ¬ full.CanGrow := by
    rw [full.canGrow_iff hmiddle]
    cases hmiddle
    decide
  have hgrow : evicted.CanGrow := by
    rw [evicted.canGrow_iff hlast]
    cases hlast
    decide
  obtain ⟨past, hpast, _, hasks, _⟩ := busy.growth_follows_publication hdriven.1.1.1.1
    hfresh.1.1.1.1 hopen hready.1 hready.2 0 {} rfl
  obtain ⟨late, hlate, _, _, hserves⟩ := evicted.growth_follows_publication hdriven hfresh hlast
    hlastReady.1 hlastReady.2 0 {} rfl
  have hbusy : past.CanGrow := by
    cases hpast
    rw [canGrow_iff _ rfl]
    decide
  have hsame : evicted.publication? = some full := rfl
  cases hsame.symm.trans hlate
  obtain ⟨_, hrefused, hrequest⟩ := hasks hbusy
  exact ⟨⟨pool, hopen, hdriven.1.1.1.1, hfresh.1.1.1.1, hready.1, hready.2, rfl, hrefused,
      hrequest⟩, last, hlast, hdriven, hfresh, hlastReady.1, hlastReady.2, rfl, hsame, hfull, hgrow,
    hserves hfull⟩

end Run

end StickyRouting
