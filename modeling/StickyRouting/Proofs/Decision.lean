import StickyRouting.Proofs.StreamLimit

/-!
# A pick decides by the present

A picker is built from the pool as it once was.  Which connections it routes over is fixed then, and
whether it may ask for growth; only the bindings and the meters are read when it picks.  Even so,
with the picker that is current a request is decided as the pool itself would decide it at that
moment, as long as the channel grants no identifier that is in use.  The decision is stated here on
the pool, without any picker, except that the picker says whether busy connections are shared.
-/

namespace StickyRouting

namespace Pool

/-- The connection that the key of a request is bound to, if the request is routed by a bound
key. -/
def boundTo? (pool : Pool) (request : PickRequest) : Option ConnectionId :=
  request.routingKey?.bind fun key => pool.affinity[key]?

/-- Which connections may serve a request, by the present state of a pool: the one that its key is
bound to, once that one is ready; and if no bound key routes it, every least busy one that is below
the limit on streams or may be shared beyond it. -/
inductive Serves (pool : Pool) (board : Board) (shares : Bool) (request : PickRequest) :
    Connection → Prop
  | bound {id : ConnectionId} {connection : Connection}
      (hbound : pool.boundTo? request = some id)
      (hid : pool.connections[id]? = some connection) (hready : connection.state = .ready) :
      Serves pool board shares request connection
  | leastBusy {connection : Connection} (hunbound : pool.boundTo? request = none)
      (hleast : pool.LeastBusy board connection)
      (hroom : board.streamCount connection.meter < pool.config.maxStreams ∨ shares = true) :
      Serves pool board shares request connection

theorem mem_ready_of_tracked {pool : Pool} {id : ConnectionId} {connection : Connection}
    (hid : pool.connections[id]? = some connection) (hready : connection.state = .ready) :
    connection ∈ pool.ready := by
  have hentry := Std.ExtTreeMap.mem_toList_iff_getElem?_eq_some.mpr hid
  rw [ready, WorkingSet.list, List.mem_filter, hready]
  exact ⟨List.mem_map.mpr ⟨(id, connection), hentry, rfl⟩, rfl⟩

/-- A router serves a request at a least busy connection exactly if that one has room or the router
shares busy connections. -/
theorem LeastBusy.served_iff {pool : Pool} {board : Board} {connection : Connection}
    (hleast : pool.LeastBusy board connection) (router : Router) :
    ¬ (pool.Saturated board ∧ router.canGrow = true) ↔
      board.streamCount connection.meter < pool.config.maxStreams ∨
        (Picker.routing router).sharesBusy = true := by
  rw [hleast.not_saturated_iff, Picker.sharesBusy, Bool.not_eq_true']

end Pool

namespace Run

variable {run : Run} {pool : Pool} {request : PickRequest}

theorem boundKey?_eq_none_iff (hopen : run.service.pool = some pool) :
    Router.boundKey? run.service.board request = none ↔ pool.boundTo? request = none := by
  rw [Router.boundKey?, run.bindings_eq hopen, Pool.boundTo?]
  cases request.routingKey? with
  | none => exact iff_of_true rfl rfl
  | some key => simp

/-- The current picker refuses for a failure of the channel exactly if the channel fails, and
otherwise for want of a connection. -/
theorem refusal_current (hfresh : run.Follows Job.Fresh) (hopen : run.service.pool = some pool) :
    (run.service.board.snapshot.picker.refusal = .transientFailure ↔
        pool.state = .transientFailure) ∧
      (pool.state ≠ .transientFailure →
        run.service.board.snapshot.picker.refusal = .noSubchannelAvailable) := by
  have hfailing := (run.current hfresh hopen).failing
  have hpublished := List.mem_of_getElem? run.getElem?_current
  change _ ↔ pool.state = .transientFailure at hfailing
  rw [← hfailing]
  cases hpicker : run.service.board.snapshot.picker with
  | routing router => exact ⟨iff_of_false nofun nofun, fun _ => rfl⟩
  | failing failure =>
      cases failure with
      | noSubchannelAvailable => exact ⟨iff_of_false nofun nofun, fun _ => rfl⟩
      | transientFailure =>
          exact ⟨iff_of_true rfl rfl, fun hstate => absurd (hfailing.mp hpicker) hstate⟩
      | closed =>
          rw [hpicker] at hpublished
          exact absurd hpublished (run.published_open hopen)

/-- What a pick with the current picker makes of a service. -/
theorem next_attempt (run : Run) (choice : Nat) (request : PickRequest) :
    (run.next (.pick run.service.current choice request)).service =
      { run.service with
        board := (run.service.attempt choice request).board
        held := run.service.held ++
          (run.service.attempt choice request).result.toOption.toList
        : Service }.enqueue (run.service.attempt choice request).events :=
  Service.pick_of_published run.getElem?_current choice request

theorem accepted_of_ok {choice : Nat} {pick : Pick}
    (hpick : (run.service.attempt choice request).result = .ok pick) :
    pick = ⟨pick.connection, request.command, request.key⟩ ∧
      pick.connection ∈ run.service.board.snapshot.picker.entries ∧
      run.service.attempt choice request =
        .accepted run.service.board request pick.connection := by
  rw [Service.attempt] at hpick ⊢
  rcases run.service.board.snapshot.picker.pickBy_outcome choice run.service.board request with
    ⟨connection, hentry, houtcome⟩ | ⟨notices, houtcome⟩ | ⟨router, _, _, houtcome⟩
  · rw [houtcome] at hpick
    cases hpick
    exact ⟨rfl, hentry, houtcome⟩
  all_goals
    rw [houtcome] at hpick
    cases hpick

/-- A pick that succeeds opens a stream and is held, and changes nothing else. -/
theorem next_of_ok {choice : Nat} {pick : Pick}
    (hpick : (run.service.attempt choice request).result = .ok pick) :
    (run.next (.pick run.service.current choice request)).service =
      { run.service with
        board := run.service.board.openStream pick.connection.meter
        held := run.service.held ++ [pick] } := by
  obtain ⟨_, _, haccepted⟩ := accepted_of_ok hpick
  rw [next_attempt, hpick, haccepted]
  exact Service.enqueue_nil _

/-- The stream is opened on the connection that was chosen, and on no other one that was ever
created. -/
theorem streamCount_of_ok {choice : Nat} {pick : Pick}
    (hpick : (run.service.attempt choice request).result = .ok pick) {other : ReadyConnection}
    (hother : run.service.Created other) :
    (run.next (.pick run.service.current choice request)).service.board.streamCount other.meter =
      run.service.board.streamCount other.meter + if pick.connection = other then 1 else 0 := by
  obtain ⟨_, hentry, _⟩ := accepted_of_ok hpick
  have hcreated : run.service.Created pick.connection :=
    run.created_of_published _ (List.mem_of_getElem? run.getElem?_current) _ hentry
  have hmeter : pick.connection.meter = other.meter ↔ pick.connection = other :=
    ⟨hcreated.eq_of_meter hother, congrArg ReadyConnection.meter⟩
  rw [next_of_ok hpick, Board.streamCount_openStream]
  simp only [hmeter]
  split
  · rfl
  · exact (UInt32.add_zero _).symm

theorem refused_of_error {choice : Nat} {error : Error}
    (herror : (run.service.attempt choice request).result = .error error) :
    error = run.service.board.snapshot.picker.refusal ∧
      ((run.next (.pick run.service.current choice request)).service = run.service ∨
        ∃ router, run.service.board.snapshot.picker = .routing router ∧
          router.serial ∉ run.service.board.growthAsked ∧
          (run.next (.pick run.service.current choice request)).service =
            { run.service with
              board := run.service.board.askGrowth router.serial }.enqueue [.scaleUp]) := by
  rw [next_attempt]
  rw [Service.attempt] at herror ⊢
  rcases run.service.board.snapshot.picker.pickBy_outcome choice run.service.board request with
    ⟨connection, _, houtcome⟩ | ⟨notices, houtcome⟩ | ⟨router, hrouter, hnew, houtcome⟩
  · rw [houtcome] at herror
    cases herror
  · rw [houtcome] at herror ⊢
    refine ⟨(Except.error.inj herror).symm, .inl ?_⟩
    change Service.enqueue { run.service with held := run.service.held ++ [] } [] = run.service
    rw [Service.enqueue_nil, List.append_nil]
  · rw [houtcome] at herror ⊢
    refine ⟨(Except.error.inj herror).symm, .inr ⟨router, hrouter, hnew, ?_⟩⟩
    change Service.enqueue { run.service with
      board := run.service.board.askGrowth router.serial
      held := run.service.held ++ [] } [.scaleUp] = _
    rw [List.append_nil]

/-- A connection that is chosen with the current picker may serve the request. -/
theorem serves_of_accepted (hfresh : run.Follows Job.Fresh) (hopen : run.service.pool = some pool)
    {choice : Nat} {entry : ReadyConnection}
    (hentry : entry ∈ run.service.board.snapshot.picker.entries)
    (haccepted : run.service.attempt choice request =
      .accepted run.service.board request entry) :
    ∃ connection, entry = .ofConnection connection ∧
      pool.Serves run.service.board run.service.board.snapshot.picker.sharesBusy request
        connection := by
  have hresult : (run.service.attempt choice request).result =
      .ok ⟨entry, request.command, request.key⟩ := congrArg PickOutcome.result haccepted
  rw [(run.current hfresh hopen).entries] at hentry
  obtain ⟨id, connection, hid, hready, rfl⟩ := WorkingSet.mem_captured.mp hentry
  cases hbound : pool.boundTo? request with
  | some holder =>
      obtain ⟨key, hroute, hkey⟩ := Option.bind_eq_some_iff.mp hbound
      rw [← run.bindings_eq hopen] at hkey
      by_cases hmem : holder ∈ run.service.board.snapshot.picker.readyIds
      · obtain ⟨pick, hpick, rfl⟩ := Picker.pickBy_of_mem (tieBreak choice) hroute hkey hmem
        cases hresult.symm.trans hpick
        rw [← run.keyed hopen id connection hid] at hid
        exact ⟨connection, rfl, .bound hbound hid hready⟩
      · obtain ⟨_, _, _, hrefused⟩ := Picker.pickBy_of_not_mem (tieBreak choice) hroute hkey hmem
        cases hresult.symm.trans (congrArg PickOutcome.result hrefused)
  | none =>
      have hsome : pool.ready ≠ [] := List.ne_nil_of_mem (Pool.mem_ready_of_tracked hid hready)
      obtain ⟨router, hrouter, _, least, hleast, hattempt⟩ :=
        attempt_cases hfresh hopen hsome ((boundKey?_eq_none_iff hopen).mpr hbound) choice
      rw [hattempt] at hresult
      split at hresult
      · rw [Router.result_pickSaturated] at hresult
        cases hresult
      · next hserved =>
          have hchosen : ReadyConnection.ofConnection least = .ofConnection connection :=
            congrArg Pick.connection (Except.ok.inj hresult)
          rw [hrouter]
          exact ⟨least, hchosen.symm,
            .leastBusy hbound hleast ((hleast.served_iff router).mp hserved)⟩

/-- A request that a connection may serve is served with the current picker. -/
theorem accepted_of_serves (hfresh : run.Follows Job.Fresh) (hopen : run.service.pool = some pool)
    {connection : Connection}
    (hserves : pool.Serves run.service.board run.service.board.snapshot.picker.sharesBusy request
      connection) (choice : Nat) :
    ∃ pick, (run.service.attempt choice request).result = .ok pick := by
  cases hserves with
  | @bound id _ hbound hid hready =>
      obtain ⟨key, hroute, hkey⟩ := Option.bind_eq_some_iff.mp hbound
      rw [← run.bindings_eq hopen] at hkey
      have hmem : id ∈ run.service.board.snapshot.picker.readyIds := by
        rw [Picker.readyIds_eq, (run.current hfresh hopen).entries]
        apply (run.keyed hopen).mem_captured_ids.mpr
        rw [WorkingSet.stateOf?_of_getElem? hid, hready]
      obtain ⟨pick, hpick, _⟩ := Picker.pickBy_of_mem (tieBreak choice) hroute hkey hmem
      exact ⟨pick, hpick⟩
  | leastBusy hunbound hleast hroom =>
      obtain ⟨router, hrouter, _, chosen, _, hattempt⟩ :=
        attempt_cases hfresh hopen (List.ne_nil_of_mem hleast.ready)
          ((boundKey?_eq_none_iff hopen).mpr hunbound) choice
      rw [hrouter] at hroom
      rw [hattempt, if_neg ((hleast.served_iff router).mpr hroom)]
      exact ⟨_, rfl⟩

/-- As long as the channel grants no identifier that is in use, a request with the current picker is
decided as by the pool itself.  It fails with the channel; otherwise it is served exactly if a
connection may serve it by the present state of the pool, and by such a connection, and for want of
one it fails.  A request that is served opens one stream on its connection and changes nothing else,
and one that fails changes nothing, unless its router asks for growth, which takes a mark and one
request in the queue. -/
theorem decision_live (run : Run) (hfresh : run.Follows Job.Fresh) {pool : Pool}
    (hopen : run.service.pool = some pool) (choice : Nat) (request : PickRequest) :
    let service := run.service
    let picker := service.board.snapshot.picker
    let result := (service.attempt choice request).result
    let after := (run.next (.pick service.current choice request)).service
    (result = .error .transientFailure ↔ pool.state = .transientFailure) ∧
      ((∃ pick, result = .ok pick) ↔
        ∃ connection, pool.Serves service.board picker.sharesBusy request connection) ∧
      (∀ error, result = .error error → pool.state ≠ .transientFailure →
        error = .noSubchannelAvailable) ∧
      (∀ pick, result = .ok pick →
        (∃ connection, pool.Serves service.board picker.sharesBusy request connection ∧
          pick = ⟨.ofConnection connection, request.command, request.key⟩) ∧
        after = { service with
          board := service.board.openStream pick.connection.meter
          held := service.held ++ [pick] } ∧
        ∀ other, service.Created other →
          after.board.streamCount other.meter =
            service.board.streamCount other.meter + if pick.connection = other then 1 else 0) ∧
      ∀ error, result = .error error →
        after = service ∨
          ∃ router, picker = .routing router ∧ router.serial ∉ service.board.growthAsked ∧
            after = { service with
              board := service.board.askGrowth router.serial }.enqueue [.scaleUp] := by
  intro service picker result after
  obtain ⟨hfails, hlacks⟩ := refusal_current hfresh hopen
  refine ⟨⟨fun hresult => ?_, fun hstate => ?_⟩, ⟨?_, ?_⟩, ?_, ?_, ?_⟩
  · exact hfails.mp (refused_of_error hresult).1.symm
  · have hpicker : picker = .failing .transientFailure :=
      (run.current hfresh hopen).failing.mpr hstate
    change (picker.pickBy (tieBreak choice) service.board request).result = _
    rw [hpicker]
    rfl
  · rintro ⟨pick, hpick⟩
    obtain ⟨_, hentry, haccepted⟩ := accepted_of_ok hpick
    obtain ⟨connection, _, hserves⟩ := serves_of_accepted hfresh hopen hentry haccepted
    exact ⟨connection, hserves⟩
  · rintro ⟨connection, hserves⟩
    exact accepted_of_serves hfresh hopen hserves choice
  · intro error herror hstate
    exact (refused_of_error herror).1.trans (hlacks hstate)
  · intro pick hpick
    obtain ⟨hform, hentry, haccepted⟩ := accepted_of_ok hpick
    obtain ⟨connection, hconnection, hserves⟩ :=
      serves_of_accepted hfresh hopen hentry haccepted
    exact ⟨⟨connection, hserves, hconnection ▸ hform⟩, next_of_ok hpick,
      fun _ hother => streamCount_of_ok hpick hother⟩
  · intro error herror
    exact (refused_of_error herror).2

/-- The only connection is ready and busy.  A request that follows its key is served there and a
request without a key is refused, until the connection fails and takes the channel with it. -/
theorem decision_live_busy :
    let first : ReadyConnection := ⟨⟨0, .first⟩, 0⟩
    let keyed : PickRequest := { key := some "key", command := .bound }
    let busy := ((firstRequest { maxConnections := 2, maxStreams := 1 }).next
      (.send (.bind "key" .first))).next .drain
    let failed := (busy.next (.send (.stateChanged .first .transientFailure))).next .drain
    (∃ pool, busy.service.pool = some pool ∧ busy.Follows Job.Fresh ∧
        pool.state ≠ .transientFailure ∧
        (∃ connection, pool.Serves busy.service.board false keyed connection) ∧
        (busy.service.attempt 0 keyed).result = .ok ⟨first, .bound, some "key"⟩ ∧
        (busy.next (.pick busy.service.current 0 keyed)).service.board.streamCount 0 = 2 ∧
        (¬ ∃ connection, pool.Serves busy.service.board false {} connection) ∧
        (busy.service.attempt 0 {}).result = .error .noSubchannelAvailable) ∧
      ∃ pool, failed.service.pool = some pool ∧ failed.Follows Job.Fresh ∧
        pool.state = .transientFailure ∧
        (failed.service.attempt 0 keyed).result = .error .transientFailure := by
  intro first keyed busy failed
  obtain ⟨pool, hopen, hstate⟩ : ∃ pool, busy.service.pool = some pool ∧
      pool.state ≠ .transientFailure :=
    ⟨_, rfl, by decide +kernel⟩
  obtain ⟨last, hlast, hfailed⟩ : ∃ pool, failed.service.pool = some pool ∧
      pool.state = .transientFailure :=
    ⟨_, rfl, by decide +kernel⟩
  have hfresh : failed.Follows Job.Fresh := by decide +kernel
  have hshares : busy.service.board.snapshot.picker.sharesBusy = false := by decide +kernel
  have hserved : (busy.service.attempt 0 keyed).result = .ok ⟨first, .bound, some "key"⟩ := by rfl
  have hrefused : (busy.service.attempt 0 {}).result = .error .noSubchannelAvailable := by rfl
  have hcreated : busy.service.granted[0]? = some ⟨0, .first⟩ := by decide +kernel
  have hone : busy.service.board.streamCount 0 = 1 := by decide +kernel
  obtain ⟨_, hserves, _, hopened, _⟩ := busy.decision_live hfresh.1.1 hopen 0 keyed
  obtain ⟨_, hlacks, _⟩ := busy.decision_live hfresh.1.1 hopen 0 {}
  obtain ⟨hchannel, _⟩ := failed.decision_live hfresh hlast 0 keyed
  obtain ⟨_, _, hcount⟩ := hopened _ hserved
  have htwo := hcount first hcreated
  rw [hone, if_pos rfl] at htwo
  rw [hshares] at hserves hlacks
  refine ⟨⟨pool, hopen, hfresh.1.1, hstate, hserves.mp ⟨_, hserved⟩, hserved, htwo, ?_, hrefused⟩,
    last, hlast, hfresh, hfailed, hchannel.mpr hfailed⟩
  intro hsome
  obtain ⟨pick, hpick⟩ := hlacks.mpr hsome
  cases hrefused.symm.trans hpick

end Run

end StickyRouting
