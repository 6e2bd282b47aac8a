import StickyRouting.Proofs.Effect

/-!
# Keys stay with their connections

A picker keeps the connections that were ready when it was built, and looks keys up in the
bindings of the present.  The board shows the bindings of the table at every moment, a bound
key is released by its own connection alone, and a picker that finds a key bound either
follows the binding or fails.  So a key never moves from one connection to another, and no
picker of whatever age sends it elsewhere.
-/

namespace StickyRouting

theorem AffinityTable.purge_of_keysOf_isEmpty {table : AffinityTable} {id : ConnectionId}
    (hempty : (table.keysOf id).isEmpty) : table.purge id = table := by
  apply Std.ExtTreeMap.ext_getElem?
  intro key
  have hkey : table[key]? ≠ some id := by
    rw [ne_eq, ← mem_keysOf, List.isEmpty_iff.mp hempty]
    exact List.not_mem_nil
  rw [getElem?_purge]
  cases hbound : table[key]? with
  | none => rfl
  | some bound =>
      have hne : bound ≠ id := fun heq => hkey (by rw [hbound, heq])
      simp [hne]

namespace Pool

variable (pool : Pool)

theorem bindings_resolve (resolution : Resolution) (answer : Answer) :
    (pool.resolve resolution answer).bindings.getLastD pool.affinity =
      (pool.resolve resolution answer).pool.affinity := by
  rw [PoolStep.bindings_eq]
  cases resolution with
  | failed error => rfl
  | addresses addresses =>
      rw [visible_resolve_addresses]
      simp only [resolve, PoolStep.after_pool]
      split
      · cases answer <;> rfl
      · rfl

theorem bindings_scaleUp (answer : Answer) :
    (pool.scaleUp answer).bindings.getLastD pool.affinity =
      (pool.scaleUp answer).pool.affinity := by
  have hpool : (pool.scaleUp answer).pool.affinity = (pool.grow answer).pool.affinity := rfl
  rw [PoolStep.bindings_eq, visible_scaleUp, visible_grow, hpool]
  unfold grow
  split
  · cases answer <;> rfl
  · rfl

theorem bindings_bind (hanchored : pool.books.Anchored) (key : String) (id : ConnectionId) :
    (pool.bind key id).bindings.getLastD pool.affinity = (pool.bind key id).pool.affinity := by
  rw [PoolStep.bindings_eq, visible_bind, bind]
  rcases AffinityTable.bind_cases pool.affinity pool.connections hanchored key id with
    ⟨_, _, hbind⟩ | ⟨_, _, _, hbind⟩ | ⟨_, _, _, _, _, hbind⟩
  all_goals
    rw [hbind]
    rfl

theorem bindings_unbind (hanchored : pool.books.Anchored) (key : String) :
    (pool.unbind key).bindings.getLastD pool.affinity = (pool.unbind key).pool.affinity := by
  rw [PoolStep.bindings_eq, visible_unbind, unbind]
  rcases AffinityTable.unbind_cases pool.affinity pool.connections hanchored key with
    ⟨_, hunbind⟩ | ⟨_, _, _, _, ⟨_, hunbind⟩ | ⟨_, _, hunbind⟩⟩
  all_goals
    rw [hunbind]
    rfl

theorem bindings_enter (id : ConnectionId) (handle : Handle) (state : ConnectivityState) :
    (pool.enter id handle state).bindings.getLastD pool.affinity =
      (pool.enter id handle state).pool.affinity := by
  rw [PoolStep.bindings_eq]
  by_cases hstate : state = .shutdown
  · subst state
    have hpool : (pool.enter id handle .shutdown).pool.affinity = pool.affinity.purge id := rfl
    rw [hpool, enter, ConnectivityState.entryEffect, visible_evict]
    split
    · next hempty => exact (AffinityTable.purge_of_keysOf_isEmpty hempty).symm
    · rfl
  · obtain ⟨hpool, hvisible⟩ := enter_of_ne pool id handle hstate
    rw [hpool, hvisible]
    rfl

theorem bindings_changeState (id : ConnectionId) (state : ConnectivityState) :
    (pool.changeState id state).bindings.getLastD pool.affinity =
      (pool.changeState id state).pool.affinity := by
  cases hid : pool.connections[id]? with
  | none =>
      rw [PoolStep.bindings_eq, visible_changeState_unknown pool hid]
      simp only [changeState, hid]
      rfl
  | some connection =>
      let changed := { pool with
        connections := pool.connections.insert id { connection with state } }
      have haffinity : (pool.changeState id state).pool.affinity =
          (changed.enter id connection.handle state).pool.affinity :=
        congrArg Books.affinity (books_changeState pool hid state)
      have henter := bindings_enter changed id connection.handle state
      rw [PoolStep.bindings_eq] at henter
      rw [haffinity, ← henter, PoolStep.bindings_eq, visible_changeState pool hid,
        List.filterMap_append, visible_publishIfChanged]
      split <;> exact congrArg (List.getLastD · pool.affinity) (List.append_nil _)

/-- An operation that changes the table writes it to the board. -/
theorem bindings_operate (hanchored : pool.books.Anchored) (operation : Operation)
    (answer : Answer) :
    (pool.operate operation answer).bindings.getLastD pool.affinity =
      (pool.operate operation answer).pool.affinity := by
  cases operation with
  | create => cases answer <;> rfl
  | publish => rfl
  | event event =>
      cases event with
      | resolved resolution => exact bindings_resolve pool resolution answer
      | stateChanged id state => exact bindings_changeState pool id state
      | bind key id => exact bindings_bind pool hanchored key id
      | unbind key => exact bindings_unbind pool hanchored key
      | scaleUp => exact bindings_scaleUp pool answer

theorem picker_ne_closed : pool.picker ≠ .failing .closed := by
  rw [picker]
  split <;> exact nofun

end Pool

namespace Run

/-- The board shows the table of the pool at every moment. -/
theorem bindings_eq (run : Run) {pool : Pool} (hopen : run.service.pool = some pool) :
    run.service.board.bindings = pool.affinity := by
  induction hopen using pool_induction with
  | start config => rfl
  | job run move job hjob heffect ih =>
      have hanchored := run.anchored (Service.pool_of_job hjob)
      rw [service, (Service.step_of_job hjob).2.1, Board.bindings_applyAll, ih]
      exact job.pool.bindings_operate hanchored job.operation job.answer
  | idle run move pool hopen hjob hfront ih => rw [service, hfront.bindings, ih]

/-- A pool that is open has never published the picker of closed pools. -/
theorem published_open (run : Run) {pool : Pool} (hopen : run.service.pool = some pool) :
    .failing .closed ∉ run.service.published := by
  induction hopen using pool_induction with
  | start config =>
      have hinitial : (start config).service.published =
          [.failing .noSubchannelAvailable] := rfl
      rw [hinitial]
      decide
  | job run move job hjob heffect ih =>
      have hstored : .failing .closed ∉ job.outcome.stored.map Snapshot.picker := by
        rw [Job.outcome, Pool.stored_operate]
        split
        · simpa [Pool.publication, Pool.snapshot] using (Pool.picker_ne_closed _).symm
        · exact List.not_mem_nil
      rw [service, Service.published_of_job hjob, List.mem_append]
      exact not_or.mpr ⟨ih, hstored⟩
  | idle run move pool hopen hjob hfront ih =>
      rwa [service, Service.published, hfront.actions]

end Run

/-! ## Where a picker sends a bound key -/

theorem Picker.mem_readyIds {router : Router} {id : ConnectionId} :
    id ∈ (Picker.routing router).readyIds ↔
      ∃ connection ∈ router.ready, connection.id = id := by
  rw [readyIds, List.mem_map]

theorem Router.boundKey?_of_bound {board : Board} {request : PickRequest} {key : String}
    {id : ConnectionId} (hroute : request.routingKey? = some key)
    (hbound : board.bindings[key]? = some id) :
    Router.boundKey? board request = some (key, id) := by
  rw [boundKey?, hroute, Option.bind_some, hbound, Option.map_some]

/-- A picker that was built while the connection of a key was ready sends the key there, with
whatever load. -/
theorem Picker.pickBy_of_mem (choose : List ReadyConnection → Option ReadyConnection)
    {picker : Picker} {board : Board} {request : PickRequest} {key : String} {id : ConnectionId}
    (hroute : request.routingKey? = some key) (hbound : board.bindings[key]? = some id)
    (hready : id ∈ picker.readyIds) :
    ∃ pick, (picker.pickBy choose board request).result = .ok pick ∧ pick.id = id := by
  cases picker with
  | failing failure => exact absurd hready List.not_mem_nil
  | routing router =>
      obtain ⟨connection, hmem, hid⟩ := mem_readyIds.mp hready
      have hnonempty : ¬ router.ready.isEmpty := by
        rw [List.isEmpty_iff]
        exact List.ne_nil_of_mem hmem
      rw [pickBy, Router.pickBy, if_neg hnonempty, Router.boundKey?_of_bound hroute hbound]
      simp only [Router.pickBound]
      split
      · next found hfound =>
          have hfollowed : found.id = id := by simpa using List.find?_some hfound
          exact ⟨_, rfl, hfollowed⟩
      · next hnone =>
          have hmissing := List.find?_eq_none.mp hnone connection hmem
          simp [hid] at hmissing

/-- A picker without the connection of a key fails the key and leaves no trace. -/
theorem Picker.pickBy_of_not_mem (choose : List ReadyConnection → Option ReadyConnection)
    {picker : Picker} {board : Board} {request : PickRequest} {key : String} {id : ConnectionId}
    (hroute : request.routingKey? = some key) (hbound : board.bindings[key]? = some id)
    (hready : id ∉ picker.readyIds) :
    ∃ failure notices,
      (picker = .failing failure ∨ failure = .noSubchannelAvailable) ∧
        picker.pickBy choose board request = .refused board failure.error notices := by
  cases picker with
  | failing failure => exact ⟨failure, [], .inl rfl, rfl⟩
  | routing router =>
      refine ⟨.noSubchannelAvailable, ?_⟩
      by_cases hempty : router.ready.isEmpty
      · refine ⟨[], .inr rfl, ?_⟩
        rw [pickBy, Router.pickBy, if_pos hempty]
        rfl
      · refine ⟨[.boundConnectionNotReady key id], .inr rfl, ?_⟩
        have hnone : router.ready.find? (fun connection => connection.id = id) = none := by
          rw [List.find?_eq_none]
          intro connection hmem hid
          exact hready (mem_readyIds.mpr ⟨connection, hmem, by simpa using hid⟩)
        rw [pickBy, Router.pickBy, if_neg hempty, Router.boundKey?_of_bound hroute hbound]
        simp only [Router.pickBound, hnone]
        rfl

theorem AffinityTable.getElem?_purge_of_bound {table : AffinityTable} {key : String}
    {id : ConnectionId} (hkey : table[key]? = some id) (purged : ConnectionId) :
    (table.purge purged)[key]? = some id ∨
      (table.purge purged)[key]? = none ∧ purged = id := by
  rw [getElem?_purge, hkey]
  by_cases hid : id = purged
  · exact .inr ⟨by simp [hid], hid.symm⟩
  · exact .inl (by simp [hid])

/-- Whether a job gives up the last binding of a connection. -/
def Job.GivesUp (job : Job) (id : ConnectionId) : Prop :=
  ∃ key, job.operation = .event (.unbind key) ∧ job.pool.affinity[key]? = some id ∧
    ∃ connection, job.outcome.pool.connections[id]? = some connection ∧
      connection.affinityCount = 0

def Job.ShutsDown (job : Job) (id : ConnectionId) : Prop :=
  job.operation = .event (.stateChanged id .shutdown)

theorem Effect.binding {books next : Books} {operation : Pool.Operation} {granted : List Handle}
    (heffect : Effect books operation granted next) {key : String} {id : ConnectionId}
    (hkey : books.affinity[key]? = some id) :
    next.affinity[key]? = some id ∨
      next.affinity[key]? = none ∧
        ((∃ released, operation = .event (.unbind released) ∧
            books.affinity[released]? = some id ∧
              ∃ connection, next.connections[id]? = some connection ∧
                connection.affinityCount = 0) ∨
          operation = .event (.stateChanged id .shutdown)) := by
  cases heffect with
  | quiet _ | tracked _ _ | incremented _ _ _ | decremented _ _ _ | moved _ _ =>
      exact .inl hkey
  | @inserted other target _ hother _ =>
      have hne : other ≠ key := by
        rintro rfl
        rw [hkey] at hother
        cases hother
      refine .inl ?_
      rw [Std.ExtTreeMap.getElem?_insert, if_neg (by simpa using hne)]
      exact hkey
  | @released released target connection hreleased _ hcount =>
      rcases AffinityTable.getElem?_purge_of_bound hkey target with hkept | ⟨hgone, rfl⟩
      · exact .inl hkept
      · refine .inr ⟨hgone, .inl ⟨released, rfl, hreleased, connection.loseBinding, ?_, hcount⟩⟩
        exact Std.ExtTreeMap.getElem?_insert_self
  | @evicted target _ _ =>
      rcases AffinityTable.getElem?_purge_of_bound hkey target with hkept | ⟨hgone, rfl⟩
      · exact .inl hkept
      · exact .inr ⟨hgone, .inr rfl⟩

namespace Service

variable {service : Service}

theorem holder?_of_open {pool : Pool} (hopen : service.pool = some pool) (key : String) :
    service.holder? key = pool.affinity[key]? := by
  rw [holder?, hopen, Option.bind_some]

theorem open_of_holder? {key : String} {id : ConnectionId}
    (hkey : service.holder? key = some id) :
    ∃ pool, service.pool = some pool ∧ pool.affinity[key]? = some id :=
  Option.bind_eq_some_iff.mp hkey

end Service

namespace Run

/-- Whether a move takes all keys of a connection away. -/
def Loses (run : Run) (id : ConnectionId) (move : Move) : Prop :=
  move = .close ∨ ∃ job ∈ run.service.job? move, job.GivesUp id ∨ job.ShutsDown id

/-- The runs that go on from a run without taking the keys of a connection away. -/
inductive Keeps (run : Run) (id : ConnectionId) : Run → Prop
  | refl : run.Keeps id run
  | next {later : Run} {move : Move} (hlater : run.Keeps id later)
      (hkept : ¬ later.Loses id move) : run.Keeps id (later.next move)

/-- A move leaves a bound key with its connection, or takes it away and binds it to none. -/
theorem holder_step (run : Run) {key : String} {id : ConnectionId}
    (hkey : run.service.holder? key = some id) (move : Move) :
    (run.next move).service.holder? key = some id ∨
      (run.next move).service.holder? key = none ∧ run.Loses id move := by
  obtain ⟨pool, hopen, hbound⟩ := Service.open_of_holder? hkey
  cases hnext : (run.next move).service.pool with
  | none =>
      have hholder : (run.next move).service.holder? key = none := by
        rw [Service.holder?, hnext, Option.bind_none]
      exact .inr ⟨hholder, .inl (Service.eq_close_of_step hopen hnext)⟩
  | some next =>
      rw [Service.holder?_of_open hnext]
      rcases Service.step_cases hnext with ⟨job, hjob, rfl⟩ | ⟨_, hsame, _⟩
      · have hpool : job.pool = pool :=
          Option.some.inj ((Service.pool_of_job hjob).symm.trans hopen)
        rw [← hpool] at hbound
        rcases (run.effect hjob).binding hbound with hkept | ⟨hgone, hcause⟩
        · exact .inl hkept
        · exact .inr ⟨hgone, .inr ⟨job, hjob, hcause⟩⟩
      · rw [hopen] at hsame
        rw [← Option.some.inj hsame]
        exact .inl hbound

theorem holder_of_keeps {run later : Run} {key : String} {id : ConnectionId}
    (hkey : run.service.holder? key = some id) (hlater : run.Keeps id later) :
    later.service.holder? key = some id := by
  induction hlater with
  | refl => exact hkey
  | next _ hkept ih =>
      rcases holder_step _ ih _ with hholder | ⟨_, hlost⟩
      · exact hholder
      · exact absurd hlost hkept

/-- A bound key stays with its connection, whatever connections later binds of the key name,
until the connection gives up its last binding or shuts down, or the pool is closed; then the
key is bound to none.  As long as it is bound, every picker that was ever published sends it to
that connection or, if the connection was not ready when the picker was built, fails it without
a trace. -/
theorem sticky (run : Run) {key : String} {id : ConnectionId}
    (hkey : run.service.holder? key = some id) :
    (∀ move : Move,
        (run.next move).service.holder? key = some id ∨
          (run.next move).service.holder? key = none ∧ run.Loses id move) ∧
      (∀ later : Run, run.Keeps id later → later.service.holder? key = some id) ∧
      ∀ picker ∈ run.service.published, ∀ board : Board,
        board.bindings = run.service.board.bindings →
          ∀ (choose : List ReadyConnection → Option ReadyConnection) (request : PickRequest),
            request.key = some key → (request.command = .bound ∨ request.command = .unbind) →
              let outcome := picker.pickBy choose board request
              (id ∈ picker.readyIds → ∃ pick, outcome.result = .ok pick ∧ pick.id = id) ∧
                (id ∉ picker.readyIds →
                  (outcome.result = .error .noSubchannelAvailable ∨
                      outcome.result = .error .transientFailure) ∧
                    outcome.board = board ∧ outcome.events = []) := by
  refine ⟨run.holder_step hkey, fun _ => holder_of_keeps hkey, ?_⟩
  intro picker hpicker board hboard choose request hrequest hcommand
  obtain ⟨pool, hopen, hbound⟩ := Service.open_of_holder? hkey
  rw [run.bindings_eq hopen] at hboard
  rw [← hboard] at hbound
  have hroute : request.routingKey? = some key := by
    rw [PickRequest.routingKey?]
    rcases hcommand with hcommand | hcommand <;> rw [hcommand] <;> exact hrequest
  refine ⟨Picker.pickBy_of_mem choose hroute hbound, fun hready => ?_⟩
  obtain ⟨failure, notices, hfailure, houtcome⟩ :=
    Picker.pickBy_of_not_mem choose hroute hbound hready
  rw [houtcome]
  refine ⟨?_, rfl, rfl⟩
  rcases hfailure with rfl | rfl
  · cases failure with
    | noSubchannelAvailable => exact .inl rfl
    | transientFailure => exact .inr rfl
    | closed => exact absurd hpicker (run.published_open hopen)
  · exact .inl rfl

/-- A key that is bound a second time, to another ready connection, stays where it is.  The
picker of the present sends it there although the connection is busier than the other one, and
the picker from before that connection was ready fails it. -/
theorem sticky_rebound :
    let second : ConnectionId := ⟨2, by decide⟩
    let run := ofMoves { maxStreams := 1 } [.grant 0 .first, .grant 1 second,
      .handle (.stateChanged second .ready), .handle (.stateChanged .first .ready),
      .handle (.bind "key" .first)]
    let busy := run.service.board.openStream 0
    let request : PickRequest := { key := some "key", command := .bound }
    run.service.holder? "key" = some .first ∧
      (run.next (.handle (.bind "key" second))).service.holder? "key" = some .first ∧
        (∃ present ∈ run.service.published, ∃ pick,
          (present.pick busy request).result = .ok pick ∧ pick.id = .first) ∧
          ∃ past ∈ run.service.published, past.readyIds = [second] ∧
            (past.pick busy request).board = busy ∧ (past.pick busy request).events = [] := by
  intro second run busy request
  have hkey : run.service.holder? "key" = some .first := by decide
  obtain ⟨hmoves, _, hpicks⟩ := run.sticky hkey
  refine ⟨hkey, ?_, ?_, ?_⟩
  · rcases hmoves (.handle (.bind "key" second)) with hkept | ⟨hgone, _⟩
    · exact hkept
    · exact absurd hgone (by decide)
  · obtain ⟨present, hpresent, hids⟩ :
        ∃ present ∈ run.service.published, present.readyIds = [.first, second] := by decide
    have hready : .first ∈ present.readyIds := by
      rw [hids]
      decide
    exact ⟨present, hpresent,
      (hpicks present hpresent busy rfl List.head? request rfl (.inl rfl)).1 hready⟩
  · obtain ⟨past, hpast, hids⟩ :
        ∃ past ∈ run.service.published, past.readyIds = [second] := by decide
    have hready : .first ∉ past.readyIds := by
      rw [hids]
      decide
    exact ⟨past, hpast, hids,
      ((hpicks past hpast busy rfl List.head? request rfl (.inl rfl)).2 hready).2⟩

end Run

end StickyRouting
